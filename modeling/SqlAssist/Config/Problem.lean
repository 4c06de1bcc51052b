/-!
# Validation problems

What a configuration document can get wrong, where, and how it is reported: each problem
has a short code and a message, and sits at a location given by the field names and list
indexes leading to it from the document's root.
-/

namespace SqlAssist.Config

/-- One step of a location inside a document. -/
inductive Step
  | key (k : String)
  | index (i : Nat)
  deriving DecidableEq, Repr

/-- What is wrong with a value. -/
inductive Problem
  | missing
  | stringType
  | intType
  | intParsing
  | intParsingSize
  | intFromFloat
  | finiteNumber
  | floatType
  | floatParsing
  | boolType
  | boolParsing
  /-- Not one of the allowed texts, listed. -/
  | literal (allowed : List String)
  | dictType
  | listType
  /-- Not an object where the model of that name is expected. -/
  | modelType (model : String)
  | greaterThan (bound : String)
  | greaterThanEqual (bound : String)
  deriving DecidableEq, Repr

/-- The allowed texts of a choice, quoted and joined as `'a', 'b' or 'c'`. -/
def choiceText : List String → String
  | [] => ""
  | [a] => "'" ++ a ++ "'"
  | [a, b] => "'" ++ a ++ "' or '" ++ b ++ "'"
  | a :: rest => "'" ++ a ++ "', " ++ choiceText rest

namespace Problem

/-- The short code of a problem. -/
def code : Problem → String
  | .missing => "missing"
  | .stringType => "string_type"
  | .intType => "int_type"
  | .intParsing => "int_parsing"
  | .intParsingSize => "int_parsing_size"
  | .intFromFloat => "int_from_float"
  | .finiteNumber => "finite_number"
  | .floatType => "float_type"
  | .floatParsing => "float_parsing"
  | .boolType => "bool_type"
  | .boolParsing => "bool_parsing"
  | .literal _ => "literal_error"
  | .dictType => "dict_type"
  | .listType => "list_type"
  | .modelType _ => "model_type"
  | .greaterThan _ => "greater_than"
  | .greaterThanEqual _ => "greater_than_equal"

/-- The message of a problem. -/
def message : Problem → String
  | .missing => "Field required"
  | .stringType => "Input should be a valid string"
  | .intType => "Input should be a valid integer"
  | .intParsing => "Input should be a valid integer, unable to parse string as an integer"
  | .intParsingSize => "Unable to parse input string as an integer, exceeded maximum size"
  | .intFromFloat => "Input should be a valid integer, got a number with a fractional part"
  | .finiteNumber => "Input should be a finite number"
  | .floatType => "Input should be a valid number"
  | .floatParsing => "Input should be a valid number, unable to parse string as a number"
  | .boolType => "Input should be a valid boolean"
  | .boolParsing => "Input should be a valid boolean, unable to interpret input"
  | .literal allowed => "Input should be " ++ choiceText allowed
  | .dictType => "Input should be a valid dictionary"
  | .listType => "Input should be a valid list"
  | .modelType m => "Input should be a valid dictionary or instance of " ++ m
  | .greaterThan b => "Input should be greater than " ++ b
  | .greaterThanEqual b => "Input should be greater than or equal to " ++ b

end Problem

/-- A problem found at a location. -/
structure Issue where
  problem : Problem
  loc : List Step
  deriving DecidableEq, Repr

/-- A validated value, or every issue found on the way. -/
abbrev Checked (α : Type) := Except (List Issue) α

/-- The issues of a checked value: none when it passed. -/
def issuesOf {α : Type} : Checked α → List Issue
  | .ok _ => []
  | .error is => is

/-- Prefix every issue's location with one step. -/
def under {α : Type} (s : Step) (c : Checked α) : Checked α :=
  c.mapError fun is => is.map fun i => { i with loc := s :: i.loc }

/-- A problem at the value itself. -/
def fail {α : Type} (p : Problem) : Checked α := .error [⟨p, []⟩]

/-- The summary line of a failed validation. -/
def summary (issues : List Issue) : String := toString issues.length ++ " validation errors"

end SqlAssist.Config
