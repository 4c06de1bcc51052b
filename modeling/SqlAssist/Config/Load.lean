import SqlAssist.Config.Validate
import SqlAssist.Toml.Document
import SqlAssist.Log

/-!
# Loading the configuration file

The configuration comes from a TOML file.  A missing file gives the default
configuration silently; a file that cannot be read or is not TOML, and a document that
does not validate, give the default configuration with a warning.  A document whose
values nest deeper than the TOML reader's call stack allows stops loading with an error
that is not caught.
-/

namespace SqlAssist.Config

/-- What reading a configuration file found. -/
inductive FileState
  | missing
  | unreadable
  | text (contents : String)

/-- The component name of the configuration loader's records. -/
def component : String := "abcql.config"

/-- The call stack above the TOML reader's own entry when the configuration is loaded
directly: the stack holds 1000 entries, and 7 are taken below the reader. -/
def readerStack : Nat := 993

/-- The error, by kind and message, that a document nested too deep for the TOML reader
raises when `frame` is the call that finds the stack full; loading does not catch it. -/
def recursionError (frame : Toml.Frame) : String × String :=
  ("RecursionError", "maximum recursion depth exceeded" ++ match frame with
    | .function => ""
    | .builtin => " while calling a Python object"
    | .comparison => " in comparison"
    | .conversion false => " while getting the str of an object"
    | .conversion true => " while getting the repr of an object")

/-- The configuration a file gives, with the records logged while loading it, when the
TOML reader has `stack` entries of call stack above its own; or the error, by kind and
message, that escapes loading. -/
def load (stack : Nat) : FileState → Except (String × String) (AppConfig × List Log.Record)
  | .missing => .ok ({}, [])
  | .unreadable => .ok ({}, [⟨.warning, component, "Ignoring unreadable config file"⟩])
  | .text contents =>
    match Toml.parse stack contents with
    | .error (.tooDeep frame) => .error (recursionError frame)
    | .error (.invalid _) => .ok ({}, [⟨.warning, component, "Ignoring unreadable config file"⟩])
    | .ok doc =>
      match checkConfig doc with
      | .ok c => .ok (c, [])
      | .error _ => .ok ({}, [⟨.warning, component, "Ignoring invalid config file"⟩])

end SqlAssist.Config
