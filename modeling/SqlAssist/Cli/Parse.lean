import SqlAssist.Cli.Spec
import SqlAssist.Text.Digit
import SqlAssist.Text.Blank
import SqlAssist.Value.Display

/-!
# Parsing a command line

The arguments are first read one by one: after `--` everything is positional; an
argument that starts with `-` is an option when it names one of the parser's option
strings, exactly, before an `=`, as an unambiguous prefix of a long option, or as a
short option followed by its value; an unknown option that looks like a negative number
or holds a blank is positional after all, and any other unknown option is left over.

Then options and positionals are consumed from left to right.  Positionals are matched
greedily against the positional actions; an option takes the arguments its action needs
(none for the help and for flags, one positional argument for a stored value).  Short
flags may be bundled (`-vh`); a letter of a bundle that names no option is refused.  The
command positional takes the rest of the line and hands it to the sub-parser it names.

The first `--` among the values of any action but the command is dropped.  A stored value
given as `--cmd=--` therefore keeps no text at all: its value is the empty list.

Failures print the parser's usage and `<prog>: error: <message>` and exit with 2: a value
that is missing or not an integer, an unknown command, a value given to a flag, a
required argument that never came, and, at the top level, arguments nobody took.  The
help option prints the help and exits with 0 at once.
-/

namespace SqlAssist.Cli

/-- A value an action stored. -/
inductive Given
  | text (s : String)
  | int (i : Int)
  | flag
  /-- No value at all: the empty list left when the only value was a dropped `--`. -/
  | emptyList
  deriving DecidableEq, Repr

/-- How a parse stops early: an exit code and what was printed. -/
structure Stop where
  code : Nat
  stdout : String := ""
  stderr : String := ""
  deriving DecidableEq, Repr

/-- What a parse found: the values stored by destination, the actions taken, and the
arguments no action took. -/
structure Parsed where
  values : List (String × Given) := []
  seen : List String := []
  extras : List String := []
  deriving Repr

/-- Fail with a message under a parser's usage. -/
def Parser.fail (p : Parser) (msg : String) : Stop :=
  ⟨2, "", p.usageLine ++ p.prog ++ ": error: " ++ msg ++ "\n"⟩

/-- Fail because of one action's argument. -/
def Parser.failAt (p : Parser) (a : Action) (msg : String) : Stop :=
  p.fail ("argument " ++ a.displayName ++ ": " ++ msg)

/-- How an argument reads. -/
inductive Reading
  | positional
  /-- The `--` that ends the options. -/
  | separator
  /-- An option: its action (none when unknown), the option string, and a value given
  with it. -/
  | option (action : Option Action) (name : String) (explicit : Option String)
  deriving Repr

/-- The letter of a reading in the pattern the actions are matched against. -/
def Reading.letter : Reading → Char
  | .positional => 'A'
  | .separator => '-'
  | .option .. => 'O'

/-- The option strings of a parser with their actions, in declaration order. -/
def Parser.optionStrings (p : Parser) : List (String × Action) :=
  p.actions.flatMap fun a => a.names.map fun n => (n, a)

/-- Whether an argument looks like a negative number: `-` and digits, with at most one
point before the last digit (a final line feed allowed). -/
def looksNegative (s : String) : Bool :=
  let cs := s.toList
  let cs := if cs.getLast? = some '\n' then cs.dropLast else cs
  let isD := fun (c : Char) => (Text.digitValue? c).isSome
  match cs with
  | '-' :: body =>
    (!body.isEmpty && body.all isD) ||
      (match body.span isD with
        | (_, '.' :: frac) => !frac.isEmpty && frac.all isD
        | _ => false)
  | _ => false

/-- The options an argument can be read as: by prefix for a long option (up to an `=`),
by its first two characters (the rest being its value) or by prefix for a short one. -/
def Parser.candidates (p : Parser) (s : String) : List (Action × String × Option String) :=
  let cs := s.toList
  if cs.take 2 = ['-', '-'] then
    let (pre, explicit) := match cs.span (· ≠ '=') with
      | (pre, '=' :: rest) => (String.ofList pre, some (String.ofList rest))
      | _ => (s, none)
    p.optionStrings.filterMap fun (n, a) =>
      if pre.isPrefixOf n then some (a, n, explicit) else none
  else
    let short := String.ofList (cs.take 2)
    let rest := String.ofList (cs.drop 2)
    p.optionStrings.filterMap fun (n, a) =>
      if n = short then some (a, n, some rest)
      else if s.isPrefixOf n then some (a, n, none) else none

/-- Read one argument that is not after `--`. -/
def Parser.read (p : Parser) (s : String) : Except Stop Reading :=
  match s.toList with
  | [] => .ok .positional
  | c :: more =>
    if c ≠ '-' then .ok .positional
    else match p.optionStrings.lookup s with
      | some a => .ok (.option (some a) s none)
      | none =>
        if more.isEmpty then .ok .positional
        else
          let byEquals := match s.toList.span (· ≠ '=') with
            | (pre, '=' :: rest) =>
              (p.optionStrings.lookup (String.ofList pre)).map fun a =>
                Reading.option (some a) (String.ofList pre) (some (String.ofList rest))
            | _ => none
          match byEquals with
          | some r => .ok r
          | none =>
            match p.candidates s with
            | [(a, n, e)] => .ok (.option (some a) n e)
            | [] =>
              if looksNegative s || s.contains ' ' then .ok .positional
              else .ok (.option none s none)
            | several =>
              .error (p.fail ("ambiguous option: " ++ s ++ " could match " ++
                ", ".intercalate (several.map fun (_, n, _) => n)))

/-- Read every argument: everything after the first `--` is positional. -/
def Parser.readAll (p : Parser) : List String → Except Stop (List Reading)
  | [] => .ok []
  | s :: rest =>
    if s = "--" then .ok (.separator :: rest.map fun _ => .positional)
    else do
      let r ← p.read s
      let rs ← p.readAll rest
      .ok (r :: rs)

/-- How many pattern letters an action takes from the start of `pat`, if it can: an
option none or exactly one positional, a positional value one positional with the `--`s
around it, a command everything from its first positional on. -/
def Action.taking (a : Action) (pat : List Char) : Option Nat :=
  let lead := (pat.takeWhile (· = '-')).length
  match a.effect with
  | .help | .flag => some 0
  | .store _ =>
    if a.isOption then (if pat.head? = some 'A' then some 1 else none)
    else match pat.drop lead with
      | 'A' :: after => some (lead + 1 + (after.takeWhile (· = '-')).length)
      | _ => none
  | .command _ =>
    match pat.drop lead with
    | 'A' :: _ => some pat.length
    | _ => none

/-- The most digits an integer argument may have. -/
def maxIntDigits : Nat := 4300

/-- The blanks an integer argument may have around it: among the ASCII characters only
space, tab, line feed, vertical tab, form feed and carriage return, so the information
separators `U+001C`–`U+001F` are not; beyond ASCII every blank character. -/
def isIntBlank (c : Char) : Bool :=
  if c.toNat < 128 then c = ' ' || (9 ≤ c.toNat && c.toNat ≤ 13) else Text.isBlank c

/-- The integer an argument reads as: blanks around it (`isIntBlank`), a sign, and decimal
digits of any script with single underscores between them, at most `maxIntDigits` of
them. -/
def readInt? (s : String) : Option Int :=
  let cs := ((s.toList.dropWhile isIntBlank).reverse.dropWhile isIntBlank).reverse
  let (neg, body) := match cs with
    | '-' :: r => (true, r)
    | '+' :: r => (false, r)
    | r => (false, r)
  let pairs := body.zip (body.drop 1)
  let okShape := !body.isEmpty && body.head? ≠ some '_' && body.getLast? ≠ some '_' &&
    !(pairs.any fun (a, b) => a = '_' && b = '_') &&
    body.all fun c => c = '_' || (Text.digitValue? c).isSome
  if okShape && (body.filter (· ≠ '_')).length ≤ maxIntDigits then
    let n : Nat := (body.filterMap Text.digitValue?).foldl (fun a d => a * 10 + d) 0
    some (if neg then -(n : Int) else n)
  else none

/-- Store an action's value. -/
def Parsed.store (st : Parsed) (a : Action) (v : Given) : Parsed :=
  { st with values := (st.values.filter (·.1 ≠ a.dest)) ++ [(a.dest, v)] }

/-- Note that an action was taken. -/
def Parsed.saw (st : Parsed) (a : Action) : Parsed :=
  if st.seen.contains a.dest then st else { st with seen := st.seen ++ [a.dest] }

/-- Take an action with its arguments.  A command hands the rest to `runSub`. -/
def takeAction (p : Parser) (runSub : String → List String → Except Stop Parsed)
    (st : Parsed) (a : Action) (args : List String) : Except Stop Parsed :=
  let st := st.saw a
  match a.effect with
  | .help => .error ⟨0, p.helpText, ""⟩
  | .flag => .ok (st.store a .flag)
  | .store integer =>
    match args.erase "--" with
    | [] => .ok (st.store a .emptyList)
    | s :: _ =>
      if integer then
        match readInt? s with
        | some i => .ok (st.store a (.int i))
        | none => .error (p.failAt a ("invalid int value: " ++ quoteText s))
      else .ok (st.store a (.text s))
  | .command choices =>
    let name := args.headD ""
    if choices.any (·.1 = name) then do
      let sub ← runSub name args.tail
      let kept := st.values.filter fun (k, _) => !sub.values.any (·.1 = k)
      .ok { st with values := kept ++ sub.values ++ [(a.dest, .text name)],
                    extras := st.extras ++ sub.extras }
    else
      .error (p.failAt a ("invalid choice: " ++ quoteText name ++ " (choose from " ++
        ", ".intercalate (choices.map fun (c, _) => quoteText c) ++ ")"))

/-- The parsing state: the arguments, their readings, the positionals not yet filled, and
what was found. -/
structure Progress where
  args : Array String
  readings : Array Reading
  positionals : List Action
  parsed : Parsed

/-- The pattern letters from an index on. -/
def Progress.pattern (g : Progress) (start : Nat) : List Char :=
  (g.readings.toList.drop start).map Reading.letter

/-- Fill as many positionals as the arguments from `start` allow: the index after them. -/
def consumePositionals (p : Parser) (runSub : String → List String → Except Stop Parsed)
    (g : Progress) (start : Nat) : Except Stop (Progress × Nat) :=
  let rec fill (acts : List Action) (g : Progress) (at_ : Nat) : Except Stop (Progress × Nat) :=
    match acts with
    | [] => .ok ({ g with positionals := [] }, at_)
    | a :: rest =>
      match a.taking (g.pattern at_) with
      | none => .ok ({ g with positionals := a :: rest }, at_)
      | some n => do
        let parsed ← takeAction p runSub g.parsed a ((g.args.toList.drop at_).take n)
        fill rest { g with parsed } (at_ + n)
  fill g.positionals g start

/-- Consume the option at `start` and its arguments: the index after them. -/
def consumeOption (p : Parser) (runSub : String → List String → Except Stop Parsed)
    (g : Progress) (start : Nat) : Except Stop (Progress × Nat) :=
  match g.readings[start]? with
  | some (.option none _ _) =>
    .ok ({ g with parsed := { g.parsed with extras :=
      g.parsed.extras ++ [(g.args[start]?).getD ""] } }, start + 1)
  | some (.option (some a) name explicit) =>
    -- Collect the actions of a bundle of short flags, then take them in order.
    let rec bundle (fuel : Nat) (a : Action) (name : String) (explicit : Option String)
        (acc : List (Action × List String)) : Except Stop (List (Action × List String) × Nat) :=
      match fuel with
      | 0 => .error (p.failAt a "too many bundled options")
      | fuel + 1 =>
        match explicit with
        | some e =>
          if a.takesNone then
            if (name.toList.drop 1).head? ≠ some '-' && !e.isEmpty then
              let next := "-" ++ String.ofList (e.toList.take 1)
              let rest := String.ofList (e.toList.drop 1)
              match p.optionStrings.lookup next with
              | some b => bundle fuel b next (if rest.isEmpty then none else some rest) (acc ++ [(a, [])])
              | none => .error (p.failAt a ("ignored explicit argument " ++ quoteText e))
            else .error (p.failAt a ("ignored explicit argument " ++ quoteText e))
          else .ok (acc ++ [(a, [e])], start + 1)
        | none =>
          match a.taking (g.pattern (start + 1)) with
          | some n => .ok (acc ++ [(a, (g.args.toList.drop (start + 1)).take n)], start + 1 + n)
          | none => .error (p.failAt a "expected one argument")
    match bundle (name.length + 1) a name explicit [] with
    | .error e => .error e
    | .ok (taken, stop) => do
      let parsed ← taken.foldlM (fun st (b, args) => takeAction p runSub st b args) g.parsed
      .ok ({ g with parsed }, stop)
  | _ => .ok (g, start + 1)

/-- Consume options and positionals alternately from `start`, while options remain.  Each
round moves past at least one argument, so the number of arguments bounds the rounds. -/
def consumeFrom (p : Parser) (runSub : String → List String → Except Stop Parsed) :
    Nat → Progress → Nat → Except Stop (Progress × Nat)
  | 0, g, start => .ok (g, start)
  | fuel + 1, g, start =>
    let optionAt := fun (i : Nat) =>
      match g.readings[i]? with | some (.option ..) => true | _ => false
    match (List.range g.args.size).find? fun i => start ≤ i && optionAt i with
    | none => .ok (g, start)
    | some next => do
      let (g, start') ← if start ≠ next then consumePositionals p runSub g start else .ok (g, start)
      if start' > start then consumeFrom p runSub fuel g start'
      else
        let g := if optionAt start' then g
          else { g with parsed := { g.parsed with extras :=
            g.parsed.extras ++ ((g.args.toList.drop start').take (next - start')) } }
        let (g, after) ← consumeOption p runSub g next
        consumeFrom p runSub fuel g after

/-- Parse the arguments of one parser; a command hands the rest of the line to `runSub`.
The values found and the arguments left over, or how the parse stopped. -/
def Parser.parseWith (p : Parser) (runSub : String → List String → Except Stop Parsed)
    (args : List String) : Except Stop Parsed := do
  let readings ← p.readAll args
  let g : Progress := ⟨args.toArray, readings.toArray, p.actions.filter (!·.isOption), {}⟩
  let (g, start) ← consumeFrom p runSub (args.length + 1) g 0
  let (g, stop) ← consumePositionals p runSub g start
  let parsed := { g.parsed with extras := g.parsed.extras ++ args.drop stop }
  let missing := p.actions.filter fun a => a.required && !parsed.seen.contains a.dest
  if missing.isEmpty then .ok parsed
  else .error (p.fail ("the following arguments are required: " ++
    ", ".intercalate (missing.map Action.displayName)))

end SqlAssist.Cli
