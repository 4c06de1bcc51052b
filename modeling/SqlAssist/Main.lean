import SqlAssist.Cli.Run

/-!
# The command line entry point

Reads the configuration file the command line names (or the default file under the
home directory), runs the program, and prints what it printed to the two streams; the
exit code is the program's.
-/

open SqlAssist

/-- Read the configuration file at a path, or the default file: its text, or whether it
is missing or unreadable.  An empty path names the working directory. -/
def readConfigFile (path : Option String) : IO Config.FileState := do
  let p ← match path with
    | some "" => pure "."
    | some p => pure p
    | none => do
      let home := (← IO.getEnv "HOME").getD ""
      pure (home ++ "/.config/abcql/config.toml")
  try
    let text ← IO.FS.readFile p
    pure (.text text)
  catch e =>
    match e with
    | .noFileOrDirectory .. => pure .missing
    | _ => pure .unreadable

/-- Run the command line.  An error the program does not catch is reported by kind and
message on the error stream, with exit code 1. -/
def main (args : List String) : IO UInt32 := do
  let out ← match Cli.parseCommandLine args with
    | .error stop => pure (Cli.Exit.normal stop)
    | .ok inv => do
      let file ← readConfigFile inv.config
      pure (Cli.execute inv file)
  match out with
  | .normal stop =>
    IO.print stop.stdout
    IO.eprint stop.stderr
    pure stop.code.toUInt32
  | .uncaught kind message =>
    IO.eprintln (kind ++ ": " ++ message)
    pure 1
