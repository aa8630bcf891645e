import HistoryTrim.Command.Run

/-! # The program

Arguments, the configuration file and the environment go in; lines of output, events and a report
come out. Databases last as long as one run.
-/

namespace HistoryTrim

/-- The text of a file, if it can be read. -/
def readText? (file : String) : IO (Option String) := do
  try return some (← IO.FS.readFile file) catch _ => return none

/-- The environment variables, as the system lists them. -/
def environmentVariables : IO (List (String × String)) := do
  let text := (← readText? "/proc/self/environ").getD ""
  return (text.splitOn "\x00").filterMap fun line =>
    match line.splitOn "=" with
    | name :: value :: values => some (name, "=".intercalate (value :: values))
    | _ => none

def Invocation.main (i : Invocation) : IO UInt32 := do
  let file ← readText? (i.configFile.getD Config.defaultFile)
  let loaded := Config.load file (← environmentVariables)
  let e := i.run loaded ∅ "1" .terminate
  for event in e.told i.threshold do IO.println event.line
  for line in e.output do IO.println line
  if let some report := e.failure then IO.eprintln report.render
  return UInt32.ofNat e.exitCode

end HistoryTrim

def main (arguments : List String) : IO UInt32 := do
  match HistoryTrim.Request.ofArguments arguments with
  | .run i => i.main
  | .showVersion =>
    IO.println HistoryTrim.Command.programVersionLine
    return 0
  | .misuse =>
    IO.eprintln "error: the arguments are not understood"
    return 2
