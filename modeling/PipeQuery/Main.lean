import PipeQuery.CommandLine

/-!
# The command

The outer layer of the command: it looks at the environment and the settings file, prints the answer
and ends with its status.
-/

open PipeQuery

/-- The text of a file, if it can be read. -/
def readSettingsFile (path : String) : IO (Option String) := do
  try
    return some (← IO.FS.readFile path)
  catch _ =>
    return none

/-- Run the command. -/
def main (texts : List String) : IO UInt32 := do
  let path? :=
    match CommandLine.Arguments.read texts with
    | .ok arguments => arguments.settingsPath
    | .error _ => none
  let text? ←
    match path? with
    | some path => readSettingsFile path
    | none => pure none
  let environment ← IO.getEnv CommandLine.filterVariable
  let answer := CommandLine.answer environment (fun _ => text?) texts
  IO.eprint (CommandLine.errorText environment (fun _ => text?) texts)
  IO.print answer.outputText
  return answer.status.toUInt32
