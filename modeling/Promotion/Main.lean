import Promotion.Replay

/-!
# The command

The outer layer of the command: it gathers the arguments, the variables and the files that a run
looks at, and prints what the run says.
-/

namespace Promotion.Command

def readText? (path : String) : IO (Option String) := do
  try
    return some (← IO.FS.readFile path)
  catch _ =>
    return none

/-- The variables of the process, from the file in which the system lists them. -/
def readVariables : IO Variables := do
  let listed := (← readText? "/proc/self/environ").getD ""
  return Dict.ofList <| (Text.pieces '\x00' listed.toList).filterMap fun entry =>
    (Text.cutFirst '=' entry).map fun (name, value) => (String.ofList name, String.ofList value)

/-- The text of the nearest file of variables, in this directory or in one around it. -/
def readVariablesFile? : IO (Option String) := do
  let depth := (Text.pieces '/' (← IO.currentDir).toString.toList).length
  for level in List.range depth do
    let path := String.join (List.replicate level "../") ++ Surroundings.variablesFile
    if let some text ← readText? path then
      return some text
  return none

/-- The files there are with one more, if it is there. -/
def readFile (files : Dict String) (path : String) : IO (Dict String) := do
  match ← readText? path with
  | some text => return files.insert path text
  | none => return files

/-- What a run with some arguments looks at. -/
def readSurroundings (arguments : List String) : IO Surroundings := do
  let files :=
    match ← readVariablesFile? with
    | some text => [(Surroundings.variablesFile, text)]
    | none => []
  let around : Surroundings := ⟨Dict.get? files, ← readVariables⟩
  let paths := Replay.files arguments around.withVariablesFile.vars
  return { around with file? := Dict.get? (← paths.foldlM readFile files) }

end Promotion.Command

open Promotion in
/-- Replay a recording, and exit with the code of the run. -/
def main (arguments : List String) : IO UInt32 := do
  let finish := Replay.run arguments (← Command.readSurroundings arguments)
  IO.print finish.output
  if let some report := finish.report then
    IO.eprintln ("Error: " ++ report)
  return UInt32.ofNat finish.exit
