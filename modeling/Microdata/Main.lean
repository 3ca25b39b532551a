import Microdata.Command.Session
set_option autoImplicit false

open Microdata

namespace Microdata.Program

def readFile (path : FilePath) : IO (Except FileProblem String) := do
  try
    return .ok (← IO.FS.readFile path.text)
  catch
    | .noFileOrDirectory .. => return .error .missing
    | .inappropriateType .. => return .error .directory
    | _ => return .error .unusable

def carryOut : Effect → IO Unit
  | .display .output lines => (Console.settle lines).forM IO.println
  | .display .error lines => (Console.settle lines).forM IO.eprintln
  | .save path text => IO.FS.writeFile path.text text

def carryOutAll (steps : List Effect) : IO Bool := do
  try
    steps.forM carryOut
    return true
  catch _ => return false

def runOf (arguments : List String) : IO (Run Unit) := do
  match Command.ofArguments? arguments with
  | none => return usageError
  | some c =>
    let files ← c.sources.mapM fun path => do
      let p := FilePath.ofText path
      return (p, ← readFile p)
    let input ← if c.readsInput then (← IO.getStdin).readToEnd else pure ""
    let file (p : FilePath) := ((files.find? fun f => f.1 == p).map (·.2)).getD (.error .missing)
    return c.run ⟨file, input⟩

end Microdata.Program

def main (arguments : List String) : IO UInt32 := do
  let r ← Program.runOf arguments
  let complete ← Program.carryOutAll r.steps
  match complete, r.status with
  | true, .ok code => return code.toUInt32
  | true, .error e => do
    IO.eprintln e.message
    return 1
  | false, _ => return 1
