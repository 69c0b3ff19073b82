import Projector.Demo.CommandLine

/-!
# The program

The arguments and files of the machine, and the two streams that the
program writes.
-/

namespace Projector

/-- The number of the defect that a path names a directory. -/
def directoryCode : UInt32 := 21

/-- The number of the defect that a name is too long. -/
def nameLengthCode : UInt32 := 36

/-- What reading a file answers. -/
def readFile (path : String) : IO (Except FileError ByteArray) := do
  try
    return .ok (← IO.FS.readBinFile path)
  catch
    | .inappropriateType _ code _ =>
      return .error (if code = directoryCode then .isDirectory else .notDirectory)
    | .invalidArgument _ code _ =>
      return .error (if code = nameLengthCode then .nameTooLong else .notFound)
    | _ => return .error .notFound

/-- The program: what is written, and the exit code. -/
def program (args : List String) : IO UInt32 := do
  -- The configuration is the one file that is read, so it is read beforehand.
  let file ← match args[1]? with
    | some path => readFile path
    | none => pure (.error .notFound)
  let ending := CommandLine.run (fun _ => file) args
  if let some fields := ending.started then
    IO.println s!"INFO vrender: VRender starting... {fields}"
  if let some failure := ending.failure then
    IO.eprintln failure.text
  return UInt32.ofNat ending.exitCode

end Projector

/-- The program on the arguments of the machine. -/
def main (args : List String) : IO UInt32 := Projector.program args
