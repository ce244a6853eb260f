/-
The command line program, on the files and the environment of the system.
-/
import Striker.CommandLine.Program

namespace Striker.Main

/-- The failure that an error of the system is. Some calls give its number with the sign changed. -/
def fileError (e : IO.Error) : FileError :=
  match e with
  | .noFileOrDirectory .. => .notFound
  | .inappropriateType _ code _ =>
    if code = 20 ∨ code = -20 then .notDirectory
    else if code = 21 ∨ code = -21 then .isDirectory
    else .other (toString e)
  | e => .other (toString e)

/-- The path as a name of the system, which has to be text. -/
def systemName (p : Path) : Except FileError String :=
  if p.bytes.contains 0 then .error .zeroByte
  else match Text.decode? p.bytes with
    | some name => .ok name
    | none => .error .notFound

instance : Storage IO where
  read p := do
    match systemName p with
    | .error e => return .error e
    | .ok name =>
      try return .ok (← IO.FS.readBinFile name).toList
      catch e => return .error (fileError e)
  write p content := do
    match systemName p with
    | .error e => return .error e
    | .ok name =>
      try
        IO.FS.writeBinFile name ⟨content.toArray⟩
        return .ok ()
      catch e => return .error (fileError e)

/-- The variables of the environment that the program looks at. -/
def environment : IO (String → Option String) := do
  let names := [Settings.walkFramesVariable, Settings.thresholdVariable, Console.filterVariable,
    Console.chatterVariable]
  let values ← names.mapM fun name => IO.getEnv name
  return fun name => ((names.zip values).lookup name).join

/-- Runs the program and prints its report. -/
def run (words : List String) : IO UInt32 := do
  let lookup ← environment
  let report : Report ← Program.run lookup (words.map Text.encode)
  (← IO.getStdout).putStr (report.stdout (.plain true) lookup)
  (← IO.getStderr).putStr report.errors
  return UInt32.ofNat report.code

end Striker.Main

/-- The program. -/
def main (words : List String) : IO UInt32 := Striker.Main.run words
