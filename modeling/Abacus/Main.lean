/-
Module: Abacus.Main
Purpose: The program. It reads the file that a task names, talks to the standard
  streams, and leaves every decision to `CommandLine` and `Shell`.
Main exports: main
-/
import Abacus.CommandLine

namespace Abacus.Program

/-- What the program prints when its arguments cannot be used. -/
def usage : String :=
  "error: cannot use these arguments\n\nUsage: jimmy [--json] [--label NAME] [FILE]\n" ++
    "       jimmy [--json] [--label NAME] eval EXPR\n" ++
    "       jimmy [--json] [--label NAME] check FILE\n" ++
    "       jimmy [--json] [--label NAME] repl\n"

/-- Reads a file as text. -/
def readSource (path : String) : IO (Except ReadFault String) := do
  try
    return decodeText (← IO.FS.readBinFile path)
  catch error =>
    match error with
    | .inappropriateType _ code _ =>
        return .error (if code = 21 then .isDirectory else .notDirectory)
    | _ => return .error .noSuchFile

/-- Writes what a console holds, and gives its exit code. -/
def finish (console : Console) : IO UInt32 := do
  IO.print console.out
  IO.eprint console.err
  return console.exitCode.toUInt32

/-- Reads bytes up to a line feed or the end of the input. -/
partial def readLine (input : IO.FS.Stream) (line : ByteArray) : IO ByteArray := do
  let byte ← input.read 1
  if byte.isEmpty then return line
  else if byte.toList == [10] then return line ++ byte
  else readLine input (line ++ byte)

/-- The shell on the standard streams, line by line. -/
partial def talk (setting : Shell.Setting) (environment : Environment) : IO UInt32 := do
  let input ← IO.getStdin
  let output ← IO.getStdout
  output.putStr Shell.prompt
  output.flush
  let bytes ← readLine input ByteArray.empty
  match String.fromUTF8? bytes with
  | none =>
      IO.eprint (Shell.converse setting true environment []).err
      return 2
  | some "" =>
      output.putStr "\n"
      return 0
  | some line =>
      match Shell.answer setting environment line.toList with
      | .stop =>
          output.putStr Shell.farewell
          return 0
      | .skip => talk setting environment
      | .ran result =>
          let (out, err) := Shell.written setting result
          output.putStr out
          IO.eprint err
          talk setting result.environment

/-- Carries out a usable command line. -/
def carryOut (invocation : CommandLine.Invocation) : IO UInt32 := do
  match invocation.task with
  | .shell =>
      talk { label := invocation.labelOr "<stdin>", json := invocation.json } .empty
  | .file path | .check path =>
      let content ← readSource path
      finish (invocation.execute (fun _ => content) {})
  | .evaluate _ => finish (invocation.execute (fun _ => .error .noSuchFile) {})

end Abacus.Program

/-- The program. -/
def main (arguments : List String) : IO UInt32 := do
  match Abacus.CommandLine.Request.ofArguments arguments with
  | .invocation invocation => Abacus.Program.carryOut invocation
  | .version => Abacus.Program.finish { out := Abacus.CommandLine.versionLine }
  | .unusable =>
      IO.eprint Abacus.Program.usage
      return 2
