/-
Module: Abacus.Shell
Purpose: The interactive shell: a loop that prompts, reads a line and runs it,
  all lines sharing one environment. The loop is a function of the lines of its
  input; what it writes is kept apart by stream.
Main exports: Console, Input, Input.ofBytes, Shell.Answer, Shell.answer,
  Shell.converse
-/
import Abacus.Directory
import Abacus.Feedback
import Abacus.Program
import Abacus.Text.Blank

namespace Abacus

/-- What a command has written to either stream, and its exit code. -/
structure Console where
  out : String := ""
  err : String := ""
  exitCode : Nat := 0
deriving DecidableEq, Repr, Inhabited

namespace Console

/-- The console of a command that first wrote `out` and `err`, and then what
    `later` says. -/
def preceded (later : Console) (out err : String) : Console :=
  { later with out := out ++ later.out, err := err ++ later.err }

end Console

/-- The standard input of a command: the text that can be read, and whether a
    line that is no text comes after it. -/
structure Input where
  text : String := ""
  broken : Bool := false
deriving DecidableEq, Repr, Inhabited

/-- The lines of an input: the pieces that line feeds end, and a last piece
    without one unless it is empty. -/
def inputLines (text : List Char) : List (List Char) :=
  let lines := textLines text
  if lines.getLast? = some [] then lines.dropLast else lines

namespace Input

/-- The bytes divided after every line feed. -/
def byteLines : List UInt8 → List (List UInt8)
  | [] => []
  | byte :: bytes =>
      if byte = 10 then [byte] :: byteLines bytes
      else
        match byteLines bytes with
        | [] => [[byte]]
        | line :: lines => (byte :: line) :: lines

/-- The text of the lines before the first one that is not UTF-8. -/
def textBefore : List (List UInt8) → String
  | [] => ""
  | line :: lines =>
      match String.fromUTF8? line.toByteArray with
      | some text => text ++ textBefore lines
      | none => ""

/-- The input that bytes make. -/
def ofBytes (bytes : ByteArray) : Input :=
  match String.fromUTF8? bytes with
  | some text => { text }
  | none => { text := textBefore (byteLines bytes.toList), broken := true }

end Input

/-- The text of a diagnostic for the error stream: as JSON, or as a report. -/
def Diagnostic.written (json : Bool) (d : Diagnostic) : String :=
  if json then (ErrorReport.ofDiagnostic d).text ++ "\n" else d.report

namespace Shell

/-- What the shell shows before it reads a line. -/
def prompt : String := "jimmy-script > "

/-- What the shell says when it is told to stop. -/
def farewell : String := "Goodbye!\n"

/-- How the shell shows results: the name of its input, and whether errors are
    shown as JSON. -/
structure Setting where
  label : String
  json : Bool
deriving DecidableEq, Repr, Inhabited

/-- What the shell does about a line. -/
inductive Answer where
  | stop
  | skip
  | ran (result : Run)

/-- A line without the line feeds and carriage returns at its end. -/
def chomp (line : List Char) : List Char :=
  (line.reverse.dropWhile fun c => c == '\n' || c == '\r').reverse

/-- Whether the line tells the shell to stop, in either case and with white
    space around it. -/
def isExit (line : List Char) : Bool :=
  (Text.trimBlank line).map Char.toLower == "exit".toList

/-- What the shell does about a line: it stops, passes over a blank line, or
    runs the line. -/
def answer (setting : Setting) (environment : Environment) (line : List Char) :
    Answer :=
  let line := chomp line
  if isExit line then .stop
  else if line.all Text.isBlank then .skip
  else .ran (run { label := setting.label, content := String.ofList line } environment)

/-- What the shell writes to either stream about a run. -/
def written (setting : Setting) (result : Run) : String × String :=
  match result.outcome with
  | .ok x => (x.text ++ "\n", "")
  | .error d => ("", d.written setting.json)

/-- What the shell writes and how it ends when it is given the lines that
    remain. At the end of the input it leaves the line of the prompt, and a line
    that is no text is an error of its own. -/
def converse (setting : Setting) (broken : Bool) (environment : Environment) :
    List (List Char) → Console
  | [] =>
      if broken then
        { out := prompt
          err :=
            "Error: failed to read from stdin: " ++ ReadFault.notText.message ++ "\n"
          exitCode := 2 }
      else
        { out := prompt ++ "\n" }
  | line :: lines =>
      match answer setting environment line with
      | .stop => { out := prompt ++ farewell }
      | .skip => (converse setting broken environment lines).preceded prompt ""
      | .ran result =>
          let (out, err) := written setting result
          (converse setting broken result.environment lines).preceded (prompt ++ out) err

/-- What the shell writes and how it ends on a whole input, starting without
    bindings. -/
def run (setting : Setting) (input : Input) : Console :=
  converse setting input.broken .empty (inputLines input.text.toList)

end Shell

end Abacus
