/-
Module: Abacus.Report
Purpose: What a reader is shown of a diagnostic: the source lines of its span
  with carets under the covered columns, its kind, wording and place, and for a
  fault of evaluation the contexts it was met in.
Main exports: Span.excerpt, Span.underline, Diagnostic.report
-/
import Abacus.Diagnostic

namespace Abacus

/-- `n` blanks. -/
def blanks (n : Nat) : List Char :=
  List.replicate n ' '

namespace Span

/-- The last line that an excerpt shows: the one the span stops on, but never
    one above its start. -/
def lastLine (span : Span) : Nat :=
  max span.stop.line span.start.line

/-- The column of the first caret under line `n`. -/
def firstCaret (span : Span) (n : Nat) : Nat :=
  if n = span.start.line then span.start.column else 0

/-- The column right after the last caret under line `n`, which reads `line`. -/
def caretEnd (span : Span) (n : Nat) (line : List Char) : Nat :=
  if n = span.lastLine then span.stop.column else line.length

/-- The two rows shown for line `n`, which reads `line`: the line without its
    tabs behind the gutter, or behind blanks of the same width after the first
    line, and the carets under it. Where nothing is covered a single caret marks
    the place. -/
def rowsOf (span : Span) (gutter : List Char) (n : Nat) (line : List Char) :
    List (List Char) :=
  let margin := if n = span.start.line then gutter else blanks gutter.length
  let first := span.firstCaret n
  [ margin ++ line.filter (· != '\t'),
    blanks (gutter.length + first) ++
      List.replicate (max 1 (span.caretEnd n line - first)) '^' ]

/-- The rows shown for a span: two for each line from its first to its last. A
    line that the source does not have reads as an empty one. -/
def excerpt (span : Span) (gutter : List Char) : List (List Char) :=
  let lines := span.source.lines
  (List.range' span.start.line (span.lastLine + 1 - span.start.line)).flatMap fun n =>
    span.rowsOf gutter n (lines[n]?.getD [])

/-- The rows shown for a span as one text. -/
def underline (span : Span) (gutter : String) : String :=
  String.ofList (List.intercalate ['\n'] (span.excerpt gutter.toList))

end Span

namespace Diagnostic

/-- What stands before the first line of the excerpt in a report. -/
def reportGutter : String := ">>> "

/-- The frames of a traceback, one on a line, each four blanks further to the
    right than the one before. -/
def framesText (depth : Nat) : List Frame → String
  | [] => ""
  | frame :: frames =>
      String.ofList (blanks (4 * (depth + 1))) ++ frame.display ++ "\n" ++
        framesText (depth + 1) frames

/-- The traceback under its heading; nothing if there is no frame. -/
def tracebackText : List Frame → String
  | [] => ""
  | frames => "Traceback (most recent call first):\n" ++ framesText 0 frames

/-- The whole report: headline, place, excerpt and traceback. -/
def report (d : Diagnostic) : String :=
  d.kindName ++ ":\n    " ++ d.message ++ "\nAt line " ++
    toString (d.span.start.line + 1) ++ " in " ++
    d.span.source.label ++ ".\n\n" ++ d.span.underline reportGutter ++ "\n" ++
    tracebackText d.traceback

end Diagnostic

end Abacus
