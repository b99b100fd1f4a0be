/-
Module: Abacus.Feedback
Purpose: Records for programs that drive the interpreter: a report of one
  diagnostic, and the outcome of one submission. Each has a JSON form that can
  be written and read back.
Main exports: Location, TraceFrame, ErrorReport, ErrorReport.ofDiagnostic,
  SubmissionFeedback, SubmissionFeedback.ofOutcome, and for each record `toJson`
  and `ofJson?`
-/
import Abacus.Json.Reader
import Abacus.Report

namespace Abacus

/-- Where a span starts and stops, counted from one. -/
structure Location where
  file : String
  line : Nat
  column : Nat
  endLine : Nat
  endColumn : Nat
deriving DecidableEq, Repr, Inhabited

/-- A frame of a traceback. -/
structure TraceFrame where
  file : String
  line : Nat
  context : String
deriving DecidableEq, Repr, Inhabited

/-- One diagnostic with its code and suggested remedies. -/
structure ErrorReport where
  code : String
  kind : String
  message : String
  location : Location
  traceback : List TraceFrame
  suggestions : List String
deriving DecidableEq, Repr, Inhabited

/-- The outcome of a submission: the text of its value, or the reports of what
    went wrong. -/
structure SubmissionFeedback where
  success : Bool
  source : String
  value? : Option String
  diagnostics : List ErrorReport
deriving DecidableEq, Repr, Inhabited

/-!
### Contents

What the records say about a diagnostic or an outcome. Lines and columns are
counted from zero by positions and from one by records.
-/

/-- The location of a span. -/
def Location.ofSpan (span : Span) : Location where
  file := span.source.label
  line := span.start.line + 1
  column := span.start.column + 1
  endLine := span.stop.line + 1
  endColumn := span.stop.column + 1

/-- The record of a frame. -/
def TraceFrame.ofFrame (frame : Frame) : TraceFrame where
  file := frame.label
  line := frame.line
  context := frame.context

namespace Diagnostic

/-- The code of the sort of fault. -/
def code : Diagnostic → String
  | .lexical .. => "E0001"
  | .grammatical .. => "E0002"
  | .runtime .. => "E0003"

/-- What the reader may do about the fault. The remedy is chosen by the wording,
    so that a fault worded by an embedding program gets it as well. An unknown
    name is quoted as the source spells it. -/
def suggestions (d : Diagnostic) : List String :=
  if "unknown identifier".toList.isPrefixOf d.message.toList then
    ["Bind it first, e.g. \x60let " ++ d.span.text?.getD "" ++ " = 0\x60"]
  else if d.message = "missing ')'" then
    ["Close the bracket opened earlier"]
  else if d.message = "assignment operator expected after identifier" then
    ["Use one of \x60=\x60, \x60<-\x60 or \x60be\x60"]
  else if d.message = "cannot divide by zero" then
    ["Check the divisor before dividing"]
  else
    []

end Diagnostic

/-- The report of a diagnostic. -/
def ErrorReport.ofDiagnostic (d : Diagnostic) : ErrorReport where
  code := d.code
  kind := d.kindName
  message := d.message
  location := .ofSpan d.span
  traceback := d.traceback.map .ofFrame
  suggestions := d.suggestions

/-- The feedback for the outcome of a submission of `source`. -/
def SubmissionFeedback.ofOutcome (source : String) :
    Except Diagnostic Number → SubmissionFeedback
  | .ok x => { success := true, source, value? := some x.text, diagnostics := [] }
  | .error d =>
      { success := false, source, value? := none, diagnostics := [.ofDiagnostic d] }

/-!
### JSON

Every record is written as an object whose members are its fields under their
names, and read from the fields that `Json.record?` picks out. A list of records
is written and read item by item.
-/

/-- The JSON form of a location. -/
def Location.toJson (location : Location) : Json :=
  .record
    [ ("file", .ofText location.file),
      ("line", .ofNat location.line),
      ("column", .ofNat location.column),
      ("end_line", .ofNat location.endLine),
      ("end_column", .ofNat location.endColumn) ]

/-- The location that a JSON value describes. -/
def Location.ofJson? (json : Json) : Option Location := do
  match ← json.record? ["file", "line", "column", "end_line", "end_column"] with
  | [some file, some line, some column, some endLine, some endColumn] =>
      some
        { file := ← file.text?
          line := ← line.natural?
          column := ← column.natural?
          endLine := ← endLine.natural?
          endColumn := ← endColumn.natural? }
  | _ => none

/-- The JSON form of a frame. -/
def TraceFrame.toJson (frame : TraceFrame) : Json :=
  .record
    [ ("file", .ofText frame.file),
      ("line", .ofNat frame.line),
      ("context", .ofText frame.context) ]

/-- The frame that a JSON value describes. -/
def TraceFrame.ofJson? (json : Json) : Option TraceFrame := do
  match ← json.record? ["file", "line", "context"] with
  | [some file, some line, some context] =>
      some { file := ← file.text?, line := ← line.natural?, context := ← context.text? }
  | _ => none

/-- The JSON form of a report. -/
def ErrorReport.toJson (report : ErrorReport) : Json :=
  .record
    [ ("code", .ofText report.code),
      ("kind", .ofText report.kind),
      ("message", .ofText report.message),
      ("location", report.location.toJson),
      ("traceback", .array (report.traceback.map TraceFrame.toJson)),
      ("suggestions", .array (report.suggestions.map Json.ofText)) ]

/-- The report that a JSON value describes. -/
def ErrorReport.ofJson? (json : Json) : Option ErrorReport := do
  match ← json.record?
    ["code", "kind", "message", "location", "traceback", "suggestions"] with
  | [some code, some kind, some message, some location, some traceback,
    some suggestions] =>
      some
        { code := ← code.text?
          kind := ← kind.text?
          message := ← message.text?
          location := ← Location.ofJson? location
          traceback := ← (← traceback.items?).mapM TraceFrame.ofJson?
          suggestions := ← (← suggestions.items?).mapM Json.text? }
  | _ => none

/-- The JSON form of an optional text: the text, or null. -/
def Json.ofOptionalText : Option String → Json
  | some text => .ofText text
  | none => .null

/-- The optional text that a field describes. A field that is not there counts
    as null. -/
def Json.optionalText? : Option Json → Option (Option String)
  | none | some .null => some none
  | some json => json.text?.map some

/-- The JSON form of a feedback. -/
def SubmissionFeedback.toJson (feedback : SubmissionFeedback) : Json :=
  .record
    [ ("success", .bool feedback.success),
      ("source", .ofText feedback.source),
      ("value", .ofOptionalText feedback.value?),
      ("diagnostics", .array (feedback.diagnostics.map ErrorReport.toJson)) ]

/-- The feedback that a JSON value describes. -/
def SubmissionFeedback.ofJson? (json : Json) : Option SubmissionFeedback := do
  match ← json.record? ["success", "source", "value", "diagnostics"] with
  | [some success, some source, value?, some diagnostics] =>
      some
        { success := ← success.bool?
          source := ← source.text?
          value? := ← Json.optionalText? value?
          diagnostics := ← (← diagnostics.items?).mapM ErrorReport.ofJson? }
  | _ => none

/-- The indented text of a report. -/
def ErrorReport.text (report : ErrorReport) : String :=
  report.toJson.text .indented

/-- The report that a JSON text describes. -/
def ErrorReport.ofText? (text : String) : Option ErrorReport :=
  (Json.ofText? text).bind ErrorReport.ofJson?

/-- The text of a feedback. -/
def SubmissionFeedback.text (style : Json.Style) (feedback : SubmissionFeedback) :
    String :=
  feedback.toJson.text style

/-- The feedback that a JSON text describes. -/
def SubmissionFeedback.ofText? (text : String) : Option SubmissionFeedback :=
  (Json.ofText? text).bind SubmissionFeedback.ofJson?

end Abacus
