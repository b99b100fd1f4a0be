/-
Module: Abacus.Proofs.JsonRecords
Purpose: Reports and feedbacks survive being written and read. A codec is a way
  to write a sort of value as JSON together with a way to read it; texts,
  numbers, lists and then each record have one, and the codec of a record is put
  together from those of its fields. Whatever texts a record holds and however
  long its lists are, it is read back in either style if its lines and columns
  fit sixty-four bits, and no other record can be read at all.
Main exports: Json.Codec, Json.record?_record, Json.Codec.list, Location.codec,
  TraceFrame.codec, ErrorReport.codec, SubmissionFeedback.codec,
  json_records_round_trip
-/
import Abacus.Feedback
import Abacus.Proofs.JsonText

namespace Abacus

namespace Json

/-!
### Codecs

A codec packs up a writer, a reader and the proofs that they undo one another on
what fits. It is put together like the sort of value it is for, so the round
trip of a record is that of its fields.
-/

/-- A sort of value is written as JSON and read from it. What is written can be
    read as JSON; what `Fits` is read back; and what is read fits. -/
structure Codec {α : Type} (write : α → Json) (read? : Json → Option α)
    (Fits : α → Prop) : Prop where
  plain (a : α) : (write a).Plain
  read_write {a : α} : Fits a → read? (write a) = some a
  fits {json : Json} {a : α} : read? json = some a → Fits a

/-- A natural number that a JSON number can stand for. -/
def FitsWord (n : Nat) : Prop :=
  n < UInt64.size

theorem codec_text : Codec ofText text? fun _ => True where
  plain := .text
  read_write _ := rfl
  fits _ := trivial

theorem codec_bool : Codec .bool bool? fun _ => True where
  plain := .bool
  read_write _ := rfl
  fits _ := trivial

theorem codec_natural : Codec ofNat natural? FitsWord where
  plain := .natural
  read_write := by
    intro n fits
    have allDigits : (Nat.toDigits 10 n).all Char.isDigit = true :=
      List.all_eq_true.mpr isDigit_of_mem_toDigits
    rw [ofNat, natural?, Nat.toString_eq_ofList_toDigits, String.toList_ofList,
      if_pos allDigits, Nat.ofDigitChars_ten_toDigits]
    exact if_pos fits
  fits := by
    intro json n read
    unfold natural? at read
    split at read
    case h_2 => cases read
    case h_1 literal =>
      split at read
      case isFalse => cases read
      case isTrue =>
        dsimp only at read
        split at read
        case isFalse => cases read
        case isTrue fits =>
          cases read
          exact fits

theorem codec_optionalText :
    Codec ofOptionalText (fun json => optionalText? (some json)) fun _ => True where
  plain := by
    intro text?
    cases text? with
    | none => exact .null
    | some text => exact .text text
  read_write := by
    intro text? _
    cases text? <;> rfl
  fits _ := trivial

theorem mapM_cons_eq_some_iff {α β : Type} {f : α → Option β} {a : α}
    {as : List α} {bs : List β} :
    (a :: as).mapM f = some bs ↔
      ∃ b, f a = some b ∧ ∃ rest, as.mapM f = some rest ∧ b :: rest = bs := by
  simp [List.mapM_cons, Option.bind_eq_some_iff]

/-- Where every item is read, the list of them is. -/
theorem mapM_map_eq_some {α β γ : Type} {f : β → Option γ} {g : α → β}
    {h : α → γ} {as : List α} (read : ∀ a ∈ as, f (g a) = some (h a)) :
    (as.map g).mapM f = some (as.map h) := by
  induction as with
  | nil => rfl
  | cons a as inductionHypothesis =>
      obtain ⟨first, others⟩ := List.forall_mem_cons.mp read
      exact mapM_cons_eq_some_iff.mpr
        ⟨h a, first, as.map h, inductionHypothesis others, rfl⟩

section

variable {α : Type} {write : α → Json} {read? : Json → Option α} {Fits : α → Prop}

theorem Codec.mapM_write (codec : Codec write read? Fits) {as : List α}
    (fits : ∀ a ∈ as, Fits a) : (as.map write).mapM read? = some as := by
  have read : (as.map write).mapM read? = some (as.map id) :=
    mapM_map_eq_some fun a member =>
      codec.read_write (fits a member)
  rwa [List.map_id] at read

theorem Codec.forall_fits (codec : Codec write read? Fits) {items : List Json}
    {as : List α} (read : items.mapM read? = some as) : ∀ a ∈ as, Fits a := by
  induction items generalizing as with
  | nil =>
      cases read
      exact List.forall_mem_nil _
  | cons item items inductionHypothesis =>
      obtain ⟨a, first, as, others, rfl⟩ := mapM_cons_eq_some_iff.mp read
      exact List.forall_mem_cons.mpr ⟨codec.fits first, inductionHypothesis others⟩

/-- Lists of a sort of value that has a codec have one. -/
theorem Codec.list (codec : Codec write read? Fits) :
    Codec (fun as => .array (as.map write))
      (fun json => json.items?.bind (·.mapM read?)) (∀ a ∈ ·, Fits a) where
  plain as := .array (List.forall_mem_map.mpr fun a _ => codec.plain a)
  read_write fits := codec.mapM_write fits
  fits := by
    intro json as read
    obtain ⟨items, _, read⟩ := Option.bind_eq_some_iff.mp read
    exact codec.forall_fits read

/-- From its text in either style exactly what fits is read back. -/
theorem Codec.ofText?_text (codec : Codec write read? Fits) (style : Style) (a : α) :
    (Json.ofText? ((write a).text style)).bind read? = some a ↔ Fits a := by
  rw [Json.ofText?_text (codec.plain a) style, Option.bind_some]
  exact ⟨codec.fits, codec.read_write⟩

end

/-!
### Records

A record is an object whose members are found again by their names. That asks
for names that are distinct, and for nothing of the order in which they are
looked for.
-/

theorem plain_record {members : List (String × Json)}
    (plain : ∀ member ∈ members, member.2.Plain) : (record members).Plain :=
  .object (List.forall_mem_map.mpr fun _ _ => rfl) (List.forall_mem_map.mpr plain)

/-- Of members with distinct names only one has the name of a given member. -/
theorem filter_name_eq {members : List (String × Json)}
    (distinct : (members.map Prod.fst).Nodup) {member : String × Json}
    (among : member ∈ members) : members.filter (·.1 == member.1) = [member] := by
  induction members with
  | nil => cases among
  | cons first others inductionHypothesis =>
      rw [List.map_cons, List.nodup_cons] at distinct
      rcases List.mem_cons.mp among with rfl | among
      · have none : others.filter (·.1 == member.1) = [] := by
          rw [List.filter_eq_nil_iff]
          intro other otherAmong same
          exact distinct.1 (beq_iff_eq.mp same ▸ List.mem_map_of_mem otherAmong)
        rw [List.filter_cons, if_pos (beq_self_eq_true member.1), none]
      · have different : (first.1 == member.1) = false :=
          beq_eq_false_iff_ne.mpr fun same =>
            distinct.1 (same ▸ List.mem_map_of_mem among)
        rw [List.filter_cons_of_neg (by rw [different]; decide),
          inductionHypothesis distinct.2 among]

/-- The fields of a record that was written under distinct names are what was
    written. -/
theorem record?_record {members : List (String × Json)}
    (distinct : (members.map Prod.fst).Nodup) :
    (record members).record? (members.map Prod.fst) =
      some (members.map fun member => some member.2) := by
  have written : record members =
      .object (members.map fun member => (some member.1, member.2)) := rfl
  have named : (members.map fun member => (some member.1, member.2)).all
      (·.1.isSome) = true := by
    rw [List.all_eq_true, List.forall_mem_map]
    exact fun _ _ => rfl
  rw [written, record?, if_pos named]
  refine mapM_map_eq_some fun member among => ?_
  have only : (members.map fun member => (some member.1, member.2)).filter
      (·.1 == some member.1) =
      [(some member.1, member.2)] := by
    rw [List.filter_map]
    exact congrArg (List.map fun member => (some member.1, member.2))
      (filter_name_eq distinct among)
  rw [only?, only]

end Json

/-!
### Reports

The four records, each with the numbers in it that have to fit: lines and
columns, since a JSON number is read into sixty-four bits. All else in a record
is a text, a truth value or a list, and fits.
-/

/-- The lines and columns of a location can be written. -/
def Location.FitsWords (location : Location) : Prop :=
  Json.FitsWord location.line ∧ Json.FitsWord location.column ∧
    Json.FitsWord location.endLine ∧
    Json.FitsWord location.endColumn

/-- The line of a frame can be written. -/
def TraceFrame.FitsWords (frame : TraceFrame) : Prop :=
  Json.FitsWord frame.line

/-- Every line and column of a report can be written. -/
def ErrorReport.FitsWords (report : ErrorReport) : Prop :=
  report.location.FitsWords ∧ ∀ frame ∈ report.traceback, frame.FitsWords

/-- Every line and column of a feedback can be written. -/
def SubmissionFeedback.FitsWords (feedback : SubmissionFeedback) : Prop :=
  ∀ report ∈ feedback.diagnostics, report.FitsWords

open Json

theorem Location.codec : Codec toJson ofJson? FitsWords where
  plain location := by
    apply plain_record
    simp only [List.forall_mem_cons]
    exact ⟨codec_text.plain _, codec_natural.plain _, codec_natural.plain _,
      codec_natural.plain _,
      codec_natural.plain _, List.forall_mem_nil _⟩
  read_write := by
    rintro location ⟨line, column, endLine, endColumn⟩
    have fields : location.toJson.record?
        ["file", "line", "column", "end_line", "end_column"] = _ :=
      record?_record (by simp)
    rw [ofJson?, fields]
    simp [codec_text.read_write, codec_natural.read_write line,
      codec_natural.read_write column,
      codec_natural.read_write endLine, codec_natural.read_write endColumn]
  fits := by
    intro json location read
    simp only [ofJson?, Option.bind_eq_bind, Option.bind_eq_some_iff] at read
    obtain ⟨fields, _, read⟩ := read
    split at read
    case h_2 => cases read
    case h_1 =>
      simp only [Option.bind_eq_some_iff, Option.some.injEq] at read
      obtain ⟨_, _, line, isLine, column, isColumn, endLine, isEndLine,
          endColumn, isEndColumn, rfl⟩ := read
      exact ⟨codec_natural.fits isLine, codec_natural.fits isColumn,
        codec_natural.fits isEndLine,
        codec_natural.fits isEndColumn⟩

theorem TraceFrame.codec : Codec toJson ofJson? FitsWords where
  plain frame := by
    apply plain_record
    simp only [List.forall_mem_cons]
    exact ⟨codec_text.plain _, codec_natural.plain _, codec_text.plain _,
      List.forall_mem_nil _⟩
  read_write := by
    intro frame line
    have fields : frame.toJson.record? ["file", "line", "context"] = _ :=
      record?_record (by simp)
    rw [ofJson?, fields]
    simp [codec_text.read_write, codec_natural.read_write line]
  fits := by
    intro json frame read
    simp only [ofJson?, Option.bind_eq_bind, Option.bind_eq_some_iff] at read
    obtain ⟨fields, _, read⟩ := read
    split at read
    case h_2 => cases read
    case h_1 =>
      simp only [Option.bind_eq_some_iff, Option.some.injEq] at read
      obtain ⟨_, _, line, isLine, _, _, rfl⟩ := read
      exact codec_natural.fits isLine

theorem ErrorReport.codec : Codec toJson ofJson? FitsWords where
  plain report := by
    apply plain_record
    simp only [List.forall_mem_cons]
    exact ⟨codec_text.plain _, codec_text.plain _, codec_text.plain _,
      Location.codec.plain _,
      TraceFrame.codec.list.plain _, codec_text.list.plain _, List.forall_mem_nil _⟩
  read_write := by
    rintro report ⟨location, traceback⟩
    have fields : report.toJson.record?
        ["code", "kind", "message", "location", "traceback", "suggestions"] = _ :=
      record?_record (by simp)
    have frames := TraceFrame.codec.mapM_write traceback
    have remedies :=
      codec_text.mapM_write fun text (_ : text ∈ report.suggestions) => trivial
    rw [ofJson?, fields]
    simp [codec_text.read_write, Location.codec.read_write location, items?,
      frames, remedies]
  fits := by
    intro json report read
    simp only [ofJson?, Option.bind_eq_bind, Option.bind_eq_some_iff] at read
    obtain ⟨fields, _, read⟩ := read
    split at read
    case h_2 => cases read
    case h_1 =>
      simp only [Option.bind_eq_some_iff, Option.some.injEq] at read
      obtain ⟨_, _, _, _, _, _, location, isLocation, items, _, traceback,
          isTraceback, _, _, _, _, rfl⟩ := read
      exact ⟨Location.codec.fits isLocation, TraceFrame.codec.forall_fits isTraceback⟩

theorem SubmissionFeedback.codec : Codec toJson ofJson? FitsWords where
  plain feedback := by
    apply plain_record
    simp only [List.forall_mem_cons]
    exact ⟨codec_bool.plain _, codec_text.plain _, codec_optionalText.plain _,
      ErrorReport.codec.list.plain _,
      List.forall_mem_nil _⟩
  read_write := by
    intro feedback diagnostics
    have fields :
        feedback.toJson.record? ["success", "source", "value", "diagnostics"] = _ :=
      record?_record (by simp)
    have reports := ErrorReport.codec.mapM_write diagnostics
    rw [ofJson?, fields]
    simp [codec_bool.read_write, codec_text.read_write,
      codec_optionalText.read_write, items?, reports]
  fits := by
    intro json feedback read
    simp only [ofJson?, Option.bind_eq_bind, Option.bind_eq_some_iff] at read
    obtain ⟨fields, _, read⟩ := read
    split at read
    case h_2 => cases read
    case h_1 =>
      simp only [Option.bind_eq_some_iff, Option.some.injEq] at read
      obtain ⟨_, _, _, _, _, _, items, _, diagnostics, isDiagnostics, rfl⟩ := read
      exact ErrorReport.codec.forall_fits isDiagnostics

/-!
### Main statement

Reading what was written, and writing what was read. The second is wanted for
any text at all: what it is read as fits, because a codec never reads more than
it can write.
-/

/-- Reports and feedbacks survive being written and read. A report is read back
    from its text, field for field, if its lines and columns fit sixty-four
    bits, and a feedback from its text in either style; nothing is asked of
    their texts, of the lengths of their lists or of whether there is a value.
    What any JSON text at all is read as can be written and read again, and is
    then the same record with the same text. -/
theorem json_records_round_trip :
    (∀ report : ErrorReport, ErrorReport.ofText? report.text = some report ↔
      report.FitsWords) ∧
      (∀ (style : Style) (feedback : SubmissionFeedback),
        SubmissionFeedback.ofText? (feedback.text style) = some feedback ↔
          feedback.FitsWords) ∧
      (∀ text report, ErrorReport.ofText? text = some report →
        ∃ again, ErrorReport.ofText? report.text = some again ∧ again = report ∧
          again.text = report.text) ∧
      (∀ text feedback, SubmissionFeedback.ofText? text = some feedback → ∀ style,
        ∃ again, SubmissionFeedback.ofText? (feedback.text style) = some again ∧
          again = feedback ∧ again.text style = feedback.text style) := by
  refine ⟨?_, ?_, ?_, ?_⟩
  · intro report
    exact ErrorReport.codec.ofText?_text .indented report
  · intro style feedback
    exact SubmissionFeedback.codec.ofText?_text style feedback
  · intro text report loaded
    obtain ⟨json, _, read⟩ := Option.bind_eq_some_iff.mp loaded
    have fits := ErrorReport.codec.fits read
    exact ⟨report, (ErrorReport.codec.ofText?_text .indented report).mpr fits, rfl, rfl⟩
  · intro text feedback loaded style
    obtain ⟨json, _, read⟩ := Option.bind_eq_some_iff.mp loaded
    have fits := SubmissionFeedback.codec.fits read
    exact ⟨feedback,
      (SubmissionFeedback.codec.ofText?_text style feedback).mpr fits, rfl, rfl⟩

end Abacus
