/-
Module: Abacus.Proofs.Unreadable
Purpose: Which sources have no tokens, and where. What begins no lexeme is one
  of two things: a character that begins none, or digits that write an integer
  beyond the words. A source has no tokens exactly if one of these stands at a
  place between its tokens; the diagnostic covers it and quotes it, and what
  stands before has tokens of its own. No digits with a point among them are
  ever refused.
Main exports: Unreadable, unreadable_iff, Source.BoundaryAt, Source.upTo,
  tokens_eq_error_iff_unreadable
-/
import Abacus.Proofs.Boundaries

namespace Abacus

/-!
### What begins no lexeme

There are two sorts of text that no lexeme begins like: a single character, and
digits that write too great an integer. The first piece of a text cannot be read
exactly if it is of one of these sorts, where the rest of the text follows it.
-/

/-- The text, where `rest` follows it, is what a text cannot begin with, for the
    reason that the fault says. -/
inductive Unreadable : (text rest : List Char) → LexicalFault → Prop where
  /-- A character that separates no lexemes, begins neither a number nor a word
      and is no sign; nor is it the first one of an arrow. -/
  | character {c : Char} {rest : List Char} (notSkipped : isSkipped c = false)
      (notDigit : c.isDigit = false) (notLetter : Text.isAlphabetic c = false)
      (notUnderscore : c ≠ '_') (notSign : ∀ kind, (c, kind) ∉ signs)
      (notEquals : c ≠ '=') (noArrow : c = '<' → rest.head? ≠ some '-') :
      Unreadable [c] rest (.unexpectedCharacter c)
  /-- All the digits there are, no point behind them, and more than the greatest
      word. -/
  | integer {digits rest : List Char} (nonempty : digits ≠ [])
      (allDigits : ∀ c ∈ digits, c.isDigit = true)
      (ends : RunEnds (fun c => c.isDigit || c == '.') rest)
      (large : Int64.maxValue.toInt < Nat.ofDigitChars 10 digits 0) :
      Unreadable digits rest (.integerTooLarge (String.ofList digits))

theorem Unreadable.ne_nil {text rest : List Char} {fault : LexicalFault}
    (unreadable : Unreadable text rest fault) : text ≠ [] := by
  cases unreadable with
  | character => simp
  | integer nonempty => exact nonempty

/-- No word stands for a natural number that is greater than the greatest one. -/
theorem word?_ofNat_eq_none_iff (n : Nat) :
    word? n = none ↔ Int64.maxValue.toInt < n := by
  rw [word?_eq_none_iff, Int64.toInt_minValue, Int64.toInt_maxValue]
  omega

/-- A piece of digits that cannot be read writes too great an integer. -/
theorem unreadable_of_digits {digits rest : List Char} {fault : LexicalFault}
    (nonempty : digits ≠ []) (allDigits : ∀ c ∈ digits, c.isDigit = true)
    (ends : RunEnds (fun c => c.isDigit || c == '.') rest)
    (read : readNumber digits = .fault fault) : Unreadable digits rest fault := by
  have noPoint : '.' ∉ digits := fun point => absurd (allDigits _ point) (by decide)
  rw [readNumber, if_neg noPoint] at read
  split at read
  case h_1 => cases read
  case h_2 large =>
    cases read
    exact .integer nonempty allDigits ends ((word?_ofNat_eq_none_iff _).mp large)

/-- A single character that cannot be read begins no lexeme. -/
theorem unreadable_of_other {c : Char} {rest : List Char} {fault : LexicalFault}
    (notDigit : c.isDigit = false) (notName : opensName c = false)
    (noArrow : c = '<' → rest.head? ≠ some '-')
    (read : readPiece [c] = .fault fault) : Unreadable [c] rest fault := by
  have notLetter : Text.isAlphabetic c = false := (Bool.or_eq_false_iff.mp notName).1
  have notUnderscore : c ≠ '_' := by simpa using (Bool.or_eq_false_iff.mp notName).2
  have notSkipped : isSkipped c = false := by
    rw [Bool.eq_false_iff]
    intro skipped
    rw [readPiece_of_isSkipped skipped] at read
    cases read
  unfold readPiece at read
  split at read
  case h_1 nothing => cases nothing
  case h_2 => cases read
  case h_3 arrow => cases arrow
  case h_4 notEquals _ same =>
    cases same
    simp only [notSkipped, notDigit, notName, Bool.false_eq_true, if_false] at read
    split at read
    case h_1 => cases read
    case h_2 noSign =>
      cases read
      refine .character notSkipped notDigit notLetter notUnderscore ?_
        (fun equals => notEquals equals rfl) noArrow
      intro kind listed
      rw [ofChar?_eq_some_iff.mpr listed] at noSign
      cases noSign

/-- A first piece that cannot be read is unreadable where the rest of the text
    follows it. -/
theorem unreadable_of_readPiece {c : Char} {text : List Char} {fault : LexicalFault}
    (read : readPiece (splitPiece c text).1 = .fault fault) :
    Unreadable (splitPiece c text).1 (splitPiece c text).2 fault := by
  by_cases digit : c.isDigit = true
  · by_cases point : (text.dropWhile Char.isDigit).head? = some '.'
    · -- Digits with a point among them are read as a double, whatever they are.
      obtain ⟨fraction, point⟩ := List.head?_eq_some_iff.mp point
      have allDigits := isDigit_of_mem_fixed digit text fraction
      rw [splitPiece_of_point digit point, readPiece_of_point (by simp) allDigits]
        at read
      cases read
    · rw [splitPiece_of_digits digit point] at read ⊢
      dsimp only at read ⊢
      rw [readPiece_of_isDigit digit] at read
      exact unreadable_of_digits (by simp) (isDigit_of_mem_digits digit text)
        (runEnds_of_noPoint point) read
  rw [Bool.not_eq_true] at digit
  by_cases opens : opensName c = true
  · rw [splitPiece_of_opensName digit opens] at read
    dsimp only at read
    rw [readPiece_of_opensName digit opens] at read
    cases read
  rw [Bool.not_eq_true] at opens
  by_cases arrow : c = '<' ∧ text.head? = some '-'
  · obtain ⟨rfl, goesOn⟩ := arrow
    obtain ⟨rest, rfl⟩ := List.head?_eq_some_iff.mp goesOn
    cases read
  · have single : splitPiece c text = ([c], text) := by
      by_cases less : c = '<'
      · subst less
        exact splitPiece_of_less fun goesOn => arrow ⟨rfl, goesOn⟩
      · exact splitPiece_of_other less digit opens
    rw [single] at read ⊢
    exact unreadable_of_other digit opens (fun less goesOn => arrow ⟨less, goesOn⟩) read

/-- An unreadable text is a piece. -/
theorem Unreadable.splitPiece_eq {text rest : List Char} {fault : LexicalFault}
    (unreadable : Unreadable text rest fault) {c : Char} {tail : List Char}
    (first : text = c :: tail) : splitPiece c (tail ++ rest) = (text, rest) := by
  cases unreadable with
  | character _ notDigit notLetter notUnderscore _ _ noArrow =>
      cases first
      by_cases less : c = '<'
      · subst less
        exact splitPiece_of_less (noArrow rfl)
      · exact splitPiece_of_other less notDigit
          (by simp [opensName, notLetter, notUnderscore])
  | integer _ allDigits ends _ =>
      subst first
      exact splitPiece_of_runEnds allDigits ends

/-- An unreadable text cannot be read. -/
theorem Unreadable.readPiece_eq {text rest : List Char} {fault : LexicalFault}
    (unreadable : Unreadable text rest fault) : readPiece text = .fault fault := by
  cases unreadable with
  | @character c _ notSkipped notDigit notLetter notUnderscore notSign notEquals _ =>
      have notName : opensName c = false := by
        simp [opensName, notLetter, notUnderscore]
      have noSign : Kind.ofChar? c = none := by
        rw [Option.eq_none_iff_forall_ne_some]
        exact fun kind sign => notSign kind (ofChar?_eq_some_iff.mp sign)
      simp [readPiece, notSkipped, notDigit, notName, notEquals, noSign]
  | integer nonempty allDigits _ large =>
      obtain ⟨c, tail, rfl⟩ := List.exists_cons_of_ne_nil nonempty
      have noPoint : '.' ∉ c :: tail :=
        fun point => absurd (allDigits _ point) (by decide)
      rw [readPiece_of_isDigit (allDigits c (by simp)), readNumber, if_neg noPoint,
        (word?_ofNat_eq_none_iff _).mpr large]

/-- The first piece of a text cannot be read exactly if it is unreadable before
    the rest of the text. -/
theorem unreadable_iff {c : Char} {text piece rest : List Char}
    {fault : LexicalFault} :
    splitPiece c text = (piece, rest) ∧ readPiece piece = .fault fault ↔
      piece ++ rest = c :: text ∧ Unreadable piece rest fault := by
  constructor
  · rintro ⟨parts, read⟩
    have appended := splitPiece_append c text
    have unreadable := @unreadable_of_readPiece c text fault
    rw [parts] at appended unreadable
    exact ⟨appended, unreadable read⟩
  · rintro ⟨appended, unreadable⟩
    obtain ⟨first, tail, rfl⟩ := List.exists_cons_of_ne_nil unreadable.ne_nil
    cases appended
    exact ⟨unreadable.splitPiece_eq rfl, unreadable.readPiece_eq⟩

/-!
### Boundaries

The division stops at the first piece that cannot be read, and up to there it
has read token by token. So the place is a boundary, what stands before it has
tokens of its own, and what is refused there does not depend on what was before.
-/

/-- The place with `k` characters before it lies between the tokens of the
    source: reading the source token by token gets there. -/
def Source.BoundaryAt (source : Source) (k : Nat) : Prop :=
  ∃ taken, Reads source.chars taken (source.chars.drop k)

/-- The first `k` characters of the source by themselves. -/
def Source.upTo (source : Source) (k : Nat) : Source :=
  { source with content := String.ofList (source.chars.take k) }

@[simp] theorem Source.chars_upTo (source : Source) (k : Nat) :
    (source.upTo k).chars = source.chars.take k :=
  String.toList_ofList

section

variable {source : Source} {k : Nat} {covered rest : List Char}
    {taken : List (List Char)}

/-- Up to a boundary stands what is taken off to get there. -/
theorem Reads.take_eq (reads : Reads source.chars taken (source.chars.drop k)) :
    source.chars.take k = taken.flatten := by
  have whole : source.chars.take k ++ source.chars.drop k =
      taken.flatten ++ source.chars.drop k := by
    rw [List.take_append_drop, ← reads.text_eq]
  exact List.append_cancel_right whole

/-- What stands before a boundary has tokens of its own. -/
theorem Source.BoundaryAt.tokens_upTo (boundary : source.BoundaryAt k) :
    ∃ tokens, (source.upTo k).tokens = .ok tokens := by
  obtain ⟨taken, reads⟩ := boundary
  have alone := (reads.alike (endsAlike_nil _)).pieces_eq
  rw [List.append_nil, pieces_nil, List.append_nil] at alone
  obtain ⟨tokens, placed⟩ := reads.placed (source.upTo k) {}
  exact ⟨tokens, by rw [Source.tokens, Source.chars_upTo, reads.take_eq, alone, placed]⟩

/-- A source refuses what is unreadable at a boundary. -/
theorem Unreadable.tokens_eq {fault : LexicalFault}
    (unreadable : Unreadable covered rest fault) (boundary : source.BoundaryAt k)
    (ahead : source.chars.drop k = covered ++ rest) :
    source.tokens =
      .error (.lexical fault
        ⟨source.positionAt k, source.positionAt (k + covered.length), source⟩) := by
  obtain ⟨taken, reads⟩ := boundary
  obtain ⟨c, tail, first⟩ := List.exists_cons_of_ne_nil unreadable.ne_nil
  have appended : covered ++ rest = c :: (tail ++ rest) := by
    rw [first, List.cons_append]
  obtain ⟨parts, read⟩ := unreadable_iff.mpr ⟨appended, unreadable⟩
  have divided : pieces source.chars = taken ++ covered :: pieces rest := by
    rw [reads.pieces_eq, ahead, appended, pieces_cons, parts]
  obtain ⟨tokens, placed⟩ := reads.placed source {}
  rw [← List.dropLast_concat_getLast (ne_nil_of_placePieces placed)] at placed
  rw [Source.tokens, divided, placePieces_append placed, placePieces, read,
    ← reads.take_eq, Source.positionAt_add ahead]
  rfl

/-- A source that is refused has something unreadable at a boundary. -/
theorem exists_unreadable {diagnostic : Diagnostic}
    (failed : source.tokens = .error diagnostic) :
    ∃ k covered rest fault, source.chars.drop k = covered ++ rest ∧
      source.BoundaryAt k ∧
      Unreadable covered rest fault ∧
      diagnostic = .lexical fault
        ⟨source.positionAt k, source.positionAt (k + covered.length), source⟩ := by
  obtain ⟨taken, piece, left, tokens, fault, divided, placed, read, rfl⟩ :=
    exists_unread failed
  have reads := reads_of_placePieces divided placed
  have behind : source.chars.drop taken.flatten.length = (piece :: left).flatten := by
    rw [reads.text_eq, List.drop_left]
  rw [← behind] at reads
  have same : pieces (source.chars.drop taken.flatten.length) = piece :: left :=
    List.append_cancel_left (reads.pieces_eq.symm.trans divided)
  cases ahead : source.chars.drop taken.flatten.length with
  | nil =>
      rw [ahead, pieces_nil] at same
      cases same
  | cons c text =>
      rw [ahead, pieces_cons, List.cons.injEq] at same
      obtain ⟨first, -⟩ := same
      have parts : splitPiece c text = (piece, (splitPiece c text).2) :=
        Prod.ext first rfl
      obtain ⟨appended, unreadable⟩ := unreadable_iff.mp ⟨parts, read⟩
      refine ⟨taken.flatten.length, _, _, fault, ahead.trans appended.symm,
        ⟨taken, reads⟩, unreadable, ?_⟩
      rw [Source.positionAt_add (ahead.trans appended.symm), Source.positionAt,
        reads.take_eq]

end

/-- The text of the fault and what is covered: the one quotes the other. -/
theorem Unreadable.message_eq {covered rest : List Char} {fault : LexicalFault}
    (unreadable : Unreadable covered rest fault) :
    fault.message = "unexpected character '" ++ String.ofList covered ++ "'" ∨
      fault.message =
        "integer literal '" ++ String.ofList covered ++ "' is too large" := by
  cases unreadable with
  | character => exact .inl rfl
  | integer => exact .inr rfl

/-- A source has no tokens exactly if something unreadable stands at a place
    between its tokens, and that is what the diagnostic covers. What stands
    before has tokens of its own; the message says of which of the two sorts it
    is and quotes the text that is covered; and no number is malformed. -/
theorem tokens_eq_error_iff_unreadable (source : Source) :
    (∀ diagnostic, source.tokens = .error diagnostic ↔
      ∃ k covered rest fault, source.chars.drop k = covered ++ rest ∧
        source.BoundaryAt k ∧
        Unreadable covered rest fault ∧
        diagnostic = .lexical fault
          ⟨source.positionAt k, source.positionAt (k + covered.length), source⟩) ∧
      (∀ diagnostic, source.tokens = .error diagnostic →
        (∃ tokens, (source.upTo diagnostic.span.start.offset).tokens = .ok tokens) ∧
          ∃ quoted, diagnostic.span.text? = some quoted ∧
          (diagnostic.message = "unexpected character '" ++ quoted ++ "'" ∨
            diagnostic.message = "integer literal '" ++ quoted ++ "' is too large")) ∧
      ∀ text span, source.tokens ≠ .error (.lexical (.malformedNumber text) span) := by
  refine ⟨?_, ?_, ?_⟩
  · intro diagnostic
    constructor
    · exact exists_unreadable
    · rintro ⟨k, covered, rest, fault, ahead, boundary, unreadable, rfl⟩
      exact unreadable.tokens_eq boundary ahead
  · intro diagnostic failed
    obtain ⟨k, covered, rest, fault, ahead, boundary, unreadable, rfl⟩ :=
      exists_unreadable failed
    have inside : k ≤ source.chars.length := by
      have more := List.length_pos_iff.mpr unreadable.ne_nil
      have left := congrArg List.length ahead
      rw [List.length_drop, List.length_append] at left
      omega
    have start : (source.positionAt k).offset = k := Source.offset_positionAt inside
    have stop :
        (source.positionAt (k + covered.length)).offset = k + covered.length := by
      rw [Source.positionAt_add ahead, Position.offset_after, start]
    refine ⟨?_, String.ofList covered, ?_, unreadable.message_eq⟩
    · dsimp only [Diagnostic.span]
      rw [start]
      exact boundary.tokens_upTo
    · simp [Diagnostic.span, Span.text?, Span.covered, Span.length, start, stop, ahead]
  · intro text span failed
    obtain ⟨k, covered, rest, fault, _, _, unreadable, same⟩ :=
      exists_unreadable failed
    cases same
    cases unreadable

/-- The least integer beyond the words is refused where it stands. -/
example :
    let source : Source := { label := "<test>", content := "x\n9223372036854775808" }
    source.tokens =
      .error (.lexical (.integerTooLarge "9223372036854775808")
        ⟨⟨2, 1, 0⟩, ⟨21, 1, 19⟩, source⟩) := by
  decide +kernel

end Abacus
