/-
Module: Abacus.Proofs.PrintedIntegers
Purpose: The text of an integer as a submission. Its digits are those of the
  magnitude, which is an integer literal as long as a word stands for it; a
  minus sign in front of them negates it. So every integer is read back from its
  text (`run_text_of_int`), but for the least one: its magnitude is beyond the
  words, and its digits are refused.
Main exports: Value.toList_text_int, lexeme_toDigits, run_text_of_natural,
  run_text_of_negative, run_text_of_too_large, run_text_of_int
-/
import Abacus.Proofs.ExactIntegers
import Abacus.Proofs.TreeHeight
import Abacus.Proofs.Unreadable

namespace Abacus

/-!
### Digits

The text of an integer as characters: digits, with a minus sign before them if
it is negative. Which of the two sorts of things the digits are, a literal or
too great an integer, is decided by whether a word stands for the magnitude.
-/

/-- The text of an integer is the digits of its magnitude, behind a minus sign
    if it is negative. -/
theorem Value.toList_text_int (v : Int64) :
    (Value.int v).text.toList =
      if v.toInt < 0 then '-' :: Nat.toDigits 10 v.toInt.natAbs
      else Nat.toDigits 10 v.toInt.natAbs := by
  rw [Value.text]
  cases v.toInt with
  | ofNat n =>
      have natural : toString (Int.ofNat n) = toString n := rfl
      rw [if_neg (by simp), natural, Nat.toString_eq_ofList_toDigits,
        String.toList_ofList]
      rfl
  | negSucc n =>
      have negative : toString (Int.negSucc n) = "-" ++ toString (n + 1) := rfl
      rw [if_pos (Int.negSucc_lt_zero n), negative, Nat.toString_eq_ofList_toDigits]
      simp

/-- The digits of a number that a word stands for are an integer literal. -/
theorem lexeme_toDigits {n : Nat} {w : Int64} {rest : List Char} (same : w.toInt = n)
    (ends : RunEnds (fun c => c.isDigit || c == '.') rest) :
    Lexeme (Nat.toDigits 10 n) rest .integer (some (.int w)) :=
  .integer Nat.toDigits_ne_nil isDigit_of_mem_toDigits ends
    (by rw [Nat.ofDigitChars_ten_toDigits, same])

/-- The digits of a number that no word stands for cannot be read. -/
theorem unreadable_toDigits {n : Nat} {rest : List Char}
    (large : Int64.maxValue.toInt < n)
    (ends : RunEnds (fun c => c.isDigit || c == '.') rest) :
    Unreadable (Nat.toDigits 10 n) rest (.integerTooLarge (toString n)) := by
  rw [Nat.toString_eq_ofList_toDigits]
  exact .integer Nat.toDigits_ne_nil isDigit_of_mem_toDigits ends
    (by rwa [Nat.ofDigitChars_ten_toDigits])

/-- A minus sign is a lexeme wherever it stands. -/
theorem lexeme_minus (rest : List Char) : Lexeme ['-'] rest .minus none :=
  .sign (by decide)

/-!
### Submissions

The tokens of the text are known, and so are their tree and its value. Signed
words have one more below zero than above, so one magnitude has no literal: the
text of the least integer is the one that is refused.
-/

open Grammar

/-- A source that has no tokens has no tree. -/
theorem ofSource_of_refused {source : Source} {diagnostic : Diagnostic}
    (refused : source.tokens = .error diagnostic) :
    Expr.ofSource source = .error diagnostic := by
  rw [Expr.ofSource, refused]

section

variable {source : Source} (environment : Environment)

/-- The digits of a number that a word stands for come to that word. -/
theorem run_text_of_natural {n : Nat} {w : Int64}
    (chars : source.chars = Nat.toDigits 10 n) (same : w.toInt = n) :
    (run source environment).outcome =
        .ok
          { value := .int w
            span? := some ⟨{}, Position.after {} source.chars, source⟩ } ∧
      (run source environment).environment = environment := by
  let literal : Token :=
    ⟨.integer, some (.int w), ⟨{}, Position.after {} source.chars, source⟩⟩
  have digits : Lexeme source.chars [] .integer (some (.int w)) := by
    rw [chars]
    exact lexeme_toDigits same (runEnds_nil _)
  have reads : Reads source.chars [source.chars] [] := by
    simpa using Reads.lexeme digits .here
  have tokenized : source.tokens = .ok [literal, source.closing] := by
    rw [reads.tokens_eq, placePieces, digits.readPiece_eq]
    rfl
  let phrase : Phrase .expr := .plain (.one (.literalOperand literal rfl .sum))
  have accepted : Expr.ofSource source = .ok (.number literal) :=
    phrase.ofSource_eq tokenized rfl
      (Phrase.fits_literalOperand literal rfl .sum (by decide) (by decide))
  exact run_of_ofSource_ok accepted environment

/-- The same digits behind a minus sign come to the negative of the word. -/
theorem run_text_of_negative {n : Nat} {w v : Int64}
    (chars : source.chars = '-' :: Nat.toDigits 10 n)
    (same : w.toInt = n) (opposite : v.toInt = -w.toInt) :
    (run source environment).outcome =
        .ok
          { value := .int v
            span? := some ⟨{}, Position.after {} source.chars, source⟩ } ∧
      (run source environment).environment = environment := by
  let behind := Position.after {} ['-']
  let op : Token := ⟨.minus, none, ⟨{}, behind, source⟩⟩
  let literal : Token :=
    ⟨.integer, some (.int w), ⟨behind, Position.after {} source.chars, source⟩⟩
  have stop : behind.after (Nat.toDigits 10 n) = Position.after {} source.chars := by
    rw [chars]; rfl
  have digits : Lexeme (Nat.toDigits 10 n) [] .integer (some (.int w)) :=
    lexeme_toDigits same (runEnds_nil _)
  have reads : Reads source.chars [['-'], Nat.toDigits 10 n] [] := by
    rw [chars]
    simpa using Reads.lexeme (lexeme_minus _) (.lexeme digits .here)
  have tokenized : source.tokens = .ok [op, literal, source.closing] := by
    rw [reads.tokens_eq, placePieces, (lexeme_minus []).readPiece_eq,
      placePieces, digits.readPiece_eq, stop]
    rfl
  let phrase : Phrase .expr :=
    .plain (.one (.one (.signed op rfl (.bare (.number literal (.inl rfl))))))
  have fits : phrase.Fits greatestNesting greatestHeight :=
    ⟨by decide, by decide, by decide, by decide, trivial⟩
  have accepted : Expr.ofSource source = .ok (.joinUnary op (.number literal)) :=
    phrase.ofSource_eq tokenized rfl fits
  have signed : applySign op { value := .int w, span? := some literal.span }
      (op.span.merge literal.span) =
      { value := .int v
        span? := some ⟨{}, Position.after {} source.chars, source⟩ } := by
    have negated : (Value.int w).negate = .int v :=
      Value.negate_eq_int_iff.mpr ⟨w.toInt, rfl, opposite.symm⟩
    rw [applySign, if_pos rfl, negated]
    rfl
  rw [← signed]
  exact run_of_ofSource_ok accepted environment

/-- Digits that no word stands for are refused behind a minus sign, and all of
    them are covered. -/
theorem run_text_of_too_large {n : Nat}
    (chars : source.chars = '-' :: Nat.toDigits 10 n)
    (large : Int64.maxValue.toInt < n) :
    ∃ span, span.text? = some (toString n) ∧
      (run source environment).outcome =
        .error (.lexical (.integerTooLarge (toString n)) span) ∧
      (run source environment).environment = environment := by
  have ahead : source.chars.drop 1 = Nat.toDigits 10 n ++ [] := by
    rw [chars, List.append_nil]; rfl
  have boundary : source.BoundaryAt 1 := by
    refine ⟨[['-']], ?_⟩
    rw [ahead, chars, List.append_nil]
    exact .lexeme (lexeme_minus _) .here
  have refused := (unreadable_toDigits large (runEnds_nil _)).tokens_eq boundary ahead
  obtain ⟨outcome, unchanged⟩ :=
    run_of_ofSource_error (ofSource_of_refused refused) environment
  refine ⟨_, ?_, outcome, unchanged⟩
  have length := congrArg List.length chars
  rw [List.length_cons] at length
  have start : (source.positionAt 1).offset = 1 := Source.offset_positionAt (by omega)
  have stop : (source.positionAt (1 + (Nat.toDigits 10 n).length)).offset =
      1 + (Nat.toDigits 10 n).length := Source.offset_positionAt (by omega)
  rw [Nat.toString_eq_ofList_toDigits]
  simp [Span.text?, Span.covered, Span.length, start, stop, ahead]

end

/-- The text of an integer reads back as a submission, under any label and
    against any bindings, which stay as they are. It comes to the integer,
    placed at the whole text. Only the text of the least integer is refused: no
    literal writes its magnitude, and the diagnostic quotes and covers the
    digits behind the minus sign, all of them. -/
theorem run_text_of_int (v : Int64) (label : String) (environment : Environment) :
    let source : Source := { label, content := (Value.int v).text }
    (run source environment).environment = environment ∧
      (v ≠ Int64.minValue → (run source environment).outcome =
        .ok
          { value := .int v
            span? := some ⟨{}, Position.after {} source.chars, source⟩ }) ∧
      (v = Int64.minValue →
        ∃ diagnostic, (run source environment).outcome = .error diagnostic ∧
          diagnostic.kindName = "Lexical Error" ∧
          diagnostic.message = "integer literal '9223372036854775808' is too large" ∧
          diagnostic.span.text? = some "9223372036854775808") := by
  intro source
  have chars : source.chars = _ := Value.toList_text_int v
  by_cases negative : v.toInt < 0
  · rw [if_pos negative] at chars
    have magnitude : v.toInt = -(v.toInt.natAbs : Int) := by omega
    by_cases least : v = Int64.minValue
    · subst least
      obtain ⟨span, covered, outcome, unchanged⟩ :=
        run_text_of_too_large environment chars (by decide)
      have digits :
          toString Int64.minValue.toInt.natAbs = "9223372036854775808" := by decide
      rw [digits] at covered outcome
      exact ⟨unchanged, fun other => absurd rfl other,
        fun _ => ⟨_, outcome, rfl, rfl, covered⟩⟩
    · have above : v.toInt ≠ Int64.minValue.toInt :=
        fun same => least (Int64.toInt_inj.mp same)
      rw [Int64.toInt_minValue] at above
      obtain ⟨lowest, _⟩ := isWord_toInt v
      obtain ⟨w, _, same⟩ := exists_word (n := v.toInt.natAbs) ⟨by omega, by omega⟩
      have opposite : v.toInt = -w.toInt := by rw [same]; exact magnitude
      obtain ⟨outcome, unchanged⟩ :=
        run_text_of_negative environment chars same opposite
      exact ⟨unchanged, fun _ => outcome, fun isLeast => absurd isLeast least⟩
  · rw [if_neg negative] at chars
    have same : v.toInt = v.toInt.natAbs :=
      (Int.natAbs_of_nonneg (Int.not_lt.mp negative)).symm
    have notLeast : v ≠ Int64.minValue := by
      rintro rfl
      exact negative (by decide)
    obtain ⟨outcome, unchanged⟩ := run_text_of_natural environment chars same
    exact ⟨unchanged, fun _ => outcome, fun least => absurd least notLeast⟩

/-- At the lower end: the least integer that reads back, and the one below it
    that does not. -/
theorem run_text_of_int_at_lower_end :
    let above : Source := { label := "<test>", content := "-9223372036854775807" }
    let least : Source := { label := "<test>", content := "-9223372036854775808" }
    (run above .empty).outcome =
        .ok { value := .int (-9223372036854775807)
              span? := some ⟨{}, ⟨20, 0, 20⟩, above⟩ } ∧
      ∃ diagnostic, (run least .empty).outcome = .error diagnostic ∧
        diagnostic.span.text? = some "9223372036854775808" := by
  intro above least
  have aboveText : (Value.int (-9223372036854775807)).text = above.content := by decide
  have leastText : (Value.int Int64.minValue).text = least.content := by decide
  obtain ⟨_, outcome, _⟩ := run_text_of_int (-9223372036854775807) "<test>" .empty
  obtain ⟨_, _, refused⟩ := run_text_of_int Int64.minValue "<test>" .empty
  rw [aboveText] at outcome
  rw [leastText] at refused
  obtain ⟨diagnostic, failed, _, _, covered⟩ := refused rfl
  have stop : Position.after {} above.chars = ⟨20, 0, 20⟩ := by decide
  rw [← stop]
  exact ⟨outcome (by decide), diagnostic, failed, covered⟩

end Abacus
