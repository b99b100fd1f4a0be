/-
Module: Abacus.Text.LowerCase
Purpose: Lower-casing of a whole text. Every character has its lower-case form
  of its own, except the capital sigma, whose form depends on whether it ends a
  word. `lowerCase_of_isAscii` says that a word of ASCII characters is
  lower-cased one character at a time.
Main exports: Text.lowerCase
-/
import Abacus.Text.Casing

namespace Abacus.Text

/-- Whether the first character that is not passed over is a letter with a case. -/
def leadsToCased (text : List Char) : Bool :=
  match text.dropWhile isCaseIgnorable with
  | [] => false
  | c :: _ => isCased c

/-- The lower-case form of `c` standing between `before`, nearest character
    first, and `after`. The capital sigma becomes the final one where a letter
    with a case stands before it in the text and none follows. -/
def lowerFormBetween (before : List Char) (c : Char) (after : List Char) : List Char :=
  if c = 'Σ' then
    [if leadsToCased before && !leadsToCased after then 'ς' else 'σ']
  else
    lowerForm c

/-- The lower-case form of a text that follows `before`, which is given nearest
    character first. -/
def lowerCaseAfter (before : List Char) : List Char → List Char
  | [] => []
  | c :: text => lowerFormBetween before c text ++ lowerCaseAfter (c :: before) text

/-- The lower-case form of a text. -/
def lowerCase (text : List Char) : List Char :=
  lowerCaseAfter [] text

theorem lowerCaseAfter_of_isAscii {before text : List Char}
    (ascii : ∀ c ∈ text, isAscii c = true) :
    lowerCaseAfter before text = text.map Char.toLower := by
  induction text generalizing before with
  | nil => rfl
  | cons c text inductionHypothesis =>
      have head : isAscii c = true := ascii c (by simp)
      have notSigma : c ≠ 'Σ' := by
        rintro rfl
        exact absurd head (by decide)
      rw [lowerCaseAfter, lowerFormBetween, if_neg notSigma, lowerForm_of_isAscii head,
        inductionHypothesis fun d member => ascii d (by simp [member])]
      rfl

/-- A text of ASCII characters is lower-cased character by character. -/
theorem lowerCase_of_isAscii {text : List Char}
    (ascii : ∀ c ∈ text, isAscii c = true) : lowerCase text = text.map Char.toLower :=
  lowerCaseAfter_of_isAscii ascii

end Abacus.Text
