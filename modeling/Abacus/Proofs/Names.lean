/-
Module: Abacus.Proofs.Names
Purpose: What the name of an identifier looks like. Lower-casing leaves no
  capital of ASCII, and it makes no sign of ASCII out of a letter: below the
  small letters a name has only digits and underscores
  (`isLowered_of_mem_lowerCaseAfter`). So the name of an identifier is a word
  that no blank and no bracket interrupts, that begins with no digit and no
  capital, and that is not the keyword (`Lexeme.isName`).
Main exports: isLowered, IsName, isLowered_of_mem_lowerCaseAfter, Lexeme.isName
-/
import Abacus.Proofs.LetterCase

namespace Abacus

/-- The characters that a name in lower case may have: a digit, an underscore,
    or one from the small letters of ASCII on. -/
def isLowered (c : Char) : Bool :=
  c.isDigit || c == '_' || decide ('a'.toNat ≤ c.toNat)

/-- The text is that of a name: it has no other characters than names in lower
    case, begins with no digit and is not the keyword. -/
structure IsName (word : List Char) : Prop where
  nonempty : word ≠ []
  lowered : ∀ c ∈ word, isLowered c = true
  opens : ∀ c ∈ word.head?, c.isDigit = false
  notKeyword : word ≠ ['l', 'e', 't']

/-!
### Lower-case forms

The table of lower-case forms is checked once, run by run: no lower-case form of
a character beyond ASCII has a character before the small letters. The
characters of ASCII themselves are few enough to be tried one by one.
-/

theorem isLowered_of_le {c : Char} (high : 'a'.toNat ≤ c.toNat) :
    isLowered c = true := by
  simp only [isLowered, Bool.or_eq_true, decide_eq_true_eq]
  exact .inr high

/-- A code point of a character is that of the character it stands for. -/
theorem toNat_ofNat_of_isValidChar {n : Nat} (valid : n.isValidChar) :
    (Char.ofNat n).toNat = n := by
  rw [Char.ofNat, dif_pos valid]
  rfl

/-- The runs of the table lead to characters, none of them before the small
    letters of ASCII. -/
theorem caseRuns_target :
    ∀ run ∈ Text.caseRuns, 'a'.toNat ≤ run.first + run.offset ∧
      (run.last + run.offset < 0xD800 ∨
        0xDFFF < run.first + run.offset ∧ run.last + run.offset < 0x110000) := by
  decide +kernel

/-- Beyond ASCII no lower-case form has a character before the small letters. -/
theorem le_toNat_lowerForm {c d : Char} (beyond : Text.isAscii c = false)
    (member : d ∈ Text.lowerForm c) : 'a'.toNat ≤ d.toNat := by
  rw [Text.lowerForm, if_neg (by simp [beyond])] at member
  split at member
  case isTrue =>
    simp only [List.mem_cons, List.not_mem_nil, or_false] at member
    rcases member with rfl | rfl <;> decide
  case isFalse =>
    split at member
    case h_1 run found =>
      obtain rfl := List.mem_singleton.mp member
      have contains := List.find?_some found
      simp only [Text.CaseRun.contains, Bool.and_eq_true, decide_eq_true_eq] at contains
      obtain ⟨⟨first, last⟩, _⟩ := contains
      obtain ⟨low, high⟩ := caseRuns_target run (List.mem_of_find?_eq_some found)
      have valid : (c.toNat + run.offset).toNat.isValidChar := by
        unfold Nat.isValidChar
        omega
      rw [toNat_ofNat_of_isValidChar valid]
      omega
    case h_2 =>
      obtain rfl := List.mem_singleton.mp member
      have high : ¬ d.toNat < 0x80 := of_decide_eq_false beyond
      have small : 'a'.toNat = 0x61 := rfl
      omega

section

variable {before after : List Char} {c d : Char}

/-- Either form of the capital sigma is such a character as well. -/
theorem le_toNat_lowerFormBetween (beyond : Text.isAscii c = false)
    (member : d ∈ Text.lowerFormBetween before c after) : 'a'.toNat ≤ d.toNat := by
  unfold Text.lowerFormBetween at member
  split at member
  case isTrue =>
    rw [List.mem_singleton] at member
    rw [member]
    split <;> decide
  case isFalse => exact le_toNat_lowerForm beyond member

/-- What surrounds a character of ASCII does not matter. -/
theorem lowerFormBetween_of_isAscii (ascii : Text.isAscii c = true) :
    Text.lowerFormBetween before c after = [c.toLower] := by
  have notSigma : c ≠ 'Σ' := by
    rintro rfl
    exact absurd ascii (by decide)
  rw [Text.lowerFormBetween, if_neg notSigma, Text.lowerForm_of_isAscii ascii]

/-- The characters of ASCII can be tried one by one. -/
theorem of_isAscii {p : Char → Prop} (all : ∀ n < 0x80, p (Char.ofNat n))
    (ascii : Text.isAscii c = true) : p c := by
  have small := all c.toNat (of_decide_eq_true ascii)
  rwa [Char.ofNat_toNat] at small

theorem isLowered_toLower (ascii : Text.isAscii c = true) :
    continuesName c = true → isLowered c.toLower = true :=
  of_isAscii (p := fun c => continuesName c = true → isLowered c.toLower = true)
    (by decide) ascii

/-- A character of a name becomes nothing else in lower case than names in lower
    case may have. -/
theorem isLowered_of_mem_lowerFormBetween (continues : continuesName c = true)
    (member : d ∈ Text.lowerFormBetween before c after) : isLowered d = true := by
  cases ascii : Text.isAscii c with
  | false => exact isLowered_of_le (le_toNat_lowerFormBetween ascii member)
  | true =>
      rw [lowerFormBetween_of_isAscii ascii, List.mem_singleton] at member
      rw [member]
      exact isLowered_toLower ascii continues

/-- A character that opens a name becomes no digit. -/
theorem isDigit_of_mem_lowerFormBetween (opens : opensName c = true)
    (member : d ∈ Text.lowerFormBetween before c after) : d.isDigit = false := by
  cases ascii : Text.isAscii c with
  | false =>
      have high := le_toNat_lowerFormBetween ascii member
      rw [Bool.eq_false_iff]
      intro digit
      have low : d.toNat ≤ 57 := (Char.isDigit_iff_toNat.mp digit).2
      have small : 'a'.toNat = 97 := rfl
      omega
  | true =>
      rw [lowerFormBetween_of_isAscii ascii, List.mem_singleton] at member
      rw [member]
      exact (isDigit_toLower c).trans (isDigit_of_opensName opens)

/-- No character is lost in lower case. -/
theorem lowerFormBetween_ne_nil : Text.lowerFormBetween before c after ≠ [] := by
  unfold Text.lowerFormBetween Text.lowerForm
  split
  case isTrue => simp
  case isFalse =>
    split
    case isTrue => simp
    case isFalse =>
      split
      case isTrue => simp
      case isFalse => split <;> simp

end

/-!
### Words in lower case

From single characters to words. A word is lower-cased character by character,
with the characters around each in view, so what holds of every form holds of
every character of the name.
-/

theorem isLowered_of_mem_lowerCaseAfter {text : List Char}
    (continues : ∀ c ∈ text, continuesName c = true) (before : List Char) :
    ∀ d ∈ Text.lowerCaseAfter before text, isLowered d = true := by
  induction text generalizing before with
  | nil =>
      intro d member
      cases member
  | cons c text inductionHypothesis =>
      obtain ⟨first, later⟩ := List.forall_mem_cons.mp continues
      rw [Text.lowerCaseAfter, List.forall_mem_append]
      exact ⟨fun d member => isLowered_of_mem_lowerFormBetween first member,
        inductionHypothesis later (c :: before)⟩

/-- What opens a name may also be inside one. -/
theorem continuesName_of_opensName {c : Char} (opens : opensName c = true) :
    continuesName c = true := by
  simp only [opensName, Bool.or_eq_true] at opens
  rcases opens with letter | underscore <;> simp [continuesName, *]

/-- An identifier carries a name. -/
theorem Lexeme.isName {text rest : List Char} {payload? : Option Payload}
    (lexeme : Lexeme text rest .identifier payload?) :
    ∃ word, payload? = some (.text word) ∧ IsName word.toList := by
  cases lexeme with
  | @word c text _ _ word opens continues _ lower _ _ identifier =>
      have chars : word.toList =
          Text.lowerFormBetween [] c text ++ Text.lowerCaseAfter [c] text := by
        rw [lower, String.toList_ofList]
        rfl
      obtain ⟨d, tail, first⟩ :=
        List.exists_cons_of_ne_nil (@lowerFormBetween_ne_nil [] text c)
      refine ⟨word, rfl, ?_, ?_, ?_, ?_⟩
      · simp [chars, first]
      · have all : ∀ d ∈ c :: text, continuesName d = true :=
          List.forall_mem_cons.mpr ⟨continuesName_of_opensName opens, continues⟩
        rw [lower, String.toList_ofList]
        exact isLowered_of_mem_lowerCaseAfter all []
      · rw [chars, first]
        rintro e ⟨⟩
        exact isDigit_of_mem_lowerFormBetween opens (first ▸ List.mem_cons_self)
      · intro isLet
        exact (identifier.mp rfl).1 (String.toList_inj.mp isLet)
  | sign listed => simp [signs] at listed

end Abacus
