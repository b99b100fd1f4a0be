/-
Module: Abacus.Text.Blank
Purpose: The Unicode property `White_Space`, which is trimmed from the ends of a
  line.
Main exports: Text.isBlank
-/
import Abacus.Text.CharRange

namespace Abacus.Text

/-- The characters beyond ASCII with the property `White_Space`. -/
def blankRanges : List CharRange :=
  [ ⟨0x85, 0x85⟩, ⟨0xA0, 0xA0⟩, ⟨0x1680, 0x1680⟩, ⟨0x2000, 0x200A⟩,
    ⟨0x2028, 0x2029⟩, ⟨0x202F, 0x202F⟩, ⟨0x205F, 0x205F⟩, ⟨0x3000, 0x3000⟩]

/-- Whether the character is white space: on ASCII the blank and the five
    characters from tabulation to carriage return, and beyond it what the table
    lists. -/
def isBlank (c : Char) : Bool :=
  if isAscii c then c == ' ' || (decide (0x09 ≤ c.toNat) && decide (c.toNat ≤ 0x0D))
  else inRanges blankRanges c

/-- What the core library calls white space is white space. -/
theorem isBlank_of_isWhitespace {c : Char} (white : c.isWhitespace = true) :
    isBlank c = true := by
  simp only [Char.isWhitespace, Bool.or_eq_true, decide_eq_true_eq] at white
  rcases white with ((rfl | rfl) | rfl) | rfl <;> decide

/-- The text without the white space at its ends. -/
def trimBlank (text : List Char) : List Char :=
  ((text.dropWhile isBlank).reverse.dropWhile isBlank).reverse

example : Ordered blankRanges = true ∧ blankRanges.length = 8 := by
  decide

end Abacus.Text
