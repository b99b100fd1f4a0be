/-
Module: Abacus.Lexeme
Purpose: The division of a text into pieces, each a lexeme or one skipped
  character, and what each piece means by itself. No piece depends on where it
  stands, and the division loses nothing: `flatten_pieces` says that the pieces
  in order are the text.
Main exports: pieces, Reading, readPiece
-/
import Abacus.Diagnostic
import Abacus.Text.Alphabetic
import Abacus.Text.LowerCase
import Abacus.Text.Numeric

namespace Abacus

/-- The four characters that separate lexemes and mean nothing else. -/
def isSkipped (c : Char) : Bool :=
  c == ' ' || c == '\t' || c == '\r' || c == '\n'

/-- Whether a name may begin with the character. -/
def opensName (c : Char) : Bool :=
  Text.isAlphabetic c || c == '_'

/-- Whether a name may go on with the character. -/
def continuesName (c : Char) : Bool :=
  Text.isAlphabetic c || Text.isNumeric c || c == '_'

/-- Splits a text that starts with `c` after its first piece. A number takes
    every digit that follows, then one point if there is one, then every digit
    again; a name takes every character that may go on a name; the arrow is the
    only other piece of more than one character. -/
def splitPiece (c : Char) (text : List Char) : List Char × List Char :=
  if c = '<' then
    match text with
    | '-' :: rest => (['<', '-'], rest)
    | _ => (['<'], text)
  else if c.isDigit then
    match text.dropWhile Char.isDigit with
    | '.' :: rest =>
        (c :: (text.takeWhile Char.isDigit ++ '.' :: rest.takeWhile Char.isDigit),
          rest.dropWhile Char.isDigit)
    | rest => (c :: text.takeWhile Char.isDigit, rest)
  else if opensName c then
    (c :: text.takeWhile continuesName, text.dropWhile continuesName)
  else
    ([c], text)

/-- Splitting loses nothing. -/
theorem splitPiece_append (c : Char) (text : List Char) :
    (splitPiece c text).1 ++ (splitPiece c text).2 = c :: text := by
  unfold splitPiece
  split
  case isTrue arrow =>
    subst arrow
    split <;> rfl
  case isFalse =>
    split
    case isTrue =>
      have parts := List.takeWhile_append_dropWhile (p := Char.isDigit) (l := text)
      split
      case h_1 rest point =>
        rw [point] at parts
        simp [List.takeWhile_append_dropWhile, parts]
      case h_2 => simp [parts]
    case isFalse =>
      split <;> simp [List.takeWhile_append_dropWhile]

/-- A piece has at least the character it starts with, so splitting always
    advances. -/
theorem length_splitPiece_lt (c : Char) (text : List Char) :
    (splitPiece c text).2.length < (c :: text).length := by
  have nonempty : 0 < (splitPiece c text).1.length := by
    unfold splitPiece
    repeat' split
    all_goals simp
  have total := congrArg List.length (splitPiece_append c text)
  simp only [List.length_append] at total
  omega

/-- The pieces of a text in order. -/
def pieces (text : List Char) : List (List Char) :=
  match text with
  | [] => []
  | c :: text =>
      match _parts : splitPiece c text with
      | (piece, rest) => piece :: pieces rest
termination_by text.length
decreasing_by
  have advance := length_splitPiece_lt c text
  rw [_parts] at advance
  exact advance

@[simp] theorem pieces_nil : pieces [] = [] := by
  rw [pieces]

theorem pieces_cons (c : Char) (text : List Char) :
    pieces (c :: text) = (splitPiece c text).1 :: pieces (splitPiece c text).2 := by
  rw [pieces]

/-- The pieces of a text, one after another, are the text. -/
theorem flatten_pieces (text : List Char) : (pieces text).flatten = text := by
  match text with
  | [] => simp
  | c :: text =>
      rw [pieces_cons, List.flatten_cons, flatten_pieces (splitPiece c text).2,
        splitPiece_append]
termination_by text.length
decreasing_by exact length_splitPiece_lt c text

/-!
### What a piece means

A piece means a token, nothing or a fault, whatever stands around it. But for
the arrow its first character decides which reader it is given to, as it has
decided how far the piece goes.
-/

/-- The meaning of a piece: nothing, a token, or a fault. -/
inductive Reading where
  | skipped
  | token (kind : Kind) (payload? : Option Payload)
  | fault (fault : LexicalFault)
deriving DecidableEq, Repr, Inhabited

/-- The number written by digits with one point among them: the double nearest
    to it. -/
def readFixed? (piece : List Char) : Option Float :=
  match piece.dropWhile Char.isDigit with
  | '.' :: fraction =>
      if fraction.all Char.isDigit then
        let digits := piece.takeWhile Char.isDigit ++ fraction
        some (Float.ofScientific (Nat.ofDigitChars 10 digits 0) true fraction.length)
      else
        none
  | _ => none

/-- A piece that starts with a digit: with a point a double, else an integer if
    a word stands for it. -/
def readNumber (piece : List Char) : Reading :=
  if '.' ∈ piece then
    match readFixed? piece with
    | some x => .token .float (some (.float x))
    | none => .fault (.malformedNumber (String.ofList piece))
  else
    match word? (Nat.ofDigitChars 10 piece 0) with
    | some i => .token .integer (some (.int i))
    | none => .fault (.integerTooLarge (String.ofList piece))

/-- The kind of a word, given in lower case. One word is a keyword and one is an
    assignment sign. -/
def wordKind (word : String) : Kind :=
  if word = "let" then .keyword else if word = "be" then .assignment else .identifier

/-- A word means its lower-case form. -/
def readWord (piece : List Char) : Reading :=
  let word := String.ofList (Text.lowerCase piece)
  .token (wordKind word) (some (.text word))

/-- What a piece means, which its first character decides but for the arrow. -/
def readPiece (piece : List Char) : Reading :=
  match piece with
  | [] => .skipped
  | ['='] => .token .assignment (some (.text "="))
  | ['<', '-'] => .token .assignment (some (.text "<-"))
  | c :: _ =>
      if isSkipped c then .skipped
      else if c.isDigit then readNumber piece
      else if opensName c then readWord piece
      else
        match Kind.ofChar? c with
        | some kind => .token kind none
        | none => .fault (.unexpectedCharacter c)

end Abacus
