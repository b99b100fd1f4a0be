/-
Module: Abacus.Json.Reader
Purpose: Reading JSON texts. Every part of the grammar is read from the
  characters ahead and returns what it read with the characters that are left; a
  text is one value with nothing but blanks around it. How deep values may be
  nested is not limited: the reader recurses on a bound that the length of the
  text gives.
Main exports: Json.ofText?, Json.record?, Json.text?, Json.natural?
-/
import Abacus.Json

namespace Abacus.Json

/-- The four characters that may stand between the parts of a value. -/
def isBlank (c : Char) : Bool :=
  c == ' ' || c == '\n' || c == '\t' || c == '\r'

/-- The text without the blanks at its start. -/
def skipBlanks (text : List Char) : List Char :=
  text.dropWhile isBlank

/-!
### Strings

A string is read in two passes. The first one takes off the characters up to the
closing quote as code points and resolves the escapes; the second one joins
halves of surrogate pairs, which are code points but no characters.
-/

/-- The value of a hexadecimal digit in either case. -/
def hexValue? (c : Char) : Option Nat :=
  if '0' ≤ c ∧ c ≤ '9' then some (c.toNat - '0'.toNat)
  else if 'a' ≤ c ∧ c ≤ 'f' then some (c.toNat - 'a'.toNat + 10)
  else if 'A' ≤ c ∧ c ≤ 'F' then some (c.toNat - 'A'.toNat + 10)
  else none

/-- The character that a letter or sign after a backslash stands for. -/
def unescape? : Char → Option Char
  | '"' => some '"'
  | '\\' => some '\\'
  | '/' => some '/'
  | 'b' => some '\x08'
  | 'f' => some '\x0c'
  | 'n' => some '\n'
  | 'r' => some '\r'
  | 't' => some '\t'
  | _ => none

/-- The code points up to the closing quote, and the rest after it. An escape by
    number is taken as it is, so half of a surrogate pair is a code point of its
    own here. What lies below the blank must be escaped. -/
def readUnits : List Char → Option (List Nat × List Char)
  | [] => none
  | '"' :: rest => some ([], rest)
  | '\\' :: 'u' :: a :: b :: c :: d :: rest => do
      let unit :=
        ((((← hexValue? a) * 16 + (← hexValue? b)) * 16 + (← hexValue? c)) * 16 +
          (← hexValue? d))
      let (units, rest) ← readUnits rest
      some (unit :: units, rest)
  | '\\' :: c :: rest => do
      let unit ← unescape? c
      let (units, rest) ← readUnits rest
      some (unit.toNat :: units, rest)
  | c :: rest =>
      if c.toNat < 0x20 then none
      else do
        let (units, rest) ← readUnits rest
        some (c.toNat :: units, rest)

/-- Whether the code point is the first half of a surrogate pair. -/
def isLeading (n : Nat) : Bool :=
  decide (0xD800 ≤ n) && decide (n ≤ 0xDBFF)

/-- Whether the code point is the second half of a surrogate pair. -/
def isTrailing (n : Nat) : Bool :=
  decide (0xDC00 ≤ n) && decide (n ≤ 0xDFFF)

/-- The characters of a list of code points, in which two halves of a surrogate
    pair side by side are one character. There are none if a half stands alone. -/
def joinUnits? : List Nat → Option (List Char)
  | [] => some []
  | [unit] =>
      if isLeading unit || isTrailing unit then none else some [Char.ofNat unit]
  | unit :: next :: units =>
      if isLeading unit then
        if isTrailing next then
          (joinUnits? units).map
            (Char.ofNat (0x10000 + (unit - 0xD800) * 0x400 + (next - 0xDC00)) :: ·)
        else
          none
      else if isTrailing unit then
        none
      else
        (joinUnits? (next :: units)).map (Char.ofNat unit :: ·)

/-- A string after its opening quote. -/
def readString (text : List Char) : Option (Option String × List Char) := do
  let (units, rest) ← readUnits text
  some ((joinUnits? units).map String.ofList, rest)

/-!
### Numbers

A number is kept as it is written, so each part is read as a stretch of
characters. A part that may be missing is read as the empty stretch; a part that
begins and does not go on as it must makes the whole number unreadable.
-/

/-- One digit or more. -/
def readDigits (text : List Char) : Option (List Char × List Char) :=
  match text.takeWhile Char.isDigit with
  | [] => none
  | digits => some (digits, text.dropWhile Char.isDigit)

/-- The whole part of a number: a zero by itself, or digits that do not start
    with one. -/
def readWhole : List Char → Option (List Char × List Char)
  | '0' :: rest => some (['0'], rest)
  | text => readDigits text

/-- The fraction of a number, if there is one: a point and digits. -/
def readFraction : List Char → Option (List Char × List Char)
  | '.' :: rest => do
      let (digits, rest) ← readDigits rest
      some ('.' :: digits, rest)
  | text => some ([], text)

/-- The sign of an exponent, if there is one. -/
def readExponentSign : List Char → List Char × List Char
  | '+' :: rest => (['+'], rest)
  | '-' :: rest => (['-'], rest)
  | text => ([], text)

/-- The exponent of a number, if there is one: the mark in either case, a sign
    or none, and digits. -/
def readExponent : List Char → Option (List Char × List Char)
  | [] => some ([], [])
  | c :: rest =>
      if c = 'e' ∨ c = 'E' then do
        let (sign, rest) := readExponentSign rest
        let (digits, rest) ← readDigits rest
        some (c :: sign ++ digits, rest)
      else
        some ([], c :: rest)

/-- The minus sign of a number, if there is one. -/
def readMinus : List Char → List Char × List Char
  | '-' :: rest => (['-'], rest)
  | text => ([], text)

/-- A number, kept as it is written. -/
def readNumber (text : List Char) : Option (Json × List Char) := do
  let (minus, rest) := readMinus text
  let (whole, rest) ← readWhole rest
  let (fraction, rest) ← readFraction rest
  let (exponent, rest) ← readExponent rest
  some (.number (String.ofList (minus ++ whole ++ fraction ++ exponent)), rest)

/-!
### Values

Values, items and members call one another, each with one unit less of the
bound. At the end of a chain of such calls characters have been taken off, so a
bound that the length of the text gives is enough.
-/

/-- The name of a member with the colon after it. -/
def readName (text : List Char) : Option (Option String × List Char) :=
  match skipBlanks text with
  | '"' :: rest => do
      let (name, rest) ← readString rest
      match skipBlanks rest with
      | ':' :: rest => some (name, rest)
      | _ => none
  | _ => none

mutual

/-- A value with blanks before it. -/
def readValue : (bound : Nat) → List Char → Option (Json × List Char)
  | 0, _ => none
  | bound + 1, text =>
      match skipBlanks text with
      | 'n' :: 'u' :: 'l' :: 'l' :: rest => some (.null, rest)
      | 't' :: 'r' :: 'u' :: 'e' :: rest => some (.bool true, rest)
      | 'f' :: 'a' :: 'l' :: 's' :: 'e' :: rest => some (.bool false, rest)
      | '"' :: rest => do
          let (text?, rest) ← readString rest
          some (.string text?, rest)
      | '[' :: rest =>
          match skipBlanks rest with
          | ']' :: rest => some (.array [], rest)
          | _ => do
              let (items, rest) ← readItems bound rest
              some (.array items, rest)
      | '\x7b' :: rest =>
          match skipBlanks rest with
          | '\x7d' :: rest => some (.object [], rest)
          | _ => do
              let (members, rest) ← readMembers bound rest
              some (.object members, rest)
      | rest => readNumber rest

/-- The items of an array up to its closing bracket; at least one. -/
def readItems : (bound : Nat) → List Char → Option (List Json × List Char)
  | 0, _ => none
  | bound + 1, text => do
      let (item, rest) ← readValue bound text
      match skipBlanks rest with
      | ',' :: rest =>
          let (items, rest) ← readItems bound rest
          some (item :: items, rest)
      | ']' :: rest => some ([item], rest)
      | _ => none

/-- The members of an object up to its closing brace; at least one. -/
def readMembers :
    (bound : Nat) → List Char → Option (List (Option String × Json) × List Char)
  | 0, _ => none
  | bound + 1, text => do
      let (name, rest) ← readName text
      let (value, rest) ← readValue bound rest
      match skipBlanks rest with
      | ',' :: rest =>
          let (members, rest) ← readMembers bound rest
          some ((name, value) :: members, rest)
      | '\x7d' :: rest => some ([(name, value)], rest)
      | _ => none

end

/-- A whole text as one value. Reading a value, an item or a member takes at
    least one character, so twice the length of the text bounds every chain of
    recursive calls. -/
def ofChars? (text : List Char) : Option Json :=
  match readValue (2 * text.length + 2) text with
  | some (json, rest) => if (skipBlanks rest).isEmpty then some json else none
  | none => none

/-- A whole text as one value. -/
def ofText? (text : String) : Option Json :=
  ofChars? text.toList

/-!
### Decoding

What a value that was read says about a record. A decoder asks for one sort of
value and gives nothing for any other; a record asks for its fields by name, or
by their order in an array.
-/

/-- The text of a string value that is a text. -/
def text? : Json → Option String
  | .string text? => text?
  | _ => none

/-- The truth value of a boolean. -/
def bool? : Json → Option Bool
  | .bool b => some b
  | _ => none

/-- The items of an array. -/
def items? : Json → Option (List Json)
  | .array items => some items
  | _ => none

/-- A number written with digits only that fits sixty-four bits. -/
def natural? : Json → Option Nat
  | .number literal =>
      if literal.toList.all Char.isDigit then
        let n := Nat.ofDigitChars 10 literal.toList 0
        if n < UInt64.size then some n else none
      else
        none
  | _ => none

/-- The value of the only member called `name`: nothing if there is none, and a
    failure if there are more. -/
def only? (name : String) (members : List (Option String × Json)) :
    Option (Option Json) :=
  match members.filter (·.1 == some name) with
  | [] => some none
  | [(_, value)] => some (some value)
  | _ => none

/-- The fields of a record, in the order of `names`. A record is an object with
    at most one member for each name, other members being passed over as long as
    their names are texts, or an array with exactly one item for each name. -/
def record? (names : List String) : Json → Option (List (Option Json))
  | .object members =>
      if members.all (·.1.isSome) then names.mapM (only? · members) else none
  | .array items =>
      if items.length = names.length then some (items.map some) else none
  | _ => none

end Abacus.Json
