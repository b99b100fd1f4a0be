/-
Module: Abacus.Json
Purpose: JSON values and their text, either without any blanks or indented by
  two blanks a level. An object keeps its members in order and may repeat a
  name; what a repetition means is up to whoever decodes the object. A number is
  kept as it is written.
Main exports: Json, Json.Style, Json.render, Json.text
-/

namespace Abacus

/-- A JSON value. A string or the name of a member is `none` if it denotes half
    of a surrogate pair by itself, which is allowed in JSON but is no text. -/
inductive Json where
  | null
  | bool (value : Bool)
  | number (literal : String)
  | string (text? : Option String)
  | array (items : List Json)
  | object (members : List (Option String × Json))
deriving Repr, Inhabited

namespace Json

/-- A string value. -/
def ofText (text : String) : Json :=
  .string (some text)

/-- A natural number. -/
def ofNat (n : Nat) : Json :=
  .number (toString n)

/-- An object with the given members. -/
def record (members : List (String × Json)) : Json :=
  .object (members.map fun (name, value) => (some name, value))

/-!
### Text

One function writes a value in either style; the styles differ in the blanks
before an item and after a colon only. The depth is that of the value among the
arrays and objects around it.
-/

/-- Whether a value is written on one line or indented. -/
inductive Style where
  | compact
  | indented
deriving DecidableEq, Repr, Inhabited

namespace Style

/-- What stands before an item at the given depth. -/
def lineBreak : Style → Nat → List Char
  | .compact, _ => []
  | .indented, depth => '\n' :: List.replicate (2 * depth) ' '

/-- What stands between the name of a member and its value. -/
def colon : Style → List Char
  | .compact => [':']
  | .indented => [':', ' ']

end Style

/-- A hexadecimal digit, in lower case. -/
def hexDigit (n : Nat) : Char :=
  Nat.digitChar (n % 16)

/-- A character inside quotes. The quote, the backslash and what lies below the
    blank are escaped, with a letter where there is one and else by number;
    everything else stands for itself. -/
def escape (c : Char) : List Char :=
  if c = '"' then ['\\', '"']
  else if c = '\\' then ['\\', '\\']
  else if c = '\n' then ['\\', 'n']
  else if c = '\r' then ['\\', 'r']
  else if c = '\t' then ['\\', 't']
  else if c = '\x08' then ['\\', 'b']
  else if c = '\x0c' then ['\\', 'f']
  else if c.toNat < 0x20 then
    ['\\', 'u', '0', '0', hexDigit (c.toNat / 16), hexDigit c.toNat]
  else [c]

/-- A text in quotes. -/
def quote (text : List Char) : List Char :=
  '"' :: text.flatMap escape ++ ['"']

/-- A string in quotes. What is no text is written as the empty one. -/
def quoteText (text? : Option String) : List Char :=
  quote (text?.getD "").toList

mutual

/-- The characters of a value that stands at the given depth. -/
def render (style : Style) (depth : Nat) : Json → List Char
  | .null => ['n', 'u', 'l', 'l']
  | .bool true => ['t', 'r', 'u', 'e']
  | .bool false => ['f', 'a', 'l', 's', 'e']
  | .number literal => literal.toList
  | .string text? => quoteText text?
  | .array [] => ['[', ']']
  | .array (item :: items) =>
      '[' :: style.lineBreak (depth + 1) ++ render style (depth + 1) item ++
        renderItems style (depth + 1) items ++ style.lineBreak depth ++ [']']
  | .object [] => ['\x7b', '\x7d']
  | .object ((name, value) :: members) =>
      '\x7b' :: style.lineBreak (depth + 1) ++ quoteText name ++ style.colon ++
        render style (depth + 1) value ++ renderMembers style (depth + 1) members ++
        style.lineBreak depth ++ ['\x7d']

/-- Further items, each after a comma and on a line of its own if the style has
    lines. -/
def renderItems (style : Style) (depth : Nat) : List Json → List Char
  | [] => []
  | item :: items =>
      ',' :: style.lineBreak depth ++ render style depth item ++
        renderItems style depth items

/-- Further members, each after a comma and on a line of its own if the style
    has lines. -/
def renderMembers (style : Style) (depth : Nat) :
    List (Option String × Json) → List Char
  | [] => []
  | (name, value) :: members =>
      ',' :: style.lineBreak depth ++ quoteText name ++ style.colon ++
        render style depth value ++
        renderMembers style depth members

end

/-- The text of a value. -/
def text (style : Style) (json : Json) : String :=
  String.ofList (json.render style 0)

end Json

end Abacus
