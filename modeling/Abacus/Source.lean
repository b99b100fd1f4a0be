/-
Module: Abacus.Source
Purpose: Named source texts, positions of characters in them, and the spans
  between two positions. All counts are in characters and start at zero; only
  what is shown to a reader starts at one.
Main exports: Position, Position.advance, Position.after, Source, Source.line?,
  Span, Span.merge, Span.text?, Span.display
-/

namespace Abacus

/-- A place in a text: how many characters stand before it, on which line it is,
    and how many characters of that line stand before it. -/
structure Position where
  offset : Nat := 0
  line : Nat := 0
  column : Nat := 0
deriving DecidableEq, Repr, Inhabited

namespace Position

/-- The position right after the character `c` at `p`. A line feed ends the line
    it stands on, so the next character opens a new one. -/
def advance (p : Position) (c : Char) : Position :=
  if c = '\n' then
    { offset := p.offset + 1, line := p.line + 1, column := 0 }
  else
    { offset := p.offset + 1, line := p.line, column := p.column + 1 }

/-- The position right after the whole of `text`, read from `p`. -/
def after (p : Position) (text : List Char) : Position :=
  text.foldl advance p

/-- Every position met while reading `text` from `p`: the first one, then one
    after each character. -/
def trail (p : Position) : List Char → List Position
  | [] => [p]
  | c :: text => p :: trail (p.advance c) text

@[simp] theorem after_nil (p : Position) : p.after [] = p := rfl

@[simp] theorem after_cons (p : Position) (c : Char) (text : List Char) :
    p.after (c :: text) = (p.advance c).after text := rfl

theorem after_append (p : Position) (first second : List Char) :
    p.after (first ++ second) = (p.after first).after second :=
  List.foldl_append

@[simp] theorem offset_advance (p : Position) (c : Char) :
    (p.advance c).offset = p.offset + 1 := by
  unfold advance
  split <;> rfl

@[simp] theorem offset_after (p : Position) (text : List Char) :
    (p.after text).offset = p.offset + text.length := by
  induction text generalizing p with
  | nil => rfl
  | cons c text ih => simp [ih, Nat.add_comm, Nat.add_left_comm]

end Position

/-- The lines of a text. A line feed belongs to no line and always opens another
    one, so a text has one line more than it has line feeds. -/
def textLines : List Char → List (List Char)
  | [] => [[]]
  | c :: text =>
      if c = '\n' then [] :: textLines text else (textLines text).modifyHead (c :: ·)

/-- A text under the name that diagnostics call it by. -/
structure Source where
  label : String
  content : String
deriving DecidableEq, Repr, Inhabited

namespace Source

/-- The characters of the text. -/
def chars (source : Source) : List Char :=
  source.content.toList

/-- The lines of the text, the first one being line 0. -/
def lines (source : Source) : List (List Char) :=
  textLines source.chars

/-- Line `n` of the text without the line feed that ends it. -/
def line? (source : Source) (n : Nat) : Option String :=
  source.lines[n]?.map String.ofList

end Source

/-- The stretch of a source between two positions. `stop` is the position right
    after the last covered character, so a span whose ends agree covers nothing
    and marks a place. -/
structure Span where
  start : Position
  stop : Position
  source : Source
deriving DecidableEq, Repr, Inhabited

namespace Span

/-- The span that marks a place without covering anything. -/
def point (position : Position) (source : Source) : Span :=
  { start := position, stop := position, source }

/-- From where the first span starts to where the second one stops. The source
    is that of the first. -/
def merge (first second : Span) : Span :=
  { first with stop := second.stop }

/-- How many characters are covered; a span that stops before it starts covers
    none. -/
def length (span : Span) : Nat :=
  span.stop.offset - span.start.offset

/-- Whether the span marks a place only. -/
def isEmpty (span : Span) : Bool :=
  span.start == span.stop

/-- The covered characters, as far as the source has them. -/
def covered (span : Span) : List Char :=
  (span.source.chars.drop span.start.offset).take span.length

/-- The covered text. A span that stops before it starts has none. -/
def text? (span : Span) : Option String :=
  if span.stop.offset < span.start.offset then none
  else some (String.ofList span.covered)

/-- Where the span starts, in the form `label:line:column` counted from one. -/
def display (span : Span) : String :=
  span.source.label ++ ":" ++ toString (span.start.line + 1) ++ ":" ++
    toString (span.start.column + 1)

@[simp] theorem start_merge (first second : Span) :
    (first.merge second).start = first.start := rfl

@[simp] theorem stop_merge (first second : Span) :
    (first.merge second).stop = second.stop := rfl

@[simp] theorem source_merge (first second : Span) :
    (first.merge second).source = first.source := rfl

@[simp] theorem isEmpty_point (position : Position) (source : Source) :
    (point position source).isEmpty = true := by
  simp [point, isEmpty]

end Span

end Abacus
