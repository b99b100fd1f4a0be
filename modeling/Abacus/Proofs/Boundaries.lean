/-
Module: Abacus.Proofs.Boundaries
Purpose: Places between the tokens of a text. Reading a text token by token gets
  from one such place to the next, and how far a token goes depends on nothing
  but the character behind it (`Lexeme.alike`); so a text that is cut off at
  such a place, or goes on there with something else, is read alike up to it
  (`Reads.alike`). Two texts with a blank between them therefore have the tokens
  of the one and then those of the other, these moved to where they stand.
Main exports: Lexeme.alike, Reads, Reads.alike, Reads.pieces_eq,
  reads_of_placePieces, placePieces_append, tokens_around_blank
-/
import Abacus.Proofs.Lines
import Abacus.Proofs.Relocation
import Abacus.Proofs.Tiling

namespace Abacus

/-!
### What follows a lexeme

Of what follows a lexeme only the first character matters, since a number or a
word ends where a character does not go on with it, and an arrow is told by the
character behind its first one. A skipped character, or the end of the text, may
stand for any character that a lexeme was followed by: neither goes on with
anything.
-/

/-- No token that ends before `rest` would take in more of `rest'`: that begins
    with the same character, with a skipped one, or not at all. -/
def EndsAlike (rest rest' : List Char) : Prop :=
  ∀ c ∈ rest'.head?, isSkipped c = true ∨ rest.head? = some c

theorem endsAlike_nil (rest : List Char) : EndsAlike rest [] := by
  intro c ahead
  cases ahead

theorem endsAlike_of_isSkipped {w : Char} (skipped : isSkipped w = true)
    (rest text : List Char) : EndsAlike rest (w :: text) := by
  rintro c ⟨⟩
  exact .inl skipped

/-- What stands before a place where texts end alike may stand before both. -/
theorem EndsAlike.append {rest rest' : List Char} (alike : EndsAlike rest rest')
    (text : List Char) : EndsAlike (text ++ rest) (text ++ rest') := by
  cases text with
  | nil => exact alike
  | cons c text => exact fun d ahead => .inr ahead

section

variable {rest rest' : List Char} (endsAlike : EndsAlike rest rest')

include endsAlike

theorem RunEnds.alike {p : Char → Bool} (ends : RunEnds p rest)
    (noBlank : [' ', '\t', '\r', '\n'].all (fun d => !p d) = true) :
    RunEnds p rest' := by
  intro c ahead
  rcases endsAlike c ahead with skipped | same
  · cases holds : p c with
    | false => rfl
    | true =>
        rw [not_isSkipped_of_sort holds noBlank] at skipped
        cases skipped
  · exact ends c same

theorem Lexeme.alike {text : List Char} {kind : Kind} {payload? : Option Payload}
    (lexeme : Lexeme text rest kind payload?) : Lexeme text rest' kind payload? := by
  cases lexeme with
  | integer nonempty allDigits ends decimal =>
      exact .integer nonempty allDigits (ends.alike endsAlike (by decide)) decimal
  | float nonempty allDigits ends =>
      exact .float nonempty allDigits (ends.alike endsAlike (by decide))
  | word opens continues ends lower keyword assignment identifier =>
      exact .word opens continues
        (ends.alike endsAlike (by decide)) lower keyword assignment identifier
  | equals => exact .equals
  | arrow => exact .arrow
  | sign listed => exact .sign listed

end

/-!
### From one boundary to another

A boundary is a place that reading token by token gets to. `Reads` has a step
for a skipped character and one for a lexeme, so what is said of it is said by
induction over the pieces that are taken off; and a text that has tokens leads
from its start to its end, a piece at a time.
-/

/-- Reading the text takes off the pieces one after another, each of them a
    skipped character or a lexeme where the others follow it, and leaves the
    rest. -/
inductive Reads :
    (text : List Char) → (taken : List (List Char)) → (rest : List Char) → Prop where
  | here {text : List Char} : Reads text [] text
  | skip {c : Char} {text rest : List Char} {taken : List (List Char)}
      (skipped : isSkipped c = true) (onward : Reads text taken rest) :
      Reads (c :: text) ([c] :: taken) rest
  | lexeme {piece text rest : List Char} {taken : List (List Char)} {kind : Kind}
      {payload? : Option Payload} (lexeme : Lexeme piece text kind payload?)
      (onward : Reads text taken rest) : Reads (piece ++ text) (piece :: taken) rest

namespace Reads

variable {text rest rest' : List Char} {taken : List (List Char)}

theorem text_eq (reads : Reads text taken rest) : text = taken.flatten ++ rest := by
  induction reads with
  | here => rfl
  | skip skipped onward inductionHypothesis => rw [inductionHypothesis]; rfl
  | lexeme lexeme onward inductionHypothesis =>
      rw [List.flatten_cons, List.append_assoc, ← inductionHypothesis]

/-- What may stand for the rest is read alike up to there. -/
theorem alike (reads : Reads text taken rest) (endsAlike : EndsAlike rest rest') :
    Reads (taken.flatten ++ rest') taken rest' := by
  induction reads with
  | here => exact .here
  | skip skipped onward inductionHypothesis =>
      exact .skip skipped (inductionHypothesis endsAlike)
  | lexeme lexeme onward inductionHypothesis =>
      rw [onward.text_eq] at lexeme
      rw [List.flatten_cons, List.append_assoc]
      exact .lexeme (lexeme.alike (endsAlike.append _)) (inductionHypothesis endsAlike)

/-- What is taken off are the first pieces of the text. -/
theorem pieces_eq (reads : Reads text taken rest) :
    pieces text = taken ++ pieces rest := by
  induction reads with
  | here => rfl
  | skip skipped onward inductionHypothesis =>
      rw [pieces_cons, splitPiece_of_isSkipped skipped, inductionHypothesis]
      rfl
  | lexeme lexeme onward inductionHypothesis =>
      obtain ⟨c, tail, rfl⟩ := List.exists_cons_of_ne_nil lexeme.ne_nil
      rw [List.cons_append, pieces_cons, lexeme.splitPiece_eq rfl, inductionHypothesis]
      rfl

/-- If nothing is left of a source, what is taken off has its tokens. -/
theorem tokens_eq {source : Source} (reads : Reads source.chars taken []) :
    source.tokens = placePieces source {} taken := by
  rw [Source.tokens, reads.pieces_eq, pieces_nil, List.append_nil]

/-- What is taken off has tokens. -/
theorem placed (reads : Reads text taken rest) (source : Source)
    (position : Position) :
    ∃ tokens, placePieces source position taken = .ok tokens := by
  induction reads generalizing position with
  | here => exact ⟨_, rfl⟩
  | skip skipped onward inductionHypothesis =>
      rw [placePieces, readPiece_of_isSkipped skipped]
      exact inductionHypothesis _
  | lexeme lexeme onward inductionHypothesis =>
      obtain ⟨tokens, placed⟩ := inductionHypothesis (position.after _)
      rw [placePieces, lexeme.readPiece_eq]
      dsimp only
      rw [placed]
      exact ⟨_, rfl⟩

end Reads

/-- Pieces that have tokens lead from the start of the text to a boundary. By
    induction on the text, a piece at a time. -/
theorem reads_of_placePieces {text : List Char} {taken left : List (List Char)}
    {source : Source} {position : Position} {tokens : List Token}
    (divided : pieces text = taken ++ left)
    (placed : placePieces source position taken = .ok tokens) :
    Reads text taken left.flatten := by
  induction text using pieces.induct generalizing taken position tokens with
  | case1 =>
      rw [pieces_nil] at divided
      obtain ⟨rfl, rfl⟩ := List.append_eq_nil_iff.mp divided.symm
      exact .here
  | case2 c text piece rest parts inductionHypothesis =>
      cases taken with
      | nil =>
          have whole := flatten_pieces (c :: text)
          rw [divided, List.nil_append] at whole
          rw [whole]
          exact .here
      | cons first taken =>
          rw [pieces_cons, parts, List.cons_append, List.cons.injEq] at divided
          obtain ⟨rfl, divided⟩ := divided
          rcases placePieces_cons_eq_ok placed
            with ⟨read, onward⟩ | ⟨kind, payload?, later, read, onward, rfl⟩
          · obtain ⟨skipped, rfl, rfl⟩ := isSkipped_of_splitPiece parts read
            exact .skip skipped (inductionHypothesis divided onward)
          · obtain ⟨appended, lexeme⟩ := lexeme_iff.mp ⟨parts, read⟩
            rw [← appended]
            exact .lexeme lexeme (inductionHypothesis divided onward)

/-!
### Pieces behind pieces

Placing pieces goes on where the position is, so pieces can be placed in two
parts, the second one from where the first one has led.
-/

/-- Pieces behind others that have tokens are placed behind these. -/
theorem placePieces_append {source : Source} {position : Position}
    {taken : List (List Char)} {lexemes : List Token} {stop : Token}
    (placed : placePieces source position taken = .ok (lexemes ++ [stop]))
    (left : List (List Char)) :
    placePieces source position (taken ++ left) =
      (placePieces source (position.after taken.flatten) left).map (lexemes ++ ·) := by
  induction taken generalizing position lexemes with
  | nil =>
      have nothing : lexemes = [] := by
        have sameLength := congrArg List.length (Except.ok.inj placed)
        simpa using sameLength.symm
      subst nothing
      rw [List.nil_append, List.flatten_nil, Position.after_nil]
      cases placePieces source position left <;> rfl
  | cons piece taken inductionHypothesis =>
      rw [List.cons_append, placePieces, List.flatten_cons, Position.after_append]
      rcases placePieces_cons_eq_ok placed
        with ⟨read, onward⟩ | ⟨kind, payload?, later, read, onward, closed⟩
      · rw [read]
        exact inductionHypothesis onward
      · cases lexemes with
        | nil =>
            cases closed
            exact absurd rfl (ne_nil_of_placePieces onward)
        | cons lexeme lexemes =>
            cases closed
            rw [read, inductionHypothesis onward]
            cases placePieces source ((position.after piece).after taken.flatten) left
              <;> rfl

/-!
### Tokens behind a text

Moving a text behind another one moves everything that comes of it, its
positions as `Position.translate` does. By induction on the pieces: each is
placed where the one before it ends, on either side, and what it means does not
depend on where it stands.
-/

section

variable (base : Position) (whole : Source)

/-- The span of a text put behind one that ends at `base`, the two making up the
    text of `whole`. -/
def Span.translate (span : Span) : Span :=
  { start := base.translate span.start
    stop := base.translate span.stop
    source := whole }

/-- The same token of a text put behind another one. -/
def Token.translate (token : Token) : Token :=
  { token with span := token.span.translate base whole }

/-- The same diagnostic of a text put behind another one. -/
def Diagnostic.translate : Diagnostic → Diagnostic
  | .lexical fault span => .lexical fault (span.translate base whole)
  | .grammatical fault span => .grammatical fault (span.translate base whole)
  | .runtime fault span traceback =>
      .runtime fault (span.translate base whole) traceback

@[simp] theorem Token.kind_translate (token : Token) :
    (token.translate base whole).kind = token.kind := rfl

@[simp] theorem Token.payload?_translate (token : Token) :
    (token.translate base whole).payload? = token.payload? := rfl

@[simp] theorem Diagnostic.message_translate (diagnostic : Diagnostic) :
    (diagnostic.translate base whole).message = diagnostic.message := by
  cases diagnostic <;> rfl

/-- The same pieces further on have the same tokens there, or the same fault. -/
theorem placePieces_translate (source : Source) (position : Position)
    (pieces : List (List Char)) :
    placePieces whole (base.translate position) pieces =
      ((placePieces source position pieces).map
        (List.map (Token.translate base whole))).mapError
        (Diagnostic.translate base whole) := by
  induction pieces generalizing position with
  | nil => rfl
  | cons piece pieces inductionHypothesis =>
      rw [placePieces, placePieces, Position.after_translate]
      cases readPiece piece with
      | skipped => exact inductionHypothesis _
      | fault fault => rfl
      | token kind payload? =>
          dsimp only
          rw [inductionHypothesis]
          cases placePieces source (position.after piece) pieces <;> rfl

end

/-!
### Two texts with a blank between them

The first text is read alike up to its end when the blank follows it. The blank
is a piece of its own, and the second text is read from behind it like any text
put behind another one.
-/

/-- A text that has tokens, a skipped character and another text have the tokens
    of the one without the end of the input and then the tokens of the other, or
    its fault. What comes of the second text is moved to where the text and the
    character in front of it end; kinds, payloads and messages stay. -/
theorem tokens_around_blank {first second whole : Source} {w : Char}
    {tokens : List Token} (skipped : isSkipped w = true)
    (chars : whole.chars = first.chars ++ w :: second.chars)
    (tokenized : first.tokens = .ok tokens) :
    let base := Position.after {} (first.chars ++ [w])
    (∀ later, second.tokens = .ok later →
      whole.tokens =
        .ok ((Token.beforeEnd tokens).map (Token.mapSource fun _ => whole) ++
          later.map (Token.translate base whole))) ∧
    ∀ diagnostic, second.tokens = .error diagnostic →
      whole.tokens = .error (diagnostic.translate base whole) := by
  intro base
  obtain ⟨closed, _⟩ := tiles_beforeEnd tokenized
  generalize Token.beforeEnd tokens = lexemes at closed ⊢
  subst closed
  -- The first text is divided alike in front of the second one.
  have reads : Reads first.chars (pieces first.chars) [] :=
    reads_of_placePieces (List.append_nil _).symm tokenized
  have divided :
      pieces whole.chars = pieces first.chars ++ [w] :: pieces second.chars := by
    have onward :=
      (reads.alike (endsAlike_of_isSkipped skipped [] second.chars)).pieces_eq
    rw [flatten_pieces, pieces_cons, splitPiece_of_isSkipped skipped] at onward
    rw [chars, onward]
  have moved : placePieces whole {} (pieces first.chars) =
      .ok (lexemes.map (Token.mapSource fun _ => whole) ++
        [first.closing.mapSource fun _ => whole]) := by
    have same := @placePieces_mapSource (fun _ => whole) first {} (pieces first.chars)
    rw [same, show placePieces first {} (pieces first.chars) = _ from tokenized]
    simp [moveOutcome]
  have whole_tokens : whole.tokens =
      (((second.tokens).map (List.map (Token.translate base whole))).mapError
        (Diagnostic.translate base whole)).map
        (lexemes.map (Token.mapSource fun _ => whole) ++ ·) := by
    rw [Source.tokens, divided, placePieces_append moved, flatten_pieces,
      placePieces, readPiece_of_isSkipped skipped]
    dsimp only
    rw [← Position.after_append, ← Position.translate_default
        (Position.after {} (first.chars ++ [w])),
        placePieces_translate _ _ second]
    rfl
  rw [whole_tokens]
  constructor
  · intro later laterTokens
    rw [laterTokens]
    rfl
  · intro diagnostic failed
    rw [failed]
    rfl

/-- A number that ends before the blank, and behind it two lines: the arrow
    moves to the right on the line of the number, and the name only down, on a
    line of its own. -/
theorem tokens_around_blank_of_two_lines :
    let first : Source := { label := "<first>", content := "é\n12" }
    let second : Source := { label := "<second>", content := "<-\nx" }
    let whole : Source := { label := "<whole>", content := "é\n12\t<-\nx" }
    let tokens : List Token :=
      [⟨.identifier, some (.text "é"), ⟨⟨0, 0, 0⟩, ⟨1, 0, 1⟩, first⟩⟩,
        ⟨.integer, some (.int 12), ⟨⟨2, 1, 0⟩, ⟨4, 1, 2⟩, first⟩⟩, first.closing]
    (isSkipped '\t' = true ∧ whole.chars = first.chars ++ '\t' :: second.chars ∧
        first.tokens = .ok tokens) ∧
      whole.tokens =
        .ok [⟨.identifier, some (.text "é"), ⟨⟨0, 0, 0⟩, ⟨1, 0, 1⟩, whole⟩⟩,
          ⟨.integer, some (.int 12), ⟨⟨2, 1, 0⟩, ⟨4, 1, 2⟩, whole⟩⟩,
          ⟨.assignment, some (.text "<-"), ⟨⟨5, 1, 3⟩, ⟨7, 1, 5⟩, whole⟩⟩,
          ⟨.identifier, some (.text "x"), ⟨⟨8, 2, 0⟩, ⟨9, 2, 1⟩, whole⟩⟩,
          ⟨.endOfInput, none, ⟨⟨9, 2, 1⟩, ⟨9, 2, 1⟩, whole⟩⟩] := by
  intro first second whole tokens
  have chars : whole.chars = first.chars ++ '\t' :: second.chars := by decide
  have tokenized : first.tokens = .ok tokens := by decide +kernel
  have later : second.tokens =
      .ok [⟨.assignment, some (.text "<-"), ⟨⟨0, 0, 0⟩, ⟨2, 0, 2⟩, second⟩⟩,
        ⟨.identifier, some (.text "x"), ⟨⟨3, 1, 0⟩, ⟨4, 1, 1⟩, second⟩⟩,
        ⟨.endOfInput, none, ⟨⟨4, 1, 1⟩, ⟨4, 1, 1⟩, second⟩⟩] := by decide +kernel
  refine ⟨⟨rfl, chars, tokenized⟩, ?_⟩
  rw [(tokens_around_blank rfl chars tokenized).1 _ later]
  decide +kernel

end Abacus
