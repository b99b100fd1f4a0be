/-
Module: Abacus.Proofs.Tiling
Purpose: The tokens of a source tile it. Every character of the text is either
  skipped or covered by exactly one token, the tokens stand in the order of the
  text at the positions that reading it meets, and each of them is the longest
  lexeme of its sort at its place. A source that can be tiled has no other
  tokens than its tiles, so tiling says all there is to say about the tokens of
  a source.
Main exports: Source.positionAt, Source.closing, Span.LiesIn, Token.Stands,
  Tiles, tokens_eq_ok_iff_tiles
-/
import Abacus.Expr.Parser
import Abacus.Proofs.Lexemes
import Abacus.Token.Lexer

namespace Abacus

/-!
### Tokens that tile a source

Tiling is said of a source, by offsets: the tokens stand one behind another, and
what is between them is skipped. It can be started anywhere in the text, so it
is built up from the end, a token or a skipped character at a time.
-/

/-- The position that is met after reading `offset` characters of the source. -/
def Source.positionAt (source : Source) (offset : Nat) : Position :=
  Position.after {} (source.chars.take offset)

/-- As many characters stand before a position as it was met after. -/
theorem Source.offset_positionAt {source : Source} {offset : Nat}
    (inside : offset ≤ source.chars.length) :
    (source.positionAt offset).offset = offset := by
  simp [Source.positionAt, inside]

/-- Reading on from a position leads to where what is read ends. -/
theorem Source.positionAt_add {source : Source} {offset : Nat}
    {covered rest : List Char} (ahead : source.chars.drop offset = covered ++ rest) :
    source.positionAt (offset + covered.length) =
      (source.positionAt offset).after covered := by
  rw [Source.positionAt, List.take_add, ahead, List.take_left, Position.after_append]
  rfl

/-- The end of the input: it covers nothing and stands after the whole text. -/
def Source.closing (source : Source) : Token :=
  { kind := .endOfInput, span := .point (Position.after {} source.chars) source }

/-- The character with `offset` characters before it belongs to the token. -/
def Token.Covers (token : Token) (offset : Nat) : Prop :=
  token.span.start.offset ≤ offset ∧ offset < token.span.stop.offset

/-- The token covers a lexeme of the source, at the positions that reading the
    source meets, and has the kind and payload of the lexeme. -/
structure Token.Stands (token : Token) (source : Source) : Prop where
  source_eq : token.span.source = source
  nonempty : token.span.start.offset < token.span.stop.offset
  inside : token.span.stop.offset ≤ source.chars.length
  start_eq : token.span.start = source.positionAt token.span.start.offset
  stop_eq : token.span.stop = source.positionAt token.span.stop.offset
  lexeme : Lexeme token.span.covered
    (source.chars.drop token.span.stop.offset) token.kind token.payload?

namespace Token.Stands

variable {token : Token} {source : Source}

theorem span_eq (stands : token.Stands source) :
    token.span = ⟨source.positionAt token.span.start.offset,
      source.positionAt token.span.stop.offset, source⟩ := by
  rw [← stands.start_eq, ← stands.stop_eq]
  exact congrArg
    (fun origin => Span.mk token.span.start token.span.stop origin) stands.source_eq

/-- What is read up to the end of the token is what is read up to its start, and
    the token. -/
theorem take_stop (stands : token.Stands source) :
    source.chars.take token.span.stop.offset =
      source.chars.take token.span.start.offset ++ token.span.covered := by
  rw [Span.covered, stands.source_eq, Span.length, ← List.take_add,
    Nat.add_sub_of_le (Nat.le_of_lt stands.nonempty)]

/-- What is left at the start of the token is the token and what is left at its
    end. -/
theorem drop_start (stands : token.Stands source) :
    source.chars.drop token.span.start.offset =
      token.span.covered ++ source.chars.drop token.span.stop.offset := by
  have split :=
    List.take_append_drop token.span.length (source.chars.drop token.span.start.offset)
  rw [List.drop_drop, Span.length, Nat.add_sub_of_le (Nat.le_of_lt stands.nonempty)]
    at split
  rw [Span.covered, stands.source_eq, Span.length, split]

end Token.Stands

/-- The tokens tile the source from the character with `start` characters before
    it on: they stand one after another, and every character that none of them
    covers is skipped. -/
structure Tiles (source : Source) (start : Nat) (tokens : List Token) : Prop where
  stands : ∀ token ∈ tokens, token.Stands source
  from_start : ∀ token ∈ tokens, start ≤ token.span.start.offset
  ordered : tokens.Pairwise fun first second =>
    first.span.stop.offset ≤ second.span.start.offset
  skipped : ∀ offset, start ≤ offset → ∀ inside : offset < source.chars.length,
    (∀ token ∈ tokens, ¬ token.Covers offset) → isSkipped source.chars[offset] = true

/-- The span lies in the source: its ends are in order, and at the positions
    that are met after reading as many characters of the source as their offsets
    say. -/
structure Span.LiesIn (span : Span) (source : Source) : Prop where
  source_eq : span.source = source
  ordered : span.start.offset ≤ span.stop.offset
  inside : span.stop.offset ≤ source.chars.length
  start_eq : span.start = source.positionAt span.start.offset
  stop_eq : span.stop = source.positionAt span.stop.offset

/-- A stretch of the text lies in the source, where reading up to it has led. -/
theorem liesIn_of_append {source : Source} {before text rest : List Char}
    (whole : source.chars = before ++ (text ++ rest)) :
    Span.LiesIn ⟨Position.after {} before,
      (Position.after {} before).after text, source⟩ source := by
  have start : (Position.after {} before).offset = before.length := by simp
  have stop : ((Position.after {} before).after text).offset =
      (before ++ text).length := by simp
  have regrouped : source.chars = (before ++ text) ++ rest := by
    rw [whole, List.append_assoc]
  refine ⟨rfl, ?_, ?_, ?_, ?_⟩
  · dsimp only
    rw [start, stop]
    exact (List.prefix_append before text).length_le
  · dsimp only
    rw [stop, regrouped]
    exact (List.prefix_append _ rest).length_le
  · dsimp only
    rw [start, Source.positionAt, whole, List.take_left]
  · dsimp only
    rw [stop, Source.positionAt, regrouped, List.take_left, Position.after_append]

/-- A lexeme that stands between `before` and `rest` gives a token that stands
    in the source. -/
theorem Token.stands_of_lexeme {source : Source} {before text rest : List Char}
    {kind : Kind} {payload? : Option Payload}
    (whole : source.chars = before ++ (text ++ rest))
    (lexeme : Lexeme text rest kind payload?) :
    Token.Stands
      ⟨kind, payload?, ⟨Position.after {} before,
        (Position.after {} before).after text, source⟩⟩ source := by
  have start : (Position.after {} before).offset = before.length := by simp
  have stop : ((Position.after {} before).after text).offset =
      (before ++ text).length := by simp
  have covered : Span.covered ⟨Position.after {} before,
      (Position.after {} before).after text, source⟩ = text := by
    simp [Span.covered, Span.length, whole]
  have following : source.chars.drop (before ++ text).length = rest := by
    rw [whole, ← List.append_assoc, List.drop_left]
  have lies := liesIn_of_append whole
  refine ⟨rfl, ?_, lies.inside, lies.start_eq, lies.stop_eq, ?_⟩
  · have nonempty := List.length_pos_iff.mpr lexeme.ne_nil
    dsimp only
    rw [start, stop, List.length_append]
    omega
  · dsimp only
    rw [covered, stop, following]
    exact lexeme

namespace Tiles

variable {source : Source} {start : Nat} {tokens : List Token}

/-- No token tiles what is left at the end. -/
theorem nil : Tiles source source.chars.length [] where
  stands := by simp
  from_start := by simp
  ordered := .nil
  skipped := by
    intro offset from_end inside
    omega

/-- A skipped character before what is tiled is tiled as well. -/
theorem skip (tiles : Tiles source (start + 1) tokens)
    (inside : start < source.chars.length)
    (isSkipped_start : isSkipped source.chars[start] = true) :
    Tiles source start tokens where
  stands := tiles.stands
  from_start := by
    intro token member
    have := tiles.from_start token member
    omega
  ordered := tiles.ordered
  skipped := by
    intro offset from_start inside uncovered
    rcases Nat.eq_or_lt_of_le from_start with rfl | beyond
    · exact isSkipped_start
    · exact tiles.skipped offset beyond inside uncovered

/-- A token that stands right before what is tiled is one more tile. -/
theorem cons {token : Token} (tiles : Tiles source token.span.stop.offset tokens)
    (stands : token.Stands source) :
    Tiles source token.span.start.offset (token :: tokens) where
  stands := List.forall_mem_cons.mpr ⟨stands, tiles.stands⟩
  from_start := by
    refine List.forall_mem_cons.mpr ⟨Nat.le_refl _, ?_⟩
    intro other member
    have beyond := tiles.from_start other member
    have advance := stands.nonempty
    omega
  ordered := .cons tiles.from_start tiles.ordered
  skipped := by
    intro offset from_start inside uncovered
    obtain ⟨notFirst, notLater⟩ := List.forall_mem_cons.mp uncovered
    have beyond : token.span.stop.offset ≤ offset := by
      rcases Nat.lt_or_ge offset token.span.stop.offset with covered | beyond
      · exact absurd ⟨from_start, covered⟩ notFirst
      · exact beyond
    exact tiles.skipped offset beyond inside notLater

theorem eq_nil (tiles : Tiles source source.chars.length tokens) : tokens = [] := by
  cases tokens with
  | nil => rfl
  | cons token later =>
      have stands := tiles.stands token (by simp)
      have beyond := tiles.from_start token (by simp)
      have advance := stands.nonempty
      have inside := stands.inside
      omega

/-- The first character of what is tiled is skipped, or the first token starts
    with it. -/
theorem skip_or_cons (tiles : Tiles source start tokens)
    (inside : start < source.chars.length) :
    (isSkipped source.chars[start] = true ∧ Tiles source (start + 1) tokens) ∨
      ∃ token later, tokens = token :: later ∧ token.Stands source ∧
        token.span.start.offset = start ∧
        Tiles source token.span.stop.offset later := by
  by_cases beyond : ∀ token ∈ tokens, start + 1 ≤ token.span.start.offset
  case pos =>
    have uncovered : ∀ token ∈ tokens, ¬ token.Covers start := by
      intro token member covers
      have after := beyond token member
      have before := covers.1
      omega
    refine .inl ⟨tiles.skipped start (Nat.le_refl _) inside uncovered,
      tiles.stands, beyond, tiles.ordered, ?_⟩
    intro offset from_start
    exact tiles.skipped offset (by omega)
  case neg =>
    cases tokens with
    | nil => exact absurd (by simp) beyond
    | cons token later =>
        obtain ⟨stands, laterStands⟩ := List.forall_mem_cons.mp tiles.stands
        obtain ⟨afterFirst, laterOrdered⟩ := List.pairwise_cons.mp tiles.ordered
        have advance := stands.nonempty
        have lower := tiles.from_start token (by simp)
        have first : token.span.start.offset = start := by
          rcases Nat.eq_or_lt_of_le lower with same | less
          · exact same.symm
          · have all :
                ∀ other ∈ token :: later, start + 1 ≤ other.span.start.offset := by
              refine List.forall_mem_cons.mpr ⟨less, ?_⟩
              intro other member
              have after := afterFirst other member
              omega
            exact absurd all beyond
        refine .inr ⟨token, later, rfl, stands, first, laterStands, afterFirst,
          laterOrdered, ?_⟩
        intro offset from_stop inside uncovered
        refine tiles.skipped offset (by omega) inside
          (List.forall_mem_cons.mpr ⟨?_, uncovered⟩)
        intro covers
        have before := covers.2
        omega

end Tiles

/-!
### The tokens of a source are its tiles

The division goes through the text from a place on, and so does tiling; in
either direction the induction is on what is left of the text. At each place
there is a skipped character or one longest lexeme, so the tiles are determined
by the text.
-/

/-- Placing the pieces of what follows `before` tiles the source from there on. -/
theorem tiles_of_placePieces {source : Source} {before rest : List Char}
    {tokens : List Token} (whole : source.chars = before ++ rest)
    (placed : placePieces source (Position.after {} before) (pieces rest) = .ok tokens) :
    ∃ lexemes, tokens = lexemes ++ [source.closing] ∧
      Tiles source before.length lexemes := by
  induction rest using pieces.induct generalizing before tokens with
  | case1 =>
      rw [List.append_nil] at whole
      rw [pieces_nil, placePieces, ← whole] at placed
      cases placed
      rw [← whole]
      exact ⟨[], rfl, .nil⟩
  | case2 c text piece rest parts inductionHypothesis =>
      have appended := splitPiece_append c text
      rw [parts] at appended
      rw [pieces_cons, parts] at placed
      rw [← appended] at whole
      have nextWhole : source.chars = (before ++ piece) ++ rest := by
        rw [whole, List.append_assoc]
      rcases placePieces_cons_eq_ok placed
        with ⟨read, onward⟩ | ⟨kind, payload?, later, read, onward, rfl⟩
      · obtain ⟨isSkipped_first, rfl, rfl⟩ := isSkipped_of_splitPiece parts read
        rw [← Position.after_append] at onward
        obtain ⟨lexemes, closed, tiles⟩ := inductionHypothesis nextWhole onward
        rw [List.length_append] at tiles
        refine ⟨lexemes, closed, tiles.skip (by simp [whole]) ?_⟩
        simpa [whole] using isSkipped_first
      · rw [← Position.after_append] at onward
        obtain ⟨lexemes, rfl, tiles⟩ := inductionHypothesis nextWhole onward
        have stands := Token.stands_of_lexeme whole (lexeme_iff.mp ⟨parts, read⟩).2
        have start : before.length = (Position.after {} before).offset := by simp
        have stop : (before ++ piece).length =
            (Position.after {} (before ++ piece)).offset := by simp
        rw [← Position.after_append] at stands
        rw [stop] at tiles
        rw [← Position.after_append, start]
        exact ⟨_ :: lexemes, rfl, tiles.cons stands⟩

/-- The tokens of a source are those before the end of the input, which tile it,
    and that. -/
theorem tiles_beforeEnd {source : Source} {tokens : List Token}
    (tokenized : source.tokens = .ok tokens) :
    tokens = Token.beforeEnd tokens ++ [source.closing] ∧
      Tiles source 0 (Token.beforeEnd tokens) := by
  obtain ⟨lexemes, rfl, tiles⟩ :=
    tiles_of_placePieces (List.nil_append source.chars).symm tokenized
  have others : ∀ token ∈ lexemes, (token.kind != .endOfInput) = true :=
    fun token member =>
      bne_iff_ne.mpr (tiles.stands token member).lexeme.kind_ne_endOfInput
  have beforeEnd : Token.beforeEnd (lexemes ++ [source.closing]) = lexemes := by
    rw [Token.beforeEnd, List.takeWhile_append_of_pos others,
      List.takeWhile_cons_of_neg (by simp [Source.closing]), List.append_nil]
  rw [beforeEnd]
  exact ⟨rfl, tiles⟩

/-- If the source is tiled from `before` on, placing the pieces of what follows
    gives the tiles. -/
theorem placePieces_of_tiles {source : Source} {before rest : List Char}
    {lexemes : List Token} (whole : source.chars = before ++ rest)
    (tiles : Tiles source before.length lexemes) :
    placePieces source (Position.after {} before) (pieces rest) =
      .ok (lexemes ++ [source.closing]) := by
  induction rest using pieces.induct generalizing before lexemes with
  | case1 =>
      rw [List.append_nil] at whole
      rw [← whole] at tiles ⊢
      rw [tiles.eq_nil, pieces_nil, placePieces]
      rfl
  | case2 c text piece rest parts inductionHypothesis =>
      have inside : before.length < source.chars.length := by simp [whole]
      rw [pieces_cons, parts, placePieces]
      rcases tiles.skip_or_cons inside
        with ⟨skipped, tiles⟩ | ⟨token, later, rfl, stands, start, tiles⟩
      · have isSkipped_first : isSkipped c = true := by simpa [whole] using skipped
        rw [splitPiece_of_isSkipped isSkipped_first] at parts
        cases parts
        have nextWhole : source.chars = (before ++ [c]) ++ text := by simp [whole]
        have length : before.length + 1 = (before ++ [c]).length := by simp
        rw [length] at tiles
        have onward := inductionHypothesis nextWhole tiles
        rw [Position.after_append] at onward
        rw [readPiece_of_isSkipped isSkipped_first]
        exact onward
      · have before_eq : source.chars.take token.span.start.offset = before := by
          rw [start, whole, List.take_left]
        have appended : token.span.covered ++
            source.chars.drop token.span.stop.offset = c :: text := by
          rw [← stands.drop_start, start, whole, List.drop_left]
        obtain ⟨tileParts, read⟩ := lexeme_iff.mpr ⟨appended, stands.lexeme⟩
        obtain ⟨rfl, rfl⟩ := Prod.mk.inj (parts.symm.trans tileParts)
        have taken := stands.take_stop
        rw [before_eq] at taken
        have stop : token.span.stop.offset = (before ++ token.span.covered).length := by
          rw [← taken, List.length_take, Nat.min_eq_left stands.inside]
        have nextWhole : source.chars =
            (before ++ token.span.covered) ++
              source.chars.drop token.span.stop.offset := by
          rw [← taken, List.take_append_drop]
        have onward := inductionHypothesis nextWhole (stop ▸ tiles)
        have span_eq : token.span =
            ⟨Position.after {} before,
              Position.after {} (before ++ token.span.covered), source⟩ := by
          rw [← before_eq, ← stands.take_stop]
          exact stands.span_eq
        rw [read, ← Position.after_append, onward, ← span_eq]
        rfl

/-- A source has tokens exactly if it can be tiled, and its tokens are the tiles
    and the end of the input after them. No tile is an end of the input, and the
    text that a tile covers decides its kind and payload. -/
theorem tokens_eq_ok_iff_tiles (source : Source) (tokens : List Token) :
    source.tokens = .ok tokens ↔
      ∃ lexemes, tokens = lexemes ++ [source.closing] ∧
        (∀ token ∈ lexemes, token.kind ≠ .endOfInput ∧
          readPiece token.span.covered = .token token.kind token.payload?) ∧
        Tiles source 0 lexemes := by
  constructor
  · intro tokenized
    obtain ⟨lexemes, closed, tiles⟩ :=
      tiles_of_placePieces (List.nil_append source.chars).symm tokenized
    refine ⟨lexemes, closed, ?_, tiles⟩
    intro token member
    have lexeme := (tiles.stands token member).lexeme
    exact ⟨lexeme.kind_ne_endOfInput, lexeme.readPiece_eq⟩
  · rintro ⟨lexemes, rfl, _, tiles⟩
    exact placePieces_of_tiles (List.nil_append source.chars).symm tiles

/-- The tokens of two lines with a letter beyond ASCII, a sign of two characters
    and a leading zero. -/
example :
    let source : Source := { label := "<test>", content := "let É\n<- 07" }
    source.tokens =
      .ok [⟨.keyword, some (.text "let"), ⟨⟨0, 0, 0⟩, ⟨3, 0, 3⟩, source⟩⟩,
        ⟨.identifier, some (.text "é"), ⟨⟨4, 0, 4⟩, ⟨5, 0, 5⟩, source⟩⟩,
        ⟨.assignment, some (.text "<-"), ⟨⟨6, 1, 0⟩, ⟨8, 1, 2⟩, source⟩⟩,
        ⟨.integer, some (.int 7), ⟨⟨9, 1, 3⟩, ⟨11, 1, 5⟩, source⟩⟩,
          source.closing] := by
  decide +kernel

end Abacus
