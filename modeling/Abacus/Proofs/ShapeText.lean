/-
Module: Abacus.Proofs.ShapeText
Purpose: The shape of a tree tells the tree. The text of a shape quotes nothing,
  so names, numbers, operators and the word for a binding are told apart by
  their characters alone: an operator begins with a capital, which no name has,
  a number with a digit, which no name begins with, and no name is the word for
  a binding. So the text can be read back (`read_shape`), and what is read is
  the tree without its places. Two sources with one shape have the same tree but
  for where it stands.
Main exports: Expr.unplaced, Shape.read, Expr.Legible, Shape.read_shape,
  shape_determines_tree
-/
import Abacus.Proofs.Names
import Abacus.Proofs.PrintedIntegers
import Abacus.Proofs.SourceTree

namespace Abacus

/-!
### Trees without places

A shape tells nothing of places, so what it can determine is the tree without
them.
-/

/-- The token apart from where it stands. -/
def Token.unplaced (token : Token) : Token :=
  { token with span := default }

/-- The tree apart from where it stands: its nodes in their arrangement, and the
    kinds and payloads of their tokens. -/
def Expr.unplaced : Expr → Expr
  | .number literal => .number literal.unplaced
  | .access name => .access name.unplaced
  | .unary op operand _ => .unary op.unplaced operand.unplaced default
  | .binary op left right _ =>
      .binary op.unplaced left.unplaced right.unplaced default
  | .assign name value _ => .assign name.unplaced value.unplaced default

namespace Shape

/-!
### Reading a shape

What reads a shape is given the reader of the shapes inside it.
-/

/-- The characters of words. The others are those that a shape puts between
    them. -/
def inWord (c : Char) : Bool :=
  c != ' ' && c != '(' && c != ')'

/-- What a reader makes of a text: a tree, and the rest of the text. -/
abbrev Reader := List Char → Option (Expr × List Char)

/-- The text behind the character, if it begins with that. -/
def expect? (c : Char) : List Char → Option (List Char)
  | [] => none
  | d :: text => if d = c then some text else none

/-- The leaf that a word stands for: digits write an integer, and any other word
    is a name. -/
def leaf (word : List Char) : Expr :=
  if word.all Char.isDigit then
    .number
      { kind := .integer
        payload? := (word? (Nat.ofDigitChars 10 word 0)).map .int
        span := default }
  else
    .access
      { kind := .identifier
        payload? := some (.text (String.ofList word))
        span := default }

/-- The kind that a word names. -/
def kind? (word : List Char) : Option Kind :=
  Kind.ofName? (String.ofList word)

/-- A binding, behind its word: the name and the value. -/
def readAssign (inner : Reader) (text : List Char) : Option (Expr × List Char) := do
  let text ← expect? ' ' text
  let name := String.ofList (text.takeWhile inWord)
  let text ← expect? ' ' (text.dropWhile inWord)
  let (value, text) ← inner text
  let text ← expect? ')' text
  some (.assign { kind := .identifier, payload? := some (.text name), span := default }
      value default, text)

/-- A sign of the kind, behind its word: the operand. -/
def readUnary (inner : Reader) (kind : Kind) (text : List Char) :
    Option (Expr × List Char) := do
  let text ← expect? ' ' text
  let (operand, text) ← inner text
  let text ← expect? ')' text
  some (.unary { kind, span := default } operand default, text)

/-- An operator between its operands. -/
def readBinary (inner : Reader) (text : List Char) : Option (Expr × List Char) := do
  let (left, text) ← inner text
  let text ← expect? ' ' text
  let kind ← kind? (text.takeWhile inWord)
  let text ← expect? ' ' (text.dropWhile inWord)
  let (right, text) ← inner text
  let text ← expect? ')' text
  some (.binary { kind, span := default } left right default, text)

/-- The tree without places whose shape the text begins with, and the rest of
    the text. The first word behind a bracket tells what is in the brackets.
    Trees up to the given height are read. -/
def read : (height : Nat) → Reader
  | 0, _ => none
  | height + 1, text =>
      match expect? '(' text with
      | none => some (leaf (text.takeWhile inWord), text.dropWhile inWord)
      | some inside =>
          let first := inside.takeWhile inWord
          if first = ['l', 'e', 't'] then
            readAssign (read height) (inside.dropWhile inWord)
          else
            match kind? first with
            | some kind => readUnary (read height) kind (inside.dropWhile inWord)
            | none => readBinary (read height) inside

/-!
### Words

A shape consists of words with blanks and brackets between them. The names of
kinds begin with a capital, numbers with a digit and names with neither, and no
name is the word for a binding; so a word tells what it stands for.
-/

theorem runEnds_blank (rest : List Char) : RunEnds inWord (' ' :: rest) := by
  rintro c ⟨⟩
  rfl

theorem runEnds_bracket (rest : List Char) : RunEnds inWord (')' :: rest) := by
  rintro c ⟨⟩
  rfl

@[simp] theorem expect?_cons_self (c : Char) (text : List Char) :
    expect? c (c :: text) = some text :=
  if_pos rfl

/-- A word opens no brackets. -/
theorem expect?_word {word : List Char} (nonempty : word ≠ [])
    (letters : ∀ c ∈ word, inWord c = true) (rest : List Char) :
    expect? '(' (word ++ rest) = none := by
  obtain ⟨c, tail, rfl⟩ := List.exists_cons_of_ne_nil nonempty
  have notBracket : c ≠ '(' := by
    rintro rfl
    exact absurd (letters '(' List.mem_cons_self) (by decide)
  exact if_neg notBracket

theorem inWord_of_isLowered {c : Char} (lowered : isLowered c = true) :
    inWord c = true := by
  have apart {d : Char} (outside : isLowered d = false) : c ≠ d :=
    ne_of_sort lowered outside
  simp [inWord, apart (d := ' ') (by decide), apart (d := '(') (by decide),
    apart (d := ')') (by decide)]

theorem isLowered_of_isDigit {c : Char} (digit : c.isDigit = true) :
    isLowered c = true := by
  simp [isLowered, digit]

theorem inWord_of_mem_name {kind : Kind} :
    ∀ c ∈ kind.name.toList, inWord c = true := by
  apply List.all_eq_true.mp
  cases kind <;> decide

theorem name_ne_let (kind : Kind) : kind.name.toList ≠ ['l', 'e', 't'] := by
  cases kind <;> decide

@[simp] theorem kind?_name (kind : Kind) : kind? kind.name.toList = some kind := by
  rw [kind?, String.ofList_toList]
  exact Kind.ofName?_name kind

/-- Every kind is named with a capital, so a word in lower case names none. -/
theorem kind?_eq_none {word : List Char}
    (lowered : ∀ c ∈ word, isLowered c = true) : kind? word = none := by
  have capital (kind : Kind) : kind.name.toList.all isLowered = false := by
    cases kind <;> decide
  refine List.find?_eq_none.mpr fun kind _ same => ?_
  have all : kind.name.toList.all isLowered = true := by
    rw [beq_iff_eq.mp same, String.toList_ofList]
    exact List.all_eq_true.mpr lowered
  rw [capital kind] at all
  cases all

/-!
### What each reader does

The readers for what is in brackets, on a text that was written for them. Which
one is taken is told by the first word behind the bracket, so there is one lemma
for each sort of first word.
-/

section

variable {inner : Reader} {text rest : List Char} {e : Expr} {height : Nat}

theorem readUnary_eq {kind : Kind}
    (done : inner (text ++ ')' :: rest) = some (e, ')' :: rest)) :
    readUnary inner kind (' ' :: (text ++ ')' :: rest)) =
      some (.unary { kind, span := default } e default, rest) := by
  simp [readUnary, done]

theorem readBinary_eq {kind : Kind} {leftText : List Char} {left : Expr}
    (leftDone :
      inner (leftText ++ ' ' :: (kind.name.toList ++ ' ' :: (text ++ ')' :: rest))) =
        some (left, ' ' :: (kind.name.toList ++ ' ' :: (text ++ ')' :: rest))))
    (rightDone : inner (text ++ ')' :: rest) = some (e, ')' :: rest)) :
    readBinary inner
        (leftText ++ ' ' :: (kind.name.toList ++ ' ' :: (text ++ ')' :: rest))) =
      some (.binary { kind, span := default } left e default, rest) := by
  have behind := runEnds_blank (text ++ ')' :: rest)
  simp [readBinary, leftDone, takeWhile_run inWord_of_mem_name behind,
    dropWhile_run inWord_of_mem_name behind, rightDone]

theorem readAssign_eq {word : List Char} (lowered : ∀ c ∈ word, isLowered c = true)
    (done : inner (text ++ ')' :: rest) = some (e, ')' :: rest)) :
    readAssign inner (' ' :: (word ++ ' ' :: (text ++ ')' :: rest))) =
      some (.assign
          { kind := .identifier
            payload? := some (.text (String.ofList word))
            span := default }
          e default,
        rest) := by
  have letters : ∀ c ∈ word, inWord c = true :=
    fun c member => inWord_of_isLowered (lowered c member)
  have behind := runEnds_blank (text ++ ')' :: rest)
  simp [readAssign, takeWhile_run letters behind, dropWhile_run letters behind, done]

/-- Behind a bracket, the word for a binding tells a binding. -/
theorem read_of_let :
    read (height + 1) ('(' :: (['l', 'e', 't'] ++ ' ' :: text)) =
      readAssign (read height) (' ' :: text) := by
  have letters : ∀ c ∈ ['l', 'e', 't'], inWord c = true :=
    List.all_eq_true.mp (by decide)
  rw [read, expect?_cons_self]
  dsimp only
  rw [takeWhile_run letters (runEnds_blank text),
    dropWhile_run letters (runEnds_blank text), if_pos rfl]

/-- Behind a bracket, the name of a kind tells a sign. -/
theorem read_of_kind {kind : Kind} :
    read (height + 1) ('(' :: (kind.name.toList ++ ' ' :: text)) =
      readUnary (read height) kind (' ' :: text) := by
  rw [read, expect?_cons_self]
  dsimp only
  rw [takeWhile_run inWord_of_mem_name (runEnds_blank text),
    dropWhile_run inWord_of_mem_name (runEnds_blank text),
    if_neg (name_ne_let kind), kind?_name]

/-- Behind a bracket, any other word tells an operator between operands. -/
theorem read_of_operand (notLet : text.takeWhile inWord ≠ ['l', 'e', 't'])
    (noKind : kind? (text.takeWhile inWord) = none) :
    read (height + 1) ('(' :: text) = readBinary (read height) text := by
  rw [read, expect?_cons_self]
  dsimp only
  rw [if_neg notLet, noKind]

end

end Shape

/-!
### Trees that can be read back

Not every tree has a shape that tells it: one that is put together by hand may
hold a negative integer, or a name that is none. The tokens of a source are of
the sorts that a shape tells apart, if no number among them has a point.
-/

/-- The token of a node is one that its shape tells: an integer without a sign,
    a name, or an operator and no more. -/
def Expr.Legible : Expr → Prop
  | .number literal =>
      literal.kind = .integer ∧ ∃ n : Nat, ∃ w : Int64, w.toInt = n ∧
        literal.payload? = some (.int w)
  | .access name | .assign name _ _ =>
      name.kind = .identifier ∧ ∃ word, name.payload? = some (.text word) ∧
        IsName word.toList
  | .unary op _ _ | .binary op _ _ _ => op.payload? = none

/-- An integer literal carries a natural number. -/
theorem Lexeme.payload_of_integer {text rest : List Char} {payload? : Option Payload}
    (lexeme : Lexeme text rest .integer payload?) :
    ∃ n : Nat, ∃ w : Int64, w.toInt = n ∧ payload? = some (.int w) := by
  cases lexeme with
  | integer _ _ _ decimal => exact ⟨_, _, decimal, rfl⟩
  | word _ _ _ _ keyword assignment identifier =>
      rcases kind_of_word keyword assignment identifier with kind | kind | kind
        <;> cases kind
  | sign listed => simp [signs] at listed

/-- An operator carries nothing. -/
theorem Lexeme.payload_of_operator {text rest : List Char} {kind : Kind}
    {payload? : Option Payload} (lexeme : Lexeme text rest kind payload?)
    (written : ∃ operator, kind.operator? = some operator) : payload? = none := by
  obtain ⟨operator, written⟩ := written
  cases lexeme with
  | integer => cases written
  | float => cases written
  | word _ _ _ _ keyword assignment identifier =>
      rcases kind_of_word keyword assignment identifier with rfl | rfl | rfl
        <;> cases written
  | equals => cases written
  | arrow => cases written
  | sign => rfl

/-- Every node of the tree of a source is legible, if it is no literal with a
    point. -/
theorem Expr.SpelledIn.legible {node : Expr} {source : Source}
    (spelled : node.SpelledIn source)
    (integral : ∀ literal, node = .number literal → literal.kind = .integer) :
    node.Legible := by
  have lexeme := spelled.stands.lexeme
  have written := spelled.written
  cases node with
  | number literal =>
      have kind := integral literal rfl
      rw [Expr.token, kind] at lexeme
      exact ⟨kind, lexeme.payload_of_integer⟩
  | access name =>
      rw [Expr.token, show name.kind = .identifier from written] at lexeme
      exact ⟨written, lexeme.isName⟩
  | unary op operand span =>
      exact lexeme.payload_of_operator (@Grammar.Chain.exists_operator .sum op written)
  | binary op left right span => exact lexeme.payload_of_operator written
  | assign name value span =>
      rw [Expr.token, show name.kind = .identifier from written] at lexeme
      exact ⟨written, lexeme.isName⟩

/-!
### What a shape is made of

The text of a shape, split up the way its reader goes through it. A leaf is a
single word, and any other tree a bracket, a word and the shapes inside; reading
back is then an induction on the tree, for any text behind it that does not go
on with a word.
-/

namespace Expr

variable (rest : List Char)

theorem toList_shape_unary (op : Token) (operand : Expr) (span : Span) :
    (unary op operand span).shape.toList ++ rest =
      '(' :: (op.kind.name.toList ++ ' ' :: (operand.shape.toList ++ ')' :: rest)) := by
  simp only [shape, String.toList_append, List.append_assoc]
  rfl

theorem toList_shape_binary (op : Token) (left right : Expr) (span : Span) :
    (binary op left right span).shape.toList ++ rest =
      '(' :: (left.shape.toList ++ ' ' ::
        (op.kind.name.toList ++ ' ' :: (right.shape.toList ++ ')' :: rest))) := by
  simp only [shape, String.toList_append, List.append_assoc]
  rfl

theorem toList_shape_assign {name : Token} {word : String}
    (carried : name.payload? = some (.text word)) (value : Expr) (span : Span) :
    (assign name value span).shape.toList ++ rest =
      '(' :: (['l', 'e', 't'] ++ ' ' ::
        (word.toList ++ ' ' :: (value.shape.toList ++ ')' :: rest))) := by
  have text : name.text?.getD "?" = word := by simp [Token.text?, carried]
  simp only [shape, text, String.toList_append, List.append_assoc]
  rfl

end Expr

namespace Shape

/-- The shape of the leaf is a word that reads as the leaf and as nothing else. -/
structure IsLeafWord (e : Expr) : Prop where
  nonempty : e.shape.toList ≠ []
  lowered : ∀ c ∈ e.shape.toList, isLowered c = true
  notLet : e.shape.toList ≠ ['l', 'e', 't']
  leaf_eq : leaf e.shape.toList = e.unplaced

theorem isLeafWord_number {literal : Token}
    (legible : (Expr.number literal).Legible) : IsLeafWord (.number literal) := by
  obtain ⟨kind, n, w, same, carried⟩ := legible
  have shape : (Expr.number literal).shape.toList = Nat.toDigits 10 n := by
    have natural : ¬ w.toInt < 0 := by omega
    rw [Expr.shape, carried]
    refine (Value.toList_text_int w).trans ?_
    rw [if_neg natural, same, Int.natAbs_natCast]
  have all : (Nat.toDigits 10 n).all Char.isDigit = true :=
    List.all_eq_true.mpr isDigit_of_mem_toDigits
  refine ⟨?_, ?_, ?_, ?_⟩ <;> rw [shape]
  · exact Nat.toDigits_ne_nil
  · exact fun c member => isLowered_of_isDigit (isDigit_of_mem_toDigits c member)
  · intro isLet
    rw [isLet] at all
    cases all
  · rw [leaf, if_pos all, Nat.ofDigitChars_ten_toDigits,
      word?_eq_some_iff.mpr same, Expr.unplaced, Token.unplaced, kind, carried]
    rfl

theorem isLeafWord_access {name : Token} (legible : (Expr.access name).Legible) :
    IsLeafWord (.access name) := by
  obtain ⟨kind, word, carried, isName⟩ := legible
  have shape : (Expr.access name).shape = word := by
    simp [Expr.shape, Token.text?, carried]
  refine ⟨?_, ?_, ?_, ?_⟩ <;> rw [shape]
  · exact isName.nonempty
  · exact isName.lowered
  · exact isName.notKeyword
  · have noDigits : ¬ word.toList.all Char.isDigit = true := by
      intro all
      obtain ⟨c, tail, first⟩ := List.exists_cons_of_ne_nil isName.nonempty
      have digit : c.isDigit = true := List.all_eq_true.mp all c (by simp [first])
      have notDigit : c.isDigit = false := isName.opens c (by simp [first])
      rw [notDigit] at digit
      cases digit
    rw [leaf, if_neg noDigits, String.ofList_toList, Expr.unplaced,
      Token.unplaced, kind, carried]

section

variable {rest : List Char} (ends : RunEnds inWord rest)

include ends

theorem IsLeafWord.read {e : Expr} (isLeafWord : IsLeafWord e) (height : Nat) :
    Shape.read (height + 1) (e.shape.toList ++ rest) = some (e.unplaced, rest) := by
  have letters : ∀ c ∈ e.shape.toList, inWord c = true :=
    fun c member => inWord_of_isLowered (isLeafWord.lowered c member)
  rw [Shape.read, expect?_word isLeafWord.nonempty letters]
  dsimp only
  rw [takeWhile_run letters ends, dropWhile_run letters ends, isLeafWord.leaf_eq]

/-- The word that a shape opens with is not that for a binding, and names no
    kind. -/
theorem opening_word {e : Expr} (legible : e.Legible) :
    (e.shape.toList ++ rest).takeWhile inWord ≠ ['l', 'e', 't'] ∧
      kind? ((e.shape.toList ++ rest).takeWhile inWord) = none := by
  have leaf {word : Expr} (isLeafWord : IsLeafWord word) :
      (word.shape.toList ++ rest).takeWhile inWord ≠ ['l', 'e', 't'] ∧
        kind? ((word.shape.toList ++ rest).takeWhile inWord) = none := by
    rw [takeWhile_run
        (fun c member => inWord_of_isLowered (isLeafWord.lowered c member)) ends]
    exact ⟨isLeafWord.notLet, kind?_eq_none isLeafWord.lowered⟩
  -- What is not a leaf opens with a bracket, so with the empty word.
  have bracket {text : List Char} : ('(' :: text).takeWhile inWord = [] := rfl
  have empty : ([] : List Char) ≠ ['l', 'e', 't'] ∧ kind? [] = none :=
    ⟨by decide, kind?_eq_none (by simp)⟩
  cases e with
  | number literal => exact leaf (isLeafWord_number legible)
  | access name => exact leaf (isLeafWord_access legible)
  | unary op operand span =>
      rw [Expr.toList_shape_unary, bracket]
      exact empty
  | binary op left right span =>
      rw [Expr.toList_shape_binary, bracket]
      exact empty
  | assign name value span =>
      obtain ⟨_, word, carried, _⟩ := legible
      rw [Expr.toList_shape_assign _ carried, bracket]
      exact empty

end

/-- Only a height above zero leaves room for a tree. -/
theorem exists_succ_of_height_le {e : Expr} {height : Nat}
    (high : e.height ≤ height) : ∃ below, height = below + 1 :=
  Nat.exists_eq_add_of_le' (Nat.le_trans e.height_pos high)

/-- A legible tree is read back from its shape, whatever follows that but a
    word. By induction on the tree: what is in the brackets is told by its first
    word. -/
theorem read_shape {e : Expr} (legible : ∀ node ∈ e.postorder, node.Legible)
    {height : Nat} (high : e.height ≤ height) {rest : List Char}
    (ends : RunEnds inWord rest) :
    read height (e.shape.toList ++ rest) = some (e.unplaced, rest) := by
  induction e generalizing height rest with
  | number literal =>
      obtain ⟨height, rfl⟩ := exists_succ_of_height_le high
      exact (isLeafWord_number (legible _ (Expr.self_mem_postorder _))).read ends height
  | access name =>
      obtain ⟨height, rfl⟩ := exists_succ_of_height_le high
      exact (isLeafWord_access (legible _ (Expr.self_mem_postorder _))).read ends height
  | unary op operand span inner =>
      obtain ⟨height, rfl⟩ := exists_succ_of_height_le high
      obtain ⟨below, own⟩ := List.forall_mem_append.mp legible
      have carried : op.payload? = none := own _ (List.mem_singleton_self _)
      have done := inner below (Nat.le_of_succ_le_succ high) (runEnds_bracket rest)
      rw [Expr.toList_shape_unary, read_of_kind, readUnary_eq done,
        Expr.unplaced, Token.unplaced, carried]
  | binary op left right span inLeft inRight =>
      obtain ⟨height, rfl⟩ := exists_succ_of_height_le high
      obtain ⟨below, own⟩ := List.forall_mem_append.mp legible
      obtain ⟨belowLeft, belowRight⟩ := List.forall_mem_append.mp below
      have carried : op.payload? = none := own _ (List.mem_singleton_self _)
      have room : max left.height right.height ≤ height := Nat.le_of_succ_le_succ high
      have behind := runEnds_blank
        (op.kind.name.toList ++ ' ' :: (right.shape.toList ++ ')' :: rest))
      have leftDone :=
        inLeft belowLeft (Nat.le_trans (Nat.le_max_left _ _) room) behind
      have rightDone := inRight belowRight
        (Nat.le_trans (Nat.le_max_right _ _) room) (runEnds_bracket rest)
      obtain ⟨notLet, noKind⟩ :=
        opening_word behind (belowLeft left left.self_mem_postorder)
      rw [Expr.toList_shape_binary, read_of_operand notLet noKind,
        readBinary_eq leftDone rightDone, Expr.unplaced,
        Token.unplaced, carried]
  | assign name value span inner =>
      obtain ⟨height, rfl⟩ := exists_succ_of_height_le high
      obtain ⟨below, own⟩ := List.forall_mem_append.mp legible
      obtain ⟨kind, word, carried, isName⟩ := own _ (List.mem_singleton_self _)
      have done := inner below (Nat.le_of_succ_le_succ high) (runEnds_bracket rest)
      rw [Expr.toList_shape_assign _ carried, read_of_let,
        readAssign_eq isName.lowered done, Expr.unplaced,
        Token.unplaced, kind, carried, String.ofList_toList]

end Shape

/-!
### Sources

Two trees with one shape are both read back from it, and what is read is one
tree. The height of the higher one is enough for both.
-/

/-- Every node of the tree of a source without points is legible. -/
theorem legible_of_ofSource {source : Source} {tree : Expr}
    (accepted : Expr.ofSource source = .ok tree)
    (integral : ∀ literal, .number literal ∈ tree.postorder →
      literal.kind = .integer) : ∀ node ∈ tree.postorder, node.Legible := by
  intro node member
  refine (spelledIn_of_ofSource accepted node member).legible fun literal isLiteral => ?_
  subst isLiteral
  exact integral literal member

/-- The shape identifies the tree. If two sources without points in their
    numbers are accepted, and their trees show as the same text, then the trees
    are the same but for their places: they have the same nodes in the same
    arrangement, the same operators, the same integers and the same names. -/
theorem shape_determines_tree {source source' : Source} {tree tree' : Expr}
    (accepted : Expr.ofSource source = .ok tree)
    (accepted' : Expr.ofSource source' = .ok tree')
    (integral : ∀ literal, .number literal ∈ tree.postorder → literal.kind = .integer)
    (integral' : ∀ literal, .number literal ∈ tree'.postorder → literal.kind = .integer)
    (same : tree.shape = tree'.shape) : tree.unplaced = tree'.unplaced := by
  have read := Shape.read_shape (legible_of_ofSource accepted integral)
    (Nat.le_max_left _ tree'.height)
    (runEnds_nil _)
  have read' := Shape.read_shape (legible_of_ofSource accepted' integral')
    (Nat.le_max_right tree.height _)
    (runEnds_nil _)
  rw [same] at read
  exact congrArg Prod.fst (Option.some.inj (read.symm.trans read'))

/-- The tree of one and two in brackets, times `x`, whose tokens stand at these
    spans. -/
def bracketsTimesName (one plus two times factor : Span) : Expr :=
  .joinBinary { kind := .multiply, span := times }
    (.joinBinary { kind := .plus, span := plus }
      (.number { kind := .integer, payload? := some (.int 1), span := one })
      (.number { kind := .integer, payload? := some (.int 2), span := two }))
    (.access { kind := .identifier, payload? := some (.text "x"), span := factor })

theorem integral_bracketsTimesName (one plus two times factor : Span) :
    ∀ literal,
      .number literal ∈ (bracketsTimesName one plus two times factor).postorder →
      literal.kind = .integer := by
  intro literal member
  simp only [bracketsTimesName, Expr.joinBinary, Expr.postorder,
    List.cons_append, List.nil_append, List.mem_cons,
    Expr.number.injEq, reduceCtorEq, List.not_mem_nil, or_false] at member
  rcases member with rfl | rfl <;> rfl

/-- Two sources that differ in their blanks, a leading zero and the case of the
    name. -/
theorem shape_determines_tree_in_other_spelling :
    let tight : Source := { label := "<tight>", content := "(1+2)*x" }
    let loose : Source := { label := "<loose>", content := "( 01 +\n2 ) * X" }
    ∃ tree tree', Expr.ofSource tight = .ok tree ∧
      Expr.ofSource loose = .ok tree' ∧ tree ≠ tree' ∧
      tree.shape = "((1 Plus 2) Multiply x)" ∧ tree.unplaced = tree'.unplaced := by
  intro tight loose
  let tree := bracketsTimesName
    ⟨⟨1, 0, 1⟩, ⟨2, 0, 2⟩, tight⟩ ⟨⟨2, 0, 2⟩, ⟨3, 0, 3⟩, tight⟩
    ⟨⟨3, 0, 3⟩, ⟨4, 0, 4⟩, tight⟩ ⟨⟨5, 0, 5⟩, ⟨6, 0, 6⟩, tight⟩
    ⟨⟨6, 0, 6⟩, ⟨7, 0, 7⟩, tight⟩
  let tree' := bracketsTimesName
    ⟨⟨2, 0, 2⟩, ⟨4, 0, 4⟩, loose⟩ ⟨⟨5, 0, 5⟩, ⟨6, 0, 6⟩, loose⟩
    ⟨⟨7, 1, 0⟩, ⟨8, 1, 1⟩, loose⟩ ⟨⟨11, 1, 4⟩, ⟨12, 1, 5⟩, loose⟩
    ⟨⟨13, 1, 6⟩, ⟨14, 1, 7⟩, loose⟩
  have accepted : Expr.ofSource tight = .ok tree := by decide +kernel
  have accepted' : Expr.ofSource loose = .ok tree' := by decide +kernel
  refine ⟨tree, tree', accepted, accepted', by decide, by decide, ?_⟩
  exact shape_determines_tree accepted accepted' (integral_bracketsTimesName _ _ _ _ _)
    (integral_bracketsTimesName _ _ _ _ _) (by decide)

end Abacus
