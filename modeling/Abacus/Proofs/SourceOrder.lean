/-
Module: Abacus.Proofs.SourceOrder
Purpose: The tree of a source keeps the tokens of the source in place. Visited
  in the order of the source it has all the tokens but brackets, keywords,
  assignment signs and the end of the input, each once. Every node goes from
  where its first token starts to where its last one stops; its operands lie
  inside it, and those of an operator on either side of it. A bracket widens no
  node, so a node may begin or end inside of brackets that are its own.
Main exports: Expr.sourceOrder, Expr.lastToken, Expr.Opens, Expr.InPlace,
  Grammar.Phrase.sourceOrder_tree, Grammar.Phrase.inPlace,
  tree_keeps_tokens_in_place
-/
import Abacus.Proofs.Boundaries
import Abacus.Proofs.SafeSubmission

namespace Abacus

/-!
### Tokens and nodes in the order of the source

The order of the source differs from the order of the nodes: an operator stands
between its operands, and a name before what it is bound to. A node has its
place if it starts and stops with its own first and last token and keeps its
operands apart.
-/

/-- Whether a token of the kind becomes the token of a node. What only groups or
    only tells a binding from a name is not kept. -/
def Kind.isKept : Kind → Bool
  | .leftParen | .rightParen | .keyword | .assignment | .endOfInput => false
  | _ => true

namespace Expr

/-- The tokens of the nodes in the order of the source: a sign before its
    operand, an operator between its operands, and a name before the value it is
    bound to. -/
def sourceOrder : Expr → List Token
  | .number token | .access token => [token]
  | .unary op operand _ => op :: operand.sourceOrder
  | .binary op left right _ => left.sourceOrder ++ op :: right.sourceOrder
  | .assign name value _ => name :: value.sourceOrder

/-- The last of the tokens in the order of the source, which is that of a leaf. -/
def lastToken : Expr → Token
  | .number token | .access token => token
  | .unary _ operand _ => operand.lastToken
  | .binary _ _ right _ => right.lastToken
  | .assign _ value _ => value.lastToken

/-- What stands right below the node. -/
def operands : Expr → List Expr
  | .number _ | .access _ => []
  | .unary _ operand _ => [operand]
  | .binary _ left right _ => [left, right]
  | .assign _ value _ => [value]

/-- The expression begins with the token. A binding begins with its keyword,
    which is no token of the tree but stands before the name and the assignment
    sign among the tokens of the source. -/
inductive Opens (tokens : List Token) : Expr → Token → Prop where
  | number {literal : Token} : Opens tokens (.number literal) literal
  | access {name : Token} : Opens tokens (.access name) name
  | unary {op : Token} {operand : Expr} {span : Span} :
      Opens tokens (.unary op operand span) op
  | binary {op first : Token} {left right : Expr} {span : Span}
      (opens : Opens tokens left first) :
      Opens tokens (.binary op left right span) first
  | assign {keyword name sign : Token} {value : Expr} {span : Span}
      (isLet : keyword.isKeyword "let" = true) (assigns : sign.kind = .assignment)
      (together : [keyword, name, sign] <:+: tokens) :
      Opens tokens (.assign name value span) keyword

/-- The left operand stops before the operator and the right one starts behind
    it. Other nodes have no two sides. -/
def Apart : Expr → Prop
  | .binary op left right _ =>
      left.span.stop.offset ≤ op.span.start.offset ∧
        op.span.stop.offset ≤ right.span.start.offset
  | _ => True

/-- The node has the place that its tokens give it. -/
structure InPlace (node : Expr) (tokens : List Token) : Prop where
  nonempty : node.span.start.offset < node.span.stop.offset
  start_eq : ∃ first, node.Opens tokens first ∧ node.span.start = first.span.start
  stop_eq : node.span.stop = node.lastToken.span.stop
  inside : ∀ operand ∈ node.operands,
    node.span.start.offset ≤ operand.span.start.offset ∧
    operand.span.stop.offset ≤ node.span.stop.offset
  apart : node.Apart

/-!
### Nodes put together

The three ways in which the parser puts a node together, each with what it needs
of the operands. That the parts do not overlap comes from the tokens, which
stand one after another.
-/

namespace InPlace

variable {left right operand node : Expr} {op opening : Token} {tokens : List Token}

/-- A leaf has the place of its token. -/
theorem leaf (nonempty : node.span.start.offset < node.span.stop.offset)
    (opens : node.Opens tokens node.token)
    (span_eq : node.span = node.token.span) (last : node.lastToken = node.token)
    (alone : node.operands = []) (apart : node.Apart) : node.InPlace tokens where
  nonempty := nonempty
  start_eq := ⟨node.token, opens, by rw [span_eq]⟩
  stop_eq := by rw [span_eq, last]
  inside := by simp [alone]
  apart := apart

/-- A node that begins with a token of its own, which stands before the operand. -/
theorem headed (placed : operand.InPlace tokens) (opens : node.Opens tokens opening)
    (span_eq : node.span = opening.span.merge operand.span)
    (last : node.lastToken = operand.lastToken)
    (only : node.operands = [operand]) (apart : node.Apart)
    (nonempty : opening.span.start.offset < opening.span.stop.offset)
    (before : opening.span.stop.offset ≤ operand.span.start.offset) :
    node.InPlace tokens := by
  have operandNonempty := placed.nonempty
  refine ⟨?_, ⟨opening, opens, by rw [span_eq, Span.start_merge]⟩, ?_, ?_, apart⟩
  · rw [span_eq, Span.start_merge, Span.stop_merge]
    omega
  · rw [span_eq, Span.stop_merge, last, placed.stop_eq]
  · rw [only, span_eq]
    refine List.forall_mem_singleton.mpr ⟨?_, Nat.le_refl _⟩
    rw [Span.start_merge]
    omega

/-- An operator that stands between its operands. -/
theorem joinBinary (leftPlaced : left.InPlace tokens)
    (rightPlaced : right.InPlace tokens)
    (nonempty : op.span.start.offset < op.span.stop.offset)
    (before : left.span.stop.offset ≤ op.span.start.offset)
    (behind : op.span.stop.offset ≤ right.span.start.offset) :
    (joinBinary op left right).InPlace tokens := by
  have leftNonempty := leftPlaced.nonempty
  have rightNonempty := rightPlaced.nonempty
  obtain ⟨first, opens, start⟩ := leftPlaced.start_eq
  refine ⟨?_, ⟨first, .binary opens, start⟩, rightPlaced.stop_eq, ?_, before, behind⟩
  · rw [span_joinBinary, Span.start_merge, Span.stop_merge]
    omega
  · rw [span_joinBinary, Span.start_merge, Span.stop_merge]
    refine List.forall_mem_cons.mpr
      ⟨⟨Nat.le_refl _, ?_⟩, List.forall_mem_singleton.mpr ⟨?_, Nat.le_refl _⟩⟩
    · omega
    · omega

end InPlace

end Expr

/-- Tokens that stand one after another do so with nothing in common. -/
theorem InOrder.apart {source : Source} {before after : List Token}
    (inOrder : InOrder source (before ++ after)) {first last : Token}
    (earlier : first ∈ before) (later : last ∈ after) :
    first.span.stop.offset ≤ last.span.start.offset :=
  (List.pairwise_append.mp inOrder.ordered).2.2 first earlier last later

/-!
### Phrases

By induction on the phrase. Its tokens stand together among all the tokens, and
those of its parts stand together in it; so what is known of the parts is known
at the places that they have in the source.
-/

namespace Grammar

open Expr.Parser

theorem Chain.isKept_of_joins {chain : Chain} {op : Token}
    (joins : chain.joins op = true) : op.kind.isKept = true := by
  cases chain with
  | sum =>
      simp only [Chain.joins, isSign, Bool.or_eq_true, beq_iff_eq] at joins
      rcases joins with kind | kind <;> simp [kind, Kind.isKept]
  | term =>
      simp only [Chain.joins, isScaling, Bool.or_eq_true, beq_iff_eq] at joins
      rcases joins with kind | kind <;> simp [kind, Kind.isKept]

namespace Phrase

/-- The tree of a phrase has the tokens that are kept of those the phrase
    spells, in their order. -/
theorem sourceOrder_tree {level : Level} (phrase : Phrase level) :
    phrase.tree.sourceOrder = phrase.tokens.filter (·.kind.isKept) := by
  induction phrase with
  | binding keyword name sign opens named assigns value valueKept =>
      have keywordKind : keyword.kind = .keyword := isKeyword_kind opens
      simp [tree, tokens, Expr.joinAssign, Expr.sourceOrder, valueKept,
        keywordKind, named, assigns, Kind.isKept]
  | plain sum sumKept => exact sumKept
  | one operand operandKept => exact operandKept
  | more left op joins right leftKept rightKept =>
      simp [tree, tokens, Expr.joinBinary, Expr.sourceOrder, leftKept,
        rightKept, Chain.isKept_of_joins joins]
  | signed op signs operand operandKept =>
      have kept : op.kind.isKept = true := @Chain.isKept_of_joins .sum op signs
      simp [tree, tokens, Expr.joinUnary, Expr.sourceOrder, operandKept, kept]
  | bare atom atomKept => exact atomKept
  | power base op raises exponent baseKept exponentKept =>
      have kept : op.kind.isKept = true := by simp [eq_of_beq raises, Kind.isKept]
      simp [tree, tokens, Expr.joinBinary, Expr.sourceOrder, baseKept, exponentKept, kept]
  | number literal numeric =>
      rcases numeric with kind | kind
        <;> simp [tree, tokens, Expr.sourceOrder, kind, Kind.isKept]
  | access name named => simp [tree, tokens, Expr.sourceOrder, named, Kind.isKept]
  | brackets opening closing opens closes inner innerKept =>
      simp [tree, tokens, innerKept, opens, closes, Kind.isKept]

end Phrase

section

variable {source : Source} {all : List Token}

/-- What is left of an operator lies before it, and what is right of it behind
    it. -/
theorem inPlace_joinBinary {first second : Level} {left : Phrase first}
    {right : Phrase second} {op : Token}
    (inOrder : InOrder source (left.tokens ++ op :: right.tokens))
    (leftPlaced : ∀ node ∈ left.tree.postorder, node.InPlace all)
    (rightPlaced : ∀ node ∈ right.tree.postorder, node.InPlace all) :
    ∀ node ∈ (Expr.joinBinary op left.tree right.tree).postorder, node.InPlace all := by
  have opFirst : op ∈ op :: right.tokens := List.mem_cons_self
  have split : InOrder source ([op] ++ right.tokens) := inOrder.right
  obtain ⟨last, inLeft, stop⟩ := (left.liesAmong inOrder.left).stop
  obtain ⟨head, inRight, start⟩ := (right.liesAmong inOrder.right.tail).start
  have root : (Expr.joinBinary op left.tree right.tree).InPlace all := by
    refine .joinBinary (leftPlaced _ (Expr.self_mem_postorder _))
      (rightPlaced _ (Expr.self_mem_postorder _))
      (inOrder.right.stands op opFirst).nonempty ?_ ?_
    · rw [stop]
      exact inOrder.apart inLeft opFirst
    · rw [start]
      exact split.apart (List.mem_singleton_self op) inRight
  exact List.forall_mem_append.mpr
    ⟨List.forall_mem_append.mpr ⟨leftPlaced, rightPlaced⟩,
      List.forall_mem_singleton.mpr root⟩

/-- What a phrase goes on with behind tokens that open it lies behind the first
    of them. -/
theorem inPlace_headed {level : Level} {operand : Phrase level}
    {opening : Token} {node : Expr} (between : List Token)
    (inOrder : InOrder source (opening :: (between ++ operand.tokens)))
    (operandPlaced : ∀ node ∈ operand.tree.postorder, node.InPlace all)
    (opens : node.Opens all opening)
    (nodes : node.postorder = operand.tree.postorder ++ [node])
    (span_eq : node.span = opening.span.merge operand.tree.span)
    (last : node.lastToken = operand.tree.lastToken)
    (only : node.operands = [operand.tree]) (apart : node.Apart) :
    ∀ below ∈ node.postorder, below.InPlace all := by
  have split : InOrder source ([opening] ++ (between ++ operand.tokens)) := inOrder
  obtain ⟨head, inOperand, start⟩ := (operand.liesAmong inOrder.tail.right).start
  have before : opening.span.stop.offset ≤ operand.tree.span.start.offset := by
    rw [start]
    exact split.apart (List.mem_singleton_self opening)
      (List.mem_append_right between inOperand)
  have root : node.InPlace all :=
    .headed (operandPlaced _ (Expr.self_mem_postorder _)) opens span_eq last only apart
      (inOrder.stands opening List.mem_cons_self).nonempty before
  rw [nodes]
  exact List.forall_mem_append.mpr ⟨operandPlaced, List.forall_mem_singleton.mpr root⟩

/-- If the tokens of a phrase stand in a source one after another, and together
    among all tokens, every node of its tree is in place. -/
theorem Phrase.inPlace {level : Level} (phrase : Phrase level)
    (inOrder : InOrder source phrase.tokens) (together : phrase.tokens <:+: all) :
    ∀ node ∈ phrase.tree.postorder, node.InPlace all := by
  induction phrase with
  | binding keyword name sign opens named assigns value valuePlaced =>
      have opened : [keyword, name, sign] <:+:
          keyword :: name :: sign :: value.tokens := ⟨[], value.tokens, rfl⟩
      have inside : value.tokens <:+: keyword :: name :: sign :: value.tokens :=
        ⟨[keyword, name, sign], [], by simp⟩
      exact inPlace_headed [name, sign] inOrder
        (valuePlaced inOrder.tail.tail.tail (inside.trans together))
        (.assign opens assigns (opened.trans together)) rfl rfl rfl rfl trivial
  | plain sum sumPlaced => exact sumPlaced inOrder together
  | one operand operandPlaced => exact operandPlaced inOrder together
  | more left op joins right leftPlaced rightPlaced =>
      have before : left.tokens <:+: left.tokens ++ op :: right.tokens :=
        ⟨[], op :: right.tokens, by simp⟩
      have behind : right.tokens <:+: left.tokens ++ op :: right.tokens :=
        ⟨left.tokens ++ [op], [], by simp⟩
      exact inPlace_joinBinary inOrder (leftPlaced inOrder.left (before.trans together))
        (rightPlaced inOrder.right.tail (behind.trans together))
  | signed op signs operand operandPlaced =>
      have inside : operand.tokens <:+: op :: operand.tokens := ⟨[op], [], by simp⟩
      exact inPlace_headed [] inOrder
        (operandPlaced inOrder.tail (inside.trans together)) .unary
        rfl rfl rfl rfl trivial
  | bare atom atomPlaced => exact atomPlaced inOrder together
  | power base op raises exponent basePlaced exponentPlaced =>
      have before : base.tokens <:+: base.tokens ++ op :: exponent.tokens :=
        ⟨[], op :: exponent.tokens, by simp⟩
      have behind : exponent.tokens <:+: base.tokens ++ op :: exponent.tokens :=
        ⟨base.tokens ++ [op], [], by simp⟩
      exact inPlace_joinBinary inOrder (basePlaced inOrder.left (before.trans together))
        (exponentPlaced inOrder.right.tail (behind.trans together))
  | number literal numeric =>
      have nonempty :=
        (inOrder.stands literal (List.mem_singleton_self literal)).nonempty
      exact List.forall_mem_singleton.mpr (.leaf nonempty .number rfl rfl rfl trivial)
  | access name named =>
      have nonempty := (inOrder.stands name (List.mem_singleton_self name)).nonempty
      exact List.forall_mem_singleton.mpr (.leaf nonempty .access rfl rfl rfl trivial)
  | brackets opening closing opens closes inner innerPlaced =>
      have inside : inner.tokens <:+: opening :: (inner.tokens ++ [closing]) :=
        ⟨[opening], [closing], by simp⟩
      exact innerPlaced inOrder.tail.left (inside.trans together)

end

end Grammar

/-!
### Sources

The tokens of an accepted source are those of its phrase, in the order in which
they tile the text, and the end of the input.
-/

/-- The tree of a source keeps the tokens of the source in place. In the order
    of the source it has all of them but brackets, keywords, assignment signs
    and the end of the input. Every node lies in the source and covers
    something; it starts where its first token does, the keyword if it is a
    binding, and stops where its last one does; its operands lie inside it, and
    those of an operator on either side of it. -/
theorem tree_keeps_tokens_in_place {source : Source} {tree : Expr}
    (accepted : Expr.ofSource source = .ok tree) :
    ∃ tokens, source.tokens = .ok tokens ∧
      tree.sourceOrder = tokens.filter (·.kind.isKept) ∧
      ∀ node ∈ tree.postorder, node.span.LiesIn source ∧ node.InPlace tokens := by
  have liesIn := liesIn_of_ofSource accepted
  obtain ⟨tokens, phrase, tokenized, spelled, rfl, _⟩ :=
    Grammar.ofSource_eq_ok_iff.mp accepted
  have inOrder : InOrder source phrase.tokens :=
    spelled ▸ (inOrder_beforeEnd tokenized).1
  have closed : tokens = phrase.tokens ++ [source.closing] :=
    spelled ▸ (tiles_beforeEnd tokenized).1
  refine ⟨tokens, tokenized, ?_, fun node member => ⟨liesIn node member, ?_⟩⟩
  · rw [phrase.sourceOrder_tree, closed]
    simp [Source.closing, Kind.isKept]
  · exact phrase.inPlace inOrder ⟨[], [source.closing], by simp [closed]⟩ node member

/-- A binding in brackets, taken from on the next line. The tree begins with the
    keyword, behind the bracket. -/
theorem tree_keeps_tokens_in_place_of_bracketed_binding :
    let source : Source := { label := "<test>", content := "(let x = 2)\n- y" }
    let x : Token := ⟨.identifier, some (.text "x"), ⟨⟨5, 0, 5⟩, ⟨6, 0, 6⟩, source⟩⟩
    let two : Token := ⟨.integer, some (.int 2), ⟨⟨9, 0, 9⟩, ⟨10, 0, 10⟩, source⟩⟩
    let minus : Token := ⟨.minus, none, ⟨⟨12, 1, 0⟩, ⟨13, 1, 1⟩, source⟩⟩
    let y : Token := ⟨.identifier, some (.text "y"), ⟨⟨14, 1, 2⟩, ⟨15, 1, 3⟩, source⟩⟩
    let binding : Expr := .assign x (.number two) ⟨⟨1, 0, 1⟩, ⟨10, 0, 10⟩, source⟩
    let tree : Expr :=
      .binary minus binding (.access y) ⟨⟨1, 0, 1⟩, ⟨15, 1, 3⟩, source⟩
    Expr.ofSource source = .ok tree ∧
      ∃ tokens, source.tokens = .ok tokens ∧
        tree.sourceOrder = tokens.filter (·.kind.isKept) ∧
        ∀ node ∈ tree.postorder, node.span.LiesIn source ∧ node.InPlace tokens := by
  intro source x two minus y binding tree
  have accepted : Expr.ofSource source = .ok tree := by decide +kernel
  exact ⟨accepted, tree_keeps_tokens_in_place accepted⟩

end Abacus
