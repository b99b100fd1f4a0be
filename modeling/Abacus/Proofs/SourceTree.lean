/-
Module: Abacus.Proofs.SourceTree
Purpose: What every node of the tree of a source is like. The node lies in the
  source and in no other, a literal carries a number, a name is the lower-case
  form of the text that its token covers, and the token of a sign or an operator
  is one. So no fault of evaluation that only trees put together by hand can
  have is ever met in a source.
Main exports: Expr.Readable, Expr.StandsIn, Expr.Written, Expr.SpelledIn,
  Grammar.Phrase.postorder_spelledIn, spelledIn_of_ofSource,
  standsIn_of_ofSource
-/
import Abacus.Proofs.PostOrder
import Abacus.Proofs.Tiling
import Abacus.Proofs.TreeHeight

namespace Abacus

/-!
### What tokens carry

A token of a source carries what its lexeme says: a literal its number, and a
name its text in lower case. So a node that is built from it has what evaluation
asks for.
-/

/-- A numeric lexeme carries a number. -/
theorem Lexeme.exists_value {text rest : List Char} {kind : Kind}
    {payload? : Option Payload} (lexeme : Lexeme text rest kind payload?)
    (numeric : kind = .integer ∨ kind = .float) :
    ∃ value, payload?.bind Payload.value? = some value := by
  cases lexeme with
  | integer => exact ⟨_, rfl⟩
  | float => exact ⟨_, rfl⟩
  | word _ _ _ _ keyword assignment identifier =>
      rcases kind_of_word keyword assignment identifier with rfl | rfl | rfl
        <;> simp at numeric
  | equals => simp at numeric
  | arrow => simp at numeric
  | sign listed => rcases numeric with rfl | rfl <;> simp [signs] at listed

/-- A name carries the lower-case form of its text. -/
theorem Lexeme.payload_of_identifier {text rest : List Char}
    {payload? : Option Payload} (lexeme : Lexeme text rest .identifier payload?) :
    payload? = some (.text (String.ofList (Text.lowerCase text))) := by
  cases lexeme with
  | word _ _ _ lower => rw [lower]
  | sign listed => simp [signs] at listed

theorem Token.Stands.nameOf_eq {token : Token} {source : Source}
    (stands : token.Stands source) (named : token.kind = .identifier) :
    Expr.nameOf token = String.ofList (Text.lowerCase token.span.covered) := by
  have lexeme := stands.lexeme
  rw [named] at lexeme
  simp [Expr.nameOf, Token.text?, lexeme.payload_of_identifier]

/-!
### Nodes of a source

One induction on the phrase for two things, where the nodes lie and what kinds
of tokens they are written with. What evaluation can do with a node follows from
its kind, since the token stands in the source.
-/

/-- The token of a node is one that its sort of node can do with. -/
def Expr.Readable : Expr → Prop
  | .number literal => ∃ value, literal.payload?.bind Payload.value? = some value
  | .access name | .assign name _ _ =>
      nameOf name = String.ofList (Text.lowerCase name.span.covered)
  | .unary op _ _ => Parser.isSign op = true
  | .binary op _ _ _ => ∃ operator, op.kind.operator? = some operator

/-- The node lies in the source and its token is one that it can do with. -/
structure Expr.StandsIn (node : Expr) (source : Source) : Prop where
  source_eq : node.span.source = source
  readable : node.Readable

/-- The token of a node is of a kind that its sort of node is written with. -/
def Expr.Written : Expr → Prop
  | .number literal => literal.kind = .integer ∨ literal.kind = .float
  | .access name | .assign name _ _ => name.kind = .identifier
  | .unary op _ _ => Parser.isSign op = true
  | .binary op _ _ _ => ∃ operator, op.kind.operator? = some operator

/-- The node lies in the source, and so does its token, which is of a kind that
    the node is written with. -/
structure Expr.SpelledIn (node : Expr) (source : Source) : Prop where
  source_eq : node.span.source = source
  stands : node.token.Stands source
  written : node.Written

/-- A token of the source that a node is written with is one that the node can
    do with. -/
theorem Expr.SpelledIn.standsIn {node : Expr} {source : Source}
    (spelled : node.SpelledIn source) : node.StandsIn source := by
  refine ⟨spelled.source_eq, ?_⟩
  have stands := spelled.stands
  have written := spelled.written
  cases node with
  | number literal => exact stands.lexeme.exists_value written
  | access name => exact stands.nameOf_eq written
  | unary op operand span => exact written
  | binary op left right span => exact written
  | assign name value span => exact stands.nameOf_eq written

namespace Grammar

open Expr.Parser

theorem Chain.exists_operator {chain : Chain} {op : Token}
    (joins : chain.joins op = true) :
    ∃ operator, op.kind.operator? = some operator := by
  cases chain with
  | sum =>
      simp only [Chain.joins, isSign, Bool.or_eq_true, beq_iff_eq] at joins
      rcases joins with kind | kind <;> simp [kind, Kind.operator?]
  | term =>
      simp only [Chain.joins, isScaling, Bool.or_eq_true, beq_iff_eq] at joins
      rcases joins with kind | kind <;> simp [kind, Kind.operator?]

section

variable {source : Source} {left right operand : Expr}

theorem spelledIn_joinAssign {keyword name : Token} (opens : keyword.Stands source)
    (stands : name.Stands source) (named : name.kind = .identifier)
    (below : ∀ node ∈ operand.postorder, node.SpelledIn source) :
    ∀ node ∈ (Expr.joinAssign keyword name operand).postorder, node.SpelledIn source :=
  List.forall_mem_append.mpr
    ⟨below, List.forall_mem_singleton.mpr ⟨opens.source_eq, stands, named⟩⟩

theorem spelledIn_joinUnary {op : Token} (stands : op.Stands source)
    (signs : isSign op = true)
    (below : ∀ node ∈ operand.postorder, node.SpelledIn source) :
    ∀ node ∈ (Expr.joinUnary op operand).postorder, node.SpelledIn source :=
  List.forall_mem_append.mpr
    ⟨below, List.forall_mem_singleton.mpr ⟨stands.source_eq, stands, signs⟩⟩

/-- A binary node begins with its left operand, so it lies where that lies. -/
theorem spelledIn_joinBinary {op : Token} (stands : op.Stands source)
    (written : ∃ operator, op.kind.operator? = some operator)
    (leftSpelled : ∀ node ∈ left.postorder, node.SpelledIn source)
    (rightSpelled : ∀ node ∈ right.postorder, node.SpelledIn source) :
    ∀ node ∈ (Expr.joinBinary op left right).postorder, node.SpelledIn source := by
  refine List.forall_mem_append.mpr
    ⟨List.forall_mem_append.mpr ⟨leftSpelled, rightSpelled⟩, ?_⟩
  exact List.forall_mem_singleton.mpr
    ⟨(leftSpelled left left.self_mem_postorder).source_eq, stands, written⟩

end

/-- If the tokens of a phrase stand in a source, the nodes of its tree are
    spelled there. -/
theorem Phrase.postorder_spelledIn {source : Source} {level : Level}
    (phrase : Phrase level) (stands : ∀ token ∈ phrase.tokens, token.Stands source) :
    ∀ node ∈ phrase.tree.postorder, node.SpelledIn source := by
  induction phrase with
  | binding keyword name sign opens named assigns value valueSpelled =>
      obtain ⟨keywordStands, nameStands, _, inside⟩ := by simpa [tokens] using stands
      exact spelledIn_joinAssign keywordStands nameStands named (valueSpelled inside)
  | plain sum sumSpelled => exact sumSpelled stands
  | one operand operandSpelled => exact operandSpelled stands
  | more left op joins right leftSpelled rightSpelled =>
      obtain ⟨inLeft, opStands, inRight⟩ := by
        simpa [tokens, or_imp, forall_and] using stands
      exact spelledIn_joinBinary opStands (Chain.exists_operator joins)
        (leftSpelled inLeft) (rightSpelled inRight)
  | signed op signs operand operandSpelled =>
      obtain ⟨opStands, inside⟩ := List.forall_mem_cons.mp stands
      exact spelledIn_joinUnary opStands signs (operandSpelled inside)
  | bare atom atomSpelled => exact atomSpelled stands
  | power base op raises exponent baseSpelled exponentSpelled =>
      obtain ⟨inBase, opStands, inExponent⟩ := by
        simpa [tokens, or_imp, forall_and] using stands
      have written : op.kind.operator? = some .power := by
        simp [eq_of_beq raises, Kind.operator?]
      exact spelledIn_joinBinary opStands ⟨_, written⟩ (baseSpelled inBase)
        (exponentSpelled inExponent)
  | number literal numeric =>
      have literalStands := List.forall_mem_singleton.mp stands
      exact List.forall_mem_singleton.mpr
        ⟨literalStands.source_eq, literalStands, numeric⟩
  | access name named =>
      have nameStands := List.forall_mem_singleton.mp stands
      exact List.forall_mem_singleton.mpr ⟨nameStands.source_eq, nameStands, named⟩
  | brackets opening closing opens closes inner innerSpelled =>
      exact innerSpelled fun token member => stands token (by simp [tokens, member])

end Grammar

/-- Every node of the tree of a source is spelled in the source. -/
theorem spelledIn_of_ofSource {source : Source} {tree : Expr}
    (parsed : Expr.ofSource source = .ok tree) :
    ∀ node ∈ tree.postorder, node.SpelledIn source := by
  obtain ⟨tokens, phrase, tokenized, spelled, rfl, _⟩ :=
    Grammar.ofSource_eq_ok_iff.mp parsed
  obtain ⟨_, tiles⟩ := tiles_beforeEnd tokenized
  rw [← spelled] at tiles
  exact phrase.postorder_spelledIn tiles.stands

/-- Every node of the tree of a source stands in the source. -/
theorem standsIn_of_ofSource {source : Source} {tree : Expr}
    (parsed : Expr.ofSource source = .ok tree) :
    ∀ node ∈ tree.postorder, node.StandsIn source :=
  fun node member => (spelledIn_of_ofSource parsed node member).standsIn

end Abacus
