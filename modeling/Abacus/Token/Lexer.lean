/-
Module: Abacus.Token.Lexer
Purpose: The tokens of a source. Each piece of the text is placed where it
  stands and read by itself; the first piece that cannot be read is the
  diagnostic.
Main exports: Source.tokens, placePieces_cons_eq_ok, exists_unread
-/
import Abacus.Lexeme

namespace Abacus

/-- The tokens of the pieces that stand from `position` on, closed by the end of
    the input. -/
def placePieces (source : Source) (position : Position) :
    List (List Char) → Except Diagnostic (List Token)
  | [] => .ok [{ kind := .endOfInput, span := .point position source }]
  | piece :: pieces =>
      let next := position.after piece
      match readPiece piece with
      | .skipped => placePieces source next pieces
      | .token kind payload? =>
          match placePieces source next pieces with
          | .ok tokens =>
              .ok ({ kind, payload?, span := ⟨position, next, source⟩ } :: tokens)
          | .error diagnostic => .error diagnostic
      | .fault fault => .error (.lexical fault ⟨position, next, source⟩)

/-- The tokens of a source, the last of them the end of the input, or the first
    lexical fault. -/
def Source.tokens (source : Source) : Except Diagnostic (List Token) :=
  placePieces source {} (pieces source.chars)

section

variable {source : Source} {position : Position}

/-- The first of pieces that have tokens is skipped or has the first token. -/
theorem placePieces_cons_eq_ok {piece : List Char} {pieces : List (List Char)}
    {tokens : List Token}
    (placed : placePieces source position (piece :: pieces) = .ok tokens) :
    (readPiece piece = .skipped ∧
      placePieces source (position.after piece) pieces = .ok tokens) ∨
      ∃ kind payload? later, readPiece piece = .token kind payload? ∧
        placePieces source (position.after piece) pieces = .ok later ∧
        tokens = ⟨kind, payload?, ⟨position, position.after piece, source⟩⟩ ::
          later := by
  rw [placePieces] at placed
  cases read : readPiece piece with
  | skipped =>
      rw [read] at placed
      exact .inl ⟨rfl, placed⟩
  | token kind payload? =>
      rw [read] at placed
      dsimp only at placed
      split at placed
      case h_1 later placedLater =>
        cases placed
        exact .inr ⟨kind, payload?, later, rfl, placedLater, rfl⟩
      case h_2 => cases placed
  | fault fault =>
      rw [read] at placed
      cases placed

theorem ne_nil_of_placePieces {pieces : List (List Char)} {tokens : List Token}
    (placed : placePieces source position pieces = .ok tokens) : tokens ≠ [] := by
  induction pieces generalizing position tokens with
  | nil =>
      cases placed
      exact List.cons_ne_nil _ _
  | cons piece pieces inductionHypothesis =>
      rcases placePieces_cons_eq_ok placed with ⟨_, placed⟩ | ⟨_, _, _, _, _, rfl⟩
      · exact inductionHypothesis placed
      · exact List.cons_ne_nil _ _

/-- Pieces that have no tokens are some that do, one that cannot be read, and
    others. -/
theorem exists_unread {all : List (List Char)} {diagnostic : Diagnostic}
    (failed : placePieces source position all = .error diagnostic) :
    ∃ taken piece left tokens fault, all = taken ++ piece :: left ∧
      placePieces source position taken = .ok tokens ∧ readPiece piece = .fault fault ∧
      diagnostic =
        .lexical fault ⟨position.after taken.flatten,
          (position.after taken.flatten).after piece, source⟩ := by
  induction all generalizing position with
  | nil => cases failed
  | cons piece all inductionHypothesis =>
      rw [placePieces] at failed
      cases read : readPiece piece with
      | fault fault =>
          rw [read] at failed
          cases failed
          exact ⟨[], piece, all, _, fault, rfl, rfl, read, rfl⟩
      | skipped =>
          rw [read] at failed
          obtain ⟨taken, next, left, tokens, fault, rfl, placed, unread, rfl⟩ :=
            inductionHypothesis failed
          refine ⟨piece :: taken, next, left, tokens, fault, rfl, ?_, unread, ?_⟩
          · rw [placePieces, read]
            exact placed
          · rw [List.flatten_cons, Position.after_append]
      | token kind payload? =>
          rw [read] at failed
          dsimp only at failed
          split at failed
          case h_1 => cases failed
          case h_2 later =>
            cases failed
            obtain ⟨taken, next, left, tokens, fault, rfl, placed, unread, rfl⟩ :=
              inductionHypothesis later
            refine ⟨piece :: taken, next, left,
              ⟨kind, payload?, ⟨position, position.after piece, source⟩⟩ :: tokens,
              fault, rfl, ?_, unread, ?_⟩
            · rw [placePieces, read]
              dsimp only
              rw [placed]
            · rw [List.flatten_cons, Position.after_append]

end

end Abacus
