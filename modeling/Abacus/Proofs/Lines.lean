/-
Module: Abacus.Proofs.Lines
Purpose: Where the characters of a text stand. If a text is put behind another
  one, its positions are found again from where the other one ends
  (`Position.after_eq_translate`). Positions grow along a text: from one to a
  later one the line grows, or the line stays and every character is a column
  (`Position.after_forward`). And the lines of a text agree with the positions
  met while reading it: what is left of a line behind a position is what is
  ahead up to the next line feed (`exists_line`), and every character of a line
  is met at its line and column (`exists_place`). So line and column say where
  in a source a position is as well as its offset does
  (`line_and_column_of_offset`).
Main exports: Position.translate, Position.after_eq_translate,
  Position.after_forward, textLines_eq_splitOn, textLines_append, exists_line,
  exists_place, line_and_column_of_offset
-/
import Abacus.Source
import Mathlib.Data.List.DropRight

namespace Abacus

/-!
### Positions behind a position

Positions are met by reading, so a position inside a text that stands behind
another one is met by reading on. Where a first line ends the columns of the two
texts are no longer added up, which is what `Position.translate` says.
-/

namespace Position

/-- Where `p` comes to be if the text it is in is put behind one that ends at
    `base`. The lines of the two are counted together, but only the first line
    of the text is moved to the right, since it goes on with the last one
    before. -/
def translate (base p : Position) : Position :=
  { offset := base.offset + p.offset
    line := base.line + p.line
    column := if p.line = 0 then base.column + p.column else p.column }

@[simp] theorem translate_default (base : Position) : base.translate {} = base := rfl

theorem advance_translate (base p : Position) (c : Char) :
    (base.translate p).advance c = base.translate (p.advance c) := by
  by_cases feed : c = '\n'
  · simp [advance, translate, feed, Nat.add_assoc]
  · by_cases first : p.line = 0
      <;> simp [advance, translate, feed, first, Nat.add_assoc]

theorem after_translate (base p : Position) (text : List Char) :
    (base.translate p).after text = base.translate (p.after text) := by
  induction text generalizing p with
  | nil => rfl
  | cons c text inductionHypothesis =>
      rw [after_cons, after_cons, advance_translate, inductionHypothesis]

/-- Reading a text from a position is reading it from the start and translating
    where that leads. -/
theorem after_eq_translate (base : Position) (text : List Char) :
    base.after text = base.translate (Position.after {} text) :=
  after_translate base {} text

/-- Reading on leads to a later line, or along the line by a column for each
    character. -/
theorem after_forward (p : Position) (text : List Char) :
    p.line < (p.after text).line ∨
      (p.after text).line = p.line ∧
      (p.after text).column = p.column + text.length := by
  induction text generalizing p with
  | nil => exact .inr ⟨rfl, rfl⟩
  | cons c text inductionHypothesis =>
      have onward := inductionHypothesis (p.advance c)
      rw [after_cons, List.length_cons]
      by_cases feed : c = '\n'
      · have line : (p.advance c).line = p.line + 1 := by rw [advance, if_pos feed]
        omega
      · have line : (p.advance c).line = p.line := by rw [advance, if_neg feed]
        have column : (p.advance c).column = p.column + 1 := by
          rw [advance, if_neg feed]
        omega

end Position

/-!
### Lines of a text

The lines of a text are built from its end: a line feed opens a line in front,
and any other character goes in front of the first one. That is also how a
position moves on, so the induction along a text keeps the two together.
-/

/-- The lines of a text are what is left of it between its line feeds. -/
theorem textLines_eq_splitOn (text : List Char) :
    textLines text = text.splitOn '\n' := by
  induction text with
  | nil => rfl
  | cons c text inductionHypothesis =>
      rw [textLines, inductionHypothesis]
      simp only [List.splitOn, List.splitOnP_cons_eq_if_modifyHead, beq_iff_eq]

theorem textLines_ne_nil (text : List Char) : textLines text ≠ [] := by
  cases text with
  | nil => simp [textLines]
  | cons c text =>
      rw [textLines]
      split
      · simp
      · intro none
        exact textLines_ne_nil text (List.modifyHead_eq_nil_iff.mp none)

theorem textLines_of_single {line : List Char} (single : '\n' ∉ line) :
    textLines line = [line] := by
  induction line with
  | nil => rfl
  | cons c line inductionHypothesis =>
      have other := List.ne_of_not_mem_cons single
      rw [textLines, if_neg other.symm,
        inductionHypothesis (List.not_mem_of_not_mem_cons single)]
      rfl

theorem textLines_append {line : List Char} (single : '\n' ∉ line) (text : List Char) :
    textLines (line ++ '\n' :: text) = line :: textLines text := by
  induction line with
  | nil => rfl
  | cons c line inductionHypothesis =>
      have other := List.ne_of_not_mem_cons single
      rw [List.cons_append, textLines, if_neg other.symm,
        inductionHypothesis (List.not_mem_of_not_mem_cons single)]
      rfl

/-- Rows with line feeds between them are the lines of the text they make up. -/
theorem textLines_intercalate {rows : List (List Char)} (nonempty : rows ≠ [])
    (single : ∀ row ∈ rows, '\n' ∉ row) :
    textLines (List.intercalate ['\n'] rows) = rows := by
  induction rows with
  | nil => exact absurd rfl nonempty
  | cons row rows inductionHypothesis =>
      obtain ⟨first, later⟩ := List.forall_mem_cons.mp single
      cases rows with
      | nil => simpa using textLines_of_single first
      | cons next rows =>
          have joined : List.intercalate ['\n'] (row :: next :: rows) =
              row ++ '\n' :: List.intercalate ['\n'] (next :: rows) := by
            simp [List.intercalate]
          rw [joined, textLines_append first,
            inductionHypothesis (List.cons_ne_nil _ _) later]

/-- A character that is no line feed goes in front of the first line and leaves
    the other ones alone. -/
theorem getElem?_textLines_cons {c : Char} (single : c ≠ '\n')
    (text : List Char) (n : Nat) :
    (textLines (c :: text))[n]? =
      if n = 0 then (textLines text)[0]?.map (c :: ·) else (textLines text)[n]? := by
  rw [textLines, if_neg single]
  cases textLines text with
  | nil => simp
  | cons row rows => cases n <;> simp

/-- The first line is what stands before the first line feed. -/
theorem getElem?_zero_textLines (text : List Char) :
    (textLines text)[0]? = some (text.takeWhile (· != '\n')) := by
  induction text with
  | nil => rfl
  | cons c text inductionHypothesis =>
      by_cases feed : c = '\n'
      · subst feed
        rfl
      · rw [getElem?_textLines_cons feed, if_pos rfl, inductionHypothesis]
        simp [feed]

/-- The position met after `before` lies on a line of the text, and behind it
    the line holds what is ahead up to the next line feed. By induction on
    `before`, each character of which stands in front of what it is followed by. -/
theorem exists_line (before ahead : List Char) :
    ∃ row, (textLines (before ++ ahead))[(Position.after {} before).line]? = some row ∧
      (Position.after {} before).column ≤ row.length ∧
      row.drop (Position.after {} before).column = ahead.takeWhile (· != '\n') := by
  induction before with
  | nil => exact ⟨_, getElem?_zero_textLines ahead, Nat.zero_le _, rfl⟩
  | cons c before inductionHypothesis =>
      obtain ⟨row, line, within, rest⟩ := inductionHypothesis
      rw [Position.after_cons, Position.after_eq_translate]
      by_cases feed : c = '\n'
      · subst feed
        have column :
            ((Position.advance {} '\n').translate (Position.after {} before)).column =
              (Position.after {} before).column := by
          simp [Position.translate, Position.advance]
        refine ⟨row, ?_, column ▸ within, column ▸ rest⟩
        simpa [textLines, Position.translate, Position.advance, Nat.add_comm 1]
          using line
      · have sameLine :
            ((Position.advance {} c).translate (Position.after {} before)).line =
              (Position.after {} before).line := by
          simp [Position.translate, Position.advance, feed]
        rw [sameLine, List.cons_append, getElem?_textLines_cons feed]
        by_cases first : (Position.after {} before).line = 0
        · have column :
              ((Position.advance {} c).translate (Position.after {} before)).column =
                (Position.after {} before).column + 1 := by
            simp [Position.translate, Position.advance, feed, first, Nat.add_comm 1]
          rw [first] at line
          refine ⟨c :: row, by simp [first, line], ?_, ?_⟩
          · rw [column, List.length_cons]
            exact Nat.succ_le_succ within
          · rw [column]
            exact rest
        · have column :
              ((Position.advance {} c).translate (Position.after {} before)).column =
                (Position.after {} before).column := by simp [Position.translate, first]
          exact ⟨row, by rw [if_neg first, line], column ▸ within, column ▸ rest⟩

/-- Every character of a line is met at that line and its column, and is no line
    feed. -/
theorem exists_place {text row : List Char} {n m : Nat} {c : Char}
    (line : (textLines text)[n]? = some row) (here : row[m]? = some c) :
    ∃ before ahead, text = before ++ c :: ahead ∧ c ≠ '\n' ∧
      Position.after {} before = ⟨before.length, n, m⟩ := by
  induction text generalizing n m row with
  | nil =>
      cases n with
      | zero =>
          cases line
          cases here
      | succ n => cases line
  | cons d text inductionHypothesis =>
      -- A place in the rest of the text is a place behind `d`.
      have behind {n' m' : Nat} {row' : List Char}
          (line' : (textLines text)[n']? = some row')
          (here' : row'[m']? = some c)
          (moved : ∀ offset, (Position.advance {} d).translate ⟨offset, n', m'⟩ =
            ⟨offset + 1, n, m⟩) :
          ∃ before ahead, d :: text = before ++ c :: ahead ∧ c ≠ '\n' ∧
            Position.after {} before = ⟨before.length, n, m⟩ := by
        obtain ⟨before, ahead, rfl, single, place⟩ := inductionHypothesis line' here'
        refine ⟨d :: before, ahead, rfl, single, ?_⟩
        rw [Position.after_cons, Position.after_eq_translate, place, moved,
          List.length_cons]
      by_cases feed : d = '\n'
      · subst feed
        cases n with
        | zero =>
            cases line
            cases here
        | succ n =>
            refine behind line here fun offset => ?_
            simp [Position.translate, Position.advance, Nat.add_comm 1]
      · rw [getElem?_textLines_cons feed] at line
        cases n with
        | succ n =>
            rw [if_neg (Nat.succ_ne_zero n)] at line
            refine behind line here fun offset => ?_
            simp [Position.translate, Position.advance, feed, Nat.add_comm 1]
        | zero =>
            rw [if_pos rfl, Option.map_eq_some_iff] at line
            obtain ⟨row', line', rfl⟩ := line
            cases m with
            | zero =>
                cases here
                exact ⟨[], text, rfl, feed, rfl⟩
            | succ m =>
                refine behind line' here fun offset => ?_
                simp [Position.translate, Position.advance, feed, Nat.add_comm 1]

/-- No line holds a line feed. -/
theorem not_mem_of_mem_textLines {text row : List Char}
    (member : row ∈ textLines text) : '\n' ∉ row := by
  intro feed
  obtain ⟨n, line⟩ := List.mem_iff_getElem?.mp member
  obtain ⟨m, here⟩ := List.mem_iff_getElem?.mp feed
  obtain ⟨_, _, _, single, _⟩ := exists_place line here
  exact single rfl

/-!
### Line and column

Line and column of a position in terms of the text alone: how many line feeds
have been read, and how many characters since the last. The other way round they
determine the offset, since of two positions the later one is on a later line or
further on.
-/

namespace Position

/-- The line counts the line feeds. -/
theorem line_after (p : Position) (text : List Char) :
    (p.after text).line = p.line + text.count '\n' := by
  induction text generalizing p with
  | nil => rfl
  | cons c text inductionHypothesis =>
      rw [after_cons, inductionHypothesis]
      by_cases feed : c = '\n'
      · simp [advance, feed, Nat.add_assoc, Nat.add_comm 1]
      · simp [advance, feed]

/-- The column counts the characters after the last line feed. By induction from
    the end, where the column grows or the line ends. -/
theorem column_after (text : List Char) :
    (Position.after {} text).column = (text.rtakeWhile (· != '\n')).length := by
  induction text using List.reverseRecOn with
  | nil => rfl
  | append_singleton text c inductionHypothesis =>
      rw [after_append, after_cons, after_nil, List.rtakeWhile_concat]
      by_cases feed : c = '\n'
      · simp [advance, feed]
      · simp [advance, feed, inductionHypothesis]

/-- No other position met while reading on is on the same line and in the same
    column. -/
theorem eq_nil_of_after {p : Position} {text : List Char}
    (line : (p.after text).line = p.line)
    (column : (p.after text).column = p.column) : text = [] := by
  rcases p.after_forward text with later | ⟨_, further⟩
  · exact absurd line (Nat.ne_of_gt later)
  · exact List.eq_nil_of_length_eq_zero (by omega)

/-- An offset is not before another one on whose line and in whose column it is. -/
theorem not_lt_of_after {text : List Char} {j k : Nat} (inside : k ≤ text.length)
    (line : (Position.after {} (text.take k)).line =
      (Position.after {} (text.take j)).line)
    (column : (Position.after {} (text.take k)).column =
      (Position.after {} (text.take j)).column) : ¬ j < k := by
  intro before
  have between : text.take k = text.take j ++ (text.drop j).take (k - j) := by
    rw [← List.take_add, Nat.add_sub_of_le (Nat.le_of_lt before)]
  rw [between, after_append] at line column
  have length := congrArg List.length (eq_nil_of_after line column)
  simp only [List.length_take, List.length_drop, List.length_nil] at length
  omega

end Position

/-- On the line of the position after `k` characters, its column holds the
    character that comes next. The line ends there if that is a line feed, or if
    no character comes next. -/
theorem exists_line_at (text : List Char) (k : Nat) :
    let position := Position.after {} (text.take k)
    ∃ row, (textLines text)[position.line]? = some row ∧ position.column ≤ row.length ∧
      (position.column < row.length → text[k]? = row[position.column]?) ∧
      (position.column = row.length ↔ text[k]? = some '\n' ∨ text[k]? = none) := by
  intro position
  obtain ⟨row, line, within, rest⟩ := exists_line (text.take k) (text.drop k)
  rw [List.take_append_drop] at line
  have here : row[position.column]? = text[k]?.filter (· != '\n') := by
    rw [← List.head?_drop, rest, List.head?_takeWhile, List.head?_drop]
  refine ⟨row, line, within, ?_, ?_⟩
  · intro before
    rw [List.getElem?_eq_getElem before] at here ⊢
    exact (Option.filter_eq_some_iff.mp here.symm).1
  · have ends : position.column = row.length ↔ text[k]?.filter (· != '\n') = none := by
      rw [← here, List.getElem?_eq_none_iff, Nat.le_antisymm_iff, and_iff_right within]
    rw [ends]
    cases text[k]? with
    | none => simp
    | some c => simp [Option.filter]

/-- The position met after `k` characters of a source counts them, the line
    feeds among them as its line, and what comes after the last of these as its
    column. The source has that line, which is what is left between its line
    feeds; in its column stands the character that comes next, and the line ends
    there if that is a line feed or the source ends. After no other number of
    characters the line and column are the same. -/
theorem line_and_column_of_offset (source : Source) {k : Nat}
    (inside : k ≤ source.chars.length) :
    let position := Position.after {} (source.chars.take k)
    position.offset = k ∧
      position.line = (source.chars.take k).count '\n' ∧
      position.column = ((source.chars.take k).rtakeWhile (· != '\n')).length ∧
      (∃ line, source.line? position.line = some line ∧
        (source.chars.splitOn '\n')[position.line]? = some line.toList ∧
        position.column ≤ line.length ∧
        (position.column < line.length →
            source.chars[k]? = line.toList[position.column]?) ∧
        (position.column = line.length ↔
            source.chars[k]? = some '\n' ∨ k = source.chars.length)) ∧
      ∀ j ≤ source.chars.length,
        (Position.after {} (source.chars.take j)).line = position.line →
        (Position.after {} (source.chars.take j)).column = position.column → j = k := by
  intro position
  refine ⟨by simp [position, inside], by simp [position, Position.line_after],
    Position.column_after _, ?_, ?_⟩
  · obtain ⟨row, here, within, before, ends⟩ := exists_line_at source.chars k
    refine ⟨String.ofList row, ?_, ?_, ?_, ?_, ?_⟩
    · rw [Source.line?, Source.lines, here, Option.map_some]
    · rw [← textLines_eq_splitOn, here, String.toList_ofList]
    · rwa [String.length_ofList]
    · rwa [String.length_ofList, String.toList_ofList]
    · rw [String.length_ofList, ends, List.getElem?_eq_none_iff,
        Nat.le_antisymm_iff, and_iff_right inside]
  · intro j insideToo line column
    have notBefore := Position.not_lt_of_after inside line.symm column.symm
    have notAfter := Position.not_lt_of_after insideToo line column
    omega

/-- Before the line feed of an empty line, which follows a line that ends in a
    carriage return. -/
theorem line_and_column_of_offset_on_empty_line :
    let source : Source := { label := "<test>", content := "x\r\n\nyz" }
    3 ≤ source.chars.length ∧ Position.after {} (source.chars.take 3) = ⟨3, 1, 0⟩ ∧
      (∃ line, source.line? 1 = some line ∧
        (0 = line.length ↔
          source.chars[3]? = some '\n' ∨ 3 = source.chars.length)) ∧
      ∀ j ≤ source.chars.length, (Position.after {} (source.chars.take j)).line = 1 →
        (Position.after {} (source.chars.take j)).column = 0 → j = 3 := by
  intro source
  have inside : 3 ≤ source.chars.length := by decide
  have place : Position.after {} (source.chars.take 3) = ⟨3, 1, 0⟩ := by decide
  have agree := line_and_column_of_offset source inside
  simp only [place] at agree
  obtain ⟨_, _, _, ⟨line, here, _, _, _, ends⟩, only⟩ := agree
  exact ⟨inside, place, ⟨line, here, ends⟩, only⟩

end Abacus
