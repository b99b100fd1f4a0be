/-
Module: Abacus.Proofs.Excerpt
Purpose: What the excerpt of a span shows. The span goes from one position of a
  source to another one; which characters it covers is said by their offsets.
  The excerpt has two rows for each line from the first to the last one: the
  line, and carets. The carets stand in one block, exactly under the covered
  characters of the line; where there are none a single caret marks the place.
Main exports: Source.CoversAt, Source.coversAt_iff, ShowsLine, showsLine_rowsOf,
  excerpt_marks_covered
-/
import Abacus.Proofs.Lines
import Abacus.Proofs.Tiling
import Abacus.Report

namespace Abacus

/-!
### Covered characters

Which characters a span covers is said by offsets, while the excerpt goes by
lines and columns. The two agree because positions grow with the offset: on the
lines of the ends the columns decide, and on the lines between every character
is covered (`coversAt_iff`).
-/

/-- The character stands in the column of line `n` of the source, is no line
    feed, and has from `a` up to `b` characters before it, `b` not included. -/
def Source.CoversAt (source : Source) (a b n column : Nat) (c : Char) : Prop :=
  ∃ offset, a ≤ offset ∧ offset < b ∧ source.chars[offset]? = some c ∧ c ≠ '\n' ∧
    source.positionAt offset = ⟨offset, n, column⟩

namespace Source

variable {source : Source} {a b n column : Nat} {row : List Char} {c : Char}

/-- Of two positions of a source the later one stands on a later line, or as
    many columns further on as there are characters between them. -/
theorem positionAt_forward (source : Source) {j k : Nat} (ordered : j ≤ k)
    (inside : k ≤ source.chars.length) :
    (source.positionAt j).line < (source.positionAt k).line ∨
      (source.positionAt k).line = (source.positionAt j).line ∧
        (source.positionAt k).column = (source.positionAt j).column + (k - j) := by
  have length : ((source.chars.drop j).take (k - j)).length = k - j := by simp; omega
  have onward :=
    positionAt_add (List.take_append_drop (k - j) (source.chars.drop j)).symm
  rw [length, Nat.add_sub_of_le ordered] at onward
  rw [onward]
  simpa only [length]
    using (source.positionAt j).after_forward ((source.chars.drop j).take (k - j))

/-- A covered character stands in its column of the line. -/
theorem CoversAt.getElem? (covers : source.CoversAt a b n column c)
    (here : source.lines[n]? = some row) : row[column]? = some c := by
  obtain ⟨offset, _, _, char, single, place⟩ := covers
  obtain ⟨inside, char⟩ := List.getElem?_eq_some_iff.mp char
  have ahead : source.chars.drop offset = c :: source.chars.drop (offset + 1) := by
    rw [List.drop_eq_getElem_cons inside, char]
  obtain ⟨_, onLine, _, rest⟩ :=
    exists_line (source.chars.take offset) (source.chars.drop offset)
  change Position.after {} (source.chars.take offset) = _ at place
  rw [List.take_append_drop, place] at onLine
  rw [place, ahead, List.takeWhile_cons_of_pos (by simpa using single)] at rest
  cases here.symm.trans onLine
  have first := congrArg List.head? rest
  rwa [List.head?_drop] at first

/-- A position of a source stands on a line of it, not beyond the end of the
    line. -/
theorem exists_line_positionAt (source : Source) (k : Nat) :
    ∃ line, source.lines[(source.positionAt k).line]? = some line ∧
      (source.positionAt k).column ≤ line.length := by
  obtain ⟨line, here, within, _⟩ :=
    exists_line (source.chars.take k) (source.chars.drop k)
  rw [List.take_append_drop] at here
  exact ⟨line, here, within⟩

/-- The covered characters of a line are those from the column of the first
    caret to that of the end of the carets. For, a character in these columns
    has its offset between those of the ends, since on the lines of the ends it
    is on the right side of them and on the lines between on any side. -/
theorem coversAt_iff (ordered : a ≤ b) (inside : b ≤ source.chars.length)
    (here : source.lines[n]? = some row)
    (fromStart : (source.positionAt a).line ≤ n)
    (toStop : n ≤ (source.positionAt b).line) :
    let span : Span := ⟨source.positionAt a, source.positionAt b, source⟩
    (∃ c, source.CoversAt a b n column c) ↔
      span.firstCaret n ≤ column ∧ column < span.caretEnd n row := by
  intro span
  have last : span.lastLine = (source.positionAt b).line :=
    Nat.max_eq_left (fromStart.trans toStop)
  have firstCaret : span.firstCaret n =
      if n = (source.positionAt a).line then (source.positionAt a).column else 0 := rfl
  have caretEnd : span.caretEnd n row =
      if n = (source.positionAt b).line then (source.positionAt b).column
      else row.length := by
    rw [Span.caretEnd, last]
  rw [firstCaret, caretEnd]
  constructor
  · rintro ⟨c, covers⟩
    obtain ⟨within, _⟩ := List.getElem?_eq_some_iff.mp (covers.getElem? here)
    obtain ⟨offset, from_a, to_b, _, _, place⟩ := covers
    have afterStart := source.positionAt_forward from_a (by omega)
    have beforeStop := source.positionAt_forward to_b.le inside
    rw [place] at afterStart beforeStop
    dsimp only at afterStart beforeStop
    constructor
    · split <;> omega
    · split <;> omega
  · rintro ⟨low, high⟩
    have within : column < row.length := by
      split at high
      case isFalse => exact high
      case isTrue same =>
        obtain ⟨_, onLine, bound⟩ := source.exists_line_positionAt b
        rw [← same, here] at onLine
        cases onLine
        omega
    obtain ⟨before, ahead, whole, single, place⟩ :=
      exists_place here (List.getElem?_eq_getElem within)
    have length : before.length < source.chars.length := by
      rw [whole, List.length_append, List.length_cons]
      omega
    have char : source.chars[before.length]? = some row[column] := by
      rw [whole]
      simp
    have position : source.positionAt before.length = ⟨before.length, n, column⟩ := by
      rw [Source.positionAt, whole, List.take_left, place]
    refine ⟨_, before.length, ?_, ?_, char, single, position⟩
    · by_contra early
      have afterwards :=
        source.positionAt_forward (Nat.le_of_not_le early) (ordered.trans inside)
      rw [position] at afterwards
      dsimp only at afterwards
      split at low <;> omega
    · by_contra late
      have afterwards := source.positionAt_forward (Nat.le_of_not_lt late) length.le
      rw [position] at afterwards
      dsimp only at afterwards
      split at high <;> omega

end Source

/-!
### Rows

The rows of one line show it, whatever the other lines are; the rows of all
lines, one after another, are the excerpt. No row holds a line feed, so the
excerpt is divided into the rows again by its line feeds.
-/

/-- The two rows show line `n` of the source and which of its characters are
    covered from `a` up to `b`. The upper one is the line without its tabs,
    behind the gutter on the first line and behind as many blanks on the others.
    The lower one has carets in one block, which moved to the left by the width
    of the gutter stands under the covered characters; a single caret where the
    block would begin if there are none. Where no tab is left out, every caret
    has a covered character right above it, if the line has any. -/
structure ShowsLine (source : Source) (a b : Nat) (gutter : List Char) (n : Nat)
    (text carets : List Char) : Prop where
  text_eq : ∃ line, source.lines[n]? = some line ∧
    text =
      (if n = (source.positionAt a).line then gutter else blanks gutter.length) ++
        line.filter (· != '\t')
  carets_eq : ∃ first count, 0 < count ∧
    carets = blanks (gutter.length + first) ++ List.replicate count '^' ∧
    ((∃ column c, source.CoversAt a b n column c) →
      ∀ column, (∃ c, source.CoversAt a b n column c) ↔
        first ≤ column ∧ column < first + count) ∧
    ((¬ ∃ column c, source.CoversAt a b n column c) →
      count = 1 ∧
        first =
          if n = (source.positionAt a).line then (source.positionAt a).column else 0)
  under : ∀ line, source.lines[n]? = some line → '\t' ∉ line →
    (∃ column c, source.CoversAt a b n column c) →
    ∀ place, carets[place]? = some '^' →
      ∃ column c, place = gutter.length + column ∧
        source.CoversAt a b n column c ∧ text[place]? = some c

/-- A caret stands in the block. -/
theorem bounds_of_caret {margin count place : Nat}
    (caret : (blanks margin ++ List.replicate count '^')[place]? = some '^') :
    margin ≤ place ∧ place < margin + count := by
  have length : (blanks margin).length = margin := List.length_replicate
  rw [List.getElem?_append, length] at caret
  split at caret
  case isTrue early =>
    rw [blanks, List.getElem?_replicate_of_lt early] at caret
    cases caret
  case isFalse late =>
    rw [List.getElem?_replicate] at caret
    split at caret
    case isTrue within => omega
    case isFalse => cases caret

section

variable {source : Source} {a b n : Nat} {line : List Char}

/-- The rows of a line show it. -/
theorem showsLine_rowsOf (ordered : a ≤ b) (inside : b ≤ source.chars.length)
    (gutter : List Char) (here : source.lines[n]? = some line)
    (fromStart : (source.positionAt a).line ≤ n)
    (toStop : n ≤ (source.positionAt b).line) :
    ∃ text carets, Span.rowsOf ⟨source.positionAt a, source.positionAt b, source⟩
      gutter n line = [text, carets] ∧
      ShowsLine source a b gutter n text carets := by
  let span : Span := ⟨source.positionAt a, source.positionAt b, source⟩
  let margin := if n = (source.positionAt a).line then gutter else blanks gutter.length
  let first := span.firstCaret n
  let count := max 1 (span.caretEnd n line - first)
  have covered (column : Nat) :
      (∃ c, source.CoversAt a b n column c) ↔
        first ≤ column ∧ column < span.caretEnd n line :=
    Source.coversAt_iff ordered inside here fromStart toStop
  have block (some : ∃ column c, source.CoversAt a b n column c) :
      first + count = span.caretEnd n line := by
    obtain ⟨column, covers⟩ := some
    have bounds := (covered column).mp covers
    change first + max 1 (span.caretEnd n line - first) = _
    omega
  refine ⟨margin ++ line.filter (· != '\t'),
    blanks (gutter.length + first) ++ List.replicate count '^', rfl, ?_, ?_, ?_⟩
  · exact ⟨line, here, rfl⟩
  · refine ⟨first, count, Nat.le_max_left 1 _, rfl, ?_, ?_⟩
    · intro some column
      rw [covered, block some]
    · intro none
      have nothing : ¬ (first ≤ first ∧ first < span.caretEnd n line) :=
        fun bounds => none ⟨first, (covered first).mpr bounds⟩
      refine ⟨?_, rfl⟩
      change max 1 (span.caretEnd n line - first) = 1
      omega
  · intro line' here' noTab some place caret
    cases here.symm.trans here'
    obtain ⟨low, high⟩ := bounds_of_caret caret
    rw [Nat.add_assoc, block some] at high
    obtain ⟨column, rfl⟩ :=
      Nat.exists_eq_add_of_le ((Nat.le_add_right gutter.length first).trans low)
    obtain ⟨c, covers⟩ := (covered column).mpr
      ⟨Nat.le_of_add_le_add_left low, Nat.lt_of_add_lt_add_left high⟩
    refine ⟨column, c, rfl, covers, ?_⟩
    have width : margin.length = gutter.length := by
      dsimp only [margin]
      split
      · rfl
      · exact List.length_replicate
    have whole : line.filter (· != '\t') = line := by
      rw [List.filter_eq_self]
      intro d member
      have other : d ≠ '\t' := by
        rintro rfl
        exact noTab member
      simpa using other
    rw [whole, List.getElem?_append_right (by omega), width, Nat.add_sub_cancel_left]
    exact covers.getElem? here

/-- No row breaks, if the gutter does not. -/
theorem not_mem_rowsOf {span : Span} {gutter row : List Char}
    (bare : '\n' ∉ gutter) (single : '\n' ∉ line)
    (member : row ∈ span.rowsOf gutter n line) : '\n' ∉ row := by
  have noFeed (count : Nat) : '\n' ∉ blanks count := by simp [blanks]
  simp only [Span.rowsOf, List.mem_cons, List.not_mem_nil, or_false] at member
  rcases member with rfl | rfl
  · have left :
        '\n' ∉ if n = span.start.line then gutter else blanks gutter.length := by
      split
      · exact bare
      · exact noFeed _
    simp [left, single]
  · simp [noFeed]

end

/-- What is underlined from `a` up to `b` consists of two rows for each line
    from that of the one position to that of the other, and they show the line. -/
theorem excerpt_marks_covered {source : Source} {a b : Nat} {gutter : String}
    (ordered : a ≤ b)
    (inside : b ≤ source.chars.length) (bare : '\n' ∉ gutter.toList) :
    let span : Span := ⟨source.positionAt a, source.positionAt b, source⟩
    span.start.line ≤ span.stop.line ∧
      ∃ rows : Nat → List (List Char),
        textLines (span.underline gutter).toList =
          (List.range' span.start.line
              (span.stop.line + 1 - span.start.line)).flatMap rows ∧
        ∀ n, span.start.line ≤ n → n ≤ span.stop.line →
          ∃ text carets, rows n = [text, carets] ∧
            ShowsLine source a b gutter.toList n text carets := by
  intro span
  have downward : span.start.line ≤ span.stop.line := by
    have onward := source.positionAt_forward ordered inside
    change (source.positionAt a).line ≤ (source.positionAt b).line
    omega
  have last : span.lastLine = span.stop.line := Nat.max_eq_left downward
  -- The stop stands on a line of the source, so all the lines shown are there.
  have present (n : Nat) (toStop : n ≤ span.stop.line) :
      source.lines[n]? = some (source.lines[n]?.getD []) := by
    obtain ⟨_, onLine, _⟩ := source.exists_line_positionAt b
    obtain ⟨within, _⟩ := List.getElem?_eq_some_iff.mp onLine
    rw [List.getElem?_eq_getElem (toStop.trans_lt within), Option.getD_some]
  refine ⟨downward,
    fun n => span.rowsOf gutter.toList n (source.lines[n]?.getD []), ?_, ?_⟩
  · rw [Span.underline, String.toList_ofList, textLines_intercalate, Span.excerpt, last]
    · have start : span.start.line ∈
          List.range' span.start.line (span.lastLine + 1 - span.start.line) :=
        List.mem_range'_1.mpr ⟨le_rfl, by omega⟩
      exact List.ne_nil_of_mem (List.mem_flatMap.mpr ⟨_, start, List.mem_cons_self⟩)
    · intro row member
      obtain ⟨n, among, shown⟩ := List.mem_flatMap.mp member
      obtain ⟨_, toStop⟩ := List.mem_range'_1.mp among
      have single :=
        not_mem_of_mem_textLines (List.mem_of_getElem? (present n (by omega)))
      exact not_mem_rowsOf bare single shown
  · intro n fromStart toStop
    exact showsLine_rowsOf ordered inside gutter.toList
      (present n toStop) fromStart toStop

/-- Two lines, covered from the opening bracket to the digit on the second one:
    the theorem at this source. -/
theorem excerpt_marks_covered_of_open_bracket :
    let source : Source := ⟨"sheet", "x = (1 +\n   2)"⟩
    let span : Span := ⟨source.positionAt 4, source.positionAt 13, source⟩
    (4 ≤ 13 ∧ 13 ≤ source.chars.length ∧ '\n' ∉ ">>> ".toList) ∧
      ∃ rows : Nat → List (List Char),
        textLines (span.underline ">>> ").toList =
          (List.range' span.start.line
              (span.stop.line + 1 - span.start.line)).flatMap rows ∧
        ∀ n, span.start.line ≤ n → n ≤ span.stop.line →
          ∃ text carets, rows n = [text, carets] ∧
            ShowsLine source 4 13 ">>> ".toList n text carets :=
  ⟨⟨by decide, by decide, by decide⟩,
    (excerpt_marks_covered (by decide) (by decide) (by decide)).2⟩

/-- Under the empty line stands a single caret. The tab is left out, so the
    carets of the first line stand one column too far to the right. -/
example :
    let source : Source := ⟨"sheet", "\t(1\n\n+"⟩
    Span.underline ⟨source.positionAt 1, source.positionAt 5, source⟩ "> " =
      "> (1\n   ^^\n  \n  ^\n  +\n  ^" := by
  decide +kernel

end Abacus
