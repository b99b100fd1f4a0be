/-
Module: Abacus.Proofs.LetterCase
Purpose: The case of ASCII letters means nothing in a submission. A text in
  other letter case is divided at the same places, each of its pieces means the
  same, and so it has the same tokens at the same positions. What the later
  stages make of them does not depend on the text either, so the two submissions
  cannot be told apart but by the excerpts in their reports.
Main exports: apply_toLower, lowerCase_map_toLower, splitPiece_map_toLower,
  placePieces_map_toLower, letter_case_is_ignored
-/
import Abacus.Proofs.Lexemes
import Abacus.Proofs.Relocation

namespace Abacus

/-!
### Letters

Lower-casing on ASCII changes 26 characters and leaves the others alone, so a
question about a character has the same answer for its lower-case form as soon
as the 26 letters have been tried. The sorts of characters that the division
asks for are of that kind.
-/

/-- The 26 letters of ASCII that have another lower-case form. -/
def capitals : List Char :=
  (List.range 26).map fun n => Char.ofNat ('A'.toNat + n)

theorem toLower_eq_self_or_mem_capitals (c : Char) : c.toLower = c ∨ c ∈ capitals := by
  unfold Char.toLower
  split
  case isFalse => exact .inl rfl
  case isTrue capital =>
    have first : 'A'.toNat ≤ c.toNat := capital.1
    have last : c.toNat ≤ 'Z'.toNat := capital.2
    refine .inr (List.mem_map.mpr ⟨c.toNat - 'A'.toNat, List.mem_range.mpr ?_, ?_⟩)
    · have letters : 'Z'.toNat = 'A'.toNat + 25 := rfl
      omega
    · rw [Nat.add_sub_cancel' first, Char.ofNat_toNat]

/-- What takes no capital apart from its small letter takes no character apart
    from its lower-case form. -/
theorem apply_toLower {α : Type} [DecidableEq α] (f : Char → α)
    (blind : capitals.all (fun c => f c.toLower = f c) = true) (c : Char) :
    f c.toLower = f c := by
  rcases toLower_eq_self_or_mem_capitals c with same | capital
  · rw [same]
  · exact of_decide_eq_true (List.all_eq_true.mp blind c capital)

/-- A character of a sort without capitals is its own lower-case form. -/
theorem toLower_of_sort {p : Char → Bool}
    (noCapital : capitals.all (fun c => !p c) = true) {c : Char}
    (holds : p c = true) : c.toLower = c := by
  rcases toLower_eq_self_or_mem_capitals c with same | capital
  · exact same
  · have fails : p c = false := by simpa using List.all_eq_true.mp noCapital c capital
    rw [fails] at holds
    cases holds

theorem toLower_eq_iff {d : Char}
    (caseless : capitals.all (fun c => (c.toLower == d) = (c == d)) = true)
    {c : Char} : c.toLower = d ↔ c = d := by
  rw [← beq_iff_eq, apply_toLower (· == d) caseless c, beq_iff_eq]

theorem isDigit_toLower (c : Char) : c.toLower.isDigit = c.isDigit :=
  apply_toLower Char.isDigit (by decide) c

theorem opensName_toLower (c : Char) : opensName c.toLower = opensName c :=
  apply_toLower opensName (by decide) c

theorem continuesName_toLower (c : Char) : continuesName c.toLower = continuesName c :=
  apply_toLower continuesName (by decide) c

theorem isCaseIgnorable_toLower (c : Char) :
    Text.isCaseIgnorable c.toLower = Text.isCaseIgnorable c :=
  apply_toLower Text.isCaseIgnorable (by decide) c

theorem isCased_toLower (c : Char) : Text.isCased c.toLower = Text.isCased c :=
  apply_toLower Text.isCased (by decide) c

theorem lowerForm_toLower (c : Char) : Text.lowerForm c.toLower = Text.lowerForm c :=
  apply_toLower Text.lowerForm (by decide) c

/-!
### Runs of characters

A run goes as far in a text in lower case as in the text itself, if the sort of
its characters does not tell the case. What is taken off and what is left are
the lower-case forms of what they were.
-/

section

variable {p : Char → Bool} (blind : ∀ c, p c.toLower = p c)

include blind

theorem takeWhile_map_toLower (text : List Char) :
    (text.map Char.toLower).takeWhile p = (text.takeWhile p).map Char.toLower := by
  have same : p ∘ Char.toLower = p := funext blind
  rw [List.takeWhile_map, same]

theorem dropWhile_map_toLower (text : List Char) :
    (text.map Char.toLower).dropWhile p = (text.dropWhile p).map Char.toLower := by
  have same : p ∘ Char.toLower = p := funext blind
  rw [List.dropWhile_map, same]

end

theorem map_toLower_of_digits {digits : List Char}
    (allDigits : ∀ c ∈ digits, c.isDigit = true) :
    digits.map Char.toLower = digits := by
  have same : ∀ c ∈ digits, c.toLower = c :=
    fun c member => toLower_of_sort (by decide) (allDigits c member)
  exact (List.map_congr_left same).trans (List.map_id' digits)

/-!
### Lower case

Lower-casing by the whole table of Unicode, after ASCII letters have been
lower-cased, gives what it gives without that. The capital sigma has two small
forms, chosen by the letters around it; these are letters with a case before and
after.
-/

theorem leadsToCased_map_toLower (text : List Char) :
    Text.leadsToCased (text.map Char.toLower) = Text.leadsToCased text := by
  unfold Text.leadsToCased
  rw [dropWhile_map_toLower isCaseIgnorable_toLower]
  cases text.dropWhile Text.isCaseIgnorable with
  | nil => rfl
  | cons c rest => exact isCased_toLower c

theorem lowerFormBetween_map_toLower (before : List Char) (c : Char)
    (after : List Char) :
    Text.lowerFormBetween (before.map Char.toLower) c.toLower (after.map Char.toLower) =
      Text.lowerFormBetween before c after := by
  have sigma : c.toLower = 'Σ' ↔ c = 'Σ' := toLower_eq_iff (by decide)
  simp only [Text.lowerFormBetween, leadsToCased_map_toLower, lowerForm_toLower, sigma]

theorem lowerCaseAfter_map_toLower (before text : List Char) :
    Text.lowerCaseAfter (before.map Char.toLower) (text.map Char.toLower) =
      Text.lowerCaseAfter before text := by
  induction text generalizing before with
  | nil => rfl
  | cons c text inductionHypothesis =>
      rw [List.map_cons, Text.lowerCaseAfter, Text.lowerCaseAfter,
        lowerFormBetween_map_toLower, ← List.map_cons, inductionHypothesis]

/-- A text has the same lower-case form in either case of its ASCII letters,
    whatever the letters between them. -/
theorem lowerCase_map_toLower (text : List Char) :
    Text.lowerCase (text.map Char.toLower) = Text.lowerCase text :=
  lowerCaseAfter_map_toLower [] text

/-!
### Pieces

The division into pieces goes by sorts of characters that do not tell the case,
so it is the same; and a piece in lower case means the same, since a word is
lower-cased in any case. Positions go by line feeds and numbers of characters,
which lower-casing keeps.
-/

theorem takeDigits_map_toLower (text : List Char) :
    (text.map Char.toLower).takeWhile Char.isDigit = text.takeWhile Char.isDigit := by
  rw [takeWhile_map_toLower isDigit_toLower]
  exact map_toLower_of_digits fun c member => List.mem_takeWhile_imp member

/-- A text in lower case goes on with the same character, if that is no letter. -/
theorem head?_map_toLower_iff {d : Char}
    (caseless : capitals.all (fun c => (c.toLower == d) = (c == d)) = true)
    (text : List Char) :
    (text.map Char.toLower).head? = some d ↔ text.head? = some d := by
  cases text with
  | nil => rfl
  | cons c text =>
      rw [List.map_cons, List.head?_cons, List.head?_cons, Option.some_inj,
        Option.some_inj]
      exact toLower_eq_iff caseless

/-- The first piece of a text in lower case is the first piece of the text, and
    it means the same. -/
theorem splitPiece_map_toLower (c : Char) (text : List Char) :
    splitPiece c.toLower (text.map Char.toLower) =
        ((splitPiece c text).1.map Char.toLower,
          (splitPiece c text).2.map Char.toLower) ∧
      readPiece ((splitPiece c text).1.map Char.toLower) =
        readPiece (splitPiece c text).1 := by
  by_cases digit : c.isDigit = true
  · -- A number has no letters, so it stays as it is.
    have same : c.toLower = c := toLower_of_sort (by decide) digit
    have run : (c :: text.takeWhile Char.isDigit).map Char.toLower =
        c :: text.takeWhile Char.isDigit :=
      map_toLower_of_digits (isDigit_of_mem_digits digit text)
    have whole := dropWhile_map_toLower isDigit_toLower text
    by_cases point : (text.dropWhile Char.isDigit).head? = some '.'
    · obtain ⟨fraction, point⟩ := List.head?_eq_some_iff.mp point
      have point' : (text.map Char.toLower).dropWhile Char.isDigit =
          '.' :: fraction.map Char.toLower := by
        rw [whole, point]
        rfl
      have digits : (fraction.takeWhile Char.isDigit).map Char.toLower =
          fraction.takeWhile Char.isDigit :=
        map_toLower_of_digits fun d member => List.mem_takeWhile_imp member
      have piece :
          ((c :: text.takeWhile Char.isDigit) ++
            '.' :: fraction.takeWhile Char.isDigit).map Char.toLower =
          (c :: text.takeWhile Char.isDigit) ++
            '.' :: fraction.takeWhile Char.isDigit := by
        rw [List.map_append, run, List.map_cons, digits]
        rfl
      rw [same, splitPiece_of_point digit point',
        splitPiece_of_point digit point, piece, takeDigits_map_toLower,
        takeDigits_map_toLower, dropWhile_map_toLower isDigit_toLower]
      exact ⟨rfl, rfl⟩
    · have noPoint :
          ((text.map Char.toLower).dropWhile Char.isDigit).head? ≠ some '.' := by
        rw [whole]
        exact fun ahead => point ((head?_map_toLower_iff (by decide) _).mp ahead)
      rw [same, splitPiece_of_digits digit noPoint,
        splitPiece_of_digits digit point, run, takeDigits_map_toLower, whole]
      exact ⟨rfl, rfl⟩
  rw [Bool.not_eq_true] at digit
  by_cases opens : opensName c = true
  · -- A word means its lower-case form.
    have digit' : c.toLower.isDigit = false := (isDigit_toLower c).trans digit
    have opens' : opensName c.toLower = true := (opensName_toLower c).trans opens
    rw [splitPiece_of_opensName digit opens, splitPiece_of_opensName digit' opens',
      takeWhile_map_toLower continuesName_toLower,
      dropWhile_map_toLower continuesName_toLower]
    refine ⟨rfl, ?_⟩
    rw [List.map_cons, readPiece_of_opensName digit opens, readPiece_of_opensName
        digit' opens', readWord, readWord, ← List.map_cons, lowerCase_map_toLower]
  rw [Bool.not_eq_true] at opens
  have same : c.toLower = c :=
    @toLower_of_sort (fun c => !opensName c) (by decide) c (by rw [opens]; rfl)
  by_cases arrow : c = '<'
  · subst arrow
    by_cases goesOn : text.head? = some '-'
    · obtain ⟨rest, rfl⟩ := List.head?_eq_some_iff.mp goesOn
      exact ⟨rfl, rfl⟩
    · have noArrow : (text.map Char.toLower).head? ≠ some '-' :=
        fun ahead => goesOn ((head?_map_toLower_iff (by decide) text).mp ahead)
      rw [same, splitPiece_of_less noArrow, splitPiece_of_less goesOn]
      exact ⟨rfl, rfl⟩
  · rw [same, splitPiece_of_other arrow digit opens,
      splitPiece_of_other arrow digit opens, List.map_cons, same]
    exact ⟨rfl, rfl⟩

/-- Characters advance a position alike in either case. -/
theorem after_map_toLower (position : Position) (text : List Char) :
    position.after (text.map Char.toLower) = position.after text := by
  have feed (c : Char) : c.toLower = '\n' ↔ c = '\n' := toLower_eq_iff (by decide)
  have step (position : Position) (c : Char) :
      position.advance c.toLower = position.advance c := by
    simp only [Position.advance, feed]
  induction text generalizing position with
  | nil => rfl
  | cons c text inductionHypothesis =>
      rw [List.map_cons, Position.after_cons, Position.after_cons, step,
        inductionHypothesis]

/-- A text in lower case has the same tokens at the same positions, or the same
    fault. By induction on what is left of the text after its first piece. -/
theorem placePieces_map_toLower (source : Source) (position : Position)
    (text : List Char) :
    placePieces source position (pieces (text.map Char.toLower)) =
      placePieces source position (pieces text) := by
  match text with
  | [] => rfl
  | c :: text =>
      obtain ⟨parts, read⟩ := splitPiece_map_toLower c text
      have rest (position : Position) :=
        placePieces_map_toLower source position (splitPiece c text).2
      rw [List.map_cons, pieces_cons, pieces_cons, parts, placePieces,
        placePieces, read, after_map_toLower]
      dsimp only
      rw [rest]
termination_by text.length
decreasing_by exact length_splitPiece_lt c text

/-!
### Two submissions

The tokens of the two texts differ in the sources of their spans only, and what
the later stages make of these is told apart by nothing but the sources. What is
alike is what a reader of the outcome sees without looking into the text.
-/

/-- What a token is and where it stands, but for the text it stands in. -/
def Token.seen (token : Token) : Kind × Option Payload × Position × Position :=
  (token.kind, token.payload?, token.span.start, token.span.stop)

/-- Diagnostics of one sort, with one message, at the same positions, and met in
    the same contexts. -/
structure Diagnostic.Alike (first second : Diagnostic) : Prop where
  kindName : first.kindName = second.kindName
  message : first.message = second.message
  start : first.span.start = second.span.start
  stop : first.span.stop = second.span.stop
  traceback : first.traceback = second.traceback

/-- Outcomes that are both results, of which `same` holds, or both diagnostics
    that are alike. -/
def OutcomesAlike {α : Type} (same : α → α → Prop) :
    Except Diagnostic α → Except Diagnostic α → Prop
  | .ok result, .ok result' => same result result'
  | .error diagnostic, .error diagnostic' => diagnostic.Alike diagnostic'
  | _, _ => False

/-- The names of a scope and the values they are bound to. -/
def Scope.values (scope : Scope) : List (String × Value) :=
  scope.bindings.map fun (name, x) => (name, x.value)

section

variable {move : Source → Source}

/-- Diagnostics that become one in other sources are alike. -/
theorem alike_of_mapSource {first second : Diagnostic}
    (same : first.mapSource move = second.mapSource move) : first.Alike second where
  kindName := by simpa using congrArg Diagnostic.kindName same
  message := by simpa using congrArg Diagnostic.message same
  start := by simpa using congrArg (Span.start ∘ Diagnostic.span) same
  stop := by simpa using congrArg (Span.stop ∘ Diagnostic.span) same
  traceback := by simpa using congrArg Diagnostic.traceback same

/-- Outcomes that become one in other sources are alike, if results that become
    one are. -/
theorem outcomesAlike_of_moveOutcome {α : Type} {moveResult : α → α}
    {sameResult : α → α → Prop}
    (results : ∀ result result', moveResult result = moveResult result' →
      sameResult result result') {first second : Except Diagnostic α}
    (same : moveOutcome move moveResult first = moveOutcome move moveResult second) :
    OutcomesAlike sameResult first second := by
  cases first with
  | error diagnostic =>
      cases second with
      | error diagnostic' => exact alike_of_mapSource (Except.error.inj same)
      | ok result => cases same
  | ok result =>
      cases second with
      | error diagnostic => cases same
      | ok result' => exact results result result' (Except.ok.inj same)

theorem map_seen_mapSource (tokens : List Token) :
    (tokens.map (Token.mapSource move)).map Token.seen = tokens.map Token.seen := by
  rw [List.map_map]
  rfl

theorem map_values_mapSource (environment : Environment) :
    (environment.mapSource move).scopes.map Scope.values =
      environment.scopes.map Scope.values := by
  have scopes : (environment.mapSource move).scopes =
      environment.scopes.map (Scope.mapSource move) := rfl
  have values : Scope.values ∘ Scope.mapSource move = Scope.values := by
    funext scope
    simp [Scope.values, Scope.mapSource, moveBindings]
  rw [scopes, List.map_map, values]

/-- Texts that differ only in letter case have the same tokens, up to the
    sources that these lie in. -/
theorem tokens_of_sameLetters {first second : Source}
    (sameLetters : first.chars.map Char.toLower = second.chars.map Char.toLower)
    (sameSource : move first = move second) :
    moveOutcome move (List.map (Token.mapSource move)) first.tokens =
      moveOutcome move (List.map (Token.mapSource move)) second.tokens := by
  unfold Source.tokens
  rw [← placePieces_mapSource, ← placePieces_mapSource, sameSource,
    ← placePieces_map_toLower, sameLetters, placePieces_map_toLower]

end

/-- The case of ASCII letters is ignored. Texts that differ only in it have the
    same tokens at the same positions, or faults with the same message at the
    same positions, whatever their names. Under one name, and from one
    environment, they come to the same value, or to faults of the same sort with
    the same message, positions and traceback; and they leave the same names
    bound to the same values in every scope. -/
theorem letter_case_is_ignored {first second : Source}
    (sameLetters : first.chars.map Char.toLower = second.chars.map Char.toLower) :
    OutcomesAlike (fun tokens tokens' =>
      tokens.map Token.seen = tokens'.map Token.seen) first.tokens second.tokens ∧
      (first.label = second.label → ∀ environment,
        OutcomesAlike (fun x y => x.value = y.value)
          (run first environment).outcome (run second environment).outcome ∧
        (run first environment).environment.scopes.map Scope.values =
          (run second environment).environment.scopes.map Scope.values) := by
  constructor
  · let move : Source → Source := fun _ => second
    have same : moveOutcome move (List.map (Token.mapSource move)) first.tokens =
        moveOutcome move (List.map (Token.mapSource move)) second.tokens :=
      tokens_of_sameLetters sameLetters rfl
    refine outcomesAlike_of_moveOutcome ?_ same
    intro tokens tokens' moved
    rw [← map_seen_mapSource tokens, moved, map_seen_mapSource]
  · intro sameLabel environment
    let move : Source → Source :=
      fun source => { source with content := second.content }
    have keeps : ∀ source, (move source).label = source.label := fun source => rfl
    have sameSource : move first = move second :=
      congrArg (Source.mk · second.content) sameLabel
    have same : moveOutcome move (List.map (Token.mapSource move)) first.tokens =
        moveOutcome move (List.map (Token.mapSource move)) second.tokens :=
      tokens_of_sameLetters sameLetters sameSource
    obtain ⟨outcomes, environments⟩ := run_eq_of_tokens keeps same environment
    refine ⟨outcomesAlike_of_moveOutcome ?_ outcomes, ?_⟩
    · intro x y moved
      have values : (x.mapSource move).value = (y.mapSource move).value :=
        congrArg Number.value moved
      exact values
    · rw [← map_values_mapSource, environments, map_values_mapSource]

/-- A keyword, an assignment sign that is a word, and a name with a capital
    sigma at its end. -/
theorem letter_case_is_ignored_of_sigma :
    let first : Source := { label := "<test>", content := "Let Größe_Σ BE 2 ^ X" }
    let second : Source := { label := "<test>", content := "lET gRößE_Σ be 2 ^ x" }
    let environment := Environment.empty.set "x" { value := .int 3 }
    (first.chars.map Char.toLower = second.chars.map Char.toLower ∧
        first.label = second.label) ∧
      OutcomesAlike (fun x y => x.value = y.value)
        (run first environment).outcome (run second environment).outcome ∧
      (run first environment).environment.scopes.map Scope.values =
        (run second environment).environment.scopes.map Scope.values := by
  intro first second environment
  have sameLetters :
      first.chars.map Char.toLower = second.chars.map Char.toLower := by decide
  exact ⟨⟨sameLetters, rfl⟩, (letter_case_is_ignored sameLetters).2 rfl environment⟩

end Abacus
