/-
Module: Abacus.Proofs.Transcript
Purpose: What the interactive shell writes on a whole input. Its lines are those
  between the line feeds of the input, whatever other marks of the end of a line
  they carry; they are taken in turn, each against the bindings that all the
  lines before it have left, until one of them asks to stop.
Main exports: Shell.Cut, Shell.Stripped, Shell.SaysExit, Shell.turn,
  Shell.bareLines_of_cut, Shell.preceded_converse, Shell.transcript_of_input
-/
import Abacus.Shell
import Abacus.Proofs.LetterCase
import Abacus.Proofs.Lines
import Mathlib.Data.List.Forall2

namespace Abacus.Shell

/-!
### Lines

What the lines of an input are, said of its text: the pieces between the line
feeds, each without the marks at its end. A last piece that no line feed ends is
a line as well.
-/

/-- The division of a text after each of its line feeds. A last piece without
    one is not empty. -/
inductive Cut : List Char → List (List Char) → Prop where
  | nothing : Cut [] []
  | unended {line : List Char} (nonempty : line ≠ []) (single : '\n' ∉ line) :
      Cut line [line]
  | ended {line text : List Char} {pieces : List (List Char)}
      (single : '\n' ∉ line) (rest : Cut text pieces) :
      Cut (line ++ '\n' :: text) ((line ++ ['\n']) :: pieces)

/-- A character that is taken off the end of a line. -/
def endsLine (c : Char) : Bool :=
  c == '\n' || c == '\r'

/-- Whether `line` is what is left of `piece` without the line feeds and
    carriage returns at its end. -/
def Stripped (piece line : List Char) : Prop :=
  (∃ ends, piece = line ++ ends ∧ ∀ c ∈ ends, endsLine c = true) ∧
    ∀ c, line.getLast? = some c → endsLine c = false

/-- Whether the line is the word that stops the shell, in either case and with
    white space around it. -/
def SaysExit (line : List Char) : Prop :=
  ∃ before word after, line = before ++ word ++ after ∧
    (∀ c ∈ before ++ after, Text.isBlank c = true) ∧
    word.map Char.toLower = ['e', 'x', 'i', 't']

/-- Every text has a division. -/
theorem Cut.exists (text : List Char) : ∃ pieces, Cut text pieces := by
  induction text with
  | nil => exact ⟨[], .nothing⟩
  | cons c text inductionHypothesis =>
      obtain ⟨pieces, cut⟩ := inductionHypothesis
      by_cases feed : c = '\n'
      · subst feed
        have single : '\n' ∉ [] := List.not_mem_nil
        exact ⟨['\n'] :: pieces, .ended single cut⟩
      · cases cut with
        | nothing => exact ⟨[[c]], .unended (by simp) (by simpa using Ne.symm feed)⟩
        | unended nonempty single =>
            refine ⟨[c :: text], .unended (by simp) ?_⟩
            simp [Ne.symm feed, single]
        | @ended line text pieces single rest =>
            have single' : '\n' ∉ c :: line := by simp [Ne.symm feed, single]
            exact ⟨((c :: line) ++ ['\n']) :: pieces, .ended single' rest⟩

theorem inputLines_of_single {line : List Char} (nonempty : line ≠ [])
    (single : '\n' ∉ line) : inputLines line = [line] := by
  simp [inputLines, textLines_of_single single, nonempty]

theorem inputLines_append {line : List Char} (single : '\n' ∉ line)
    (text : List Char) :
    inputLines (line ++ '\n' :: text) = line :: inputLines text := by
  have more := textLines_ne_nil text
  simp only [inputLines, textLines_append single,
    List.getLast?_cons_of_ne_nil more, List.dropLast_cons_of_ne_nil more]
  split <;> rfl

/-!
### The ends of lines

Marks are taken off the end of a line until none is left, so one that has been
stripped stays as it is, and a carriage return before the line feed makes no
difference.
-/

theorem chomp_append {ends : List Char} (line : List Char)
    (inEnds : ∀ c ∈ ends, endsLine c = true) : chomp (line ++ ends) = chomp line := by
  have inside : ∀ c ∈ ends.reverse, endsLine c = true :=
    fun c member => inEnds c (List.mem_reverse.mp member)
  unfold chomp
  rw [List.reverse_append]
  exact congrArg List.reverse (List.dropWhile_append_of_pos inside)

theorem chomp_of_bare {line : List Char}
    (bare : ∀ c, line.getLast? = some c → endsLine c = false) : chomp line = line := by
  have ends : RunEnds endsLine line.reverse :=
    fun c last => bare c (by rwa [List.head?_reverse] at last)
  have kept : line.reverse.dropWhile endsLine = line.reverse :=
    @dropWhile_run endsLine [] line.reverse (by simp) ends
  exact (congrArg List.reverse kept).trans line.reverse_reverse

theorem stripped_chomp (piece : List Char) : Stripped piece (chomp piece) := by
  refine ⟨⟨(piece.reverse.takeWhile endsLine).reverse, ?_, ?_⟩, ?_⟩
  · have parts := List.takeWhile_append_dropWhile (p := endsLine) (l := piece.reverse)
    have reversed := congrArg List.reverse parts
    rw [List.reverse_append, List.reverse_reverse] at reversed
    exact reversed.symm
  · intro c member
    exact List.mem_takeWhile_imp (List.mem_reverse.mp member)
  · intro c last
    unfold chomp at last
    rw [List.getLast?_reverse] at last
    exact runEnds_dropWhile endsLine piece.reverse c last

/-- What is left of a piece is one line. -/
theorem stripped_iff {piece line : List Char} :
    Stripped piece line ↔ chomp piece = line := by
  constructor
  · rintro ⟨⟨ends, rfl, inEnds⟩, bare⟩
    exact (chomp_append line inEnds).trans (chomp_of_bare bare)
  · rintro rfl
    exact stripped_chomp piece

theorem chomp_chomp (line : List Char) : chomp (chomp line) = chomp line :=
  chomp_of_bare (stripped_chomp line).2

theorem chomp_feed (line : List Char) : chomp (line ++ ['\n']) = chomp line :=
  chomp_append line (by simp [endsLine])

/-- The lines of an input and the pieces of its division are the same but for
    what ends them. -/
theorem bareLines_of_cut {text : List Char} {pieces : List (List Char)}
    (cut : Cut text pieces) : (inputLines text).map chomp = pieces.map chomp := by
  induction cut with
  | nothing => rfl
  | unended nonempty single => rw [inputLines_of_single nonempty single]
  | ended single rest inductionHypothesis =>
      rw [inputLines_append single, List.map_cons, List.map_cons, chomp_feed,
        inductionHypothesis]

/-!
### Requests to stop

Whether a line stops the shell is decided after white space has been taken off
at both ends and letters have been lower-cased. The letters of the word are of
ASCII, where the two cases are enough.
-/

theorem isBlank_toLower (c : Char) : Text.isBlank c.toLower = Text.isBlank c :=
  apply_toLower Text.isBlank (by decide) c

/-- Only white space is trimmed. -/
theorem exists_trimBlank (text : List Char) :
    ∃ before after, text = before ++ Text.trimBlank text ++ after ∧
      ∀ c ∈ before ++ after, Text.isBlank c = true := by
  have front := List.takeWhile_append_dropWhile (p := Text.isBlank) (l := text)
  have back := List.takeWhile_append_dropWhile (p := Text.isBlank)
    (l := (text.dropWhile Text.isBlank).reverse)
  have turned := congrArg List.reverse back
  rw [List.reverse_append, List.reverse_reverse] at turned
  refine ⟨text.takeWhile Text.isBlank,
    ((text.dropWhile Text.isBlank).reverse.takeWhile Text.isBlank).reverse, ?_, ?_⟩
  · rw [List.append_assoc, Text.trimBlank, turned, front]
  · intro c member
    rcases List.mem_append.mp member with inFront | inBack
    · exact List.mem_takeWhile_imp inFront
    · exact List.mem_takeWhile_imp (List.mem_reverse.mp inBack)

/-- All white space at the ends is trimmed. -/
theorem trimBlank_surrounded {before word after : List Char}
    (blank : ∀ c ∈ before ++ after, Text.isBlank c = true)
    (nonempty : word ≠ []) (visible : ∀ c ∈ word, Text.isBlank c = false) :
    Text.trimBlank (before ++ word ++ after) = word := by
  have inBefore : ∀ c ∈ before, Text.isBlank c = true :=
    fun c member => blank c (List.mem_append_left _ member)
  have inAfter : ∀ c ∈ after.reverse, Text.isBlank c = true := fun c member =>
    blank c (List.mem_append_right _ (List.mem_reverse.mp member))
  have opens : RunEnds Text.isBlank (word ++ after) := by
    obtain ⟨first, others, rfl⟩ := List.exists_cons_of_ne_nil nonempty
    rintro c ⟨⟩
    exact visible first List.mem_cons_self
  have closes : RunEnds Text.isBlank word.reverse := fun c head =>
    visible c (List.mem_reverse.mp (List.mem_of_head? head))
  rw [Text.trimBlank, List.append_assoc, dropWhile_run inBefore opens,
    List.reverse_append, dropWhile_run inAfter closes, List.reverse_reverse]

/-- The shell stops at the word that asks for it and at no other line. -/
theorem isExit_iff {line : List Char} : isExit line = true ↔ SaysExit line := by
  unfold isExit
  rw [beq_iff_eq]
  constructor
  · intro lower
    obtain ⟨before, after, parts, blank⟩ := exists_trimBlank line
    exact ⟨before, Text.trimBlank line, after, parts, blank, lower⟩
  · rintro ⟨before, word, after, rfl, blank, lower⟩
    have nonempty : word ≠ [] := by
      rintro rfl
      cases lower
    have letters :
        ['e', 'x', 'i', 't'].all (fun d => !Text.isBlank d) = true := by decide
    have visible : ∀ c ∈ word, Text.isBlank c = false := by
      intro c member
      have letter : c.toLower ∈ ['e', 'x', 'i', 't'] :=
        lower ▸ List.mem_map_of_mem member
      rw [← isBlank_toLower]
      simpa using List.all_eq_true.mp letters c.toLower letter
    rw [trimBlank_surrounded blank nonempty visible]
    exact lower

/-!
### Conversations

The shell over a list of lines, as a fold: one turn after the other, from the
bindings and the texts that the turns before have left. What was written before
a turn stands in front of what it writes, and the first line that stops the
shell ends the fold.
-/

/-- What a conversation has come to: the bindings it has made, and what it has
    written to either stream. -/
structure Conversation where
  environment : Environment := .empty
  out : String := ""
  err : String := ""

/-- What a conversation comes to with one more line. The line is asked for; then
    a blank one changes nothing, and any other is run against the bindings that
    the lines before it have left. -/
def turn (setting : Setting) (past : Conversation) (line : List Char) : Conversation :=
  let asked := past.out ++ prompt
  if line.all Text.isBlank then
    { past with out := asked }
  else
    let result := Abacus.run
      { label := setting.label, content := String.ofList line } past.environment
    match result.outcome with
    | .ok x =>
        { environment := result.environment
          out := asked ++ x.text ++ "\n"
          err := past.err }
    | .error d =>
        let complaint := if setting.json
          then (ErrorReport.ofDiagnostic d).text ++ "\n" else d.report
        { environment := result.environment
          out := asked
          err := past.err ++ complaint }

theorem preceded_preceded (later : Console) (out out' err err' : String) :
    (later.preceded out' err').preceded out err =
      later.preceded (out ++ out') (err ++ err') := by
  simp [Console.preceded, String.append_assoc]

/-- What ends a line plays no part. -/
theorem converse_chomp (setting : Setting) (broken : Bool)
    (environment : Environment) (lines : List (List Char)) :
    converse setting broken environment (lines.map chomp) =
      converse setting broken environment lines := by
  induction lines generalizing environment with
  | nil => rfl
  | cons line lines inductionHypothesis =>
      have same : answer setting environment (chomp line) =
          answer setting environment line := by
        unfold answer
        rw [chomp_chomp]
      rw [List.map_cons, converse, converse, same]
      cases answer setting environment line with
      | stop => rfl
      | skip =>
          exact congrArg (Console.preceded · prompt "") (inductionHypothesis environment)
      | ran result =>
          exact congrArg (Console.preceded · (prompt ++ (written setting result).1)
              (written setting result).2)
            (inductionHypothesis result.environment)

/-- A line that does not stop the shell takes its turn. -/
theorem preceded_converse_cons (setting : Setting) (past : Conversation)
    {line : List Char} (lines : List (List Char)) (bare : chomp line = line)
    (goesOn : ¬ SaysExit line) :
    (converse setting false past.environment (line :: lines)).preceded past.out past.err =
      (converse setting false (turn setting past line).environment lines).preceded
        (turn setting past line).out
        (turn setting past line).err := by
  have notExit : isExit line = false :=
    Bool.eq_false_iff.mpr fun stops => goesOn (isExit_iff.mp stops)
  rw [converse, answer, bare, notExit]
  unfold turn
  by_cases blank : line.all Text.isBlank = true
  · simp only [blank, if_true, Bool.false_eq_true, if_false, preceded_preceded,
      String.append_empty]
  · simp only [blank, Bool.false_eq_true, if_false, preceded_preceded, written]
    cases (Abacus.run { label := setting.label, content := String.ofList line }
        past.environment).outcome with
    | ok x => simp [String.append_assoc]
    | error d => simp [Diagnostic.written]

/-- Lines that do not stop the shell take their turns one after another. -/
theorem preceded_converse (setting : Setting) (past : Conversation)
    (lines later : List (List Char)) (bare : ∀ line ∈ lines, chomp line = line)
    (goesOn : ∀ line ∈ lines, ¬ SaysExit line) :
    (converse setting false past.environment (lines ++ later)).preceded
        past.out past.err =
      (converse setting false (lines.foldl (turn setting) past).environment
        later).preceded
        (lines.foldl (turn setting) past).out
        (lines.foldl (turn setting) past).err := by
  induction lines generalizing past with
  | nil => rfl
  | cons line lines inductionHypothesis =>
      rw [List.cons_append,
        preceded_converse_cons setting past _ (bare line List.mem_cons_self)
          (goesOn line List.mem_cons_self)]
      exact inductionHypothesis (turn setting past line)
        (fun line member => bare line (List.mem_cons_of_mem _ member))
        fun line member => goesOn line (List.mem_cons_of_mem _ member)

/-- Lines are divided before the first one that stops the shell. -/
theorem exists_first_exit (lines : List (List Char)) :
    ∃ turns rest, lines = turns ++ rest ∧ (∀ line ∈ turns, ¬ SaysExit line) ∧
      (rest = [] ∨ ∃ exit later, rest = exit :: later ∧ SaysExit exit) := by
  induction lines with
  | nil => exact ⟨[], [], rfl, by simp, .inl rfl⟩
  | cons line lines inductionHypothesis =>
      by_cases stops : SaysExit line
      · exact ⟨[], line :: lines, rfl, by simp, .inr ⟨line, lines, rfl, stops⟩⟩
      · obtain ⟨turns, rest, rfl, goOn, first⟩ := inductionHypothesis
        exact ⟨line :: turns, rest, rfl, List.forall_mem_cons.mpr ⟨stops, goOn⟩, first⟩

/-- What is written on lines of which the first to stop the shell opens `rest`. -/
theorem converse_eq (setting : Setting) {turns rest : List (List Char)}
    (bare : ∀ line ∈ turns ++ rest, chomp line = line)
    (goOn : ∀ line ∈ turns, ¬ SaysExit line)
    (first : rest = [] ∨ ∃ exit later, rest = exit :: later ∧ SaysExit exit) :
    converse setting false .empty (turns ++ rest) =
      { out :=
          (turns.foldl (turn setting) {}).out ++ prompt ++
            if rest = [] then "\n" else farewell
        err := (turns.foldl (turn setting) {}).err
        exitCode := 0 } := by
  have bareTurns : ∀ line ∈ turns, chomp line = line :=
    fun line member => bare line (List.mem_append_left _ member)
  have start : converse setting false .empty (turns ++ rest) =
      (converse setting false .empty (turns ++ rest)).preceded "" "" := by
    simp [Console.preceded]
  have taken := preceded_converse setting {} turns rest bareTurns goOn
  rw [start]
  refine taken.trans ?_
  generalize turns.foldl (turn setting) {} = past
  rcases first with rfl | ⟨exit, later, rfl, stops⟩
  · simp [converse, Console.preceded, String.append_assoc]
  · have bareExit : chomp exit = exit := bare exit (by simp)
    have asked : isExit exit = true := isExit_iff.mpr stops
    simp [converse, answer, bareExit, asked, Console.preceded, String.append_assoc]

/-!
### Whole inputs

An input is bytes, which are a text in UTF-8, and what is written depends on its
lines alone. So inputs with the same lines have one transcript: with carriage
returns or without, and with a line feed at the end or without.
-/

/-- The text with a carriage return before each line feed. -/
def withReturns (text : List Char) : List Char :=
  text.flatMap fun c => if c = '\n' then ['\r', '\n'] else [c]

theorem withReturns_append {line : List Char} (single : '\n' ∉ line)
    (text : List Char) : withReturns (line ++ text) = line ++ withReturns text := by
  induction line with
  | nil => rfl
  | cons c line inductionHypothesis =>
      have other := List.ne_of_not_mem_cons single
      have rest := inductionHypothesis (List.not_mem_of_not_mem_cons single)
      rw [List.cons_append, withReturns, List.flatMap_cons, if_neg other.symm]
      exact congrArg (c :: ·) rest

/-- Carriage returns before the line feeds change no line. -/
theorem exists_cut_withReturns {text : List Char} {pieces : List (List Char)}
    (cut : Cut text pieces) :
    ∃ pieces', Cut (withReturns text) pieces' ∧
      pieces'.map chomp = pieces.map chomp := by
  induction cut with
  | nothing => exact ⟨[], .nothing, rfl⟩
  | @unended line nonempty single =>
      have same : withReturns line = line := by
        have nothing : withReturns [] = [] := rfl
        have kept := withReturns_append single []
        rwa [nothing, List.append_nil] at kept
      rw [same]
      exact ⟨[line], .unended nonempty single, rfl⟩
  | @ended line text pieces single rest inductionHypothesis =>
      obtain ⟨pieces', cut', same⟩ := inductionHypothesis
      have single' : '\n' ∉ line ++ ['\r'] := by simpa using single
      refine ⟨((line ++ ['\r']) ++ ['\n']) :: pieces', ?_, ?_⟩
      · have := Cut.ended single' cut'
        rw [withReturns_append single]
        simpa [withReturns] using this
      · rw [List.map_cons, List.map_cons, chomp_feed, chomp_feed, same,
          chomp_append line (by simp [endsLine])]

/-- A line feed at the end of the last line changes no line. -/
theorem exists_cut_append_feed {text : List Char} {pieces : List (List Char)}
    (cut : Cut text pieces) (nonempty : text ≠ [])
    (unended : text.getLast? ≠ some '\n') :
    ∃ pieces', Cut (text ++ ['\n']) pieces' ∧ pieces'.map chomp = pieces.map chomp := by
  induction cut with
  | nothing => exact absurd rfl nonempty
  | @unended line _ single =>
      exact ⟨[line ++ ['\n']], .ended single .nothing, by simp [chomp_feed]⟩
  | @ended line text pieces single rest inductionHypothesis =>
      have more : text ≠ [] := by
        rintro rfl
        exact unended (List.getLast?_concat ..)
      have later : text.getLast? ≠ some '\n' := by
        rwa [List.getLast?_append_of_ne_nil _ (List.cons_ne_nil _ _),
          List.getLast?_cons_of_ne_nil more] at unended
      obtain ⟨pieces', cut', same⟩ := inductionHypothesis more later
      refine ⟨(line ++ ['\n']) :: pieces', ?_, ?_⟩
      · rw [List.append_assoc]
        exact .ended single cut'
      · rw [List.map_cons, List.map_cons, same]

/-- The input that a text makes is that text. -/
theorem ofBytes_toUTF8 (text : String) : Input.ofBytes text.toUTF8 = { text } := by
  have read : String.fromUTF8? text.toUTF8 = some text := dif_pos text.isValidUTF8
  rw [Input.ofBytes, read]

/-- What is written depends on an input only through its lines. -/
theorem run_of_cut (setting : Setting) {text : String}
    {pieces : List (List Char)} (cut : Cut text.toList pieces) :
    run setting (.ofBytes text.toUTF8) =
      converse setting false .empty (pieces.map chomp) := by
  rw [ofBytes_toUTF8, run, ← converse_chomp, bareLines_of_cut cut]

theorem run_congr (setting : Setting) {text text' : String}
    {pieces : List (List Char)} (cut : Cut text.toList pieces)
    (cut' : ∃ pieces', Cut text'.toList pieces' ∧ pieces'.map chomp = pieces.map chomp) :
    run setting (.ofBytes text'.toUTF8) = run setting (.ofBytes text.toUTF8) := by
  obtain ⟨pieces', cut', same⟩ := cut'
  rw [run_of_cut setting cut', run_of_cut setting cut, same]

theorem eq_map_of_stripped {pieces lines : List (List Char)}
    (stripped : List.Forall₂ Stripped pieces lines) : lines = pieces.map chomp := by
  induction stripped with
  | nil => rfl
  | cons head rest inductionHypothesis =>
      rw [List.map_cons, stripped_iff.mp head, inductionHypothesis]

/-- The transcript of the shell. Its lines are the pieces of the input that line
    feeds end, and a last piece without one, each without the line feeds and
    carriage returns at its end. The lines before the first one that asks to
    stop take their turns one after another, each against the bindings that
    those before it have left. Then the shell asks once more: a line that asks
    to stop is answered by the farewell, whatever comes after it, and at the end
    of the input the line of the prompt is ended. The shell never fails. So
    carriage returns before the line feeds change nothing, nor does a line feed
    after a last line without one. -/
theorem transcript_of_input (setting : Setting) (text : String) :
    (∃ pieces lines, Cut text.toList pieces ∧ List.Forall₂ Stripped pieces lines) ∧
      (∀ pieces lines, Cut text.toList pieces → List.Forall₂ Stripped pieces lines →
        ∃ turns rest, lines = turns ++ rest ∧ (∀ line ∈ turns, ¬ SaysExit line) ∧
          (rest = [] ∨ ∃ exit later, rest = exit :: later ∧ SaysExit exit) ∧
          run setting (.ofBytes text.toUTF8) =
            { out :=
                (turns.foldl (turn setting) {}).out ++ prompt ++
                  if rest = [] then "\n" else "Goodbye!\n"
              err := (turns.foldl (turn setting) {}).err
              exitCode := 0 }) ∧
      run setting (.ofBytes (String.ofList (withReturns text.toList)).toUTF8) =
        run setting (.ofBytes text.toUTF8) ∧
      (text ≠ "" → text.toList.getLast? ≠ some '\n' →
        run setting (.ofBytes (text ++ "\n").toUTF8) =
          run setting (.ofBytes text.toUTF8)) := by
  obtain ⟨pieces, cut⟩ := Cut.exists text.toList
  refine ⟨⟨pieces, pieces.map chomp, cut, ?_⟩, ?_, ?_, ?_⟩
  case refine_1 =>
    apply List.forall₂_map_right_iff.mpr
    exact List.forall₂_same.mpr fun piece _ => stripped_chomp piece
  case refine_2 =>
    intro pieces lines cut stripped
    have same := eq_map_of_stripped stripped
    subst same
    have bare : ∀ line ∈ pieces.map chomp, chomp line = line := by
      intro line member
      obtain ⟨piece, -, rfl⟩ := List.mem_map.mp member
      exact chomp_chomp piece
    obtain ⟨turns, rest, parts, goOn, first⟩ := exists_first_exit (pieces.map chomp)
    refine ⟨turns, rest, parts, goOn, first, ?_⟩
    rw [run_of_cut setting cut, parts]
    rw [parts] at bare
    exact converse_eq setting bare goOn first
  case refine_3 =>
    apply run_congr setting cut
    rw [String.toList_ofList]
    exact exists_cut_withReturns cut
  case refine_4 =>
    intro nonempty unended
    apply run_congr setting cut
    rw [String.toList_append]
    apply exists_cut_append_feed cut _ unended
    simpa using nonempty

/-- A session that ends without a line feed and is not asked to stop. -/
theorem transcript_of_input_unended :
    ("let a = 2\r\n \nA ^ 3" ≠ "" ∧
      "let a = 2\r\n \nA ^ 3".toList.getLast? ≠ some '\n') ∧
      run ⟨"<stdin>", true⟩ (.ofBytes ("let a = 2\r\n \nA ^ 3" ++ "\n").toUTF8) =
        run ⟨"<stdin>", true⟩ (.ofBytes "let a = 2\r\n \nA ^ 3".toUTF8) := by
  have nonempty : "let a = 2\r\n \nA ^ 3" ≠ "" := by decide
  have unended : "let a = 2\r\n \nA ^ 3".toList.getLast? ≠ some '\n' := by decide
  exact ⟨⟨nonempty, unended⟩,
    (transcript_of_input ⟨"<stdin>", true⟩ _).2.2.2 nonempty unended⟩

/-- A name keeps its value from line to line, whatever ends the lines, until the
    shell is asked to stop. -/
example :
    run ⟨"<stdin>", false⟩ (.ofBytes "let a = 2\r\n \nA ^ 3\n EXIT \na".toUTF8) =
      { out :=
          "jimmy-script > 2\njimmy-script > jimmy-script > 8\n" ++
            "jimmy-script > Goodbye!\n"
        err := "" } := by
  decide +kernel

end Abacus.Shell
