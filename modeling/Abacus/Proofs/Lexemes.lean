/-
Module: Abacus.Proofs.Lexemes
Purpose: Which texts are lexemes, said without reference to how a text is
  divided, and that the division finds them: the first piece of a text means a
  token exactly if it is a lexeme where the rest of the text follows it
  (`lexeme_iff`), and otherwise it is a skipped character or a fault.
Main exports: RunEnds, signs, Lexeme, Lexeme.readPiece_eq, lexeme_iff,
  isSkipped_of_splitPiece
-/
import Abacus.Lexeme
import Mathlib.Data.List.TakeWhile

namespace Abacus

/-!
### Lexemes

The lexemes by their sorts, each with what may follow it. A lexeme is the
longest of its sort, and that is said by what follows: nothing that could still
go on.
-/

/-- The text does not go on with a character of the sort `p`. -/
def RunEnds (p : Char → Bool) (text : List Char) : Prop :=
  ∀ c ∈ text.head?, p c = false

theorem runEnds_nil (p : Char → Bool) : RunEnds p [] := by
  intro c ahead
  cases ahead

/-- The operators and brackets, each of which is one character. -/
def signs : List (Char × Kind) :=
  [('+', .plus), ('-', .minus), ('*', .multiply), ('/', .divide), ('^', .power),
    ('(', .leftParen), (')', .rightParen)]

/-- The text is a lexeme where `rest` follows it, and its token has the kind and
    the payload. A number or a word takes every character that could go on it,
    which is what each of them says of `rest`. -/
inductive Lexeme : (text rest : List Char) → Kind → Option Payload → Prop where
  /-- Digits, and the integer they write. -/
  | integer {digits rest : List Char} {value : Int64} (nonempty : digits ≠ [])
      (allDigits : ∀ c ∈ digits, c.isDigit = true)
      (ends : RunEnds (fun c => c.isDigit || c == '.') rest)
      (decimal : value.toInt = Nat.ofDigitChars 10 digits 0) :
      Lexeme digits rest .integer (some (.int value))
  /-- Digits, one point, and more digits or none; the double is the one nearest
      to what they write. -/
  | float {whole fraction rest : List Char} (nonempty : whole ≠ [])
      (allDigits : ∀ c ∈ whole ++ fraction, c.isDigit = true)
      (ends : RunEnds Char.isDigit rest) :
      Lexeme (whole ++ '.' :: fraction) rest .float
        (some (.float (Float.ofScientific
          (Nat.ofDigitChars 10 (whole ++ fraction) 0) true fraction.length)))
  /-- A word, which carries its lower-case form. -/
  | word {c : Char} {text rest : List Char} {kind : Kind} {word : String}
      (opens : opensName c = true) (continues : ∀ d ∈ text, continuesName d = true)
      (ends : RunEnds continuesName rest)
      (lower : word = String.ofList (Text.lowerCase (c :: text)))
      (keyword : kind = .keyword ↔ word = "let")
      (assignment : kind = .assignment ↔ word = "be")
      (identifier : kind = .identifier ↔ word ≠ "let" ∧ word ≠ "be") :
      Lexeme (c :: text) rest kind (some (.text word))
  | equals {rest : List Char} : Lexeme ['='] rest .assignment (some (.text "="))
  | arrow {rest : List Char} : Lexeme ['<', '-'] rest .assignment (some (.text "<-"))
  | sign {c : Char} {rest : List Char} {kind : Kind}
      (listed : (c, kind) ∈ signs) : Lexeme [c] rest kind none

/-- A word is a keyword, an assignment or an identifier. -/
theorem kind_of_word {kind : Kind} {word : String}
    (keyword : kind = .keyword ↔ word = "let")
    (assignment : kind = .assignment ↔ word = "be")
    (identifier : kind = .identifier ↔ word ≠ "let" ∧ word ≠ "be") :
    kind = .keyword ∨ kind = .assignment ∨ kind = .identifier := by
  by_cases isLet : word = "let"
  · exact .inl (keyword.2 isLet)
  · by_cases isBe : word = "be"
    · exact .inr (.inl (assignment.2 isBe))
    · exact .inr (.inr (identifier.2 ⟨isLet, isBe⟩))

/-- No lexeme is the end of the input. -/
theorem Lexeme.kind_ne_endOfInput {text rest : List Char} {kind : Kind}
    {payload? : Option Payload} (lexeme : Lexeme text rest kind payload?) :
    kind ≠ .endOfInput := by
  cases lexeme with
  | integer => decide
  | float => decide
  | word _ _ _ _ keyword assignment identifier =>
      rcases kind_of_word keyword assignment identifier with rfl | rfl | rfl <;> decide
  | equals => decide
  | arrow => decide
  | sign listed =>
      rintro rfl
      simp [signs] at listed

theorem Lexeme.ne_nil {text rest : List Char} {kind : Kind} {payload? : Option Payload}
    (lexeme : Lexeme text rest kind payload?) : text ≠ [] := by
  cases lexeme with
  | integer nonempty => exact nonempty
  | float => simp
  | word => simp
  | equals => simp
  | arrow => simp
  | sign => simp

/-- A listed character is the sign of its kind, and there is no other. -/
theorem ofChar?_eq_some_iff {c : Char} {kind : Kind} :
    Kind.ofChar? c = some kind ↔ (c, kind) ∈ signs := by
  unfold Kind.ofChar? signs
  split <;> simp_all [eq_comm]

/-- The digits of a number are digits. -/
theorem isDigit_of_mem_toDigits {n : Nat} :
    ∀ c ∈ Nat.toDigits 10 n, c.isDigit = true :=
  fun _ member => Nat.isDigit_of_mem_toDigits (by decide) (by decide) member

/-!
### What the first piece of a text is

One lemma for each sort of first character: how far the division goes is decided
by it. A run of characters is as long as the text allows, so the lemmas name a
run and what ends it.
-/

theorem runEnds_dropWhile (p : Char → Bool) (text : List Char) :
    RunEnds p (text.dropWhile p) := by
  intro c ahead
  have stops := List.head?_dropWhile_not p text
  rw [Option.mem_def.mp ahead] at stops
  exact stops

/-- A run is what is taken of the text it begins. -/
theorem takeWhile_run {p : Char → Bool} {run rest : List Char}
    (inside : ∀ c ∈ run, p c = true) (ends : RunEnds p rest) :
    (run ++ rest).takeWhile p = run := by
  rw [List.takeWhile_append_of_pos inside]
  cases rest with
  | nil => rw [List.takeWhile_nil, List.append_nil]
  | cons c rest =>
      rw [List.takeWhile_cons_of_neg (by simp [ends c rfl]), List.append_nil]

/-- What follows a run is what is left of the text it begins. -/
theorem dropWhile_run {p : Char → Bool} {run rest : List Char}
    (inside : ∀ c ∈ run, p c = true) (ends : RunEnds p rest) :
    (run ++ rest).dropWhile p = rest := by
  rw [List.dropWhile_append_of_pos inside]
  cases rest with
  | nil => rfl
  | cons c rest => rw [List.dropWhile_cons_of_neg (by simp [ends c rfl])]

/-- The first piece of a text starts where the text does. -/
theorem exists_splitPiece (c : Char) (text : List Char) :
    ∃ tail, (splitPiece c text).1 = c :: tail := by
  unfold splitPiece
  split
  case isTrue arrow =>
    subst arrow
    split <;> exact ⟨_, rfl⟩
  case isFalse =>
    split
    case isTrue => split <;> exact ⟨_, rfl⟩
    case isFalse => split <;> exact ⟨_, rfl⟩

/-- A character that is skipped is a piece by itself. -/
theorem splitPiece_of_isSkipped {c : Char} (skipped : isSkipped c = true)
    (text : List Char) : splitPiece c text = ([c], text) := by
  simp only [isSkipped, Bool.or_eq_true, beq_iff_eq] at skipped
  rcases skipped with ((rfl | rfl) | rfl) | rfl <;> rfl

/-- A character of a sort that `d` is not of is not `d`. -/
theorem ne_of_sort {p : Char → Bool} {c d : Char} (holds : p c = true)
    (fails : p d = false) : c ≠ d := by
  rintro rfl
  rw [holds] at fails
  cases fails

/-- A character of a sort that no skipped character is of is not skipped. -/
theorem not_isSkipped_of_sort {p : Char → Bool} {c : Char} (holds : p c = true)
    (fails : [' ', '\t', '\r', '\n'].all (fun d => !p d) = true) :
    isSkipped c = false := by
  simp only [List.all_cons, List.all_nil, Bool.and_true, Bool.and_eq_true,
    Bool.not_eq_true'] at fails
  obtain ⟨space, tab, carriageReturn, lineFeed⟩ := fails
  simp [isSkipped, ne_of_sort holds space, ne_of_sort holds tab,
    ne_of_sort holds carriageReturn, ne_of_sort holds lineFeed]

/-- Digits that no point follows are a piece. -/
theorem splitPiece_of_digits {c : Char} {text : List Char} (digit : c.isDigit = true)
    (noPoint : (text.dropWhile Char.isDigit).head? ≠ some '.') :
    splitPiece c text =
      (c :: text.takeWhile Char.isDigit, text.dropWhile Char.isDigit) := by
  unfold splitPiece
  rw [if_neg (ne_of_sort digit (by decide)), if_pos digit]
  split
  case h_1 point =>
    rw [point] at noPoint
    exact absurd rfl noPoint
  case h_2 => rfl

/-- Digits that a point follows are a piece together with the point and the
    digits after it. -/
theorem splitPiece_of_point {c : Char} {text fraction : List Char}
    (digit : c.isDigit = true)
    (point : text.dropWhile Char.isDigit = '.' :: fraction) :
    splitPiece c text =
      ((c :: text.takeWhile Char.isDigit) ++ '.' :: fraction.takeWhile Char.isDigit,
        fraction.dropWhile Char.isDigit) := by
  unfold splitPiece
  rw [if_neg (ne_of_sort digit (by decide)), if_pos digit, point]
  rfl

/-- Digits are a piece where nothing that follows them goes on a number. -/
theorem splitPiece_of_runEnds {c : Char} {tail rest : List Char}
    (allDigits : ∀ d ∈ c :: tail, d.isDigit = true)
    (ends : RunEnds (fun c => c.isDigit || c == '.') rest) :
    splitPiece c (tail ++ rest) = (c :: tail, rest) := by
  obtain ⟨digit, tailDigits⟩ := List.forall_mem_cons.mp allDigits
  have digitsEnd : RunEnds Char.isDigit rest :=
    fun d ahead => (Bool.or_eq_false_iff.mp (ends d ahead)).1
  have noPoint : ((tail ++ rest).dropWhile Char.isDigit).head? ≠ some '.' := by
    rw [dropWhile_run tailDigits digitsEnd]
    intro ahead
    exact absurd (ends '.' ahead) (by decide)
  rw [splitPiece_of_digits digit noPoint, takeWhile_run tailDigits digitsEnd,
    dropWhile_run tailDigits digitsEnd]

/-- What follows all the digits there are goes on a number only if it is a
    point. -/
theorem runEnds_of_noPoint {text : List Char}
    (noPoint : (text.dropWhile Char.isDigit).head? ≠ some '.') :
    RunEnds (fun c => c.isDigit || c == '.') (text.dropWhile Char.isDigit) := by
  intro d ahead
  have notPoint : d ≠ '.' := by
    rintro rfl
    exact noPoint ahead
  simp [runEnds_dropWhile _ _ d ahead, notPoint]

/-- A digit together with the run of digits that follows it is all digits. -/
theorem isDigit_of_mem_digits {c : Char} (digit : c.isDigit = true)
    (text : List Char) :
    ∀ d ∈ c :: text.takeWhile Char.isDigit, d.isDigit = true :=
  List.forall_mem_cons.mpr ⟨digit, fun _ member => List.mem_takeWhile_imp member⟩

/-- So is what is taken on both sides of a point. -/
theorem isDigit_of_mem_fixed {c : Char} (digit : c.isDigit = true)
    (text fraction : List Char) :
    ∀ d ∈ (c :: text.takeWhile Char.isDigit) ++ fraction.takeWhile Char.isDigit,
      d.isDigit = true :=
  List.forall_mem_append.mpr
    ⟨isDigit_of_mem_digits digit text, fun _ member => List.mem_takeWhile_imp member⟩

/-- A word is a piece. -/
theorem splitPiece_of_opensName {c : Char} {text : List Char}
    (notDigit : c.isDigit = false) (opens : opensName c = true) :
    splitPiece c text =
      (c :: text.takeWhile continuesName, text.dropWhile continuesName) := by
  unfold splitPiece
  rw [if_neg (ne_of_sort opens (by decide)), if_neg (by simp [notDigit]), if_pos opens]

/-- Any other character is a piece by itself, if it does not start an arrow. -/
theorem splitPiece_of_other {c : Char} {text : List Char} (notArrow : c ≠ '<')
    (notDigit : c.isDigit = false) (notName : opensName c = false) :
    splitPiece c text = ([c], text) := by
  unfold splitPiece
  rw [if_neg notArrow, if_neg (by simp [notDigit]), if_neg (by simp [notName])]

/-- A sign that an arrow could begin with is a piece by itself if the arrow does
    not go on. -/
theorem splitPiece_of_less {text : List Char} (noArrow : text.head? ≠ some '-') :
    splitPiece '<' text = (['<'], text) := by
  unfold splitPiece
  rw [if_pos rfl]
  split
  case h_1 => exact absurd rfl noArrow
  case h_2 => rfl

/-!
### What the first piece of a text means

The readers, sort by sort: where they return a token the piece is a lexeme in
the sense of the definition, and where they return nothing it is a skipped
character. Together these are the soundness of the division.
-/

/-- A number without a point means the integer it writes. -/
theorem lexeme_of_digits {digits rest : List Char} {kind : Kind}
    {payload? : Option Payload} (nonempty : digits ≠ [])
    (allDigits : ∀ c ∈ digits, c.isDigit = true)
    (ends : RunEnds (fun c => c.isDigit || c == '.') rest)
    (read : readNumber digits = .token kind payload?) :
    Lexeme digits rest kind payload? := by
  have noPoint : '.' ∉ digits := fun point => absurd (allDigits _ point) (by decide)
  rw [readNumber, if_neg noPoint] at read
  split at read
  case h_1 value fits =>
    cases read
    exact .integer nonempty allDigits ends (word?_eq_some_iff.mp fits)
  case h_2 => cases read

/-- Digits with one point among them are read as the double nearest to what they
    write. -/
theorem readNumber_of_point {whole fraction : List Char}
    (allDigits : ∀ c ∈ whole ++ fraction, c.isDigit = true) :
    readNumber (whole ++ '.' :: fraction) =
      .token .float (some (.float (Float.ofScientific
        (Nat.ofDigitChars 10 (whole ++ fraction) 0) true fraction.length))) := by
  have wholeDigits : ∀ c ∈ whole, c.isDigit = true :=
    fun c member => allDigits c (by simp [member])
  have fractionDigits : fraction.all Char.isDigit = true := by
    rw [List.all_eq_true]
    exact fun c member => allDigits c (by simp [member])
  have point : RunEnds Char.isDigit ('.' :: fraction) := by
    rintro c ⟨⟩
    decide
  have value : readFixed? (whole ++ '.' :: fraction) =
      some (Float.ofScientific
        (Nat.ofDigitChars 10 (whole ++ fraction) 0) true fraction.length) := by
    simp only [readFixed?, dropWhile_run wholeDigits point,
      takeWhile_run wholeDigits point, fractionDigits, if_true]
  rw [readNumber, if_pos (by simp), value]

/-- A word means its lower-case form, and one word is a keyword and one an
    assignment. -/
theorem lexeme_of_word {c : Char} {text rest : List Char} {kind : Kind}
    {payload? : Option Payload} (opens : opensName c = true)
    (continues : ∀ d ∈ text, continuesName d = true)
    (ends : RunEnds continuesName rest)
    (read : readWord (c :: text) = .token kind payload?) :
    Lexeme (c :: text) rest kind payload? := by
  cases read
  refine .word opens continues ends rfl ?_ ?_ ?_ <;> unfold wordKind <;> split
    <;> simp_all
  all_goals split <;> simp_all

/-- What starts with a digit is read as a number. -/
theorem readPiece_of_isDigit {c : Char} (digit : c.isDigit = true)
    (text : List Char) : readPiece (c :: text) = readNumber (c :: text) := by
  have notSkipped : isSkipped c = false := not_isSkipped_of_sort digit (by decide)
  have notEquals : c ≠ '=' := ne_of_sort digit (by decide)
  have notArrow : c ≠ '<' := ne_of_sort digit (by decide)
  simp [readPiece, notSkipped, notEquals, notArrow, digit]

/-- What starts with a digit and has one point among its digits is read as a
    double. -/
theorem readPiece_of_point {whole fraction : List Char} (nonempty : whole ≠ [])
    (allDigits : ∀ c ∈ whole ++ fraction, c.isDigit = true) :
    readPiece (whole ++ '.' :: fraction) =
      .token .float (some (.float (Float.ofScientific
        (Nat.ofDigitChars 10 (whole ++ fraction) 0) true fraction.length))) := by
  obtain ⟨c, tail, rfl⟩ := List.exists_cons_of_ne_nil nonempty
  rw [List.cons_append, readPiece_of_isDigit (allDigits c (by simp)),
    ← List.cons_append, readNumber_of_point allDigits]

/-- What starts like a name is read as a word. -/
theorem readPiece_of_opensName {c : Char} (notDigit : c.isDigit = false)
    (opens : opensName c = true) (text : List Char) :
    readPiece (c :: text) = readWord (c :: text) := by
  have notSkipped : isSkipped c = false := not_isSkipped_of_sort opens (by decide)
  have notEquals : c ≠ '=' := ne_of_sort opens (by decide)
  have notArrow : c ≠ '<' := ne_of_sort opens (by decide)
  simp [readPiece, notSkipped, notEquals, notArrow, notDigit, opens]

/-- One character that is neither a digit nor a letter is read as an assignment
    or as a sign. -/
theorem lexeme_of_other {c : Char} {rest : List Char} {kind : Kind}
    {payload? : Option Payload} (notDigit : c.isDigit = false)
    (notName : opensName c = false) (read : readPiece [c] = .token kind payload?) :
    Lexeme [c] rest kind payload? := by
  unfold readPiece at read
  split at read
  case h_1 nothing => cases nothing
  case h_2 equals =>
    cases equals
    cases read
    exact .equals
  case h_3 arrow => cases arrow
  case h_4 first _ _ _ same =>
    cases same
    simp only [notDigit, notName] at read
    split at read
    case isTrue => cases read
    case isFalse =>
      simp only [Bool.false_eq_true, if_false] at read
      split at read
      case h_1 sign =>
        cases read
        exact .sign (ofChar?_eq_some_iff.mp sign)
      case h_2 => cases read

/-- A first piece that means a token is a lexeme where the rest of the text
    follows it. -/
theorem lexeme_of_readPiece {c : Char} {text : List Char} {kind : Kind}
    {payload? : Option Payload}
    (read : readPiece (splitPiece c text).1 = .token kind payload?) :
    Lexeme (splitPiece c text).1 (splitPiece c text).2 kind payload? := by
  by_cases digit : c.isDigit = true
  · by_cases point : (text.dropWhile Char.isDigit).head? = some '.'
    · obtain ⟨fraction, point⟩ := List.head?_eq_some_iff.mp point
      rw [splitPiece_of_point digit point] at read ⊢
      have allDigits := isDigit_of_mem_fixed digit text fraction
      rw [readPiece_of_point (by simp) allDigits] at read
      cases read
      exact .float (by simp) allDigits (runEnds_dropWhile _ _)
    · rw [splitPiece_of_digits digit point] at read ⊢
      dsimp only at read ⊢
      rw [readPiece_of_isDigit digit] at read
      exact lexeme_of_digits (by simp) (isDigit_of_mem_digits digit text)
        (runEnds_of_noPoint point) read
  rw [Bool.not_eq_true] at digit
  by_cases opens : opensName c = true
  · rw [splitPiece_of_opensName digit opens] at read ⊢
    dsimp only at read ⊢
    rw [readPiece_of_opensName digit opens] at read
    exact lexeme_of_word opens
      (fun d member => List.mem_takeWhile_imp member) (runEnds_dropWhile _ _) read
  rw [Bool.not_eq_true] at opens
  by_cases arrow : c = '<'
  · subst arrow
    unfold splitPiece at read ⊢
    rw [if_pos rfl] at read ⊢
    split at read
    case h_1 =>
      cases read
      exact .arrow
    case h_2 => cases read
  · rw [splitPiece_of_other arrow digit opens] at read ⊢
    exact lexeme_of_other digit opens read

/-- A number is never skipped. -/
theorem readNumber_ne_skipped (text : List Char) : readNumber text ≠ .skipped := by
  unfold readNumber
  split <;> split <;> simp

/-- What means nothing starts with a skipped character. -/
theorem isSkipped_of_readPiece {c : Char} {text : List Char}
    (read : readPiece (c :: text) = .skipped) : isSkipped c = true := by
  unfold readPiece at read
  split at read
  case h_1 nothing => cases nothing
  case h_2 => cases read
  case h_3 => cases read
  case h_4 first _ _ _ same =>
    cases same
    split at read
    case isTrue skipped => exact skipped
    case isFalse =>
      split at read
      case isTrue => exact absurd read (readNumber_ne_skipped _)
      case isFalse =>
        split at read
        case isTrue => cases read
        case isFalse => split at read <;> cases read

theorem readPiece_of_isSkipped {c : Char} (skipped : isSkipped c = true) :
    readPiece [c] = .skipped := by
  simp only [isSkipped, Bool.or_eq_true, beq_iff_eq] at skipped
  rcases skipped with ((rfl | rfl) | rfl) | rfl <;> rfl

/-- A first piece that means nothing is one skipped character. -/
theorem isSkipped_of_splitPiece {c : Char} {text piece rest : List Char}
    (parts : splitPiece c text = (piece, rest)) (read : readPiece piece = .skipped) :
    isSkipped c = true ∧ piece = [c] ∧ rest = text := by
  obtain ⟨tail, first⟩ := exists_splitPiece c text
  rw [parts] at first
  dsimp only at first
  rw [first] at read
  have skipped : isSkipped c = true := isSkipped_of_readPiece read
  rw [splitPiece_of_isSkipped skipped text] at parts
  cases parts
  exact ⟨skipped, rfl, rfl⟩

/-!
### Lexemes are found

The other direction: a lexeme at the start of a text is its first piece, and its
text alone decides its kind and payload. With the section before, the first
piece is a lexeme exactly if it means a token.
-/

/-- No digit opens a name. -/
theorem opensName_of_isDigit {c : Char} (digit : c.isDigit = true) :
    opensName c = false := by
  have none : ∀ n < 10, opensName (Char.ofNat (48 + n)) = false := by decide
  obtain ⟨low, high⟩ := Char.isDigit_iff_toNat.mp digit
  obtain ⟨n, same⟩ := Nat.exists_eq_add_of_le low
  rw [← Char.ofNat_toNat c, same]
  refine none n ?_
  change c.toNat ≤ 57 at high
  change c.toNat = 48 + n at same
  omega

theorem isDigit_of_opensName {c : Char} (opens : opensName c = true) :
    c.isDigit = false := by
  rw [Bool.eq_false_iff]
  intro digit
  rw [opensName_of_isDigit digit] at opens
  cases opens

/-- The kind of a word is the one that its text decides. -/
theorem wordKind_eq {kind : Kind} {word : String}
    (keyword : kind = .keyword ↔ word = "let")
    (assignment : kind = .assignment ↔ word = "be")
    (identifier : kind = .identifier ↔ word ≠ "let" ∧ word ≠ "be") :
    wordKind word = kind := by
  unfold wordKind
  split
  case isTrue isLet => exact (keyword.2 isLet).symm
  case isFalse notLet =>
    split
    case isTrue isBe => exact (assignment.2 isBe).symm
    case isFalse notBe => exact (identifier.2 ⟨notLet, notBe⟩).symm

/-- The text of a lexeme alone decides the kind and the payload of its token. -/
theorem Lexeme.readPiece_eq {text rest : List Char} {kind : Kind}
    {payload? : Option Payload} (lexeme : Lexeme text rest kind payload?) :
    readPiece text = .token kind payload? := by
  cases lexeme with
  | integer nonempty allDigits _ decimal =>
      obtain ⟨c, tail, rfl⟩ := List.exists_cons_of_ne_nil nonempty
      have noPoint : '.' ∉ c :: tail :=
        fun point => absurd (allDigits _ point) (by decide)
      rw [readPiece_of_isDigit (allDigits c (by simp)), readNumber, if_neg noPoint,
        word?_eq_some_iff.mpr decimal]
  | float nonempty allDigits _ => exact readPiece_of_point nonempty allDigits
  | word opens _ _ lower keyword assignment identifier =>
      rw [readPiece_of_opensName (isDigit_of_opensName opens) opens, readWord, ← lower,
        wordKind_eq keyword assignment identifier]
  | equals => rfl
  | arrow => rfl
  | sign listed =>
      have all : ∀ sign ∈ signs, readPiece [sign.1] = .token sign.2 none := by decide
      exact all _ listed

/-- A text that begins with a lexeme is divided after it. -/
theorem Lexeme.splitPiece_eq {text rest : List Char} {kind : Kind}
    {payload? : Option Payload} (lexeme : Lexeme text rest kind payload?)
    {c : Char} {tail : List Char} (first : text = c :: tail) :
    splitPiece c (tail ++ rest) = (text, rest) := by
  cases lexeme with
  | integer _ allDigits ends decimal =>
      subst first
      exact splitPiece_of_runEnds allDigits ends
  | @float whole fraction _ nonempty allDigits ends =>
      obtain ⟨d, run, rfl⟩ := List.exists_cons_of_ne_nil nonempty
      rw [List.cons_append, List.cons.injEq] at first
      obtain ⟨rfl, rfl⟩ := first
      obtain ⟨digit, runDigits⟩ :=
        List.forall_mem_cons.mp (List.forall_mem_append.mp allDigits).1
      have fractionDigits := (List.forall_mem_append.mp allDigits).2
      have pointEnds : RunEnds Char.isDigit ('.' :: (fraction ++ rest)) := by
        rintro c ⟨⟩
        decide
      have same : (run ++ '.' :: fraction) ++ rest =
          run ++ '.' :: (fraction ++ rest) := by simp
      have point : (run ++ '.' :: (fraction ++ rest)).dropWhile Char.isDigit =
          '.' :: (fraction ++ rest) :=
        dropWhile_run runDigits pointEnds
      rw [same, splitPiece_of_point digit point, takeWhile_run runDigits pointEnds,
        takeWhile_run fractionDigits ends, dropWhile_run fractionDigits ends]
  | word opens continues ends _ _ _ _ =>
      cases first
      rw [splitPiece_of_opensName (isDigit_of_opensName opens) opens,
        takeWhile_run continues ends, dropWhile_run continues ends]
  | equals =>
      cases first
      rfl
  | arrow =>
      cases first
      rfl
  | sign listed =>
      cases first
      have all : ∀ sign ∈ signs,
          sign.1 ≠ '<' ∧ sign.1.isDigit = false ∧ opensName sign.1 = false := by decide
      obtain ⟨notArrow, notDigit, notName⟩ := all _ listed
      exact splitPiece_of_other notArrow notDigit notName

/-- The first piece of a text means a token exactly if it is a lexeme before the
    rest of the text. -/
theorem lexeme_iff {c : Char} {text piece rest : List Char} {kind : Kind}
    {payload? : Option Payload} :
    splitPiece c text = (piece, rest) ∧ readPiece piece = .token kind payload? ↔
      piece ++ rest = c :: text ∧ Lexeme piece rest kind payload? := by
  constructor
  · rintro ⟨parts, read⟩
    have appended := splitPiece_append c text
    have lexeme := @lexeme_of_readPiece c text kind payload?
    rw [parts] at appended lexeme
    exact ⟨appended, lexeme read⟩
  · rintro ⟨appended, lexeme⟩
    obtain ⟨first, tail, rfl⟩ := List.exists_cons_of_ne_nil lexeme.ne_nil
    cases appended
    exact ⟨lexeme.splitPiece_eq rfl, lexeme.readPiece_eq⟩

end Abacus
