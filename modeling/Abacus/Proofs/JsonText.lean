/-
Module: Abacus.Proofs.JsonText
Purpose: JSON texts that were written are read back. The statements are about a
  part of a text with any other text after it: a string takes everything up to
  its closing quote whatever its characters are, a number ends where nothing
  follows that could go on with it, and an array or an object takes its items up
  to its own closing bracket. So the reader gives back every plain value in
  either style (`ofText?_text`).
Main exports: Json.readString_quoted, Json.NumberEnds, Json.readNumber_toDigits,
  Json.Plain, Json.ReadBack, Json.readBack, Json.ofText?_text
-/
import Abacus.Json.Reader
import Abacus.Proofs.Lexemes

namespace Abacus.Json

/-!
### Strings

A character is written in one of three ways (`escape_cases`), and the reader
undoes each of them whatever comes after it. So a string of any characters is
read back up to its own closing quote.
-/

theorem hexValue?_digitChar : ∀ d < 16, hexValue? (Nat.digitChar d) = some d := by
  decide

theorem hexValue?_hexDigit (n : Nat) : hexValue? (hexDigit n) = some (n % 16) :=
  hexValue?_digitChar _ (Nat.mod_lt _ (by decide))

/-- A character inside quotes is a backslash and a letter or sign for it, or its
    number where it lies below the blank, or it stands for itself. -/
theorem escape_cases (c : Char) :
    (∃ letter, escape c = ['\\', letter] ∧ letter ≠ 'u' ∧ unescape? letter = some c) ∨
      (escape c = ['\\', 'u', '0', '0', hexDigit (c.toNat / 16), hexDigit c.toNat] ∧
        c.toNat < 0x20) ∨
      (escape c = [c] ∧ c ≠ '"' ∧ c ≠ '\\' ∧ ¬ c.toNat < 0x20) := by
  unfold escape
  split
  case isTrue quote =>
    subst quote
    exact .inl ⟨_, rfl, by decide, rfl⟩
  split
  case isTrue backslash =>
    subst backslash
    exact .inl ⟨_, rfl, by decide, rfl⟩
  split
  case isTrue lineFeed => exact .inl ⟨_, rfl, by decide, lineFeed ▸ rfl⟩
  split
  case isTrue carriageReturn => exact .inl ⟨_, rfl, by decide, carriageReturn ▸ rfl⟩
  split
  case isTrue tab => exact .inl ⟨_, rfl, by decide, tab ▸ rfl⟩
  split
  case isTrue backspace => exact .inl ⟨_, rfl, by decide, backspace ▸ rfl⟩
  split
  case isTrue formFeed => exact .inl ⟨_, rfl, by decide, formFeed ▸ rfl⟩
  split
  case isTrue low => exact .inr (.inl ⟨rfl, low⟩)
  case isFalse notQuote notBackslash _ _ _ _ _ notLow =>
    exact .inr (.inr ⟨rfl, notQuote, notBackslash, notLow⟩)

/-- What is read of a string whose first code point is `unit`, if this is what
    is read of the rest. -/
def withUnit (unit : Nat) (read : Option (List Nat × List Char)) :
    Option (List Nat × List Char) :=
  read.map fun (units, rest) => (unit :: units, rest)

section

variable {c : Char} (rest : List Char)

theorem readUnits_letter {letter : Char} (notNumber : letter ≠ 'u')
    (meant : unescape? letter = some c) :
    readUnits ('\\' :: letter :: rest) = withUnit c.toNat (readUnits rest) := by
  rw [readUnits, meant]
  · cases readUnits rest <;> rfl
  · intro _ _ _ _ _ number
    exact absurd number notNumber

theorem readUnits_number (low : c.toNat < 0x20) :
    readUnits ('\\' :: 'u' :: '0' :: '0' :: hexDigit (c.toNat / 16) ::
      hexDigit c.toNat :: rest) =
      withUnit c.toNat (readUnits rest) := by
  have zero : hexValue? '0' = some 0 := rfl
  have number : ((0 * 16 + 0) * 16 + c.toNat / 16 % 16) * 16 + c.toNat % 16 =
      c.toNat := by omega
  rw [readUnits, zero, hexValue?_hexDigit, hexValue?_hexDigit]
  cases readUnits rest with
  | none => rfl
  | some read => exact congrArg (fun unit => some (unit :: read.1, read.2)) number

theorem readUnits_self (notQuote : c ≠ '"') (notBackslash : c ≠ '\\')
    (notLow : ¬ c.toNat < 0x20) :
    readUnits (c :: rest) = withUnit c.toNat (readUnits rest) := by
  rw [readUnits, if_neg notLow]
  · cases readUnits rest <;> rfl
  · exact notQuote
  · intro _ _ _ _ _ backslash
    exact absurd backslash notBackslash
  · intro _ _ backslash
    exact absurd backslash notBackslash

/-- However a character was written inside quotes, it is read as its code point. -/
theorem readUnits_escape (c : Char) :
    readUnits (escape c ++ rest) = withUnit c.toNat (readUnits rest) := by
  rcases escape_cases c with ⟨letter, written, notNumber, meant⟩ | ⟨written, low⟩ |
    ⟨written, notQuote, notBackslash, notLow⟩
  · rw [written]
    exact readUnits_letter rest notNumber meant
  · rw [written]
    exact readUnits_number rest low
  · rw [written]
    exact readUnits_self rest notQuote notBackslash notLow

theorem readUnits_quoted (text : List Char) :
    readUnits (text.flatMap escape ++ '"' :: rest) =
      some (text.map Char.toNat, rest) := by
  induction text with
  | nil => rw [List.flatMap_nil, List.nil_append, readUnits, List.map_nil]
  | cons c text inductionHypothesis =>
      rw [List.flatMap_cons, List.append_assoc, readUnits_escape, inductionHypothesis]
      rfl

/-- No character is half of a surrogate pair. -/
theorem not_surrogate (c : Char) :
    isLeading c.toNat = false ∧ isTrailing c.toNat = false := by
  have valid : c.toNat < 0xD800 ∨ 0xDFFF < c.toNat ∧ c.toNat < 0x110000 := c.valid
  simp only [isLeading, isTrailing, Bool.and_eq_false_iff, decide_eq_false_iff_not]
  omega

/-- So the code points of a text are joined to that text. -/
theorem joinUnits?_map_toNat :
    (text : List Char) → joinUnits? (text.map Char.toNat) = some text
  | [] => rfl
  | [c] => by simp [joinUnits?, not_surrogate c]
  | c :: d :: text => by
      have onward : joinUnits? (d.toNat :: text.map Char.toNat) = some (d :: text) :=
        joinUnits?_map_toNat (d :: text)
      simp [joinUnits?, not_surrogate c, onward]

/-- A text in quotes is read back, whatever characters are in it. -/
theorem readString_quoted (text : String) :
    readString (text.toList.flatMap escape ++ '"' :: rest) = some (some text, rest) := by
  rw [readString, readUnits_quoted]
  simp [joinUnits?_map_toNat]

end

/-!
### Numbers

A number has no mark at its end, so it is read back only where nothing follows
that would go on with it: no digit, no point and no mark of an exponent.
Everything that a writer puts behind a number is of that sort.
-/

/-- The text does not go on with a number that stands before it. -/
def NumberEnds (text : List Char) : Prop :=
  RunEnds (fun c => c.isDigit || c == '.' || c == 'e' || c == 'E') text

section

variable {rest : List Char}

/-- A number has a first digit. -/
theorem exists_toDigits (n : Nat) :
    ∃ digit digits, Nat.toDigits 10 n = digit :: digits ∧ digit.isDigit = true := by
  cases written : Nat.toDigits 10 n with
  | nil => exact absurd written Nat.toDigits_ne_nil
  | cons digit digits =>
      refine ⟨digit, digits, rfl, isDigit_of_mem_toDigits (n := n) digit ?_⟩
      rw [written]
      exact List.mem_cons_self

/-- Only zero starts with a zero. -/
theorem head?_toDigits_ne {n : Nat} (positive : 0 < n) :
    (Nat.toDigits 10 n).head? ≠ some '0' := by
  induction n using Nat.strongRecOn with
  | ind n inductionHypothesis =>
      rw [Nat.toDigits_eq_if (by decide)]
      split
      case isTrue small =>
        rw [List.head?_cons, Ne, Option.some.injEq, Nat.digitChar_eq_zero]
        exact Nat.ne_of_gt positive
      case isFalse large =>
        have shorter := inductionHypothesis (n / 10) (by omega) (by omega)
        obtain ⟨digit, digits, written, _⟩ := exists_toDigits (n / 10)
        rw [written] at shorter ⊢
        exact shorter

theorem readDigits_toDigits (n : Nat) (ends : RunEnds Char.isDigit rest) :
    readDigits (Nat.toDigits 10 n ++ rest) = some (Nat.toDigits 10 n, rest) := by
  rw [readDigits, takeWhile_run isDigit_of_mem_toDigits ends,
    dropWhile_run isDigit_of_mem_toDigits ends]
  obtain ⟨digit, digits, written, _⟩ := exists_toDigits n
  rw [written]

theorem readWhole_toDigits (n : Nat) (ends : RunEnds Char.isDigit rest) :
    readWhole (Nat.toDigits 10 n ++ rest) = some (Nat.toDigits 10 n, rest) := by
  rcases Nat.eq_zero_or_pos n with rfl | positive
  · rfl
  · rw [readWhole]
    · exact readDigits_toDigits n ends
    · intro tail same
      apply head?_toDigits_ne positive
      obtain ⟨digit, digits, written, _⟩ := exists_toDigits n
      rw [written] at same ⊢
      injection same with first
      rw [first, List.head?_cons]

/-- Where a number ends there is neither a fraction nor an exponent. -/
theorem readFraction_of_ends (ends : NumberEnds rest) :
    readFraction rest = some ([], rest) := by
  rw [readFraction]
  rintro tail rfl
  exact absurd (ends '.' rfl) (by decide)

theorem readExponent_of_ends (ends : NumberEnds rest) :
    readExponent rest = some ([], rest) := by
  cases rest with
  | nil => rfl
  | cons c rest =>
      have other := ends c rfl
      simp only [Bool.or_eq_false_iff, beq_eq_false_iff_ne] at other
      rw [readExponent, if_neg (not_or.mpr ⟨other.1.2, other.2⟩)]

/-- A natural number is read back where nothing goes on with it. -/
theorem readNumber_toDigits (n : Nat) (ends : NumberEnds rest) :
    readNumber (Nat.toDigits 10 n ++ rest) = some (.ofNat n, rest) := by
  have minus :
      readMinus (Nat.toDigits 10 n ++ rest) = ([], Nat.toDigits 10 n ++ rest) := by
    obtain ⟨digit, digits, written, isDigit⟩ := exists_toDigits n
    rw [written, List.cons_append, readMinus]
    intro tail same
    injection same with first
    exact ne_of_sort isDigit (by decide) first
  have digitsEnd : RunEnds Char.isDigit rest := by
    intro c ahead
    have other := ends c ahead
    simp only [Bool.or_eq_false_iff] at other
    exact other.1.1.1
  rw [readNumber, minus]
  dsimp only
  rw [readWhole_toDigits n digitsEnd]
  dsimp only [Option.bind_eq_bind, Option.bind_some]
  rw [readFraction_of_ends ends]
  dsimp only [Option.bind_some]
  rw [readExponent_of_ends ends, ofNat, Nat.toString_eq_ofList_toDigits]
  simp

end

/-!
### Blanks

What stands before an item depends on the style, and the reader passes over it
in either. Values are therefore compared with blanks in front of them, so that
the style plays no further part.
-/

theorem isBlank_of_mem_lineBreak {style : Style} {depth : Nat} {c : Char}
    (member : c ∈ style.lineBreak depth) : isBlank c = true := by
  cases style with
  | compact => cases member
  | indented =>
      rcases List.mem_cons.mp member with rfl | blank
      · rfl
      · rw [List.eq_of_mem_replicate blank]
        rfl

/-- The blanks of a style are skipped. -/
theorem skipBlanks_lineBreak (style : Style) (depth : Nat) (text : List Char) :
    skipBlanks (style.lineBreak depth ++ text) = skipBlanks text :=
  List.dropWhile_append_of_pos fun _ member => isBlank_of_mem_lineBreak member

theorem skipBlanks_of_not {c : Char} (other : isBlank c = false) (text : List Char) :
    skipBlanks (c :: text) = c :: text := by
  rw [skipBlanks, List.dropWhile_cons_of_neg (by simp [other])]

/-- A number ends before a line break or before any sign that stands between
    values. -/
theorem numberEnds_lineBreak (style : Style) (depth : Nat) {c : Char}
    (text : List Char) (other : NumberEnds (c :: text)) :
    NumberEnds (style.lineBreak depth ++ c :: text) := by
  cases style with
  | compact => exact other
  | indented =>
      rintro d ⟨⟩
      decide

theorem numberEnds_cons {c : Char} (text : List Char)
    (other : (c.isDigit || c == '.' || c == 'e' || c == 'E') = false) :
    NumberEnds (c :: text) := by
  rintro d ⟨⟩
  exact other

/-- What is before a value is skipped. -/
theorem readValue_lineBreak (bound : Nat) (style : Style) (depth : Nat)
    (text : List Char) :
    readValue bound (style.lineBreak depth ++ text) = readValue bound text := by
  cases bound with
  | zero => rfl
  | succ bound => rw [readValue, readValue, skipBlanks_lineBreak]

theorem readItems_lineBreak (bound : Nat) (style : Style) (depth : Nat)
    (text : List Char) :
    readItems bound (style.lineBreak depth ++ text) = readItems bound text := by
  cases bound with
  | zero => rfl
  | succ bound => rw [readItems, readItems, readValue_lineBreak]

theorem readMembers_lineBreak (bound : Nat) (style : Style) (depth : Nat)
    (text : List Char) :
    readMembers bound (style.lineBreak depth ++ text) = readMembers bound text := by
  cases bound with
  | zero => rfl
  | succ bound =>
      rw [readMembers, readMembers, readName, readName, skipBlanks_lineBreak]

/-!
### Values

Reading back is said of a value with any text behind it and with a bound that
its text suffices for. Arrays and objects are read item by item up to their own
closing bracket; the induction is on the value, and for its items on the list of
them.
-/

/-- The values that are written for records: their numbers are natural, their
    strings and names are texts. -/
inductive Plain : Json → Prop where
  | null : Plain .null
  | bool (value : Bool) : Plain (.bool value)
  | natural (n : Nat) : Plain (.ofNat n)
  | text (text : String) : Plain (.ofText text)
  | array {items : List Json} (plain : ∀ item ∈ items, Plain item) :
      Plain (.array items)
  | object {members : List (Option String × Json)}
      (named : ∀ member ∈ members, member.1.isSome = true)
      (plain : ∀ member ∈ members, Plain member.2) : Plain (.object members)

/-- The value is read back from its text in any style, wherever a number would
    end. Twice the length of the text bounds the recursion of the reader. -/
def ReadBack (json : Json) : Prop :=
  ∀ (style : Style) (depth bound : Nat) (rest : List Char), NumberEnds rest →
    2 * (render style depth json).length ≤ bound →
    readValue bound (render style depth json ++ rest) = some (json, rest)

/-- A bound that suffices for a text with anything in it can be counted down. -/
theorem exists_bound {bound length : Nat} (enough : 2 * length ≤ bound)
    (nonempty : 0 < length) : ∃ less, bound = less + 1 ∧ 2 * length ≤ less + 1 :=
  ⟨bound - 1, by omega, by omega⟩

theorem readBack_null : ReadBack .null := by
  intro style depth bound rest _ enough
  obtain ⟨bound, rfl, _⟩ := exists_bound enough (Nat.succ_pos _)
  rfl

theorem readBack_bool (value : Bool) : ReadBack (.bool value) := by
  intro style depth bound rest _ enough
  cases value with
  | false =>
      obtain ⟨bound, rfl, _⟩ := exists_bound enough (Nat.succ_pos _)
      rfl
  | true =>
      obtain ⟨bound, rfl, _⟩ := exists_bound enough (Nat.succ_pos _)
      rfl

theorem readBack_ofText (text : String) : ReadBack (.ofText text) := by
  intro style depth bound rest _ enough
  have written : render style depth (.ofText text) =
      '"' :: (text.toList.flatMap escape ++ ['"']) := rfl
  rw [written] at enough ⊢
  obtain ⟨bound, rfl, _⟩ := exists_bound enough (Nat.succ_pos _)
  have quoted := readString_quoted rest text
  simp [readValue, skipBlanks_of_not, isBlank, quoted, ofText]

/-- What starts with a digit is read as a number. -/
theorem readValue_of_isDigit {digit : Char} (isDigit : digit.isDigit = true)
    (bound : Nat) (text : List Char) :
    readValue (bound + 1) (digit :: text) = readNumber (digit :: text) := by
  have notBlank : isBlank digit = false := by
    simp only [isBlank, Bool.or_eq_false_iff, beq_eq_false_iff_ne]
    exact ⟨⟨⟨ne_of_sort isDigit (by decide), ne_of_sort isDigit (by decide)⟩,
        ne_of_sort isDigit (by decide)⟩,
      ne_of_sort isDigit (by decide)⟩
  rw [readValue, skipBlanks_of_not notBlank]
  split
  case h_7 => rfl
  all_goals
    rename_i same
    injection same with first
    exact absurd first (ne_of_sort isDigit (by decide))

theorem readBack_ofNat (n : Nat) : ReadBack (.ofNat n) := by
  intro style depth bound rest ends enough
  have written : render style depth (.ofNat n) = Nat.toDigits 10 n := by
    rw [ofNat, render, Nat.toString_eq_ofList_toDigits, String.toList_ofList]
  have number := readNumber_toDigits n ends
  rw [written] at enough ⊢
  obtain ⟨digit, digits, first, isDigit⟩ := exists_toDigits n
  rw [first] at number enough ⊢
  obtain ⟨bound, rfl, _⟩ := exists_bound enough (Nat.succ_pos _)
  rw [List.cons_append] at number ⊢
  rw [readValue_of_isDigit isDigit, number]

section

variable {bound : Nat} {text after rest : List Char} {value : Json}

theorem readItems_last (read : readValue bound text = some (value, after))
    (closed : skipBlanks after = ']' :: rest) :
    readItems (bound + 1) text = some ([value], rest) := by
  simp [readItems, read, closed]

theorem readItems_more {items : List Json}
    (read : readValue bound text = some (value, ',' :: after))
    (onward : readItems bound after = some (items, rest)) :
    readItems (bound + 1) text = some (value :: items, rest) := by
  simp [readItems, read, skipBlanks_of_not, isBlank, onward]

/-- Items do not begin with the bracket that closes them, so they are not taken
    for an empty array. -/
theorem skipBlanks_ne_of_readItems {items : List Json}
    (done : readItems bound text = some (items, after)) (rest : List Char) :
    skipBlanks text ≠ ']' :: rest := by
  intro closed
  cases bound with
  | zero => cases done
  | succ bound =>
      cases bound with
      | zero => cases done
      | succ bound =>
          rw [readItems, readValue, closed] at done
          cases done

theorem readValue_array {items : List Json}
    (read : readItems bound text = some (items, rest)) :
    readValue (bound + 1) ('[' :: text) = some (.array items, rest) := by
  have opened := skipBlanks_ne_of_readItems read
  simp [readValue, skipBlanks_of_not, isBlank, read]

end

/-- Items are read back up to the bracket that closes them. -/
theorem readItems_render (style : Style) (depth : Nat) (rest : List Char)
    {items : List Json} :
    ∀ (item : Json) (bound : Nat), ReadBack item → (∀ other ∈ items, ReadBack other) →
      2 * (render style (depth + 1) item ++
        renderItems style (depth + 1) items).length < bound → readItems bound
      (render style (depth + 1) item ++ (renderItems style (depth + 1) items ++
        (style.lineBreak depth ++ ']' :: rest))) = some (item :: items, rest) := by
  induction items with
  | nil =>
      intro item bound itemBack _ enough
      obtain ⟨bound, rfl⟩ : ∃ less, bound = less + 1 := ⟨bound - 1, by omega⟩
      have ends : NumberEnds (style.lineBreak depth ++ ']' :: rest) :=
        numberEnds_lineBreak style depth rest (numberEnds_cons rest rfl)
      have closed :
          skipBlanks (style.lineBreak depth ++ ']' :: rest) = ']' :: rest := by
        rw [skipBlanks_lineBreak, skipBlanks_of_not rfl]
      rw [renderItems, List.append_nil] at enough
      exact readItems_last (itemBack style (depth + 1) bound _ ends (by omega)) closed
  | cons next items inductionHypothesis =>
      intro item bound itemBack othersBack enough
      obtain ⟨bound, rfl⟩ : ∃ less, bound = less + 1 := ⟨bound - 1, by omega⟩
      obtain ⟨nextBack, othersBack⟩ := List.forall_mem_cons.mp othersBack
      simp only [renderItems, List.length_append, List.length_cons] at enough
      simp only [renderItems, List.append_assoc, List.cons_append]
      have comma (text : List Char) : NumberEnds (',' :: text) :=
        numberEnds_cons text rfl
      apply readItems_more
      · exact itemBack style (depth + 1) bound _ (comma _) (by omega)
      · rw [readItems_lineBreak]
        exact inductionHypothesis next bound nextBack othersBack
          (by rw [List.length_append]; omega)

theorem readBack_array {items : List Json}
    (itemsBack : ∀ item ∈ items, ReadBack item) : ReadBack (.array items) := by
  intro style depth bound rest _ enough
  obtain ⟨bound, rfl, enough⟩ :=
    exists_bound enough (by cases items <;> exact Nat.succ_pos _)
  cases items with
  | nil => rfl
  | cons item items =>
      obtain ⟨itemBack, othersBack⟩ := List.forall_mem_cons.mp itemsBack
      simp only [render, List.length_append, List.length_cons] at enough
      simp only [render, List.append_assoc, List.cons_append, List.nil_append]
      apply readValue_array
      rw [readItems_lineBreak]
      exact readItems_render style depth rest item bound itemBack othersBack
        (by rw [List.length_append]; omega)

section

variable {bound : Nat} {text after rest : List Char}

theorem skipBlanks_ne_of_readMembers {members : List (Option String × Json)}
    (done : readMembers bound text = some (members, after)) (rest : List Char) :
    skipBlanks text ≠ '\x7d' :: rest := by
  intro closed
  cases bound with
  | zero => cases done
  | succ bound =>
      rw [readMembers, readName, closed] at done
      cases done

theorem readValue_object {members : List (Option String × Json)}
    (read : readMembers bound text = some (members, rest)) :
    readValue (bound + 1) ('\x7b' :: text) = some (.object members, rest) := by
  have opened := skipBlanks_ne_of_readMembers read
  simp [readValue, skipBlanks_of_not, isBlank, read]

end

/-- A name is read back with the colon after it, and what follows is a value as
    before. -/
theorem readName_quoteText (style : Style) {name : Option String}
    (named : name.isSome = true) (text : List Char) :
    ∃ after, readName (quoteText name ++ (style.colon ++ text)) = some (name, after) ∧
      ∀ bound, readValue bound after = readValue bound text := by
  obtain ⟨name, rfl⟩ := Option.isSome_iff_exists.mp named
  have written (rest : List Char) :
      quoteText (some name) ++ rest =
        '"' :: (name.toList.flatMap escape ++ '"' :: rest) := by
    simp [quoteText, quote]
  have read (after : List Char) :
      readName ('"' :: (name.toList.flatMap escape ++ '"' :: ':' :: after)) =
        some (some name, after) := by
    simp [readName, skipBlanks_of_not, isBlank, readString_quoted]
  rw [written]
  cases style with
  | compact => exact ⟨text, read text, fun _ => rfl⟩
  | indented =>
      exact ⟨' ' :: text, read (' ' :: text), fun bound => by cases bound <;> rfl⟩

section

variable {style : Style} {depth bound : Nat} {after rest : List Char}
    {name : Option String} {value : Json}

/-- A member is read back in two steps, its name and its value. -/
theorem exists_readName (named : name.isSome = true)
    (valueBack : ReadBack value) (ends : NumberEnds after)
    (enough : 2 * (render style depth value).length ≤ bound) :
    ∃ afterName, readName
      (quoteText name ++ (style.colon ++ (render style depth value ++ after))) =
        some (name, afterName) ∧ readValue bound afterName = some (value, after) := by
  obtain ⟨afterName, read, same⟩ :=
    readName_quoteText style named (render style depth value ++ after)
  exact ⟨afterName, read,
    (same bound).trans (valueBack style depth bound after ends enough)⟩

theorem readMembers_last (named : name.isSome = true) (valueBack : ReadBack value)
    (ends : NumberEnds after) (enough : 2 * (render style depth value).length ≤ bound)
    (closed : skipBlanks after = '\x7d' :: rest) :
    readMembers (bound + 1)
      (quoteText name ++ (style.colon ++ (render style depth value ++ after))) =
      some ([(name, value)], rest) := by
  obtain ⟨afterName, readName, read⟩ := exists_readName named valueBack ends enough
  simp [readMembers, readName, read, closed]

theorem readMembers_more {members : List (Option String × Json)}
    (named : name.isSome = true) (valueBack : ReadBack value)
    (enough : 2 * (render style depth value).length ≤ bound)
    (onward : readMembers bound after = some (members, rest)) :
    readMembers (bound + 1)
        (quoteText name ++
          (style.colon ++ (render style depth value ++ ',' :: after))) =
      some ((name, value) :: members, rest) := by
  have ends : NumberEnds (',' :: after) := numberEnds_cons after rfl
  obtain ⟨afterName, readName, read⟩ := exists_readName named valueBack ends enough
  simp [readMembers, readName, read, skipBlanks_of_not, isBlank, onward]

end

/-- Members are read back up to the brace that closes them. -/
theorem readMembers_render (style : Style) (depth : Nat) (rest : List Char)
    {members : List (Option String × Json)} :
    ∀ (name : Option String) (value : Json) (bound : Nat), name.isSome = true →
      ReadBack value →
      (∀ other ∈ members, other.1.isSome = true ∧ ReadBack other.2) →
      2 * (quoteText name ++ (style.colon ++ (render style (depth + 1) value ++
        renderMembers style (depth + 1) members))).length < bound →
      readMembers bound
        (quoteText name ++ (style.colon ++ (render style (depth + 1) value ++
          (renderMembers style (depth + 1) members ++
            (style.lineBreak depth ++ '\x7d' :: rest))))) =
        some ((name, value) :: members, rest) := by
  induction members with
  | nil =>
      intro name value bound named valueBack _ enough
      obtain ⟨bound, rfl⟩ : ∃ less, bound = less + 1 := ⟨bound - 1, by omega⟩
      have ends : NumberEnds (style.lineBreak depth ++ '\x7d' :: rest) :=
        numberEnds_lineBreak style depth rest (numberEnds_cons rest rfl)
      have closed :
          skipBlanks (style.lineBreak depth ++ '\x7d' :: rest) = '\x7d' :: rest := by
        rw [skipBlanks_lineBreak, skipBlanks_of_not rfl]
      simp only [List.length_append] at enough
      exact readMembers_last named valueBack ends (by omega) closed
  | cons next members inductionHypothesis =>
      intro name value bound named valueBack othersBack enough
      obtain ⟨bound, rfl⟩ : ∃ less, bound = less + 1 := ⟨bound - 1, by omega⟩
      obtain ⟨nextName, nextValue⟩ := next
      obtain ⟨⟨nextNamed, nextBack⟩, othersBack⟩ := List.forall_mem_cons.mp othersBack
      simp only [renderMembers, List.length_append, List.length_cons] at enough
      simp only [renderMembers, List.append_assoc, List.cons_append]
      apply readMembers_more named valueBack (by omega)
      rw [readMembers_lineBreak]
      exact inductionHypothesis nextName nextValue bound nextNamed nextBack othersBack
        (by simp only [List.length_append]; omega)

theorem readBack_object {members : List (Option String × Json)}
    (membersBack : ∀ member ∈ members, member.1.isSome = true ∧ ReadBack member.2) :
    ReadBack (.object members) := by
  intro style depth bound rest _ enough
  obtain ⟨bound, rfl, enough⟩ :=
    exists_bound enough (by cases members <;> exact Nat.succ_pos _)
  cases members with
  | nil => rfl
  | cons member members =>
      obtain ⟨name, value⟩ := member
      obtain ⟨⟨named, valueBack⟩, othersBack⟩ := List.forall_mem_cons.mp membersBack
      simp only [render, List.length_append, List.length_cons] at enough
      simp only [render, List.append_assoc, List.cons_append, List.nil_append]
      apply readValue_object
      rw [readMembers_lineBreak]
      exact readMembers_render style depth rest name value bound named valueBack
        othersBack
        (by simp only [List.length_append]; omega)

/-- Every plain value is read back. -/
theorem readBack {json : Json} (plain : Plain json) : ReadBack json := by
  induction plain with
  | null => exact readBack_null
  | bool value => exact readBack_bool value
  | natural n => exact readBack_ofNat n
  | text text => exact readBack_ofText text
  | array _ itemsBack => exact readBack_array itemsBack
  | object named _ membersBack =>
      exact readBack_object fun member among =>
        ⟨named member among, membersBack member among⟩

/-- A plain value is what its text says, in either style. -/
theorem ofText?_text {json : Json} (plain : Plain json) (style : Style) :
    ofText? (json.text style) = some json := by
  have ends : NumberEnds [] := by
    rintro c ⟨⟩
  have read := readBack plain style 0 (2 * (json.render style 0).length + 2)
    [] ends (Nat.le_add_right _ _)
  rw [List.append_nil] at read
  rw [ofText?, text, String.toList_ofList, ofChars?, read]
  rfl

end Abacus.Json
