/-
Module: Abacus.Proofs.Remedies
Purpose: The remedy for an unknown name works. The report quotes the name as the
  source spells it, which is the text of one identifier, and that text is the
  same identifier again where a blank follows it. So the suggested binding is
  accepted, binds the very name that the message quotes, and nothing that is run
  afterwards can fail for this name: a bound name stays bound.
Main exports: remedyText, run_remedyText, exists_unknownName,
  Environment.isSome_get?_run, remedy_for_unknown_name
-/
import Abacus.Feedback
import Abacus.Proofs.Bindings
import Abacus.Proofs.SafeSubmission
import Abacus.Proofs.Unreadable

namespace Abacus

open Grammar

/-!
### What an unknown name is reported for

The remedy is chosen by the wording of the fault, so it is to be shown that only
one fault is worded like that: messages of the other stages begin in other ways.
Then an identifier of the source is the one that the message quotes.
-/

/-- How the messages of lexical faults begin. -/
def lexicalOpenings : List String :=
  ["unexpected character '", "integer literal '", "malformed number '"]

theorem LexicalFault.exists_opening (fault : LexicalFault) :
    ∃ opening ∈ lexicalOpenings, opening.toList <+: fault.message.toList := by
  have opens (opening quoted rest : String) :
      opening.toList <+: (opening ++ quoted ++ rest).toList := by
    simp only [String.toList_append, List.append_assoc]
    exact List.prefix_append _ _
  cases fault with
  | unexpectedCharacter c => exact ⟨"unexpected character '", by decide, opens _ _ _⟩
  | integerTooLarge digits => exact ⟨"integer literal '", by decide, opens _ _ _⟩
  | malformedNumber text => exact ⟨"malformed number '", by decide, opens _ _ _⟩

/-- No fault but one of evaluation is worded like an unknown name. -/
theorem kindName_of_unknown_identifier {diagnostic : Diagnostic}
    (worded : "unknown identifier".toList <+: diagnostic.message.toList) :
    diagnostic.kindName = "Runtime Error" := by
  cases diagnostic with
  | lexical fault span =>
      obtain ⟨opening, listed, begins⟩ := fault.exists_opening
      have apart : ∀ opening ∈ lexicalOpenings,
          ¬ "unknown identifier".toList <+: opening.toList ∧
          ¬ opening.toList <+: "unknown identifier".toList := by
        decide
      rcases List.prefix_or_prefix_of_prefix worded begins with inside | inside
      · exact absurd inside (apart opening listed).1
      · exact absurd inside (apart opening listed).2
  | grammatical fault span =>
      have apart (fault : SyntaxFault) :
          ¬ "unknown identifier".toList <+: fault.message.toList := by
        cases fault <;> decide
      exact absurd worded (apart fault)
  | runtime fault span traceback => rfl

/-- A submission whose fault is worded like that has met an identifier that no
    scope binds. The message quotes its name, and the fault points at it. -/
theorem exists_unknownName {source : Source} {environment : Environment}
    {diagnostic : Diagnostic}
    (failed : (run source environment).outcome = .error diagnostic)
    (worded : "unknown identifier".toList <+: diagnostic.message.toList) :
    ∃ name : Token, name.Stands source ∧ name.kind = .identifier ∧
      diagnostic.message = "unknown identifier '" ++ Expr.nameOf name ++ "'" ∧
      diagnostic.span = name.span ∧
      (run source environment).environment.get? (Expr.nameOf name) = none := by
  have isRuntime := kindName_of_unknown_identifier worded
  cases parsed : Expr.ofSource source with
  | error fault =>
      rw [(run_of_ofSource_error parsed environment).1] at failed
      cases failed
      exact absurd isRuntime (kindName_of_ofSource parsed)
  | ok tree =>
      obtain ⟨outcome, left⟩ := run_of_ofSource_ok parsed environment
      rw [outcome] at failed
      obtain ⟨operands, before, node, after, nodes, done, fails⟩ :=
        evaluate_error failed []
      have spelled : node.SpelledIn source :=
        spelledIn_of_ofSource parsed node (by simp [nodes])
      cases blames_of_fails spelled.standsIn nodes done fails with
      | division _ _ _ message => exact absurd worded (by rw [message]; decide)
      | power _ _ _ _ message => exact absurd worded (by rw [message]; decide)
      | @access name unbound message points =>
          refine ⟨name, spelled.stands, spelled.written, message, points, ?_⟩
          rw [left]
          exact List.findSome?_eq_none_iff.mpr unbound

/-- The name in the message can be read off it. -/
theorem name_of_message {name other : String}
    (same : "unknown identifier '" ++ name ++ "'" =
      "unknown identifier '" ++ other ++ "'") : name = other := by
  have chars := congrArg String.toList same
  simp only [String.toList_append] at chars
  exact String.toList_inj.mp (List.append_cancel_left (List.append_cancel_right chars))

/-!
### The remedy

The text of an identifier is an identifier wherever a blank follows it, and
lower-cases to the same name there. So the tokens of the remedy are those of a
binding, whatever the name is.
-/

/-- A program that binds the name spelled `text` to zero. -/
def remedyText (text : String) : String :=
  "let " ++ text ++ " = 0"

/-- The remedy is the one that is suggested, and no other. -/
theorem suggestions_of_unknown_identifier {diagnostic : Diagnostic} {text : String}
    (worded : "unknown identifier".toList <+: diagnostic.message.toList)
    (covered : diagnostic.span.text? = some text) :
    diagnostic.suggestions =
      ["Bind it first, e.g. \x60" ++ remedyText text ++ "\x60"] := by
  have opening : "Bind it first, e.g. \x60let " =
      "Bind it first, e.g. \x60" ++ "let " := by decide
  have closing : " = 0\x60" = " = 0" ++ "\x60" := by decide
  rw [Diagnostic.suggestions, if_pos (List.isPrefixOf_iff_prefix.mpr worded),
    covered, opening, closing]
  simp only [remedyText, Option.getD_some, String.append_assoc]

/-- The keyword is a word where a blank follows it. -/
theorem lexeme_let (rest : List Char) :
    Lexeme ['l', 'e', 't'] (' ' :: rest) .keyword (some (.text "let")) := by
  refine .word (by decide) (List.all_eq_true.mp (by decide)) ?_ (by decide)
    (by decide) (by decide) (by decide)
  rintro c ⟨⟩
  decide

theorem lexeme_zero : Lexeme ['0'] [] .integer (some (.int 0)) :=
  .integer (by decide) (List.all_eq_true.mp (by decide)) (runEnds_nil _) (by decide)

/-- How the remedy is read, if what it binds is spelled by an identifier. -/
theorem reads_remedyText {text : String} {rest : List Char} {payload? : Option Payload}
    (identifier : Lexeme text.toList rest .identifier payload?) :
    Reads (remedyText text).toList
      [['l', 'e', 't'], [' '], text.toList, [' '], ['='], [' '], ['0']] [] := by
  have chars : (remedyText text).toList =
      ['l', 'e', 't'] ++ ' ' ::
        (text.toList ++ ' ' :: (['='] ++ ' ' :: (['0'] ++ []))) := by
    simp only [remedyText, String.toList_append, List.append_assoc]
    rfl
  rw [chars]
  -- The identifier is one before a blank as well, whatever followed it.
  have again := identifier.alike
    (endsAlike_of_isSkipped (w := ' ') rfl rest (['='] ++ ' ' :: (['0'] ++ [])))
  exact .lexeme (lexeme_let _) <| .skip rfl <| .lexeme again <| .skip rfl <|
    .lexeme .equals <| .skip rfl <|
    .lexeme lexeme_zero .here

/-- The remedy is accepted under any label and against any bindings. It comes to
    zero and binds the name of the identifier to it, and nothing else. -/
theorem run_remedyText {text name : String} {rest : List Char}
    (identifier : Lexeme text.toList rest .identifier (some (.text name)))
    (label : String) (environment : Environment) :
    let source : Source := { label, content := remedyText text }
    ∃ span, (run source environment).outcome =
      .ok { value := .int 0, span? := some span } ∧
      (run source environment).environment =
        environment.set name { value := .int 0, span? := some span } := by
  intro source
  have reads : Reads source.chars
      [['l', 'e', 't'], [' '], text.toList, [' '], ['='], [' '], ['0']] [] :=
    reads_remedyText identifier
  have tokenized : ∃ keywordSpan nameSpan signSpan zeroSpan stopSpan, source.tokens =
      .ok [⟨.keyword, some (.text "let"), keywordSpan⟩,
        ⟨.identifier, some (.text name), nameSpan⟩,
        ⟨.assignment, some (.text "="), signSpan⟩, ⟨.integer, some (.int 0), zeroSpan⟩,
        ⟨.endOfInput, none, stopSpan⟩] := by
    have blank : readPiece [' '] = .skipped := readPiece_of_isSkipped rfl
    have equals : readPiece ['='] = .token .assignment (some (.text "=")) := rfl
    rw [reads.tokens_eq]
    simp only [placePieces, blank, equals, (lexeme_let []).readPiece_eq,
      identifier.readPiece_eq, lexeme_zero.readPiece_eq]
    exact ⟨_, _, _, _, _, rfl⟩
  obtain ⟨keywordSpan, nameSpan, signSpan, zeroSpan, stopSpan, tokenized⟩ := tokenized
  let keyword : Token := ⟨.keyword, some (.text "let"), keywordSpan⟩
  let sign : Token := ⟨.assignment, some (.text "="), signSpan⟩
  let zero : Token := ⟨.integer, some (.int 0), zeroSpan⟩
  have opens : keyword.isKeyword "let" = true := by
    simp [keyword, Token.isKeyword, Token.text?]
  let phrase : Phrase .expr :=
    .binding keyword ⟨.identifier, some (.text name), nameSpan⟩ sign opens rfl rfl
      (.plain (.one (.literalOperand zero rfl .sum)))
  have fits : phrase.Fits greatestNesting greatestHeight :=
    ⟨by decide, by decide,
      Phrase.fits_literalOperand zero rfl .sum (by decide) (by decide)⟩
  have accepted : Expr.ofSource source = .ok phrase.tree :=
    phrase.ofSource_eq tokenized rfl fits
  obtain ⟨outcome, left⟩ := run_of_ofSource_ok accepted environment
  exact ⟨_, outcome, left⟩

/-!
### Afterwards

A name that is bound stays bound, whatever is run; and an unknown name is one
that is not bound. So the fault of the first submission cannot come back.
-/

/-- No submission takes a name its meaning. -/
theorem Environment.isSome_get?_run {environment : Environment} {name : String}
    (bound : (environment.get? name).isSome) (source : Source) :
    ((run source environment).environment.get? name).isSome := by
  cases parsed : Expr.ofSource source with
  | error diagnostic =>
      rw [(run_of_ofSource_error parsed environment).2]
      exact bound
  | ok tree =>
      rw [(run_of_ofSource_ok parsed environment).2, evaluate_environment,
        get?_bindAll, Option.isSome_or, bound, Bool.or_true]

/-- A name that is bound before a submission is not unknown to it. -/
theorem message_ne_of_bound {source : Source} {environment : Environment}
    {name : String} {diagnostic : Diagnostic} (bound : (environment.get? name).isSome)
    (failed : (run source environment).outcome = .error diagnostic) :
    diagnostic.message ≠ "unknown identifier '" ++ name ++ "'" := by
  intro message
  have worded : "unknown identifier".toList <+: diagnostic.message.toList := by
    have opening :
        "unknown identifier".toList <+: "unknown identifier '".toList := by decide
    rw [message, String.append_assoc, String.toList_append]
    exact opening.trans (List.prefix_append _ _)
  obtain ⟨other, _, _, quoted, _, unbound⟩ := exists_unknownName failed worded
  rw [← name_of_message (message.symm.trans quoted)] at unbound
  have stays := Environment.isSome_get?_run bound source
  rw [unbound] at stays
  cases stays

/-- The remedy for an unknown name works. If a submission fails with an unknown
    identifier, there is one suggestion: to bind the text that the fault points
    at. This program is accepted under any label against the bindings that the
    failed submission has left, comes to zero, and binds to it the very name
    that the message quotes. After that no submission fails for this name, so
    neither does the one that has. -/
theorem remedy_for_unknown_name {source : Source} {environment : Environment}
    {diagnostic : Diagnostic}
    (failed : (run source environment).outcome = .error diagnostic)
    (worded : "unknown identifier".toList <+: diagnostic.message.toList) :
    ∃ name text, diagnostic.message = "unknown identifier '" ++ name ++ "'" ∧
      diagnostic.span.text? = some text ∧
      (ErrorReport.ofDiagnostic diagnostic).suggestions =
        ["Bind it first, e.g. \x60" ++ remedyText text ++ "\x60"] ∧
      ∀ label, ∃ span,
        let left := (run source environment).environment
        let remedied := run { label, content := remedyText text } left
        remedied.outcome = .ok { value := .int 0, span? := some span } ∧
          remedied.environment = left.set name { value := .int 0, span? := some span } ∧
          ∀ again later, (run again remedied.environment).outcome = .error later →
            later.message ≠ diagnostic.message := by
  obtain ⟨name, stands, named, message, points, _⟩ := exists_unknownName failed worded
  have covered : diagnostic.span.text? = some (String.ofList name.span.covered) := by
    rw [points]
    exact stands.liesIn.text?_eq
  have identifier : Lexeme (String.ofList name.span.covered).toList
      (source.chars.drop name.span.stop.offset)
      .identifier (some (.text (Expr.nameOf name))) := by
    have lexeme := stands.lexeme
    rw [named] at lexeme
    rw [stands.nameOf_eq named, ← lexeme.payload_of_identifier, String.toList_ofList]
    exact lexeme
  refine ⟨Expr.nameOf name, _, message, covered,
    suggestions_of_unknown_identifier worded covered, fun label => ?_⟩
  obtain ⟨span, outcome, bound⟩ :=
    run_remedyText identifier label (run source environment).environment
  refine ⟨span, outcome, bound, fun again later failedAgain => ?_⟩
  rw [message]
  refine message_ne_of_bound ?_ failedAgain
  rw [bound, Environment.get?_set, if_pos rfl, Option.isSome_some]

/-- An unknown name in capitals, the second of which has another small form at
    the end of a word. -/
def unknownInCapitals : Source :=
  { label := "<test>", content := "1 +\n ÀΣ" }

/-- The name is quoted in small letters by the message, and as it is spelled by
    the suggestion. -/
theorem remedy_for_unknown_name_in_capitals :
    ∃ diagnostic, (run unknownInCapitals .empty).outcome = .error diagnostic ∧
      diagnostic.message = "unknown identifier 'àς'" ∧
      (ErrorReport.ofDiagnostic diagnostic).suggestions =
        ["Bind it first, e.g. \x60let ÀΣ = 0\x60"] ∧
      ∃ span,
        (run { label := "<remedy>", content := remedyText "ÀΣ" }
            (run unknownInCapitals .empty).environment).outcome =
          .ok { value := .int 0, span? := some span } := by
  let diagnostic : Diagnostic :=
    .runtime (.unknownName "àς") ⟨⟨5, 1, 1⟩, ⟨7, 1, 3⟩, unknownInCapitals⟩
    [⟨"<test>", 2, "<program>"⟩]
  have failed : (run unknownInCapitals .empty).outcome = .error diagnostic := by
    decide +kernel
  have covered : diagnostic.span.text? = some "ÀΣ" := by decide +kernel
  obtain ⟨name, text, _, covered', suggested, remedied⟩ :=
    remedy_for_unknown_name failed (by decide)
  obtain rfl := Option.some.inj (covered.symm.trans covered')
  obtain ⟨span, outcome, _⟩ := remedied "<remedy>"
  exact ⟨diagnostic, failed, rfl, suggested, span, outcome⟩

end Abacus
