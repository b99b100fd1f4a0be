/-
Module: Abacus.CommandLine
Purpose: The command line: what the arguments ask for, and what the command then
  writes. Arguments are read from left to right, and the first one that cannot
  be accepted makes the whole line unusable.
Main exports: CommandLine.Task, CommandLine.Invocation, CommandLine.Request,
  CommandLine.Request.ofArguments, CommandLine.Invocation.execute,
  CommandLine.execute?
-/
import Abacus.Shell

namespace Abacus.CommandLine

/-- What is to be done: evaluate an expression, evaluate a file, check a file,
    or start the shell. -/
inductive Task where
  | evaluate (source : String)
  | file (path : String)
  | check (path : String)
  | shell
deriving DecidableEq, Repr, Inhabited

/-- A task with its options. -/
structure Invocation where
  task : Task
  json : Bool := false
  label? : Option String := none
deriving DecidableEq, Repr, Inhabited

/-- What a list of arguments asks for. -/
inductive Request where
  | invocation (invocation : Invocation)
  | version
  | unusable
deriving DecidableEq, Repr, Inhabited

/-!
### Arguments

One function goes through the arguments with what has been read so far
(`Progress`), and there is a function for each sort of argument, which gives
`none` where it cannot be accepted. Which task they ask for is known at the end
only, since a later argument may name a subcommand.
-/

/-- The names that may stand where a file is expected and choose another task. -/
inductive Subcommand where
  | evaluate
  | check
  | shell
deriving DecidableEq, Repr, Inhabited

/-- The subcommand with a given name. -/
def Subcommand.ofName? : String → Option Subcommand
  | "eval" => some .evaluate
  | "check" => some .check
  | "repl" => some .shell
  | _ => none

/-- What has been read of the arguments: the subcommand, if one was named, the
    operand given to it, and the options. Options before the subcommand and
    after it are counted apart, since each may be given once on either side; the
    label after it wins. -/
structure Progress where
  subcommand? : Option Subcommand := none
  operand? : Option String := none
  json : Bool := false
  label? : Option String := none
  outerJson : Bool := false
  outerLabel? : Option String := none
  optionsEnded : Bool := false
deriving DecidableEq, Repr, Inhabited

namespace Progress

/-- Whether a subcommand can still take an operand. The shell takes none, any
    other task takes one, and the name of a file must not be empty. -/
def acceptsOperand (progress : Progress) (operand : String) : Bool :=
  progress.operand?.isNone &&
    match progress.subcommand? with
    | some .shell => false
    | some .evaluate => true
    | some .check | none => operand != ""

/-- Takes an operand. -/
def takeOperand? (progress : Progress) (operand : String) : Option Progress :=
  if progress.acceptsOperand operand
    then some { progress with operand? := some operand } else none

/-- Takes the name of a subcommand. A file named before it no longer counts. -/
def takeSubcommand (progress : Progress) (subcommand : Subcommand) : Progress where
  subcommand? := some subcommand
  outerJson := progress.json
  outerLabel? := progress.label?

/-- Takes an argument that is no option. -/
def takeWord? (progress : Progress) (word : String) : Option Progress :=
  if progress.optionsEnded || progress.subcommand?.isSome then
    progress.takeOperand? word
  else
    match Subcommand.ofName? word with
    | some subcommand => some (progress.takeSubcommand subcommand)
    | none => progress.takeOperand? word

/-- Takes the option for JSON, which may be given once. -/
def takeJson? (progress : Progress) : Option Progress :=
  if progress.json then none else some { progress with json := true }

/-- Takes a label, which may be given once. -/
def takeLabel? (progress : Progress) (label : String) : Option Progress :=
  if progress.label?.isSome then none else some { progress with label? := some label }

/-- The task that complete arguments ask for. -/
def task? (progress : Progress) : Option Task :=
  match progress.subcommand?, progress.operand? with
  | none, none => some .shell
  | none, some path => some (.file path)
  | some .evaluate, some source => some (.evaluate source)
  | some .check, some path => some (.check path)
  | some .shell, _ => some .shell
  | _, none => none

/-- What complete arguments ask for. -/
def request (progress : Progress) : Request :=
  match progress.task? with
  | some task =>
      .invocation
        { task
          json := progress.json || progress.outerJson
          label? := progress.label?.or progress.outerLabel? }
  | none => .unusable

end Progress

/-- Whether an argument is an option: it starts with a minus sign and has more
    than that. -/
def isOption (argument : String) : Bool :=
  match argument.toList with
  | '-' :: _ :: _ => true
  | _ => false

/-- Whether an argument asks for the version; letters after the short form are
    not reached. -/
def asksVersion (argument : String) : Bool :=
  argument == "--version" || "-V".toList.isPrefixOf argument.toList

/-- The label that an argument gives after an equals sign. -/
def labelAfterEquals? (argument : String) : Option String :=
  if "--label=".toList.isPrefixOf argument.toList then
    some (String.ofList (argument.toList.drop "--label=".length))
  else
    none

/-- Reads the arguments that remain. -/
def readArguments (progress : Progress) : List String → Request
  | [] => progress.request
  | argument :: arguments =>
      if progress.optionsEnded || !isOption argument then
        match progress.takeWord? argument with
        | some progress => readArguments progress arguments
        | none => .unusable
      else if argument = "--" then
        readArguments { progress with optionsEnded := true } arguments
      else if argument = "--json" then
        match progress.takeJson? with
        | some progress => readArguments progress arguments
        | none => .unusable
      else if argument = "--label" then
        match arguments with
        | label :: arguments =>
            if isOption label then .unusable
            else
              match progress.takeLabel? label with
              | some progress => readArguments progress arguments
              | none => .unusable
        | [] => .unusable
      else if asksVersion argument && progress.subcommand?.isNone then
        .version
      else
        match labelAfterEquals? argument with
        | some label =>
            match progress.takeLabel? label with
            | some progress => readArguments progress arguments
            | none => .unusable
        | none => .unusable

/-- What a list of arguments asks for. -/
def Request.ofArguments (arguments : List String) : Request :=
  readArguments {} arguments

/-!
### Execution

What a task writes is a console: the text for either stream, and the exit code.
How files are read and what the standard input holds are given from outside, so
nothing here has an effect.
-/

/-- What is written about a source that was evaluated without bindings: with
    JSON its feedback, else its value or a report. -/
def evaluateSource (json : Bool) (source : Source) : Console :=
  let outcome := (run source .empty).outcome
  if json then
    { out := (SubmissionFeedback.ofOutcome source.content outcome).text .indented ++ "\n"
      exitCode := if outcome.isOk then 0 else 1 }
  else
    match outcome with
    | .ok x => { out := x.text ++ "\n" }
    | .error d => { err := d.written false, exitCode := 1 }

/-- What is written about a source that was parsed only. -/
def checkSource (json : Bool) (source : Source) : Console :=
  match Expr.ofSource source with
  | .ok tree => { out := source.label ++ ": ok " ++ tree.shape ++ "\n" }
  | .error d => { err := d.written json, exitCode := 1 }

/-- What is written when a file cannot be read. -/
def unreadable (path : String) (fault : ReadFault) : Console where
  err := "Error: cannot read " ++ path ++ ": " ++ fault.message ++ "\n"
  exitCode := 2

namespace Invocation

/-- The name that diagnostics use, which is the label given or else the natural
    one. -/
def labelOr (invocation : Invocation) (label : String) : String :=
  invocation.label?.getD label

/-- Carries out a task. Only the file that the task names is read. -/
def execute (read : String → Except ReadFault String) (input : Input)
    (invocation : Invocation) : Console :=
  match invocation.task with
  | .evaluate content =>
      evaluateSource invocation.json { label := invocation.labelOr "<arg>", content }
  | .file path =>
      match read path with
      | .ok content =>
          evaluateSource invocation.json { label := invocation.labelOr path, content }
      | .error fault => unreadable path fault
  | .check path =>
      match read path with
      | .ok content =>
          checkSource invocation.json { label := invocation.labelOr path, content }
      | .error fault => unreadable path fault
  | .shell =>
      Shell.run { label := invocation.labelOr "<stdin>", json := invocation.json } input

end Invocation

/-- What the version option prints. -/
def versionLine : String := "jimmy 0.1.0\n"

/-- What a command line writes, given how files are read and what the standard
    input is. An unusable one has no console here; its wording is left to the
    outer layer. -/
def execute? (read : String → Except ReadFault String) (input : Input)
    (arguments : List String) : Option Console :=
  match Request.ofArguments arguments with
  | .invocation invocation => some (invocation.execute read input)
  | .version => some { out := versionLine }
  | .unusable => none

end Abacus.CommandLine
