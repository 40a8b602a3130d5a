/-
Options and operands on a command line.

* `OptionForm`: how an option is written, and whether it has a value.
* `UsageFault`: why arguments are refused.
* `ArgumentStream`: options and operands in order, ended by the end of the
  line, by a fault, or by the name of a command and its own arguments.
* `scanArguments`: reads a command line. A value stands behind `=`, right
  behind a single letter, or in the next argument if that does not start with
  a hyphen; after `--` all arguments are operands.

These are the documented rules of `clap` 4, without abbreviations and suggestions; its
texts for refused arguments are not kept.
-/

namespace RowFilter

/-- How an option is written. -/
structure OptionForm (α : Type) where
  id : α
  /-- What stands behind two hyphens. -/
  long : String
  /-- What stands behind one hyphen. -/
  short : Option Char := none
  /-- Whether a value belongs to it. -/
  takesValue : Bool := true

/-- Why arguments are refused. -/
inductive UsageFault where
  /-- An option is not known. -/
  | unknownOption (argument : String)
  /-- An option has no value. -/
  | missingValue (option : String)
  /-- An option has a value that does not belong to it. -/
  | unneededValue (argument : String)
  /-- The value of an option is refused. -/
  | badValue (option value : String)
  /-- An option is there twice. -/
  | repeated (option : String)
  /-- Two options exclude each other. -/
  | conflict (first second : String)
  /-- An operand is not wanted. -/
  | unexpectedOperand (argument : String)
  /-- An operand is missing. -/
  | missingOperand (name : String)
  /-- No command is given. -/
  | missingCommand
  /-- A command is not known. -/
  | unknownCommand (name : String)
deriving DecidableEq, Repr

/-- The fault in words. -/
def UsageFault.message : UsageFault → String
  | .unknownOption a => s!"unexpected argument '{a}' found"
  | .missingValue o => s!"a value is required for '{o}' but none was supplied"
  | .unneededValue a => s!"unexpected value in '{a}'"
  | .badValue o v => s!"invalid value '{v}' for '{o}'"
  | .repeated o => s!"the argument '{o}' cannot be used multiple times"
  | .conflict a b => s!"the argument '{a}' cannot be used with '{b}'"
  | .unexpectedOperand a => s!"unexpected argument '{a}' found"
  | .missingOperand n => s!"the required argument '{n}' was not provided"
  | .missingCommand => "a command is required but none was given"
  | .unknownCommand n => s!"unrecognized command '{n}'"

/-- The arguments of a command line in order. Nothing follows a fault. -/
inductive ArgumentStream (α : Type) where
  /-- The line is exhausted. -/
  | done
  /-- What comes next is refused. -/
  | fault (f : UsageFault)
  /-- An option with its value, which is empty if none belongs to it. -/
  | option (id : α) (value : String) (rest : ArgumentStream α)
  /-- An operand. -/
  | operand (s : String) (rest : ArgumentStream α)
  /-- The name of a command, and the arguments behind it. -/
  | command (name : String) (arguments : List String)

variable {α : Type}

/-- Options that were found in one argument, in front of a stream. -/
def ArgumentStream.withOptions (found : List (α × String))
    (rest : ArgumentStream α) : ArgumentStream α :=
  found.foldr (fun o s => .option o.1 o.2 s) rest

/-- What an argument of letters holds: options that are complete, and then
nothing more, an option that waits for its value, or a fault. -/
inductive LetterEnd (α : Type) where
  | complete
  | waiting (o : OptionForm α)
  | fault (f : UsageFault)

/-- Reads the letters behind one hyphen. What follows the letter of an option
with a value is that value, without a leading equals sign. -/
def readLetters (forms : List (OptionForm α)) :
    List Char → List (α × String) × LetterEnd α
  | [] => ([], .complete)
  | c :: cs =>
    match forms.find? (·.short = some c) with
    | none => ([], .fault (.unknownOption (String.ofList ['-', c])))
    | some o =>
      if o.takesValue then
        match cs with
        | [] => ([], .waiting o)
        | '=' :: value => ([(o.id, String.ofList value)], .complete)
        | value => ([(o.id, String.ofList value)], .complete)
      else
        let (found, last) := readLetters forms cs
        ((o.id, "") :: found, last)

/-- What an argument of a word holds. -/
inductive WordRead (α : Type) where
  | option (id : α) (value : String)
  | waiting (o : OptionForm α)
  | fault (f : UsageFault)

/-- Reads the word behind two hyphens, with a value behind an equals sign. -/
def readLongOption (forms : List (OptionForm α)) (word : List Char) : WordRead α :=
  let name := word.takeWhile (· ≠ '=')
  let value? := (word.dropWhile (· ≠ '=')).tail?
  match forms.find? (·.long.toList = name) with
  | none => .fault (.unknownOption (String.ofList ('-' :: '-' :: name)))
  | some o =>
    match value? with
    | some value =>
      if o.takesValue then .option o.id (String.ofList value)
      else .fault (.unneededValue (String.ofList ('-' :: '-' :: word)))
    | none => if o.takesValue then .waiting o else .option o.id ""

/-- What has been read of a command line. -/
inductive ScanMode (α : Type) where
  /-- Options and operands may follow. -/
  | options
  /-- An option waits for its value. -/
  | value (o : OptionForm α)
  /-- Only operands may follow. -/
  | operands

/-- Reads a command line. If it has `commands`, the first operand before `--`
is the name of one, and what follows belongs to it. -/
def scanArguments (forms : List (OptionForm α)) (commands : Bool) :
    ScanMode α → List String → ArgumentStream α
  | .value o, [] => .fault (.missingValue o.long)
  | _, [] => .done
  | .operands, a :: as =>
    .operand a (scanArguments forms commands .operands as)
  | mode, a :: as =>
    match mode, a.toList with
    | .value o, '-' :: _ :: _ => .fault (.missingValue o.long)
    | .value o, _ =>
      .option o.id a (scanArguments forms commands .options as)
    | _, ['-', '-'] => scanArguments forms commands .operands as
    | _, '-' :: '-' :: word =>
      match readLongOption forms word with
      | .option id value =>
        .option id value (scanArguments forms commands .options as)
      | .waiting o => scanArguments forms commands (.value o) as
      | .fault f => .fault f
    | _, '-' :: c :: cs =>
      match readLetters forms (c :: cs) with
      | (found, .complete) =>
        .withOptions found (scanArguments forms commands .options as)
      | (found, .waiting o) =>
        .withOptions found (scanArguments forms commands (.value o) as)
      | (found, .fault f) => .withOptions found (.fault f)
    | _, _ =>
      if commands then .command a as
      else .operand a (scanArguments forms commands .options as)

end RowFilter
