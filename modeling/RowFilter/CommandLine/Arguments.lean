/-
What the arguments of a call say.

* `CommandCall`: one of the commands with its own arguments.
* `Invocation`: a command, the schema that it is to use, its limits, and how
  the answer is printed.
* `Invocation.ofArguments`: reads a command line. What the line leaves open
  is taken from variables of the environment, and then from defaults. The
  first thing that ends the reading counts: a fault, or a wish for the
  version or for help.
-/
import RowFilter.Command
import RowFilter.CommandLine.Numeral
import RowFilter.CommandLine.Scan
import RowFilter.Text.Basic

namespace RowFilter

/-! ### Calls -/

/-- A command with its own arguments. -/
inductive CommandCall where
  /-- List the tokens of a filter. -/
  | tokens (filter : String)
  /-- Show the condition of a filter. -/
  | render (filter : String)
  /-- Show a query. -/
  | query (options : QueryOptions)

/-- A call of the program. -/
structure Invocation where
  /-- The file that holds the configuration. -/
  schemaFile : Option String
  /-- The table of an inline schema. -/
  table : Option String
  /-- The fields of an inline schema, each as `NAME:TYPE`. -/
  fieldArguments : List String
  /-- The date pattern of an inline schema. -/
  dateFormat : String
  /-- The largest number of characters of a filter; zero is no limit. -/
  maxLength : Nat
  /-- The deepest nesting of a filter. -/
  maxDepth : Nat
  /-- Whether the answer is printed as JSON. -/
  json : Bool
  command : CommandCall

/-- What ends the reading of a command line. -/
inductive Interruption where
  | usage (fault : UsageFault)
  | version
  | help

/-! ### Options -/

/-- The options in front of the command. -/
inductive GlobalOption where
  | schema
  | table
  | field
  | dateFormat
  | maxLength
  | maxDepth
  | json
  | verbose
  | help
  | version
deriving DecidableEq, Repr

/-- The forms of the options in front of the command. -/
def globalForms : List (OptionForm GlobalOption) := [
  { id := .schema, long := "schema", short := some 's' },
  { id := .table, long := "table", short := some 't' },
  { id := .field, long := "field", short := some 'f' },
  { id := .dateFormat, long := "date-format" },
  { id := .maxLength, long := "max-len" },
  { id := .maxDepth, long := "max-depth" },
  { id := .json, long := "json", takesValue := false },
  { id := .verbose, long := "verbose", short := some 'v', takesValue := false },
  { id := .help, long := "help", short := some 'h', takesValue := false },
  { id := .version, long := "version", short := some 'V', takesValue := false }]

/-- The options of a query. -/
inductive QueryOption where
  | after
  | page
  | pageSize
  | columns
  | key
  | help
deriving DecidableEq, Repr

/-- The forms of the options of a query. -/
def queryForms : List (OptionForm QueryOption) := [
  { id := .after, long := "after" },
  { id := .page, long := "page", short := some 'p' },
  { id := .pageSize, long := "page-size" },
  { id := .columns, long := "columns", short := some 'c' },
  { id := .key, long := "key", short := some 'k' },
  { id := .help, long := "help", short := some 'h', takesValue := false }]

/-- The form of the only option of the other commands. -/
def helpForms : List (OptionForm Unit) := [
  { id := (), long := "help", short := some 'h', takesValue := false }]

/-- The reading ends with a usage fault. -/
def refuse {α : Type} (f : UsageFault) : Except Interruption α := .error (.usage f)

/-- Sets what may be set only once. -/
def setOnce {α : Type} (option : String) (old : Option α) (new : α) :
    Except Interruption (Option α) :=
  if old.isSome then refuse (.repeated option) else .ok (some new)

/-- The value of an option, if it can be read. -/
def readOptionValue {α : Type} (option : String) (read : String → Option α)
    (value : String) : Except Interruption α :=
  match read value with
  | some a => .ok a
  | none => refuse (.badValue option value)

/-! ### Options in front of the command -/

/-- What the options in front of the command say. -/
structure GlobalSettings where
  schema : Option String := none
  table : Option String := none
  /-- The fields, in order. -/
  fields : List String := []
  dateFormat : Option String := none
  maxLength : Option Nat := none
  maxDepth : Option Nat := none
  json : Option Unit := none
  verbose : Option Unit := none

/-- The path of a file. It is not empty. -/
def readPath (s : String) : Option String := if s = "" then none else some s

namespace GlobalSettings

/-- Takes an option with its value. -/
def take (g : GlobalSettings) (o : GlobalOption) (value : String) :
    Except Interruption GlobalSettings := do
  match o with
  | .schema =>
    let path ← readOptionValue "schema" readPath value
    return { g with schema := ← setOnce "schema" g.schema path }
  | .table => return { g with table := ← setOnce "table" g.table value }
  | .field => return { g with fields := g.fields ++ [value] }
  | .dateFormat =>
    return { g with dateFormat := ← setOnce "date-format" g.dateFormat value }
  | .maxLength =>
    let n ← readOptionValue "max-len" readSize value
    return { g with maxLength := ← setOnce "max-len" g.maxLength n }
  | .maxDepth =>
    let n ← readOptionValue "max-depth" readSize value
    return { g with maxDepth := ← setOnce "max-depth" g.maxDepth n }
  | .json => return { g with json := ← setOnce "json" g.json () }
  | .verbose => return { g with verbose := ← setOnce "verbose" g.verbose () }
  | .help => throw .help
  | .version => throw .version

/-- Takes the options of a line up to the command. -/
def takeAll (g : GlobalSettings) : ArgumentStream GlobalOption →
    Except Interruption (GlobalSettings × String × List String)
  | .done => refuse .missingCommand
  | .fault f => refuse f
  | .operand a _ => refuse (.unexpectedOperand a)
  | .command name args => .ok (g, name, args)
  | .option o value rest =>
    match g.take o value with
    | .ok g' => g'.takeAll rest
    | .error e => .error e

/-- Takes a variable of the environment for an option that the line leaves
open. -/
def takeVariable (environment : String → Option String) (o : GlobalOption)
    (variableName : String) (isOpen : GlobalSettings → Bool)
    (g : GlobalSettings) : Except Interruption GlobalSettings :=
  match environment variableName with
  | some value => if isOpen g then g.take o value else .ok g
  | none => .ok g

/-- Takes all variables of the environment. -/
def takeEnvironment (g : GlobalSettings) (environment : String → Option String) :
    Except Interruption GlobalSettings := do
  let g ← takeVariable environment .schema "SIFT_SCHEMA" (·.schema.isNone) g
  let g ← takeVariable environment .maxLength "SIFT_MAX_FILTER_LEN"
    (·.maxLength.isNone) g
  takeVariable environment .maxDepth "SIFT_MAX_FILTER_DEPTH"
    (·.maxDepth.isNone) g

/-- A schema file and an inline table exclude each other. -/
def check (g : GlobalSettings) : Except Interruption Unit :=
  if g.schema.isSome ∧ g.table.isSome then refuse (.conflict "table" "schema")
  else .ok ()

/-- How long a filter may be unless said otherwise. -/
def defaultMaxLength : Nat := 500

/-- The call of a command with these settings. -/
def toInvocation (g : GlobalSettings) (command : CommandCall) : Invocation where
  schemaFile := g.schema
  table := g.table
  fieldArguments := g.fields
  dateFormat := g.dateFormat.getD DatePattern.isoText
  maxLength := g.maxLength.getD defaultMaxLength
  maxDepth := g.maxDepth.getD defaultMaxDepth
  json := g.json.isSome
  command := command

end GlobalSettings

/-! ### Commands -/

/-- The only operand of a command. -/
def onlyFilter : ArgumentStream Unit → Option String →
    Except Interruption String
  | .done, some filter => .ok filter
  | .done, none => refuse (.missingOperand "FILTER")
  | .operand a rest, none => onlyFilter rest (some a)
  | .operand a _, some _ => refuse (.unexpectedOperand a)
  | .option _ _ _, _ => .error .help
  | .command a _, _ => refuse (.unexpectedOperand a)
  | .fault f, _ => refuse f

/-- Takes an option of a query with its value. -/
def QueryOptions.take (q : QueryOptions) (o : QueryOption) (value : String) :
    Except Interruption QueryOptions := do
  match o with
  | .after =>
    let n ← readOptionValue "after" readInt64 value
    return { q with after := ← setOnce "after" q.after n }
  | .page =>
    let n ← readOptionValue "page" readUInt32 value
    return { q with page := ← setOnce "page" q.page n }
  | .pageSize =>
    let n ← readOptionValue "page-size" readUInt32 value
    return { q with pageSize := ← setOnce "page-size" q.pageSize n }
  | .columns =>
    let names := (cutAt ',' value.toList).map String.ofList
    return { q with columns := q.columns ++ names }
  | .key => return { q with key := ← setOnce "key" q.key value }
  | .help => throw .help

/-- Takes the arguments of a query. -/
def QueryOptions.takeAll (q : QueryOptions) : ArgumentStream QueryOption →
    Except Interruption QueryOptions
  | .done => .ok { q with pageSize := some (q.pageSize.getD defaultPageSize) }
  | .fault f => refuse f
  | .command a _ => refuse (.unexpectedOperand a)
  | .operand a rest =>
    if q.filter.isSome then refuse (.unexpectedOperand a)
    else QueryOptions.takeAll { q with filter := some a } rest
  | .option o value rest =>
    match q.take o value with
    | .ok q' => q'.takeAll rest
    | .error e => .error e

/-- The names of the commands. -/
def commandNames : List String := ["tokens", "render", "query", "help"]

/-- The command of a name, with its arguments. -/
def CommandCall.ofArguments (name : String) (args : List String) :
    Except Interruption CommandCall :=
  let filter := onlyFilter (scanArguments helpForms false .options args) none
  if name = "tokens" then filter.map .tokens
  else if name = "render" then filter.map .render
  else if name = "query" then
    (QueryOptions.takeAll {} (scanArguments queryForms false .options args)).map
      .query
  else if name = "help" then
    match args with
    | [] => .error .help
    | [a] =>
      if commandNames.contains a then .error .help
      else refuse (.unknownCommand a)
    | _ :: a :: _ => refuse (.unknownCommand a)
  else refuse (.unknownCommand name)

/-- Reads a command line, with the variables of the environment. -/
def Invocation.ofArguments (environment : String → Option String)
    (args : List String) : Except Interruption Invocation := do
  let (g, name, rest) ← GlobalSettings.takeAll {}
    (scanArguments globalForms true .options args)
  let command ← CommandCall.ofArguments name rest
  let g ← g.takeEnvironment environment
  g.check
  return g.toInvocation command

/-- The line that names the program and its version. -/
def versionText : String := "sift 0.1.0\n"

/-- How the program is called. -/
def helpText : String :=
  "Usage: sift [OPTIONS] <COMMAND>\n\n"
    ++ "Commands:\n"
    ++ "  tokens <FILTER>          list the tokens of a filter\n"
    ++ "  render <FILTER>          show the SQL condition of a filter\n"
    ++ "  query [OPTIONS] [FILTER] show a paginated query\n\n"
    ++ "Options:\n"
    ++ "  -s, --schema <FILE>      JSON schema file\n"
    ++ "  -t, --table <NAME>       table of an inline schema\n"
    ++ "  -f, --field <NAME:TYPE>  field of an inline schema\n"
    ++ "      --date-format <P>    date pattern of an inline schema\n"
    ++ "      --max-len <N>        longest filter, 0 for no limit\n"
    ++ "      --max-depth <N>      deepest nesting\n"
    ++ "      --json               print JSON\n"
    ++ "  -v, --verbose            print more\n"
    ++ "  -h, --help               print this help\n"
    ++ "  -V, --version            print the version\n"

end RowFilter
