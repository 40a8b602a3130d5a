/-
What a call of the program prints.

* `RunFault`: why a call fails, once its arguments are read.
* `Invocation.config`: the configuration that a call is to use.
* `Invocation.run`: what a call prints.
* `Outcome`, `runProgram`: what comes of a command line.

An outcome is the printed text or the fault, and nothing else. The lines that are logged
on the way (schema loaded, tokens read, filter compiled or rejected) go to the error
stream and are left out here, so `--verbose` is read and changes nothing; and of a schema
file that is no configuration, the fault names the path only.
-/
import RowFilter.CommandLine.Arguments
import RowFilter.CommandLine.Files
import RowFilter.Config.Json

namespace RowFilter

/-- Why a call fails. -/
inductive RunFault where
  /-- A file cannot be read. -/
  | file (fault : FileFault)
  /-- A file holds no configuration. -/
  | schemaFile (path : String)
  /-- There is neither a file nor a table. -/
  | missingSchema
  /-- A field argument is refused. -/
  | field (fault : FieldFault)
  /-- The schema or the filter is refused. -/
  | filter (fault : FilterFault)

/-- The fault in words. -/
def RunFault.message : RunFault → String
  | .file f => "IO error: " ++ f.message
  | .schemaFile path => "Failed to parse schema file '" ++ path ++ "'"
  | .missingSchema =>
    "No schema given: pass --schema FILE or --table NAME with --field NAME:TYPE"
  | .field f => f.message
  | .filter f => f.message

namespace Invocation

/-- The configuration of a file. -/
def fileConfig (readFile : FileReader) (path : String) : Except RunFault Config :=
  match readFile path with
  | .error f => .error (.file f)
  | .ok text => (Config.ofJson text).mapError fun _ => .schemaFile path

/-- The configuration of an inline table. The first field argument that is
refused counts. -/
def inlineConfig (i : Invocation) (table : String) : Except RunFault Config := do
  let decls ← (i.fieldArguments.mapM Config.readFieldArgument).mapError .field
  return { table, fields := Fields.ofList decls, dateFormat := i.dateFormat }

/-- The configuration that a call is to use. -/
def config (readFile : FileReader) (i : Invocation) : Except RunFault Config :=
  match i.schemaFile, i.table with
  | some path, _ => fileConfig readFile path
  | none, some table => i.inlineConfig table
  | none, none => .error .missingSchema

/-- The compiler of a configuration, with the limits of a call. -/
def compiler (i : Invocation) (config : Config) : Except RunFault Compiler :=
  let maxLength := if i.maxLength = 0 then none else some i.maxLength
  ((config.compiler maxLength).map fun c => { c with maxDepth := i.maxDepth }).mapError
    fun f => .filter (.schema f)

/-- An answer in the form that a call asks for. -/
def print (i : Invocation) (document : JsonDocument) (text : String) : String :=
  (if i.json then document.pretty else text) ++ "\n"

/-- A statement in the form that a call asks for. -/
def printStatement (i : Invocation) (st : Statement) : String :=
  i.print st.document st.report

/-- Token rows in the form that a call asks for. -/
def printRows (i : Invocation) (rows : List TokenRow) : String :=
  i.print (.array (rows.map TokenRow.document))
    ("\n".intercalate (rows.map TokenRow.line))

/-- What the command of a call prints. -/
def answer (i : Invocation) (config : Config) (c : Compiler) :
    Except FilterFault String :=
  match i.command with
  | .tokens filter =>
    ((tokenRows filter).map i.printRows).mapError
      fun f => .expression (.ofLexFault f)
  | .render filter =>
    ((renderFilter c filter).map i.printStatement).mapError .expression
  | .query options =>
    ((buildQuery c config options).map i.printStatement).mapError .expression

/-- What a call prints. -/
def run (readFile : FileReader) (i : Invocation) : Except RunFault String := do
  let config ← i.config readFile
  let c ← i.compiler config
  (i.answer config c).mapError .filter

end Invocation

/-- What comes of a command line. -/
inductive Outcome where
  /-- A text is printed. -/
  | printed (text : String)
  /-- The call fails. -/
  | failed (fault : RunFault)
  /-- The arguments are refused. -/
  | refused (fault : UsageFault)

/-- What comes of a command line, given the variables of the environment and
the files. -/
def runProgram (environment : String → Option String) (readFile : FileReader)
    (args : List String) : Outcome :=
  match Invocation.ofArguments environment args with
  | .error .version => .printed versionText
  | .error .help => .printed helpText
  | .error (.usage f) => .refused f
  | .ok i =>
    match i.run readFile with
    | .ok text => .printed text
    | .error f => .failed f

end RowFilter
