/-
Configurations: a table, its key, its fields and its date pattern.

* `Config`: what a schema file or the command line says about a table.
* `Config.compiler`: the compiler of a configuration.
* `Config.document`: a configuration as a JSON document.
* `Config.readFieldArgument`: reads `NAME:TYPE`.
-/
import RowFilter.Compiler
import RowFilter.Json.Document

namespace RowFilter

/-- What is said about a table. -/
structure Config where
  table : String
  /-- The column that orders the rows. -/
  key : String := "id"
  fields : Fields
  /-- The written form of the date pattern. -/
  dateFormat : String := DatePattern.isoText
deriving DecidableEq

/-- Why a field argument is refused. -/
inductive FieldFault where
  /-- It has no colon, or no name before the colon. -/
  | shape (argument : String)
  /-- Its type is unknown. -/
  | type (unknown : ValueType.Unknown)
deriving DecidableEq

/-- The fault in words. -/
def FieldFault.message : FieldFault → String
  | .shape a => "Invalid field '" ++ a ++ "': expected NAME:TYPE"
  | .type u => u.message

namespace Config

/-- The compiler of a configuration. -/
def compiler (c : Config) (maxLength : Option Nat) :
    Except SchemaFault Compiler :=
  (Schema.withDatePattern c.table c.fields.entries c.dateFormat).map
    fun schema => { schema, maxLength }

/-- A configuration as a JSON document. -/
def document (c : Config) : JsonDocument := .object [
  ("table", .text c.table),
  ("key", .text c.key),
  ("fields", .object (c.fields.entries.map fun f => (f.1, .text f.2.name))),
  ("date_format", .text c.dateFormat)]

/-- Reads `NAME:TYPE`. The name ends at the first colon; blanks around it do
not belong to it. -/
def readFieldArgument (argument : String) :
    Except FieldFault (String × ValueType) :=
  let cs := argument.toList
  let name := trimBlanks (cs.takeWhile (· ≠ ':'))
  match cs.dropWhile (· ≠ ':') with
  | _ :: type =>
    if name.isEmpty then .error (.shape argument)
    else
      ((ValueType.ofChars type).map (String.ofList name, ·)).mapError
        FieldFault.type
  | [] => .error (.shape argument)

end Config

end RowFilter
