/-
Schemas: a table, the fields that filters may use, and how dates are read.

* `SchemaFault`: why declarations make no schema.
* `Schema`: a named table whose fields all have declarable types.
* `Schema.of`: checks declarations.
* `Schema.withDatePattern`: a schema whose dates are read by a pattern.
-/
import RowFilter.Date.Reading
import RowFilter.Fields

namespace RowFilter

/-! ### Faults -/

/-- Why declarations make no schema. -/
inductive SchemaFault where
  /-- The table has no name. -/
  | unnamedTable
  /-- The field has a type that no field may have. -/
  | undeclarable (name : String) (type : ValueType)
deriving DecidableEq, Repr

/-- The fault in words. -/
def SchemaFault.message : SchemaFault → String
  | .unnamedTable => "invalid schema: table name must not be empty"
  | .undeclarable name type =>
    "invalid schema: field " ++ quoted name ++ " cannot have type " ++ type.name

/-! ### Schemas -/

/-- Reads a date, or says in words why the text is none. -/
abbrev DateReader := String → Except String Date

/-- Reads dates by a pattern in its written form. -/
def DatePattern.reader (pattern : String) : DateReader := fun s =>
  ((DatePattern.ofText pattern).parse s).mapError DateFault.message

/-- A table, its fields, and how dates are read. -/
structure Schema where
  table : String
  fields : Fields
  readDate : DateReader
  named : table ≠ ""
  declarable : ∀ f ∈ fields.entries, f.2.isDeclarable = true

namespace Schema

/-- The type of a field. -/
def fieldType? (s : Schema) (name : String) : Option ValueType :=
  s.fields.find? name

/-- Checks the name of the table and then the declared types, in order. Of
several declarations of one name the last one counts. -/
def of (table : String) (decls : List (String × ValueType))
    (readDate : DateReader) : Except SchemaFault Schema :=
  if named : table = "" then .error .unnamedTable
  else
    match h : decls.find? fun d => !d.2.isDeclarable with
    | some d => .error (.undeclarable d.1 d.2)
    | none => .ok {
        table, readDate, named
        fields := Fields.ofList decls
        declarable := fun f hf => by
          simpa using List.find?_eq_none.1 h f (Fields.mem_entries_ofList hf) }

/-- A schema whose dates are read by a pattern in its written form. -/
def withDatePattern (table : String) (decls : List (String × ValueType))
    (pattern : String) : Except SchemaFault Schema :=
  of table decls (DatePattern.reader pattern)

/-! ### Description -/

/-- A type in words, for the description of a schema. -/
def typeWord : ValueType → String
  | .number => "Number"
  | .string => "String"
  | .date => "Date"
  | .bool => "Bool"
  | .array item => "Array(" ++ typeWord item ++ ")"

/-- A schema in one line: its table and its fields. -/
def describe (s : Schema) : String :=
  let fields := s.fields.entries.map fun f =>
    quoted f.1 ++ ": " ++ typeWord f.2
  "Schema \x7b table: " ++ quoted s.table ++ ", fields: \x7b"
    ++ ", ".intercalate fields ++ "\x7d, .. \x7d"

end Schema

end RowFilter
