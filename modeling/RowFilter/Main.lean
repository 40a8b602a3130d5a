/-
The program: reads its arguments, the environment and the schema file, prints
what comes of them, and ends with 0, with 1 if the call fails, or with 2 if
the arguments are refused.
-/
import RowFilter.CommandLine.Run

open RowFilter

/-- Whether the operating system reports the fault of this number. The
number may be reported with a minus sign. -/
def hasNumber (code number : UInt32) : Bool := code = number || 0 - code = number

/-- The fault that the operating system reports. -/
def fileFaultOf (e : IO.Error) : FileFault :=
  match e with
  | .noFileOrDirectory .. => .notFound
  | .permissionDenied .. => .denied
  | .inappropriateType _ code _ =>
    if hasNumber code 20 then .notDirectory else .isDirectory
  | .invalidArgument _ code _ =>
    if hasNumber code 36 then .nameTooLong else .other (toString e)
  | e => .other (toString e)

/-- Reads a file as text. -/
def readSchemaFile (path : String) : IO (Except FileFault String) := do
  match ← (IO.FS.readBinFile path).toBaseIO with
  | .error e => return .error (fileFaultOf e)
  | .ok bytes =>
    match String.fromUTF8? bytes with
    | some text => return .ok text
    | none => return .error .notText

/-- Runs the program. -/
def main (args : List String) : IO UInt32 := do
  let names := ["SIFT_SCHEMA", "SIFT_MAX_FILTER_LEN", "SIFT_MAX_FILTER_DEPTH"]
  let known ← names.mapM fun name => do return (name, ← IO.getEnv name)
  let environment (name : String) : Option String :=
    (known.lookup name).join
  let schemaFile := match Invocation.ofArguments environment args with
    | .ok i => i.schemaFile
    | .error _ => none
  let text ← schemaFile.mapM readSchemaFile
  let readFile : FileReader := fun _ => text.getD (.ok "")
  match runProgram environment readFile args with
  | .printed text =>
    IO.print text
    return 0
  | .failed fault =>
    IO.eprintln ("Error: " ++ fault.message)
    return 1
  | .refused fault =>
    IO.eprintln ("error: " ++ fault.message)
    return 2
