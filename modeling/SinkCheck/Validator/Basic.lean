import SinkCheck.Json.Reader
import SinkCheck.Properties.OfJson
import SinkCheck.Rule
import SinkCheck.Schema
import SinkCheck.Validator.Gates
/-
  Validation.

  A validation checks the properties against the schema, then holds the settings against all rules, and
  contacts the service only when nothing was wrong so far.  It always ends in a report.  Properties may
  also come as a JSON object or as a file that holds one; what keeps them from being read at all is a
  failure and not part of a report.

  Main statement: `validate_of_none`, a validation stops where the schema gives no settings.
-/

namespace SinkCheck

/-! ## Failures -/

/-- What keeps a validation from starting. -/
inductive Failure where
  | configuration (faults : List SyntaxFault)
  | version (segment : Version.InvalidSegment)
  | notJson
  | file (message : String)
  deriving Repr, DecidableEq

namespace Failure

/-- The wording of a failure. -/
def message : Failure → String
  | configuration faults => "Configuration error: " ++ faults.length.repr ++ " invalid properties"
  | version e => e.message
  | notJson => "JSON error"
  | file m => "IO error: " ++ m

/-- The wording of what lies behind a failure. -/
def cause? : Failure → Option String
  | configuration faults => some (SyntaxFault.summary faults)
  | file m => some m
  | version _ | notJson => none

end Failure

/-! ## Files -/

/-- The files that a validation may look at. -/
structure FileSystem where
  isFile : String → Bool
  read : String → Except String ByteArray

/-- The text of a file; it must be encoded in UTF-8. -/
def FileSystem.readText (fs : FileSystem) (path : String) : Except Failure String :=
  match fs.read path with
  | .error m => .error (.file m)
  | .ok bytes => match String.fromUTF8? bytes with
    | some text => .ok text
    | none => .error (.file "stream did not contain valid UTF-8")

/-! ## Validators -/

/-- A validator: its schema, its maker of clients and its options. -/
structure Validator (ε : Type) where
  schema : Schema
  factory : ClientFactory ε
  options : Options

namespace Validator

variable {ε : Type}

/-- The report on properties. -/
def validate (v : Validator ε) (ps : Properties) : Logged ε Report :=
  match v.schema.check ps with
  | (report, none) => pure report
  | (report, some s) =>
    let report := report.attachAll s.violations
    if report.hasErrors then pure report
    else if !v.options.probes then pure report
    else do
      let outcome ← v.factory.probe s
      pure (report.attachAll (outcome.violations v.options s))

/-- The report on the properties in a JSON value. -/
def validateJson (v : Validator ε) (json : Json) : Logged ε (Except Failure Report) :=
  match Properties.ofJson json with
  | .error faults => pure (.error (.configuration faults))
  | .ok ps => do
    let report ← v.validate ps
    pure (.ok report)

/-- The report on the properties in a JSON text. -/
def validateText (v : Validator ε) (text : String) : Logged ε (Except Failure Report) :=
  match Json.parse? text with
  | none => pure (.error .notJson)
  | some json => v.validateJson json

/-- The report on the properties in a file. -/
def validateFile (v : Validator ε) (fs : FileSystem) (path : String) :
    Logged ε (Except Failure Report) :=
  match fs.readText path with
  | .error e => pure (.error e)
  | .ok text => v.validateText text

/-- A validation stops when the check of the schema gives no settings. -/
theorem validate_of_none {v : Validator ε} {ps : Properties} {report : Report}
    (h : v.schema.check ps = (report, none)) : v.validate ps = pure report := by
  simp [validate, h]

end Validator

end SinkCheck
