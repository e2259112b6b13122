import SinkCheck.Json.Printer
import SinkCheck.Report.Basic
import SinkCheck.Setting.Value
/-
  Reports in JSON.

  Values are plain JSON, secrets included; whoever hides them shows values by `Value.shown?`.  Faults
  and issues are objects with their kind and their details.
-/

namespace SinkCheck

/-- A value in JSON. -/
def Value.toJson : Value → Json
  | .null => .null
  | .string s | .secret s => .string s
  | .int n => .ofInt n.toInt
  | .boolean b => .bool b
  | .list l => .ofTexts l

/-- A fault in JSON. -/
def SyntaxFault.toJson : SyntaxFault → Json
  | .missing p => .record [("kind", .string "missing"), ("property", .string p)]
  | .invalid p v r =>
    .record [("kind", .string "invalid_value"), ("property", .string p), ("value", .string v),
      ("reason", .string r.message)]

/-- The faults of a configuration in JSON. -/
def SyntaxFault.listToJson (faults : List SyntaxFault) : Json :=
  .record [("errors", .array (faults.map toJson))]

/-- The details of an issue. -/
def Issue.details : Issue → List (String × Json)
  | lingerExceedsFlushTimeout linger flush =>
    [("linger_ms", .ofInt linger.toInt), ("flush_timeout_ms", .ofInt flush.toInt)]
  | bufferTooSmall buffered batch inFlight =>
    [("max_buffered_records", .ofInt buffered.toInt), ("batch_size", .ofInt batch.toInt),
     ("max_in_flight_requests", .ofInt inFlight.toInt)]
  | proxyHostRequired property => [("property", .string property)]
  | sslConfigsMissing missing => [("missing", .ofTexts missing)]
  | connectionFailed d | authenticationFailed d | sslConnectionFailed d | kerberosConnectionFailed d
  | proxyConnectionFailed d | clientCreationFailed d => [("detail", .string d)]
  | dataStreamVersionIncompatible server minimum =>
    [("server_version", .string server), ("minimum_version", .string minimum)]
  | connectorVersionIncompatible connector server minimum =>
    [("connector_version", .string connector), ("server_version", .string server),
     ("minimum_version", .string minimum)]
  | _ => []

/-- An issue in JSON. -/
def Issue.toJson (i : Issue) : Json := .record (("kind", .string i.kind) :: i.details)

/-- A violation in JSON. -/
def Violation.toJson (v : Violation) : Json :=
  .record [("fields", .ofTexts v.fields), ("issue", v.issue.toJson)]

/-- A finding in JSON. -/
def Finding.toJson : Finding → Json
  | .fault f => .record [("source", .string "syntax"), ("error", f.toJson)]
  | .issue i => .record [("source", .string "issue"), ("error", i.toJson)]

/-- An entry in JSON. -/
def Report.Entry.toJson (e : Entry) : Json :=
  .record [("name", .string e.name), ("value", .ofText? e.value),
    ("errors", .array (e.findings.map Finding.toJson))]

/-- A report in JSON. -/
def Report.toJson (r : Report) : Json := .record [("fields", .array (r.entries.map Entry.toJson))]

end SinkCheck
