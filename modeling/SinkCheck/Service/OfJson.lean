import SinkCheck.Json.Record
import SinkCheck.Service.Client
/-
  What a service told of itself, read from JSON.

  The record has a version and perhaps the name of the cluster and a distribution.  As an array it may
  end early.
-/

namespace SinkCheck

namespace ServerInfo

/-- The record in a written JSON value. -/
def ofWritten? : Json.Written → Option ServerInfo
  | .object members => do
    let fields ← Json.fields? ["version", "cluster_name", "distribution"] members
    let version ← (← Json.field? "version" fields).string?
    let clusterName ← Json.missingOrString? (Json.field? "cluster_name" fields)
    let distribution ← Json.missingOrString? (Json.field? "distribution" fields)
    some { version, clusterName, distribution }
  | .array (version :: rest) => do
    if 2 < rest.length then none
    let version ← version.string?
    let clusterName ← Json.missingOrString? rest[0]?
    let distribution ← Json.missingOrString? rest[1]?
    some { version, clusterName, distribution }
  | _ => none

/-- The record in a JSON text. -/
def ofText? (text : String) : Option ServerInfo := (Json.Written.ofText? text).bind ofWritten?

end ServerInfo

end SinkCheck
