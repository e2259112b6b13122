import SinkCheck.Json.Record
import SinkCheck.Service.Client
/-
  Records in the bodies of answers.

  Two records are read: what a service tells of itself, and the reason of a failure.  A record may be
  written as an object or as an array.
-/

namespace SinkCheck.Http

open Json (Written)

/-- The version record: a number and perhaps a distribution. -/
def versionInfo? : Written → Option (String × Option String)
  | .object members => do
    let fields ← Json.fields? ["number", "distribution"] members
    let number ← (← Json.field? "number" fields).string?
    let distribution ← Json.missingOrString? (Json.field? "distribution" fields)
    some (number, distribution)
  | .array [number, distribution] => do
    let number ← number.string?
    let distribution ← distribution.optionalString?
    some (number, distribution)
  | _ => none

/-- What a service tells of itself: perhaps a name of its cluster, and a version record. -/
def serverInfo? : Written → Option ServerInfo
  | .object members => do
    let fields ← Json.fields? ["cluster_name", "version"] members
    let clusterName ← Json.missingOrString? (Json.field? "cluster_name" fields)
    let (version, distribution) ← versionInfo? (← Json.field? "version" fields)
    some { version, clusterName, distribution }
  | .array [clusterName, version] => do
    let clusterName ← clusterName.optionalString?
    let (version, distribution) ← versionInfo? version
    some { version, clusterName, distribution }
  | _ => none

/-- The members of an object whose key is `key`, provided that all keys are proper strings. -/
def membersOf? (key : String) (members : List (List Json.Part × Written)) : Option (List Written) := do
  let keyed ← members.mapM fun (parts, w) => (Json.text? parts).map fun k => (k, w)
  some ((keyed.filter fun (k, _) => k == key).map Prod.snd)

/-- The reason of a failure: a text, or an object with exactly one reason that is a text.  The whole of
it has to be sound, also what is not wanted. -/
def reason? (w : Written) : Option String :=
  match Written.read? (Json.maxDepth - 1) w with
  | none => none
  | some _ => match w with
    | .string parts => Json.text? parts
    | .object members => match membersOf? "reason" members with
      | some [reason] => reason.string?
      | _ => none
    | _ => none

/-- The reason in the body of a failure. -/
def failureReason? : Written → Option String
  | .object members => do
    let fields ← Json.fields? ["error"] members
    reason? (← Json.field? "error" fields)
  | .array [w] => reason? w
  | _ => none

end SinkCheck.Http
