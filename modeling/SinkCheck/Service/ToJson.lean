import SinkCheck.Json.Basic
import SinkCheck.Service.Probe
/-
  What a client found out, in JSON.
-/

namespace SinkCheck

/-- What the service told of itself; what it did not tell is left out. -/
def ServerInfo.toJson (i : ServerInfo) : Json :=
  .record (("version", .string i.version) ::
    (i.clusterName.toList.map fun s => ("cluster_name", .string s)) ++
    (i.distribution.toList.map fun s => ("distribution", .string s)))

/-- The life of the service. -/
def Liveness.toJson : Liveness → Json
  | reachable => .record [("status", .string "reachable")]
  | unreachable detail => .record [("status", .string "unreachable"), ("detail", .string detail)]
  | denied => .record [("status", .string "authorization_denied")]

/-- The outcome of a probe. -/
def Outcome.toJson : Outcome → Json
  | unavailable detail =>
    .record [("outcome", .string "client_unavailable"), ("detail", .string detail)]
  | completed liveness version =>
    .record [("outcome", .string "completed"), ("result", liveness.toJson),
      ("server_version", .ofText? version)]

end SinkCheck
