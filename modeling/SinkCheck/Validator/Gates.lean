import SinkCheck.Report.Issue
import SinkCheck.Service.Probe
import SinkCheck.Version
/-
  What a probe means for the report.

  An unreachable service is held against every setting that has to do with the connection.  A version
  of the service passes two gates: it must be new enough for the connector, and for data streams where
  the sink writes to one.

  Main statement: `versionViolations_eq_ok_iff`, when the gates give an answer and which.
-/

namespace SinkCheck

/-! ## Options -/

/-- What a validation is told besides the properties. -/
structure Options where
  dataStreamMinimum : String
  connectorMinimum : String
  connectorVersion : String
  probes : Bool
  deriving Repr, DecidableEq

namespace Options

/-- The usual options. -/
def standard : Options :=
  ⟨Version.dataStreamMinimum, Version.connectorMinimum, Version.connector, true⟩

/-- The usual options, without contacting the service. -/
def offline : Options := { standard with probes := false }

end Options

/-! ## An unreachable service -/

/-- The violations of an unreachable service: one for the connection, and one for each feature that may
be the cause. -/
def connectionViolations (s : Settings) (detail : String) : List Violation :=
  [.on [.connectionUrl] (.connectionFailed detail)] ++
  (if s.isAuthenticated then
    [.on [.connectionUsername, .connectionPassword] (.authenticationFailed detail)] else []) ++
  (if s.isSslEnabled then [.on [.securityProtocol] (.sslConnectionFailed detail)] else []) ++
  (if s.isKerberosEnabled then
    [.on [.kerberosPrincipal, .kerberosKeytabPath] (.kerberosConnectionFailed detail)] else []) ++
  (if s.isProxyConfigured then
    [.on (if s.isProxyAuthenticated then [.proxyHost, .proxyPort, .proxyUsername, .proxyPassword]
        else [.proxyHost, .proxyPort]) (.proxyConnectionFailed detail)] else [])

/-! ## The gates -/

/-- The gate for data streams. -/
def dataStreamGate (s : Settings) (server : String) (o : Options) :
    Except Version.InvalidSegment (List Violation) :=
  if s.isDataStream then
    match Version.isOlder server o.dataStreamMinimum with
    | .error e => .error e
    | .ok true =>
      .ok [.on [.connectionUrl, .dataStreamType, .dataStreamDataset]
        (.dataStreamVersionIncompatible server o.dataStreamMinimum)]
    | .ok false => .ok []
  else .ok []

/-- The gate for the connector. -/
def connectorGate (server : String) (o : Options) :
    Except Version.InvalidSegment (List Violation) :=
  match Version.isOlder server o.connectorMinimum with
  | .error e => .error e
  | .ok true =>
    .ok [.on [.connectionUrl]
      (.connectorVersionIncompatible o.connectorVersion server o.connectorMinimum)]
  | .ok false => .ok []

/-- The violations of both gates.  A gate that cannot compare its versions fails the whole. -/
def versionViolations (s : Settings) (server : String) (o : Options) :
    Except Version.InvalidSegment (List Violation) :=
  match dataStreamGate s server o, connectorGate server o with
  | .error e, _ => .error e
  | .ok _, .error e => .error e
  | .ok vs, .ok ws => .ok (vs ++ ws)

theorem versionViolations_eq_ok_iff {s : Settings} {server : String} {o : Options}
    {vs : List Violation} :
    versionViolations s server o = .ok vs ↔
      ∃ us ws, dataStreamGate s server o = .ok us ∧ connectorGate server o = .ok ws ∧
        vs = us ++ ws := by
  unfold versionViolations
  constructor
  · intro h
    split at h
    · cases h
    · cases h
    · next us ws hu hw => exact ⟨us, ws, hu, hw, (Except.ok.inj h).symm⟩
  · rintro ⟨us, ws, hu, hw, rfl⟩
    simp [hu, hw]

/-! ## Outcomes -/

/-- The violation of a service that could not be examined. -/
def creationViolation (detail : String) : Violation :=
  .on [.connectionUrl] (.clientCreationFailed detail)

/-- What the life of the service means for the report. -/
def Liveness.violations (s : Settings) : Liveness → List Violation
  | unreachable detail => connectionViolations s detail
  | reachable | denied => []

/-- What the version of the service means for the report.  One that cannot be compared counts as a
service that could not be examined. -/
def serverViolations (s : Settings) (o : Options) (server : String) : List Violation :=
  match versionViolations s server o with
  | .ok vs => vs
  | .error e => [creationViolation e.message]

/-- What an outcome of a probe means for the report. -/
def Outcome.violations (o : Options) (s : Settings) : Outcome → List Violation
  | unavailable detail => [creationViolation detail]
  | completed liveness none => liveness.violations s
  | completed liveness (some server) => liveness.violations s ++ serverViolations s o server

end SinkCheck
