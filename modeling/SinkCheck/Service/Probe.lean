import SinkCheck.Service.Client
/-
  Probing the service.

  One probe makes one client, asks whether the service is alive and, if it is reachable, what version
  it has, and releases the client.  An answer that forbids the question also shows that the service is
  reachable.

  Main statement: `log_probe_script`, the calls of a probe.
-/

namespace SinkCheck

/-- What a client found out about the life of the service. -/
inductive Liveness where
  | reachable
  | unreachable (detail : String)
  | denied
  deriving Repr, DecidableEq

/-- Is the service reachable? -/
def Liveness.isReachable : Liveness → Bool
  | unreachable _ => false
  | _ => true

/-- What an answer to the question of life means. -/
def Liveness.ofAnswer : Except ClientError Bool → Liveness
  | .ok true => .reachable
  | .ok false => .unreachable ""
  | .error e => if e.isForbidden then .denied else .unreachable e.message

/-- What a probe found out. -/
inductive Outcome where
  | unavailable (detail : String)
  | completed (liveness : Liveness) (version : Option String)
  deriving Repr, DecidableEq

namespace Client

variable {ε : Type}

/-- Is the service alive? -/
def liveness (c : Client ε) : Logged ε Liveness := do
  let answer ← c.ping
  pure (.ofAnswer answer)

/-- The version of the service, if it tells one. -/
def version? (c : Client ε) : Logged ε (Option String) := do
  let answer ← c.info
  pure (answer.toOption.map ServerInfo.version)

/-- Whether the service is alive and, if it is reachable, its version. -/
def examine (c : Client ε) : Logged ε (Liveness × Option String) := do
  let liveness ← c.liveness
  let version ← if liveness.isReachable then c.version? else pure none
  pure (liveness, version)

end Client

/-- Probe the service once. -/
def ClientFactory.probe {ε : Type} (factory : ClientFactory ε) (s : Settings) :
    Logged ε Outcome := do
  match ← factory.withClient s Client.examine with
  | .error e => pure (.unavailable e.message)
  | .ok (liveness, version) => pure (.completed liveness version)

/-- A probe makes a client and, if one was made, asks for life, then for the version only of a reachable
service, and releases the client. -/
theorem log_probe_script (script : Script) (s : Settings) :
    (script.factory.probe s).log =
      match script.create with
      | .error _ => [.create]
      | .ok _ =>
        if (Liveness.ofAnswer script.ping).isReachable then [.create, .ping, .info, .close]
        else [.create, .ping, .close] := by
  unfold ClientFactory.probe
  cases h : script.create with
  | error e =>
    have hf : (script.factory s).value = .error e := by simp [Script.factory, h]; rfl
    rw [Logged.log_bind, ClientFactory.withClient_of_error hf]
    simp [Script.factory]
  | ok u =>
    have hf : (script.factory s).value = .ok script.client := by simp [Script.factory, h]; rfl
    rw [Logged.log_bind, ClientFactory.withClient_of_ok hf]
    by_cases hl : (Liveness.ofAnswer script.ping).isReachable <;>
      simp [Script.factory, Script.client, Client.examine, Client.liveness, Client.version?, hl]

end SinkCheck
