import SinkCheck.Logged
import SinkCheck.Settings.Basic
/-
  Clients of the search service.

  A client asks the service two things, whether it is alive and what it is, and is released in the end.
  A call answers at once and may log entries of some type `ε` on its way; what a call answers depends
  on the client alone.

  Main statements: `withClient_of_error` and `withClient_of_ok`, a client that was made is released
  exactly once, whatever it was used for.
-/

namespace SinkCheck

/-! ## Failures -/

/-- The failure of a call: the service answered with the status of a failure, there was no answer, or
something else went wrong. -/
inductive ClientError where
  | status (code : Nat) (message : String)
  | transport (message : String)
  | other (message : String)
  deriving Repr, DecidableEq

namespace ClientError

/-- The message of a failure, possibly empty. -/
def message : ClientError → String
  | status _ m | transport m | other m => m

/-- The status that the service answered. -/
def code? : ClientError → Option Nat
  | status c _ => some c
  | _ => none

/-- Is the service there, but closed to the caller? -/
def isForbidden (e : ClientError) : Bool := e.code? == some 403

/-- The classes of failures. -/
inductive Class where
  | authentication
  | client
  | server
  | network
  | unknown
  deriving Repr, DecidableEq

/-- The name of a class. -/
def Class.name : Class → String
  | authentication => "authentication_error"
  | client => "client_error"
  | server => "server_error"
  | network => "network_error"
  | unknown => "unknown"

/-- The class of a failure. -/
def classify : ClientError → Class
  | status c _ =>
    if c = 401 ∨ c = 403 then .authentication
    else if 400 ≤ c ∧ c < 500 then .client
    else if 500 ≤ c ∧ c < 600 then .server
    else .unknown
  | transport _ => .network
  | other _ => .unknown

end ClientError

/-! ## Clients -/

/-- What the service tells of itself. -/
structure ServerInfo where
  version : String
  clusterName : Option String
  distribution : Option String
  deriving Repr, DecidableEq

/-- A client. -/
structure Client (ε : Type) where
  ping : Logged ε (Except ClientError Bool)
  info : Logged ε (Except ClientError ServerInfo)
  close : Logged ε (Except ClientError Unit)

/-- What a client can be asked to do. -/
inductive Use where
  | ping
  | info
  | close
  deriving Repr, DecidableEq

/-- What a client answers. -/
inductive Answer where
  | alive (answer : Except ClientError Bool)
  | told (answer : Except ClientError ServerInfo)
  | released (answer : Except ClientError Unit)

/-- Use a client once. -/
def Client.perform {ε : Type} (c : Client ε) : Use → Logged ε Answer
  | .ping => Answer.alive <$> c.ping
  | .info => Answer.told <$> c.info
  | .close => Answer.released <$> c.close

/-- A maker of clients. -/
abbrev ClientFactory (ε : Type) := Settings → Logged ε (Except ClientError (Client ε))

/-- Make a client, use it and release it.  How the release went is not told. -/
def ClientFactory.withClient {ε β : Type} (factory : ClientFactory ε) (s : Settings)
    (use : Client ε → Logged ε β) : Logged ε (Except ClientError β) := do
  match ← factory s with
  | .error e => pure (.error e)
  | .ok client =>
    let b ← use client
    let _ ← client.close
    pure (.ok b)

namespace ClientFactory

variable {ε β : Type} {factory : ClientFactory ε} {s : Settings}

theorem withClient_of_error {e : ClientError} (h : (factory s).value = .error e)
    (use : Client ε → Logged ε β) :
    factory.withClient s use = ⟨.error e, (factory s).log⟩ := by
  ext <;> simp [withClient, h]

theorem withClient_of_ok {client : Client ε} (h : (factory s).value = .ok client)
    (use : Client ε → Logged ε β) :
    factory.withClient s use =
      ⟨.ok (use client).value, (factory s).log ++ (use client).log ++ client.close.log⟩ := by
  ext <;> simp [withClient, h]

end ClientFactory

/-! ## Calls -/

/-- The calls on a client, the making of it included. -/
inductive Call where
  | create
  | ping
  | info
  | close
  deriving Repr, DecidableEq

/-- The name of a call. -/
def Call.name : Call → String
  | create => "create"
  | ping => "ping"
  | info => "info"
  | close => "close"

/-- The answers of clients that are all alike. -/
structure Script where
  create : Except ClientError Unit
  ping : Except ClientError Bool
  info : Except ClientError ServerInfo
  close : Except ClientError Unit

namespace Script

/-- The client that answers as the script has it and logs every call. -/
def client (script : Script) : Client Call :=
  ⟨⟨script.ping, [.ping]⟩, ⟨script.info, [.info]⟩, ⟨script.close, [.close]⟩⟩

/-- The maker of such clients, who logs that it was asked. -/
def factory (script : Script) : ClientFactory Call := fun _ =>
  ⟨script.create.map fun _ => script.client, [.create]⟩

end Script

end SinkCheck
