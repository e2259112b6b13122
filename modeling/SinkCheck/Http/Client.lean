import SinkCheck.Http.Body
import SinkCheck.Http.Exchange
/-
  The client that talks HTTP.

  The client knows a row of nodes.  A request goes to the nodes one after the other until one of them
  gives an answer that does not come from a gateway without a service; if none does, the failure of the
  last one counts.  No request remembers anything of those before it.  A closed client sends nothing.

  Main statements: `firstFinal_cons` is the equation of the search through the nodes, and
  `send_closed` says that a closed client sends nothing.
-/

namespace SinkCheck

open Http

/-- A client that talks HTTP. -/
structure HttpClient where
  nodes : List Url
  credentials : Option (String × String)
  proxy : Option Proxy
  isOpen : Bool
  deriving Repr, DecidableEq

namespace Http

/-! ## Answers that are failures -/

/-- The failure in an answer: the reason in its body, or else the name of its code. -/
def Response.failure (r : Response) : ClientError :=
  let reason := (Json.Written.ofBytes? r.body.bytes).bind failureReason?
  .status r.code (reason.getD (Status.describe r.code))

/-! ## What an answer means -/

/-- Whether the service is alive.  A service that does not know the place asked for is not. -/
def isAlive : Except ClientError Response → Except ClientError Bool
  | .error e => .error e
  | .ok r =>
    if Status.isSuccess r.code then .ok true
    else if r.code = 404 then .ok false
    else .error r.failure

/-- What the service tells of itself. -/
def serverInfo : Except ClientError Response → Except ClientError ServerInfo
  | .error e => .error e
  | .ok r =>
    if Status.isSuccess r.code then
      match (Json.Written.ofBytes? r.body.bytes).bind serverInfo? with
      | some i => .ok i
      | none => .error (.other "error decoding response body")
    else .error r.failure

/-! ## The search through the nodes -/

/-- The answer of the first node that does not count as unavailable, or the failure of the last one;
`failure` is that of the nodes so far. -/
def firstFinal {ε α : Type} (send : α → Logged ε (Except ClientError Response))
    (failure : ClientError) : List α → Logged ε (Except ClientError Response)
  | [] => pure (.error failure)
  | node :: nodes => do
    match ← send node with
    | .ok r => if Status.isUnavailable r.code then firstFinal send r.failure nodes else pure (.ok r)
    | .error e => firstFinal send e nodes

theorem firstFinal_cons {ε α : Type} (send : α → Logged ε (Except ClientError Response))
    (failure : ClientError) (node : α) (nodes : List α) :
    firstFinal send failure (node :: nodes) = send node >>= fun
      | .ok r => if Status.isUnavailable r.code then firstFinal send r.failure nodes else pure (.ok r)
      | .error e => firstFinal send e nodes := rfl

/-- What comes of a request to the node at a place of the row, counted from 0.  A node may stand at
several places, and each time something else may come of it. -/
abbrev Contact (ε : Type) := (place : Nat) → (node : Url) → Logged ε (Except ClientError Response)

/-- The addresses in a row of texts, or the first text that is none and its fault; `parse` reads
addresses. -/
def nodes? (parse : String → Except Url.Fault Url) :
    List String → Except (String × Url.Fault) (List Url)
  | [] => .ok []
  | s :: rest => match parse s with
    | .error f => .error (s, f)
    | .ok u => match nodes? parse rest with
      | .error e => .error e
      | .ok us => .ok (u :: us)

/-- The proxy in the settings. -/
def proxyOf (parse : String → Except Url.Fault Url) (s : Settings) :
    Except ClientError (Option Proxy) :=
  if s.isProxyConfigured then
    let address := "http://" ++ s.proxyHost ++ ":" ++ s.proxyPort.toNat.repr
    match parse address with
    | .error _ => .error (.other ("Invalid proxy '" ++ address ++ "': builder error"))
    | .ok u =>
      let authorization :=
        if s.isProxyAuthenticated then some (basic s.proxyUsername (s.proxyPassword.getD ""))
        else none
      .ok (some ⟨Endpoint.ofUrl u, authorization⟩)
  else .ok none

end Http

namespace HttpClient

/-- The failure of a client without nodes. -/
def noNodes : ClientError := .other "No connection URL configured"

/-- The failure of a closed client. -/
def closed : ClientError := .other "Client is closed"

/-- The client that the settings describe to a reader of addresses. -/
def ofAddresses (parse : String → Except Url.Fault Url) (s : Settings) :
    Except ClientError HttpClient :=
  match nodes? parse s.connectionUrls with
  | .error (text, f) => .error (.other ("Invalid connection URL '" ++ text ++ "': " ++ f.message))
  | .ok [] => .error noNodes
  | .ok nodes => match proxyOf parse s with
    | .error e => .error e
    | .ok proxy =>
      let credentials := match s.username, s.password with
        | some username, some password => some (username, password)
        | _, _ => none
      .ok ⟨nodes, credentials, proxy, true⟩

/-- The client that the settings describe. -/
def ofSettings (s : Settings) : Except ClientError HttpClient := ofAddresses Url.parse s

variable {ε : Type}

/-- Send a request to the nodes, one after the other; `contact` says what comes of it. -/
def send (c : HttpClient) (contact : Contact ε) : Logged ε (Except ClientError Response) :=
  if c.isOpen then firstFinal (fun (node, place) => contact place node) noNodes c.nodes.zipIdx
  else pure (.error closed)

/-- The client as one to be used once and closed then; `contact` says what comes of its requests. -/
def client (c : HttpClient) (contact : Method → Contact ε) : Client ε where
  ping := do
    let answer ← c.send (contact .head)
    pure (isAlive answer)
  info := do
    let answer ← c.send (contact .get)
    pure (serverInfo answer)
  close := pure (.ok ())

/-- What comes of requests that are exchanged over a network. -/
def contact (c : HttpClient) (transport : Transport ε) (method : Method) : Contact ε :=
  fun _ node => exchange transport c.proxy c.credentials method node

/-- The client after it was closed. -/
def close (c : HttpClient) : HttpClient := { c with isOpen := false }

theorem send_closed {c : HttpClient} (h : c.isOpen = false) (contact : Contact ε) :
    c.send contact = pure (.error closed) := by
  simp [send, h]

/-- A use of the client, and what comes of its requests at that time. -/
structure Turn (ε : Type) where
  use : Use
  contact : Method → Contact ε

/-- Use the client once: what it answers, and the client after it. -/
def step (c : HttpClient) (turn : Turn ε) : Logged ε Answer × HttpClient :=
  ((c.client turn.contact).perform turn.use, if turn.use = .close then c.close else c)

/-- Use the client once over a network. -/
def perform (c : HttpClient) (transport : Transport ε) (use : Use) : Logged ε Answer × HttpClient :=
  c.step ⟨use, c.contact transport⟩

/-- Use the client again and again.  The same node may behave differently each time. -/
def performAll (c : HttpClient) : List (Turn ε) → Logged ε (List Answer)
  | [] => pure []
  | turn :: turns => do
    let next := c.step turn
    let answer ← next.1
    let answers ← next.2.performAll turns
    pure (answer :: answers)

/-- The maker of such clients. -/
def factory (transport : Transport ε) : ClientFactory ε := fun s =>
  pure ((ofSettings s).map fun c => c.client (c.contact transport))

end HttpClient

end SinkCheck
