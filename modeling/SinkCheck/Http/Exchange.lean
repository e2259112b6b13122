import SinkCheck.Http.Message
import SinkCheck.Http.Status
import SinkCheck.Http.Target
import SinkCheck.Service.Client
/-
  One exchange with a node.

  An exchange sends a request to the address of a node and follows the redirects of the answers, ten
  of them at most.  Its result is the first answer that is no redirect, or a failure.  A location that
  leads to no address, or to one that no request can ask for, makes no redirect.

  Credentials in the address of the node are taken out of it; they are sent unless the settings have
  some.  A redirect to another server is followed without any credentials.  Every failure names the
  address of the node, however far the exchange had come.
-/

namespace SinkCheck.Http

/-- The answer of an exchange. -/
structure Response where
  code : Nat
  body : Body
  deriving Repr, DecidableEq

/-- How many redirects are followed. -/
def maxRedirects : Nat := 10

/-! ## Failures -/

/-- What goes wrong without an answer of the service. -/
inductive Mishap where
  /-- No answer came, or none that could be read. -/
  | noAnswer
  /-- No request can be made of an address. -/
  | unusable
  /-- There were too many redirects. -/
  | endless
  deriving Repr, DecidableEq

/-- The wording of a mishap. -/
def Mishap.message : Mishap → String
  | noAnswer => "error sending request"
  | unusable => "builder error"
  | endless => "error following redirect"

/-- The failure of an exchange with the node of an address. -/
def Mishap.failure (m : Mishap) (node : Url) : ClientError :=
  let text := m.message ++ " for url (" ++ node.text ++ ")"
  match m with
  | noAnswer => .transport text
  | _ => .other text

/-! ## The address of a node -/

/-- The percent-decoded text. -/
def decoded? (s : String) : Option String := (Url.decode? s.toList).map String.ofList

/-- The address without its credentials, and these in the words of a header.  An address whose user name
is no text keeps them. -/
def takeCredentials (u : Url) : Url × Option String :=
  if u.username.isEmpty && u.password.isEmpty then (u, none)
  else match decoded? u.username with
    | none => (u, none)
    | some username =>
      let password := if u.password.isEmpty then none else decoded? u.password
      if username.isEmpty && password.isNone then (u, none)
      else ({ u with username := "", password := "" }, some (basic username (password.getD "")))

/-- Can a request be made of the address? -/
def isUsable (u : Url) : Bool := u.isWeb && isAskable u

/-! ## Redirects -/

/-- Where a redirect leads: to a resource of the web, or to some other one. -/
inductive Destination where
  | web (url : Url)
  | other
  deriving Repr, DecidableEq

/-- Where a location leads in the document with the given address. -/
def destination? (document : Url) (location : String) : Option Destination :=
  match Url.join document location with
  | .error _ => none
  | .ok u => if !isAskable u then none else if u.isWeb then some (.web u) else some .other

/-- Where a reply redirects to. -/
def Reply.redirect? (r : Reply) (document : Url) : Option Destination :=
  if Status.isRedirect r.code then r.location.bind (destination? document) else none

/-! ## The exchange -/

/-- Where an exchange stands: the resource to ask for, and the credentials to show. -/
structure Hop where
  url : Url
  authorization : Option String
  proxyAuthorization : Option String
  deriving Repr, DecidableEq

/-- The request of a hop. -/
def Hop.request (hop : Hop) (proxy : Option Proxy) (method : Method) : Request :=
  { server := match proxy with
      | some p => p.endpoint
      | none => Endpoint.ofUrl hop.url
    secure := hop.url.scheme == "https"
    method
    target := if proxy.isSome then absoluteTarget hop.url else originTarget hop.url
    authorization := hop.authorization
    proxyAuthorization := hop.proxyAuthorization }

/-- The next hop of an exchange that began with `start`: a redirect to the server of the hop before it
shows the credentials of the start, any other shows none. -/
def Hop.next (start hop : Hop) (url : Url) : Hop :=
  if Endpoint.ofUrl url = Endpoint.ofUrl hop.url then { start with url }
  else ⟨url, none, none⟩

/-- The answer in a reply; an answer without body is the same whatever the reply holds. -/
def Reply.response (r : Reply) (method : Method) : Response :=
  ⟨r.code, if method = .head ∨ Status.isBodiless r.code then "" else r.body⟩

/-- What a request comes to. -/
inductive Outcome where
  | answered (response : Response)
  | redirected (destination : Destination)
  | failed (mishap : Mishap)
  deriving Repr, DecidableEq

/-- What a request for a document comes to, if this is what was received. -/
def outcome (method : Method) (document : Url) : Option Reply → Outcome
  | none => .failed .noAnswer
  | some r =>
    if !(r.isReadable && Status.isFinal r.code) then .failed .noAnswer
    else match r.redirect? document with
      | none => .answered (r.response method)
      | some d => .redirected d

/-- Ask at a hop of an exchange that began with `start`, and follow at most `left` redirects. -/
def follow {ε : Type} (transport : Transport ε) (proxy : Option Proxy) (method : Method)
    (start : Hop) : (left : Nat) → (hop : Hop) → Logged ε (Except ClientError Response)
  | 0, hop => do
    match outcome method hop.url (← transport (hop.request proxy method)) with
    | .answered r => pure (.ok r)
    | .failed m => pure (.error (m.failure start.url))
    | .redirected _ => pure (.error (Mishap.endless.failure start.url))
  | left + 1, hop => do
    match outcome method hop.url (← transport (hop.request proxy method)) with
    | .answered r => pure (.ok r)
    | .failed m => pure (.error (m.failure start.url))
    | .redirected .other => pure (.error (Mishap.unusable.failure start.url))
    | .redirected (.web url) => follow transport proxy method start left (start.next hop url)

/-- An exchange with the node of an address. -/
def exchange {ε : Type} (transport : Transport ε) (proxy : Option Proxy)
    (credentials : Option (String × String)) (method : Method) (node : Url) :
    Logged ε (Except ClientError Response) :=
  let (url, own) := takeCredentials node
  if !isUsable url then pure (.error (Mishap.unusable.failure url))
  else
    let hop : Hop :=
      { url
        authorization := (credentials.map fun (name, password) => basic name password).or own
        proxyAuthorization := proxy.bind Proxy.authorization }
    follow transport proxy method hop maxRedirects hop

end SinkCheck.Http
