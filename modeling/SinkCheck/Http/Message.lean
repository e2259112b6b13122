import SinkCheck.Http.Base64
import SinkCheck.Logged
import SinkCheck.Url.Parser
/-
  Requests and replies.

  A request goes to a server, which is a name with a port: that of the address asked for, or the
  proxy.  The target says what is asked for.
-/

namespace SinkCheck.Http

/-- The methods of requests. -/
inductive Method where
  | head
  | get
  deriving Repr, DecidableEq

/-- The name of a method. -/
def Method.name : Method → String
  | head => "HEAD"
  | get => "GET"

/-- A name with a port. -/
structure Endpoint where
  host : String
  port : Nat
  deriving Repr, DecidableEq

/-- The server that an address points to. -/
def Endpoint.ofUrl (u : Url) : Endpoint :=
  ⟨(u.host.map Url.Host.text).getD "", u.port.getD ((Url.defaultPort? u.scheme).getD 0)⟩

/-- A proxy and, if it asks for them, the credentials. -/
structure Proxy where
  endpoint : Endpoint
  authorization : Option String
  deriving Repr, DecidableEq

/-- A request as its server receives it. -/
structure Request where
  server : Endpoint
  secure : Bool
  method : Method
  target : String
  authorization : Option String
  proxyAuthorization : Option String
  deriving Repr, DecidableEq

/-- A body, byte by byte. -/
structure Body where
  bytes : List UInt8
  deriving Repr, DecidableEq

/-- A text is the body of its bytes. -/
instance : Coe String Body := ⟨fun s => ⟨s.toUTF8.data.toList⟩⟩

/-- A reply. -/
structure Reply where
  code : Nat
  location : Option String
  body : Body
  deriving Repr, DecidableEq

/-- Can the reply be read?  A header holds no control characters but the tab. -/
def Reply.isReadable (r : Reply) : Bool :=
  r.location.all fun l => l.toList.all fun c => c == '\t' || (32 ≤ c.toNat && c.toNat != 127)

/-- What becomes of a request: a reply, or no answer. -/
abbrev Transport (ε : Type) := Request → Logged ε (Option Reply)

/-- Credentials in the words of a header. -/
def basic (username password : String) : String :=
  "Basic " ++ Base64.encodeText (username ++ ":" ++ password)

end SinkCheck.Http
