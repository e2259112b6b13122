import SinkCheck.Url.Ipv4
import SinkCheck.Url.Ipv6
/-
  Addresses of services.

  An address has a scheme, perhaps an authority (credentials, host and port) and a path, perhaps a
  query and a fragment.  Credentials, path, query and fragment are kept percent-encoded.  The path of a
  special scheme such as `http` is a row of segments; an address without authority may also have an
  opaque path, which is kept as one text.
-/

namespace SinkCheck

/-- The host of an address. -/
inductive Url.Host where
  | domain (name : String)
  | ipv4 (address : Nat)
  | ipv6 (groups : List Nat)
  deriving Repr, DecidableEq

/-- The path of an address. -/
inductive Url.Path where
  | opaqueText (text : String)
  | segments (list : List String)
  deriving Repr, DecidableEq

/-- An address. -/
structure Url where
  scheme : String
  username : String
  password : String
  host : Option Url.Host
  port : Option Nat
  path : Url.Path
  query : Option String
  fragment : Option String
  deriving Repr, DecidableEq

namespace Url

/-! ## Schemes -/

/-- The port that a scheme uses when none is given. -/
def defaultPort? (scheme : String) : Option Nat :=
  match scheme with
  | "http" | "ws" => some 80
  | "https" | "wss" => some 443
  | "ftp" => some 21
  | _ => none

/-- The schemes whose addresses always have a host. -/
def isSpecial (scheme : String) : Bool := (defaultPort? scheme).isSome

/-- Is this an address of the web? -/
def isWeb (u : Url) : Bool := u.scheme == "http" || u.scheme == "https"

/-! ## Writing -/

/-- The text of a host. -/
def Host.text : Host → String
  | .domain name => name
  | .ipv4 a => String.ofList (Ipv4.text a)
  | .ipv6 gs => "[" ++ String.ofList (Ipv6.text gs) ++ "]"

/-- The text of a path. -/
def Path.text : Path → String
  | .opaqueText t => t
  | .segments l => String.join (l.map ("/" ++ ·))

/-- The segments of a path; an opaque path has none. -/
def Path.list : Path → List String
  | .opaqueText _ => []
  | .segments l => l

/-- The credentials with the sign that ends them. -/
def userinfoText (u : Url) : String :=
  if u.username.isEmpty && u.password.isEmpty then ""
  else u.username ++ (if u.password.isEmpty then "" else ":" ++ u.password) ++ "@"

/-- The port with the colon in front of it. -/
def portText (u : Url) : String := match u.port with
  | none => ""
  | some p => ":" ++ p.repr

/-- The part between scheme and path.  A path that begins with an empty segment is kept apart from the
scheme by a dot segment when there is no host. -/
def authorityText (u : Url) : String :=
  match u.host with
  | some h => "//" ++ u.userinfoText ++ h.text ++ u.portText
  | none => match u.path with
    | .segments ("" :: _ :: _) => "/."
    | _ => ""

/-- The query with its question mark. -/
def queryText (u : Url) : String := match u.query with
  | none => ""
  | some q => "?" ++ q

/-- The fragment with its number sign. -/
def fragmentText (u : Url) : String := match u.fragment with
  | none => ""
  | some f => "#" ++ f

/-- The text of an address. -/
def text (u : Url) : String :=
  u.scheme ++ ":" ++ u.authorityText ++ u.path.text ++ u.queryText ++ u.fragmentText

end Url

end SinkCheck
