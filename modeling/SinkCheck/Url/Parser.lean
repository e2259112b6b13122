import SinkCheck.Url.Host
/-
  Reading addresses.

  Blanks and controls at the ends, and tabs and line ends anywhere, are dropped first.  The scheme goes
  up to the first colon.  Behind a special scheme any number of slashes, either way round, opens the
  authority; behind another scheme exactly two do.  The authority ends before the path, the query or
  the fragment; in it, everything up to the last `@` is credentials.  Dot segments of the path are
  resolved while it is read.

  `parse` reads an absolute address.  `join` reads a reference in a document whose own address is
  known: what a reference leaves out at its front it takes from that address.
-/

namespace SinkCheck.Url

/-! ## Cleaning -/

/-- A blank or control character of ASCII. -/
def isLow (c : Char) : Bool := c.toNat ≤ 32

/-- The text without low characters at the ends and without tabs and line ends. -/
def cleaned (s : List Char) : List Char :=
  let front := s.dropWhile isLow
  let both := (front.reverse.dropWhile isLow).reverse
  both.filter fun c => !(c == '\t' || c == '\n' || c == '\r')

/-! ## The scheme -/

/-- A character of a scheme. -/
def isSchemeChar (c : Char) : Bool := c.isAlphanum || c == '+' || c == '-' || c == '.'

/-- The scheme in small letters and what follows its colon. -/
def scheme? (s : List Char) : Option (String × List Char) :=
  match s with
  | [] => none
  | c :: _ =>
    if c.isAlpha then
      match s.dropWhile isSchemeChar with
      | ':' :: rest => some (String.ofList ((s.takeWhile isSchemeChar).map Char.toLower), rest)
      | _ => none
    else none

/-! ## The authority -/

/-- A character before which the authority ends. -/
def endsAuthority (special : Bool) (c : Char) : Bool :=
  c == '/' || c == '?' || c == '#' || (special && c == '\\')

/-- The parts before and after the last `@`; the whole text is the second part if there is none. -/
def splitAtSign (s : List Char) : Option (List Char) × List Char :=
  let host := (s.reverse.takeWhile (· ≠ '@')).reverse
  if host.length = s.length then (none, s) else (some (s.take (s.length - host.length - 1)), host)

/-- User name and password, encoded. -/
def credentials (s : List Char) : String × String :=
  let user := s.takeWhile (· ≠ ':')
  let pass := s.drop (user.length + 1)
  (String.ofList (encode inUserinfo user), String.ofList (encode inUserinfo pass))

/-- The host and the text behind its colon, if a colon follows it; colons between brackets belong to
the host. -/
def splitPort : (inBrackets : Bool) → List Char → List Char × Option (List Char)
  | _, [] => ([], none)
  | false, ':' :: s => ([], some s)
  | b, c :: s =>
    let b := if c = '[' then true else if c = ']' then false else b
    let (host, port) := splitPort b s
    (c :: host, port)

/-- The number of a port at the front of a text, none if it has no digits, and the rest of the text, which
may begin with a backslash only. -/
def port? (s : List Char) : Except Fault (Option Nat × List Char) :=
  let digits := s.takeWhile Text.isDigit
  let rest := s.drop digits.length
  let n := Text.digitsValue digits
  if n < 65536 ∧ (rest.isEmpty ∨ rest.head? = some '\\') then
    .ok (if digits.isEmpty then none else some n, rest)
  else .error .port

/-- An authority with the given scheme, and what is left of its text for the path. -/
structure Authority where
  username : String
  password : String
  host : Host
  port : Option Nat
  rest : List Char

/-- Is the host an empty name? -/
def Host.isEmpty : Host → Bool
  | .domain name => name.isEmpty
  | _ => false

/-- The authority of a text, behind which something follows or nothing.  Credentials need a host. -/
def authority (scheme : String) (followed : Bool) (s : List Char) : Except Fault Authority :=
  let special := isSpecial scheme
  let (userinfo, hostport) := splitAtSign s
  let (host, portText) := splitPort false hostport
  let (username, password) := (userinfo.map credentials).getD ("", "")
  if userinfo = some [] ∧ hostport.isEmpty ∧ followed then .error .emptyHost
  else if special ∧ host.isEmpty then .error .emptyHost
  else do
    let h ← if special then specialHost host else plainHost host
    let hasCredentials := !(username.isEmpty && password.isEmpty)
    if h.isEmpty && (portText.isSome || hasCredentials) then .error .emptyHost
    else
      let (p, rest) ← match portText with
        | none => .ok (none, [])
        | some t => port? t
      .ok ⟨username, password, h, if p = defaultPort? scheme then none else p, rest⟩

/-! ## The path -/

/-- A segment that means the place where it stands. -/
def isSingleDot (s : String) : Bool := [".", "%2e"].contains (s.map Char.toLower)

/-- A segment that means the place above. -/
def isDoubleDot (s : String) : Bool :=
  ["..", ".%2e", "%2e.", "%2e%2e"].contains (s.map Char.toLower)

/-- A character that parts the segments of a path. -/
def isSlash (special : Bool) (c : Char) : Bool := c == '/' || (special && c == '\\')

/-- The segments of a path text behind its first slash, encoded. -/
def rawSegments (special : Bool) : List Char → List Char → List String
  | seen, [] => [String.ofList (encode inPath seen.reverse)]
  | seen, c :: s =>
    if isSlash special c then
      String.ofList (encode inPath seen.reverse) :: rawSegments special [] s
    else rawSegments special (c :: seen) s

/-- A drive: a letter and a colon or a bar. -/
def isDrive : List Char → Bool
  | [c, d] => c.isAlpha && (d == ':' || d == '|')
  | _ => false

/-- Does a segment begin with a drive and then end, or go on with a backslash? -/
def beginsWithDrive (s : String) : Bool :=
  isDrive (s.toList.take 2) && (s.toList.drop 2).head?.all (· == '\\')

/-- The path, last segment first, without its last segment; a drive is never left. -/
def climb : List String → List String
  | [] => []
  | s :: path => if beginsWithDrive s then s :: path else path

/-- Add segments to a path, the last segment first, resolving dots; a path that ends in dots ends in a
slash. -/
def resolveDots : (path : List String) → List String → List String
  | path, [] => path
  | path, [s] =>
    if isDoubleDot s then "" :: climb path else if isSingleDot s then "" :: path else s :: path
  | path, s :: rest =>
    if isDoubleDot s then resolveDots (climb path) rest
    else if isSingleDot s then resolveDots path rest
    else resolveDots (s :: path) rest

/-- The segments of a path text behind its first slash, in a place whose segments above it are given, the
nearest first. -/
def segments (special : Bool) (above : List String) (s : List Char) : List String :=
  (resolveDots above (rawSegments special [] s)).reverse

/-- The text behind the first slash, if it begins with one. -/
def dropSlash (special : Bool) : List Char → List Char
  | [] => []
  | c :: s => if isSlash special c then s else c :: s

/-! ## Files -/

/-- The path of a file behind its first slash, without empty segments at its front, and whether it begins
with a drive. -/
def fileSegments (s : List Char) : List String × Bool :=
  let raw := rawSegments true [] s
  let drive := raw.head?.any fun first => isDrive first.toList
  let raw := match raw with
    | first :: rest => (if drive then String.ofList (first.toList.take 1 ++ [':']) else first) :: rest
    | [] => []
  let all := (resolveDots [] raw).reverse
  let kept := all.dropWhile String.isEmpty
  (if kept.isEmpty then [""] else kept, drive)

/-- The host of a file; none stands for the machine itself. -/
def fileHost (s : List Char) : Except Fault (Option Host) :=
  if s.isEmpty || isDrive s then .ok none
  else (specialHost s).map fun h => if h = .domain "localhost" then none else some h

/-! ## Addresses -/

/-- What precedes the fragment, and the fragment. -/
def splitFragment (s : List Char) : List Char × Option (List Char) :=
  match s.dropWhile (· ≠ '#') with
  | [] => (s, none)
  | _ :: f => (s.takeWhile (· ≠ '#'), some f)

/-- What precedes the query, and the query. -/
def splitQuery (s : List Char) : List Char × Option (List Char) :=
  match s.dropWhile (· ≠ '?') with
  | [] => (s, none)
  | _ :: q => (s.takeWhile (· ≠ '?'), some q)

/-- The end of an address, encoded. -/
structure Tail where
  query : Option String
  fragment : Option String

/-- What precedes the query and the fragment, and these. -/
def splitTail (special : Bool) (s : List Char) : List Char × Tail :=
  let (s, fragment) := splitFragment s
  let (body, query) := splitQuery s
  let set := if special then inSpecialQuery else inQuery
  (body, ⟨query.map fun q => String.ofList (encode set q),
    fragment.map fun f => String.ofList (encode inFragment f)⟩)

/-- An address of a file, from what follows the colon. -/
def fileUrl (body : List Char) (tail : Tail) : Except Fault Url :=
  let build (host : Host) (path : List String) : Url :=
    ⟨"file", "", "", some host, none, .segments path, tail.query, tail.fragment⟩
  match body with
  | a :: b :: rest =>
    if isSlash true a && isSlash true b then do
      let name := rest.takeWhile fun c => !isSlash true c
      let path := rest.drop name.length
      match ← fileHost name with
      | none => .ok (build (.domain "") (fileSegments (if isDrive name then rest else path)).1)
      | some host =>
        let (segs, drive) := fileSegments (dropSlash true path)
        .ok (build (if drive then .domain "" else host) segs)
    else .ok (build (.domain "") (fileSegments (dropSlash true body)).1)
  | _ => .ok (build (.domain "") (fileSegments (dropSlash true body)).1)

/-- An address with an authority, from what follows its slashes. -/
def authorityUrl (scheme : String) (body : List Char) (tail : Tail) : Except Fault Url := do
  let special := isSpecial scheme
  let front := body.takeWhile fun c => !endsAuthority special c
  let path := body.drop front.length
  let followed := !path.isEmpty || tail.query.isSome || tail.fragment.isSome
  let a ← authority scheme followed front
  let path := a.rest ++ path
  let segs := if special || !path.isEmpty then segments special [] (dropSlash special path) else []
  .ok ⟨scheme, a.username, a.password, some a.host, a.port, .segments segs, tail.query,
    tail.fragment⟩

/-- The address with the given scheme, from what follows its colon. -/
def absolute (scheme : String) (s : List Char) : Except Fault Url :=
  let special := isSpecial scheme
  let (body, tail) := splitTail (special || scheme == "file") s
  if scheme = "file" then fileUrl body tail
  else if special then authorityUrl scheme (body.dropWhile (isSlash true)) tail
  else match body with
    | '/' :: '/' :: body => authorityUrl scheme body tail
    | '/' :: path =>
      .ok ⟨scheme, "", "", none, none, .segments (segments false [] path), tail.query, tail.fragment⟩
    | _ =>
      .ok ⟨scheme, "", "", none, none, .opaqueText (String.ofList (encode isControl body)),
        tail.query, tail.fragment⟩

/-- The address of a text. -/
def parse (text : String) : Except Fault Url :=
  match scheme? (cleaned text.toList) with
  | none => .error .noBase
  | some (scheme, rest) => absolute scheme rest

/-! ## References -/

/-- What a reference without scheme means in a document of the web with the given address.  Two slashes
open an authority, one the root of the paths, and anything else continues the place of the document. -/
def relative (base : Url) (s : List Char) : Except Fault Url :=
  let (body, tail) := splitTail true s
  match body with
  | [] => .ok { base with query := tail.query.or base.query, fragment := tail.fragment }
  | '/' :: '/' :: authority => authorityUrl base.scheme authority tail
  | c :: d :: rest =>
    if isSlash true c && isSlash true d then
      authorityUrl base.scheme (rest.dropWhile (isSlash true)) tail
    else .ok (at_ tail c (d :: rest))
  | [c] => .ok (at_ tail c [])
where
  /-- The path of a reference that begins with the given character. -/
  at_ (tail : Tail) (c : Char) (rest : List Char) : Url :=
    let path :=
      if isSlash true c then segments true [] rest
      else segments true (base.path.list.reverse.drop 1) (c :: rest)
    { base with path := .segments path, query := tail.query, fragment := tail.fragment }

/-- What a reference means in a document with the given address.  A reference may repeat the scheme of the
document and be relative all the same; a document that is none of the web has no relative references. -/
def join (base : Url) (text : String) : Except Fault Url :=
  let s := cleaned text.toList
  match scheme? s with
  | some (scheme, rest) =>
    let slashes := (rest.takeWhile (isSlash true)).length
    if base.isWeb && scheme == base.scheme && slashes < 2 then relative base rest
    else absolute scheme rest
  | none => if base.isWeb then relative base s else .error .noBase

/-! ## Examples -/

/-- The text of a reference in the document `http://a/b/c?q`. -/
def exampleText? (reference : String) : Option String :=
  (join ⟨"http", "", "", some (.domain "a"), none, .segments ["b", "c"], some "q", none⟩
    reference).toOption.map text

example : exampleText? "../x" = some "http://a/x" := by decide +kernel

example : exampleText? "http:\\d" = some "http://a/d" := by decide +kernel

example : exampleText? "#f" = some "http://a/b/c?q#f" := by decide +kernel

end SinkCheck.Url
