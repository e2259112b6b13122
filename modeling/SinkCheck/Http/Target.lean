import SinkCheck.Url.Basic
/-
  What a request asks for.

  Of an address a server is told the path and the query, and a proxy all of it but the fragment.  Not
  every address can be asked for: an authority in a request has to keep to fewer characters than an
  address allows, and the whole has to be of bounded length.  An address without authority passes for
  one if its whole text could be an authority.
-/

namespace SinkCheck.Http

/-! ## Authorities -/

/-- A letter or digit of ASCII, or one of the signs that may stand for themselves in an authority. -/
def isAuthorityChar (c : Char) : Bool :=
  c.isAlphanum || "-._~!$&'()*+,;=".toList.contains c

/-- What was seen of an authority: the colons since the last sign that ends credentials or a bracketed
address, the brackets, a percent sign in the same stretch, and whether an `@` came last. -/
structure AuthorityScan where
  colons : Nat
  opened : Bool
  closed : Bool
  percent : Bool
  atSign : Bool

namespace AuthorityScan

/-- Nothing was seen yet. -/
def start : AuthorityScan := ⟨0, false, false, false, false⟩

/-- See one more character. -/
def next? (s : AuthorityScan) (c : Char) : Option AuthorityScan :=
  let s := { s with atSign := false }
  if c = ':' then if 8 ≤ s.colons then none else some { s with colons := s.colons + 1 }
  else if c = '[' then if s.percent || s.opened then none else some { s with opened := true }
  else if c = ']' then
    if !s.opened || s.closed then none
    else some { s with closed := true, colons := 0, percent := false }
  else if c = '@' then some { s with colons := 0, percent := false, atSign := true }
  else if c = '%' then some { s with percent := true }
  else if isAuthorityChar c then some s
  else none

/-- May the authority end here?  There is one port at most, brackets are in pairs, and only credentials
are percent-encoded. -/
def isComplete (s : AuthorityScan) : Bool :=
  s.colons ≤ 1 && s.opened == s.closed && !s.percent && !s.atSign

end AuthorityScan

/-- Can a text be the authority of a request? -/
def isAuthority (s : List Char) : Bool :=
  !s.isEmpty && (s.foldlM AuthorityScan.next? AuthorityScan.start).any AuthorityScan.isComplete

example : isAuthority "u%41:p@[::1]:80".toList = true := by decide +kernel

example : isAuthority "a\x7bb".toList = false := by decide +kernel

example : isAuthority "urn:a:b".toList = false := by decide +kernel

/-! ## Addresses -/

/-- The greatest length of an address in a request. -/
def maxLength : Nat := 65534

/-- The greatest length of a scheme. -/
def maxScheme : Nat := 64

/-- Credentials, host and port. -/
def authorityOf (u : Url) (host : Url.Host) : String := u.userinfoText ++ host.text ++ u.portText

/-- Can the address be asked for? -/
def isAskable (u : Url) : Bool :=
  u.text.utf8ByteSize ≤ maxLength && match u.host with
    | some host => u.scheme.length ≤ maxScheme && isAuthority (authorityOf u host).toList
    | none => isAuthority u.text.toList

/-! ## Targets -/

/-- What a server is told. -/
def originTarget (u : Url) : String := u.path.text ++ u.queryText

/-- What a proxy is told. -/
def absoluteTarget (u : Url) : String := ({ u with fragment := none } : Url).text

end SinkCheck.Http
