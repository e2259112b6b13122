import SinkCheck.Decimal.Layout
import SinkCheck.Keyed
/-
  JSON values.

  A number is either an integer, within 64 bits of either sign, or a binary number.  An object is a
  list of members in strictly increasing order of their keys, so that its members are met, and
  written, in key order.
-/

namespace SinkCheck

/-- A JSON number. -/
inductive Json.Number where
  | integer (value : Int)
  | binary (value : Decimal.Binary64)
  deriving Repr, DecidableEq

/-- A JSON value. -/
inductive Json where
  | null
  | bool (value : Bool)
  | number (value : Json.Number)
  | string (value : String)
  | array (items : List Json)
  | object (members : List (String × Json))
  deriving Repr

/-- The object of the given members, each key counting once. -/
def Json.record (members : List (String × Json)) : Json := .object (Keyed.ofList members)

/-- A text, or null. -/
def Json.ofText? : Option String → Json
  | some s => .string s
  | none => .null

/-- An array of texts. -/
def Json.ofTexts (l : List String) : Json := .array (l.map .string)

/-- An integer. -/
def Json.ofInt (n : Int) : Json := .number (.integer n)

end SinkCheck
