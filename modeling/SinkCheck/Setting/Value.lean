import SinkCheck.Text.Numeral
/-
  Values of settings.

  A secret is a text that is never shown: wherever it would appear, `[hidden]` stands instead.
-/

namespace SinkCheck

/-- What a setting holds. -/
inductive Value where
  | null
  | string (text : String)
  | secret (text : String)
  | int (number : Int64)
  | boolean (truth : Bool)
  | list (items : List String)
  deriving Repr, DecidableEq

namespace Value

/-- What is shown instead of a secret. -/
def hidden : String := "[hidden]"

/-- Is nothing there? -/
def isNull : Value → Bool
  | .null => true
  | _ => false

/-- The text of a string or a secret. -/
def text? : Value → Option String
  | .string s | .secret s => some s
  | _ => none

/-- The number of an integer. -/
def int? : Value → Option Int64
  | .int n => some n
  | _ => none

/-- The truth value of a boolean. -/
def boolean? : Value → Option Bool
  | .boolean b => some b
  | _ => none

/-- The items of a list. -/
def list? : Value → Option (List String)
  | .list l => some l
  | _ => none

/-- The value as it is shown. -/
def display : Value → String
  | .null => "null"
  | .string s => s
  | .secret _ => hidden
  | .int n => Text.integerText n.toInt
  | .boolean b => if b then "true" else "false"
  | .list l => ",".intercalate l

/-- The value as it is shown, when there is one. -/
def shown? : Value → Option String
  | .null => none
  | v => some v.display

example : (int (-5)).shown? = some "-5" := by decide +kernel

example : (list ["a", "b"]).shown? = some "a,b" := by decide +kernel

end Value

end SinkCheck
