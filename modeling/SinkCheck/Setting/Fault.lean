import SinkCheck.Text.Numeral
import SinkCheck.Url.Host
/-
  Faults of single settings.

  A fault names its setting, quotes the offending text and gives a reason.  Reasons are causes; the
  wording of each is in `Reason.message`, the wording of faults in `SyntaxFault.message`.
-/

namespace SinkCheck

/-! ## Integer types -/

/-- The two integer types of settings. -/
inductive Width where
  | int
  | long
  deriving Repr, DecidableEq

namespace Width

/-- The name of the type. -/
def name : Width → String
  | .int => "INT"
  | .long => "LONG"

/-- How many bits an integer of the type has. -/
def bits : Width → Nat
  | .int => 32
  | .long => 64

/-- The integers of the type. -/
def Fits (w : Width) (n : Int) : Prop := -2 ^ (w.bits - 1) ≤ n ∧ n < 2 ^ (w.bits - 1)

instance (w : Width) (n : Int) : Decidable (w.Fits n) :=
  inferInstanceAs (Decidable (_ ∧ _))

/-- An integer of either type is held in 64 bits as it is. -/
theorem toInt_ofInt {w : Width} {n : Int} (h : w.Fits n) : (Int64.ofInt n).toInt = n := by
  cases w with
  | int =>
    have h' : -2 ^ 31 ≤ n ∧ n < 2 ^ 31 := h
    exact Int64.toInt_ofInt_of_le (by omega) (by omega)
  | long =>
    have h' : -2 ^ 63 ≤ n ∧ n < 2 ^ 63 := h
    exact Int64.toInt_ofInt_of_le h'.1 h'.2

end Width

/-! ## Reasons -/

/-- Why a text is no value of its setting. -/
inductive Reason where
  | notNumber (width : Width)
  | notBoolean
  | notAmong (words : List String)
  | below (min : Int64)
  | above (max : Int64)
  | noUrl
  | badUrl (fault : Url.Fault)
  | notWeb
  | datasetLength
  | datasetCharacter
  | datasetCase
  | keytabName
  | keytabMissing
  | unresolved
  | unknownKeyword (typeName : String) (word : String)
  | notRecord
  | nestedList
  | nestedRecord
  | stated (text : String)
  deriving Repr, DecidableEq

/-- The most characters that the name of a dataset may have. -/
def Reason.maxDatasetLength : Nat := 100

/-- The wording of a reason. -/
def Reason.message : Reason → String
  | .notNumber w => "Not a number of type " ++ w.name
  | .notBoolean => "Expected value to be either true or false"
  | .notAmong ws => "String must be one of: " ++ ", ".intercalate ws
  | .below n => "Value must be at least " ++ Text.integerText n.toInt
  | .above n => "Value must be no more than " ++ Text.integerText n.toInt
  | .noUrl => "At least one URL must be specified"
  | .badUrl f => "Invalid URL: " ++ f.message
  | .notWeb => "URL must use the http or https scheme"
  | .datasetLength => "Dataset must not be longer than " ++ maxDatasetLength.repr ++ " characters"
  | .datasetCharacter =>
    "Dataset must not contain whitespace or any of \\ / * ? \" < > | , # - :"
  | .datasetCase => "Dataset must be lowercase"
  | .keytabName => "File must have the .keytab extension"
  | .keytabMissing => "File does not exist"
  | .unresolved => "Property was not resolved by the schema definition"
  | .unknownKeyword t w => "unknown " ++ t ++ " '" ++ w ++ "'"
  | .notRecord => "Expected a JSON object of properties"
  | .nestedList => "List entries must be strings, numbers or booleans"
  | .nestedRecord => "Nested objects are not supported"
  | .stated s => s

/-! ## Faults -/

/-- A setting that has no value: it is required and missing, or its text is no value. -/
inductive SyntaxFault where
  | missing (property : String)
  | invalid (property : String) (value : String) (reason : Reason)
  deriving Repr, DecidableEq

namespace SyntaxFault

/-- The setting at fault. -/
def property : SyntaxFault → String
  | .missing p => p
  | .invalid p _ _ => p

/-- The wording of a fault. -/
def message : SyntaxFault → String
  | .missing p => "Missing required configuration \"" ++ p ++ "\" which has no default value."
  | .invalid p v r => "Invalid value " ++ v ++ " for configuration " ++ p ++ ": " ++ r.message

/-- The numbered wordings of a row of faults, the first of them having the number `n`. -/
def numbered (n : Nat) : List SyntaxFault → String
  | [] => ""
  | f :: fs => "\n" ++ n.repr ++ ". " ++ f.message ++ numbered (n + 1) fs

/-- The wording of all faults of a configuration together. -/
def summary (faults : List SyntaxFault) : String :=
  "Configuration has " ++ faults.length.repr ++ " invalid properties:" ++ numbered 1 faults

end SyntaxFault

example : (SyntaxFault.invalid "batch.size" "0" (.below 1)).message =
    "Invalid value 0 for configuration batch.size: Value must be at least 1" := by decide +kernel

end SinkCheck
