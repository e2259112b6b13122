import SinkCheck.Text.AsciiCase
/-
  Keywords.

  Some settings take one of a few words.  Each such set of words is a type of its own; a word is
  recognised whatever the case of its ASCII letters, and written in capitals.

  Main statement: `ofText?_word`, every keyword is recognised by its own word.
-/

namespace SinkCheck

/-- A type of keywords: the name of the type, its members in order and the word of each. -/
class Keyword (α : Type) where
  typeName : String
  all : List α
  word : α → String

namespace Keyword

variable {α : Type} [Keyword α]

/-- The keyword of a word, whatever its case. -/
def ofText? (s : String) : Option α := all.find? fun a => Text.eqFolded s (word a)

/-- The word with only its first letter in capitals. -/
def title (a : α) : String :=
  match (word a).toList with
  | [] => ""
  | c :: s => String.ofList (c :: s.map Char.toLower)

end Keyword

/-! ## The four types -/

/-- How a record reaches the index: inserted, or merged into what is there. -/
inductive WriteMethod where
  | insert
  | upsert
  deriving Repr, DecidableEq

/-- What to do with a record that has a key and no value. -/
inductive NullBehavior where
  | ignore
  | delete
  | fail
  deriving Repr, DecidableEq

/-- The type of the data stream that is written to; `none` stands for a plain index. -/
inductive DataStreamType where
  | logs
  | metrics
  | synthetics
  | traces
  | none
  deriving Repr, DecidableEq

/-- The protocol spoken with the service. -/
inductive SecurityProtocol where
  | plaintext
  | ssl
  deriving Repr, DecidableEq

instance : Keyword WriteMethod where
  typeName := "WriteMethod"
  all := [.insert, .upsert]
  word
    | .insert => "INSERT"
    | .upsert => "UPSERT"

instance : Keyword NullBehavior where
  typeName := "BehaviorOnNullValues"
  all := [.ignore, .delete, .fail]
  word
    | .ignore => "IGNORE"
    | .delete => "DELETE"
    | .fail => "FAIL"

instance : Keyword DataStreamType where
  typeName := "DataStreamType"
  all := [.logs, .metrics, .synthetics, .traces, .none]
  word
    | .logs => "LOGS"
    | .metrics => "METRICS"
    | .synthetics => "SYNTHETICS"
    | .traces => "TRACES"
    | .none => "NONE"

instance : Keyword SecurityProtocol where
  typeName := "SecurityProtocol"
  all := [.plaintext, .ssl]
  word
    | .plaintext => "PLAINTEXT"
    | .ssl => "SSL"

open Keyword

theorem WriteMethod.ofText?_word (a : WriteMethod) : ofText? (word a) = some a := by
  cases a <;> decide +kernel

theorem NullBehavior.ofText?_word (a : NullBehavior) : ofText? (word a) = some a := by
  cases a <;> decide +kernel

theorem DataStreamType.ofText?_word (a : DataStreamType) : ofText? (word a) = some a := by
  cases a <;> decide +kernel

theorem SecurityProtocol.ofText?_word (a : SecurityProtocol) : ofText? (word a) = some a := by
  cases a <;> decide +kernel

example : (ofText? " ssl" : Option SecurityProtocol) = none := by decide +kernel

example : title DataStreamType.synthetics = "Synthetics" := by decide +kernel

end SinkCheck
