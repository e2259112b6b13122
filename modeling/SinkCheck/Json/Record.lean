import SinkCheck.Json.Reader
/-
  Records in JSON.

  A record has fields with fixed keys.  It is written as an object, where members of other keys are
  skipped unread and a field may come only once, or as an array of the fields in their order.
-/

namespace SinkCheck.Json

/-- The text of a written string. -/
def Written.string? : Written → Option String
  | .string ps => text? ps
  | _ => none

/-- The text of a written string, or nothing for a written null. -/
def Written.optionalString? : Written → Option (Option String)
  | .null => some none
  | w => w.string?.map some

/-- The text of a field that may be missing. -/
def missingOrString? : Option Written → Option (Option String)
  | none => some none
  | some w => w.optionalString?

/-- The members whose keys are wanted, provided that every key is a proper string and no wanted key
comes twice. -/
def fields? (wanted : List String) :
    List (List Part × Written) → Option (List (String × Written))
  | [] => some []
  | (parts, w) :: rest => do
    let key ← text? parts
    let found ← fields? wanted rest
    if key ∈ wanted then
      if (Keyed.find? key found).isSome then none else some ((key, w) :: found)
    else some found

/-- The field of a key. -/
def field? (key : String) (fields : List (String × Written)) : Option Written := Keyed.find? key fields

end SinkCheck.Json
