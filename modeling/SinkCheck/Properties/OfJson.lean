import SinkCheck.Json.Printer
import SinkCheck.Properties.Basic
import SinkCheck.Setting.Fault
/-
  Properties in a JSON object.

  Each member of the object gives a property its text: strings are taken as they are, numbers and
  truth values as they are written, arrays of those joined by commas, and null gives nothing.  A member
  of another form is a fault; all faults are found.

  Main statements: `ofJson_of_faults` and `ofJson_of_no_fault`.
-/

namespace SinkCheck

/-- The text of a string, a truth value or a number. -/
def Json.scalar? : Json → Option String
  | .string s => some s
  | .bool b => some (boolText b)
  | .number n => some n.text
  | .null | .array _ | .object _ => none

namespace Properties

/-- The text that a member gives its property, if any. -/
def ofMember (key : String) (v : Json) : Except SyntaxFault (Option String) :=
  match v with
  | .null => .ok none
  | .array items => match items.mapM Json.scalar? with
    | some texts => .ok (some (",".intercalate texts))
    | none => .error (.invalid key v.text .nestedList)
  | .object _ => .error (.invalid key v.text .nestedRecord)
  | v => .ok v.scalar?

/-- The faults of the members, in order. -/
def memberFaults (members : List (String × Json)) : List SyntaxFault :=
  members.filterMap fun (key, v) => match ofMember key v with
    | .ok _ => none
    | .error f => some f

/-- The texts that the members give, in order. -/
def memberTexts (members : List (String × Json)) : List (String × String) :=
  members.filterMap fun (key, v) => match ofMember key v with
    | .ok (some t) => some (key, t)
    | _ => none

/-- The properties in a JSON value, or all its faults. -/
def ofJson (v : Json) : Except (List SyntaxFault) Properties :=
  match v with
  | .object members =>
    if (memberFaults members).isEmpty then .ok (ofList (memberTexts members))
    else .error (memberFaults members)
  | v => .error [.invalid "$" v.text .notRecord]

theorem ofJson_of_faults {members : List (String × Json)} (h : memberFaults members ≠ []) :
    ofJson (.object members) = .error (memberFaults members) := by
  simp [ofJson, h]

theorem ofJson_of_no_fault {members : List (String × Json)} (h : memberFaults members = []) :
    ofJson (.object members) = .ok (ofList (memberTexts members)) := by
  simp [ofJson, h]

end Properties

end SinkCheck
