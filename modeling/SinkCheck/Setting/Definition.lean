import SinkCheck.Setting.Fault
import SinkCheck.Setting.Value
import SinkCheck.Text.AsciiCase
import SinkCheck.Text.Blank
import SinkCheck.Text.Ends
import SinkCheck.Text.Pieces
import SinkCheck.Text.Uppercase
import SinkCheck.Url.Parser
/-
  Definitions of settings, and what a text means under one.

  A definition gives a setting its kind, its default and a constraint.  A text is first read as its
  kind says, blanks at its ends not counting except in secrets, and the value is then held against
  the constraint.  A default is read like any other text.

  Main statements: `resolve_some` and `resolve_none` say where the value of a setting comes from, and
  `property_of_resolve_eq_error` that a fault names its own setting.
-/

namespace SinkCheck

/-! ## Definitions -/

/-- The kind of values that a setting takes. -/
inductive Kind where
  | string
  | secret
  | integer (width : Width)
  | boolean
  | list
  | choice (words : List String)
  deriving Repr, DecidableEq

/-- What a setting means when it is absent. -/
inductive Default where
  | required
  | null
  | text (text : String)
  deriving Repr, DecidableEq

/-- What a value must fulfil beyond its kind. -/
inductive Constraint where
  | free
  | range (min max : Int64)
  | atLeast (min : Int64)
  | urls
  | dataset
  | keytab
  deriving Repr, DecidableEq

/-- The definition of a setting. -/
structure Definition where
  name : String
  kind : Kind
  default : Default
  constraint : Constraint
  doc : String
  deriving Repr, DecidableEq

/-- The name of a kind; a choice counts as a string. -/
def Kind.name : Kind → String
  | .string | .choice _ => "STRING"
  | .secret => "PASSWORD"
  | .integer w => w.name
  | .boolean => "BOOLEAN"
  | .list => "LIST"

/-! ## Reading -/

/-- The trimmed pieces of a text between commas, without the empty ones. -/
def listItems (s : String) : List String :=
  ((Text.split ',' s).map Text.trim).filter fun p => !p.isEmpty

/-- The integer of the given type that a text denotes. -/
def Width.read? (w : Width) (s : String) : Option Int64 :=
  match Text.integer? s.toList with
  | some n => if w.Fits n then some (Int64.ofInt n) else none
  | none => none

/-- The truth value that a text denotes. -/
def readBoolean? (s : String) : Option Bool :=
  if Text.eqFolded s "true" then some true
  else if Text.eqFolded s "false" then some false
  else none

/-- The value of a text of the given kind. -/
def Kind.read (k : Kind) (text : String) : Except Reason Value :=
  let trimmed := Text.trim text
  match k with
  | .string => .ok (.string trimmed)
  | .secret => .ok (.secret text)
  | .integer w => match w.read? trimmed with
    | some n => .ok (.int n)
    | none => .error (.notNumber w)
  | .boolean => match readBoolean? trimmed with
    | some b => .ok (.boolean b)
    | none => .error .notBoolean
  | .list => .ok (.list (listItems trimmed))
  | .choice words => match words.find? fun w => Text.eqFolded w trimmed with
    | some w => .ok (.string w)
    | none => .error (.notAmong words)

/-! ## Constraints -/

/-- What is wrong with an address of the service; `parse` reads addresses. -/
def urlObjection? (parse : String → Except Url.Fault Url) (s : String) : Option Reason :=
  match parse s with
  | .error f => some (.badUrl f)
  | .ok u => if u.isWeb then none else some .notWeb

/-- What is wrong with a row of addresses: the first bad one, or that there is none. -/
def urlsObjection? (parse : String → Except Url.Fault Url) (urls : List String) :
    Option (String × Reason) :=
  if urls.isEmpty then some ("", .noUrl)
  else urls.findSome? fun s => (urlObjection? parse s).map fun r => (s, r)

/-- The characters, blanks aside, that the name of a dataset may not hold. -/
def datasetForbidden : List Char := ['\\', '/', '*', '?', '"', '<', '>', '|', ',', '#', '-', ':']

/-- What is wrong with the name of a dataset. -/
def datasetObjection? (s : String) : Option Reason :=
  if s.isEmpty then none
  else if Reason.maxDatasetLength < s.length then some .datasetLength
  else if s.toList.any fun c => Text.isBlank c || datasetForbidden.contains c then
    some .datasetCharacter
  else if s.toList.any Text.isUppercase then some .datasetCase
  else none

/-- What is wrong with the path of a keytab; `isFile` knows the regular files. -/
def keytabObjection? (isFile : String → Bool) (s : String) : Option Reason :=
  if !Text.endsWith ".keytab" s then some .keytabName
  else if !isFile s then some .keytabMissing
  else none

/-- The constraint that a value breaks, if any: the text to quote and the reason.  A constraint on
values of another kind is not broken, but a missing list has no URL in it. -/
def Constraint.objection? (isFile : String → Bool) (c : Constraint) (v : Value) :
    Option (String × Reason) :=
  match c with
  | .free => none
  | .range min max => v.int?.bind fun n =>
    if n < min then some (Text.integerText n.toInt, .below min)
    else if max < n then some (Text.integerText n.toInt, .above max)
    else none
  | .atLeast min => v.int?.bind fun n =>
    if n < min then some (Text.integerText n.toInt, .below min) else none
  | .urls => urlsObjection? Url.parse (v.list?.getD [])
  | .dataset => v.text?.bind fun s => (datasetObjection? s).map fun r => (s, r)
  | .keytab => v.text?.bind fun s => (keytabObjection? isFile s).map fun r => (s, r)

/-! ## Resolving -/

namespace Definition

/-- The value of a text under a definition. -/
def read (isFile : String → Bool) (d : Definition) (text : String) : Except SyntaxFault Value :=
  match d.kind.read text with
  | .error r => .error (.invalid d.name text r)
  | .ok v => match d.constraint.objection? isFile v with
    | some (quoted, r) => .error (.invalid d.name quoted r)
    | none => .ok v

/-- The value of a setting whose text is given, or absent. -/
def resolve (isFile : String → Bool) (d : Definition) (text : Option String) :
    Except SyntaxFault Value :=
  match text, d.default with
  | some t, _ => d.read isFile t
  | none, .required => .error (.missing d.name)
  | none, .null => .ok .null
  | none, .text t => d.read isFile t

@[simp] theorem resolve_some (isFile : String → Bool) (d : Definition) (t : String) :
    d.resolve isFile (some t) = d.read isFile t := rfl

theorem resolve_none (isFile : String → Bool) (d : Definition) :
    d.resolve isFile none = match d.default with
      | .required => .error (.missing d.name)
      | .null => .ok .null
      | .text t => d.read isFile t := by
  unfold resolve
  cases d.default <;> rfl

/-- A text has the value that it is read as, if that value breaks no constraint. -/
theorem read_eq_ok_iff {isFile : String → Bool} {d : Definition} {t : String} {v : Value} :
    d.read isFile t = .ok v ↔ d.kind.read t = .ok v ∧ d.constraint.objection? isFile v = none := by
  unfold read
  constructor
  · intro h
    split at h
    · cases h
    · next w hw =>
      split at h
      · cases h
      · next hc => cases h; exact ⟨hw, hc⟩
  · rintro ⟨hv, hc⟩
    simp [hv, hc]

/-- A text that its kind cannot read is quoted as it was given. -/
theorem read_of_unread {isFile : String → Bool} {d : Definition} {t : String} {r : Reason}
    (h : d.kind.read t = .error r) : d.read isFile t = .error (.invalid d.name t r) := by
  rw [read, h]

/-- A value that breaks the constraint is quoted as the constraint has it. -/
theorem read_of_objection {isFile : String → Bool} {d : Definition} {t quoted : String} {v : Value}
    {r : Reason} (hv : d.kind.read t = .ok v)
    (h : d.constraint.objection? isFile v = some (quoted, r)) :
    d.read isFile t = .error (.invalid d.name quoted r) := by
  simp only [read, hv, h]

/-- A fault of a setting names that setting. -/
theorem property_of_resolve_eq_error {isFile : String → Bool} {d : Definition} {t : Option String}
    {f : SyntaxFault} (h : d.resolve isFile t = .error f) : f.property = d.name := by
  have read {s : String} (h : d.read isFile s = .error f) : f.property = d.name := by
    unfold read at h
    split at h
    · cases h; rfl
    · split at h <;> cases h; rfl
  cases t with
  | some t => exact read h
  | none =>
    rw [resolve_none] at h
    split at h
    · cases h; rfl
    · cases h
    · exact read h

end Definition

/-- The items of a list are not empty. -/
theorem ne_empty_of_mem_listItems {s p : String} (h : p ∈ listItems s) : p ≠ "" := by
  have := (List.mem_filter.1 h).2
  intro e
  subst e
  simp at this

example : listItems " a, ,b c ,," = ["a", "b c"] := by decide +kernel

end SinkCheck
