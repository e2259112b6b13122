import SinkCheck.Report.Issue
import SinkCheck.Setting.Fault
/-
  Reports.

  A report has an entry per setting: its name, the value shown for it, and what was found wrong with
  it, in the order in which it was found.  Entries keep their places; an entry comes into being when
  its name is first mentioned.

  Main statements: `find?_insert` and `find?_add` say what the two basic operations do to the look-up
  of entries, `names_insert` and `names_add` what they do to the row of names.
-/

namespace SinkCheck

/-- Something that is wrong with a setting: with its text alone, or with the configuration. -/
inductive Finding where
  | fault (fault : SyntaxFault)
  | issue (issue : Issue)
  deriving Repr, DecidableEq

/-- The wording of a finding. -/
def Finding.message : Finding → String
  | .fault f => f.message
  | .issue i => i.message

/-- What a report says of one setting. -/
structure Report.Entry where
  name : String
  value : Option String
  findings : List Finding
  deriving Repr, DecidableEq

namespace Report.Entry

/-- Is nothing wrong? -/
def isValid (e : Entry) : Bool := e.findings.isEmpty

/-- The wordings of what is wrong. -/
def messages (e : Entry) : List String := e.findings.map Finding.message

/-- The issues among the findings. -/
def issues (e : Entry) : List Issue := e.findings.filterMap fun
  | .issue i => some i
  | .fault _ => none

/-- Is this issue among the findings? -/
def hasIssue (e : Entry) (i : Issue) : Bool := e.issues.contains i

end Report.Entry

/-- A row of entries. -/
structure Report where
  entries : List Report.Entry
  deriving Repr, DecidableEq

namespace Report

/-! ## Look-ups -/

/-- The report without entries. -/
def empty : Report := ⟨[]⟩

/-- The first entry of a name. -/
def find? (r : Report) (name : String) : Option Entry := r.entries.find? fun e => e.name == name

/-- The names of the entries, in order. -/
def names (r : Report) : List String := r.entries.map Entry.name

/-- The entries with findings. -/
def invalid (r : Report) : List Entry := r.entries.filter fun e => !e.isValid

/-- Is something wrong? -/
def hasErrors (r : Report) : Bool := r.entries.any fun e => !e.isValid

/-- Is nothing wrong? -/
def isValid (r : Report) : Bool := !r.hasErrors

/-- The number of findings. -/
def errorCount (r : Report) : Nat := (r.entries.flatMap Entry.findings).length

/-- The wordings of the findings of a setting. -/
def messages (r : Report) (name : String) : List String :=
  match r.find? name with
  | some e => e.messages
  | none => []

/-! ## Changes -/

/-- Put an entry in the place of the first entry of its name, or else at the end. -/
def insertInto (e : Entry) : List Entry → List Entry
  | [] => [e]
  | x :: xs => if x.name = e.name then e :: xs else x :: insertInto e xs

/-- Add a finding to the first entry of a name, or else to a new entry at the end. -/
def addInto (name : String) (f : Finding) : List Entry → List Entry
  | [] => [⟨name, none, [f]⟩]
  | x :: xs =>
    if x.name = name then ⟨x.name, x.value, x.findings ++ [f]⟩ :: xs else x :: addInto name f xs

/-- Put an entry into the report. -/
def insert (r : Report) (e : Entry) : Report := ⟨insertInto e r.entries⟩

/-- Add a finding to a setting. -/
def add (r : Report) (name : String) (f : Finding) : Report := ⟨addInto name f r.entries⟩

/-- Add a fault to its setting. -/
def addFault (r : Report) (f : SyntaxFault) : Report := r.add f.property (.fault f)

/-- Add several faults. -/
def addFaults (r : Report) (fs : List SyntaxFault) : Report := fs.foldl addFault r

/-- Add the issue of a violation to each of its settings. -/
def attach (r : Report) (v : Violation) : Report :=
  v.fields.foldl (fun r name => r.add name (.issue v.issue)) r

/-- Attach several violations. -/
def attachAll (r : Report) (vs : List Violation) : Report := vs.foldl attach r

/-! ## Wording -/

/-- The lines of an entry's findings. -/
def Entry.lines (e : Entry) : List String := e.findings.map fun f => "\n  - " ++ e.name ++ ": " ++ f.message

/-- The wording of a report. -/
def display (r : Report) : String :=
  if r.isValid then "Configuration is valid (" ++ r.entries.length.repr ++ " properties)"
  else
    "Configuration has " ++ r.errorCount.repr ++ " error(s):" ++
    String.join (r.invalid.flatMap Entry.lines)

/-! ## Laws -/

theorem find?_insert (r : Report) (e : Entry) (name : String) :
    (r.insert e).find? name = if e.name = name then some e else r.find? name := by
  obtain ⟨l⟩ := r
  show (insertInto e l).find? _ = if e.name = name then some e else l.find? _
  induction l with
  | nil => by_cases h : e.name = name <;> simp [insertInto, h]
  | cons x l ih =>
    by_cases hx : x.name = e.name
    · by_cases h : e.name = name <;> simp [insertInto, hx, h]
    · by_cases h : e.name = name
      · have : x.name ≠ name := fun g => hx (g.trans h.symm)
        simp_all [insertInto]
      · by_cases hn : x.name = name <;> simp_all [insertInto]

theorem find?_add (r : Report) (name other : String) (f : Finding) :
    (r.add name f).find? other =
      if name = other then
        match r.find? name with
        | some e => some ⟨e.name, e.value, e.findings ++ [f]⟩
        | none => some ⟨name, none, [f]⟩
      else r.find? other := by
  obtain ⟨l⟩ := r
  show (addInto name f l).find? _ = if name = other then
    match l.find? _ with
    | some e => some ⟨e.name, e.value, e.findings ++ [f]⟩
    | none => some ⟨name, none, [f]⟩ else l.find? _
  induction l with
  | nil => by_cases h : name = other <;> simp [addInto, h]
  | cons x l ih =>
    by_cases hx : x.name = name
    · by_cases h : name = other <;> simp [addInto, hx, h]
    · by_cases h : name = other
      · subst h
        simp_all [addInto]
      · by_cases hn : x.name = other <;> simp_all [addInto]

theorem names_insert (r : Report) (e : Entry) :
    (r.insert e).names = if e.name ∈ r.names then r.names else r.names ++ [e.name] := by
  obtain ⟨l⟩ := r
  show (insertInto e l).map Entry.name =
    if e.name ∈ l.map Entry.name then l.map Entry.name else l.map Entry.name ++ [e.name]
  induction l with
  | nil => rfl
  | cons x l ih =>
    by_cases hx : x.name = e.name
    · simp [insertInto, hx]
    · have hx' : e.name ≠ x.name := fun g => hx g.symm
      simp only [insertInto, if_neg hx, List.map_cons, List.mem_cons, hx', false_or, ih]
      split <;> rfl

theorem names_add (r : Report) (name : String) (f : Finding) :
    (r.add name f).names = if name ∈ r.names then r.names else r.names ++ [name] := by
  obtain ⟨l⟩ := r
  show (addInto name f l).map Entry.name =
    if name ∈ l.map Entry.name then l.map Entry.name else l.map Entry.name ++ [name]
  induction l with
  | nil => rfl
  | cons x l ih =>
    by_cases hx : x.name = name
    · simp [addInto, hx]
    · have hx' : name ≠ x.name := fun g => hx g.symm
      simp only [addInto, if_neg hx, List.map_cons, List.mem_cons, hx', false_or, ih]
      split <;> rfl

end Report

end SinkCheck
