import SinkCheck.Proofs.Report.Syntax
/-
  The history of a report.

  A report is changed in five ways: an entry is put in, or something is added that was found, be it a
  single finding, a fault, a violation or a row of violations.  The changes share one search for the
  first entry of a name, put entries in place of others and make them where there were none; what a
  report says in the end could depend on how they were interleaved.  It does not, beyond what a log of
  the changes shows: names stand in the order in which they were first mentioned, and an entry is the
  last one put in under its name, followed by all that was added to the name since.

  Every fact is shown for one change and then, by induction, for a row of them.  The invariant for the
  names is that they are the mentioned names without repetitions; the one for the look-ups is `grown`.

  Main statements: `names_changeAll`, `find?_changeAll` and `find?_changeAll_insert`, and
  `records_changeAll` for all of them together.
-/

namespace SinkCheck.Report

/-! ## Changes -/

/-- A change of a report. -/
inductive Change where
  | insert (entry : Entry)
  | add (name : String) (finding : Finding)
  | addFault (fault : SyntaxFault)
  | attach (violation : Violation)
  | attachAll (violations : List Violation)
  deriving Repr, DecidableEq

/-- Make a change. -/
def change (r : Report) : Change → Report
  | .insert e => r.insert e
  | .add name f => r.add name f
  | .addFault f => r.addFault f
  | .attach v => r.attach v
  | .attachAll vs => r.attachAll vs

/-- Make one change after the other. -/
def changeAll (r : Report) (cs : List Change) : Report := cs.foldl change r

@[simp] theorem changeAll_nil (r : Report) : r.changeAll [] = r := rfl

@[simp] theorem changeAll_cons (r : Report) (c : Change) (cs : List Change) :
    r.changeAll (c :: cs) = (r.change c).changeAll cs := rfl

theorem changeAll_append (r : Report) (cs ds : List Change) :
    r.changeAll (cs ++ ds) = (r.changeAll cs).changeAll ds :=
  List.foldl_append

/-- What a violation adds to the findings of a name: its issue, once for each time that it names it. -/
def issuesFor (name : String) (v : Violation) : List Finding :=
  List.replicate (v.fields.count name) (.issue v.issue)

namespace Change

/-- The names that a change mentions, in order. -/
def mentions : Change → List String
  | insert e => [e.name]
  | add name _ => [name]
  | addFault f => [f.property]
  | attach v => v.fields
  | attachAll vs => vs.flatMap Violation.fields

/-- What a change adds to the findings of a name. -/
def added (name : String) : Change → List Finding
  | insert _ => []
  | add other f => if other = name then [f] else []
  | addFault f => if f.property = name then [.fault f] else []
  | attach v => issuesFor name v
  | attachAll vs => vs.flatMap (issuesFor name)

/-- Does no change put in an entry of this name? -/
def NonePuts (name : String) (cs : List Change) : Prop := ∀ e, insert e ∈ cs → e.name ≠ name

end Change

/-! ## First mentions -/

/-- One more name comes last, unless it was there. -/
theorem eraseDups_concat (l : List String) (a : String) :
    (l ++ [a]).eraseDups = if a ∈ l then l.eraseDups else l.eraseDups ++ [a] := by
  rw [List.eraseDups_append]
  by_cases h : a ∈ l
  · simp [List.removeAll, h]
  · simp [List.removeAll, h, List.eraseDups_cons]

theorem eraseDups_of_nodup {l : List String} (h : l.Nodup) : l.eraseDups = l := by
  induction l with
  | nil => rfl
  | cons a l ih =>
    obtain ⟨ha, hl⟩ := List.nodup_cons.mp h
    have hkeep : l.filter (fun b => !b == a) = l := by
      refine List.filter_eq_self.mpr fun b hb => ?_
      have hne : b ≠ a := fun hba => ha (hba ▸ hb)
      simp [hne]
    rw [List.eraseDups_cons, hkeep, ih hl]

theorem nodup_eraseDups (l : List String) : l.eraseDups.Nodup := by
  cases l with
  | nil => exact List.nodup_nil
  | cons a l =>
    rw [List.eraseDups_cons, List.nodup_cons, List.mem_eraseDups]
    refine ⟨?_, nodup_eraseDups (l.filter fun b => !b == a)⟩
    simp
termination_by l.length
decreasing_by exact Nat.lt_succ_of_le (List.length_filter_le _ _)

section Names

variable {r : Report} {mentioned : List String}

/-- A finding mentions the name that it is added to. -/
theorem names_add_of_eq (h : r.names = mentioned.eraseDups) (name : String) (f : Finding) :
    (r.add name f).names = (mentioned ++ [name]).eraseDups := by
  rw [names_add, h, eraseDups_concat]
  simp only [List.mem_eraseDups]

theorem names_insert_of_eq (h : r.names = mentioned.eraseDups) (e : Entry) :
    (r.insert e).names = (mentioned ++ [e.name]).eraseDups := by
  rw [names_insert, h, eraseDups_concat]
  simp only [List.mem_eraseDups]

theorem names_attach_of_eq (h : r.names = mentioned.eraseDups) (v : Violation) :
    (r.attach v).names = (mentioned ++ v.fields).eraseDups := by
  obtain ⟨fields, issue⟩ := v
  show (fields.foldl _ r).names = (mentioned ++ fields).eraseDups
  induction fields generalizing r mentioned with
  | nil => rw [List.append_nil]; exact h
  | cons name fields ih =>
    rw [List.foldl_cons, ih (names_add_of_eq h name (.issue issue)), List.append_assoc,
      List.singleton_append]

theorem names_attachAll_of_eq (h : r.names = mentioned.eraseDups) (vs : List Violation) :
    (r.attachAll vs).names = (mentioned ++ vs.flatMap Violation.fields).eraseDups := by
  induction vs generalizing r mentioned with
  | nil => rw [List.flatMap_nil, List.append_nil]; exact h
  | cons v vs ih =>
    show ((r.attach v).attachAll vs).names = _
    rw [ih (names_attach_of_eq h v), List.append_assoc, List.flatMap_cons]

/-- A change adds the names that it mentions first. -/
theorem names_change_of_eq (h : r.names = mentioned.eraseDups) (c : Change) :
    (r.change c).names = (mentioned ++ c.mentions).eraseDups := by
  cases c with
  | insert e => exact names_insert_of_eq h e
  | add name f => exact names_add_of_eq h name f
  | addFault f => exact names_add_of_eq h f.property (.fault f)
  | attach v => exact names_attach_of_eq h v
  | attachAll vs => exact names_attachAll_of_eq h vs

/-- **The names of a report** are those of the start and those of the changes, in the order of their first
mention. -/
theorem names_changeAll (h : r.names = mentioned.eraseDups) (cs : List Change) :
    (r.changeAll cs).names = (mentioned ++ cs.flatMap Change.mentions).eraseDups := by
  induction cs generalizing r mentioned with
  | nil => rw [List.flatMap_nil, List.append_nil]; exact h
  | cons c cs ih =>
    rw [changeAll_cons, ih (names_change_of_eq h c), List.append_assoc, List.flatMap_cons]

end Names

/-! ## The look-up of one name -/

section LookUps

variable {r : Report} {name : String}

/-- The entry of a name after findings were added to it: they come last, and where there was no entry
they make one without a value. -/
def grown (name : String) : Option Entry → List Finding → Option Entry
  | some e, fs => some ⟨e.name, e.value, e.findings ++ fs⟩
  | none, [] => none
  | none, f :: fs => some ⟨name, none, f :: fs⟩

@[simp] theorem grown_nil (name : String) (found : Option Entry) : grown name found [] = found := by
  cases found with
  | none => rfl
  | some e => simp [grown]

/-- What is added later comes behind what was added before. -/
theorem grown_append (name : String) (found : Option Entry) (fs gs : List Finding) :
    grown name (grown name found fs) gs = grown name found (fs ++ gs) := by
  cases found with
  | some e => simp [grown]
  | none =>
    cases fs with
    | nil => rw [grown_nil, List.nil_append]
    | cons f fs => rfl

theorem find?_add_eq (r : Report) (other name : String) (f : Finding) :
    (r.add other f).find? name = grown name (r.find? name) (if other = name then [f] else []) := by
  rw [find?_add]
  by_cases h : other = name
  · subst h
    rw [if_pos rfl, if_pos rfl]
    cases r.find? other <;> rfl
  · rw [if_neg h, if_neg h, grown_nil]

theorem find?_attach (r : Report) (v : Violation) (name : String) :
    (r.attach v).find? name = grown name (r.find? name) (issuesFor name v) := by
  obtain ⟨fields, issue⟩ := v
  show (fields.foldl _ r).find? name =
    grown name (r.find? name) (List.replicate (fields.count name) (.issue issue))
  induction fields generalizing r with
  | nil => rw [List.count_nil, List.replicate_zero, grown_nil]; rfl
  | cons other fields ih =>
    rw [List.foldl_cons, ih, find?_add_eq, grown_append, List.count_cons]
    by_cases h : other = name
    · simp [h, List.replicate_succ]
    · simp [h]

theorem find?_attachAll (r : Report) (vs : List Violation) (name : String) :
    (r.attachAll vs).find? name = grown name (r.find? name) (vs.flatMap (issuesFor name)) := by
  induction vs generalizing r with
  | nil => rw [List.flatMap_nil, grown_nil]; rfl
  | cons v vs ih =>
    show ((r.attach v).attachAll vs).find? name = _
    rw [ih, find?_attach, grown_append, List.flatMap_cons]

/-- A change that does not put in an entry of a name adds to the findings of that name. -/
theorem find?_change {c : Change} (h : ∀ e, c = .insert e → e.name ≠ name) :
    (r.change c).find? name = grown name (r.find? name) (c.added name) := by
  cases c with
  | insert e =>
    show (r.insert e).find? name = grown name (r.find? name) []
    rw [find?_insert, if_neg (h e rfl), grown_nil]
  | add other f => exact find?_add_eq r other name f
  | addFault f => exact find?_add_eq r f.property name (.fault f)
  | attach v => exact find?_attach r v name
  | attachAll vs => exact find?_attachAll r vs name

/-- **Changes that put in no entry of a name** add to the findings of that name, in their order. -/
theorem find?_changeAll {cs : List Change} (h : Change.NonePuts name cs) :
    (r.changeAll cs).find? name = grown name (r.find? name) (cs.flatMap (Change.added name)) := by
  induction cs generalizing r with
  | nil => rw [List.flatMap_nil, grown_nil]; rfl
  | cons c cs ih =>
    have hc : ∀ e, c = .insert e → e.name ≠ name := fun e he => h e (he ▸ List.mem_cons_self)
    have hcs : Change.NonePuts name cs := fun e he => h e (List.mem_cons_of_mem c he)
    rw [changeAll_cons, ih hcs, find?_change hc, grown_append, List.flatMap_cons]

/-- **The last entry put in under a name** is what the name has afterwards, and what was added since. -/
theorem find?_changeAll_insert (r : Report) (before after : List Change) (e : Entry)
    (h : Change.NonePuts e.name after) :
    (r.changeAll (before ++ .insert e :: after)).find? e.name =
      some ⟨e.name, e.value, e.findings ++ after.flatMap (Change.added e.name)⟩ := by
  have hput : (((r.changeAll before).change (.insert e)).find? e.name) = some e := by
    show ((r.changeAll before).insert e).find? e.name = some e
    rw [find?_insert, if_pos rfl]
  rw [changeAll_append, changeAll_cons, find?_changeAll h, hput]
  rfl

theorem name_of_find? {e : Entry} (h : r.find? name = some e) : e.name = name := by
  have := List.find?_some h
  exact beq_iff_eq.mp this

end LookUps

/-! ## Mentioned and added -/

namespace Change

variable {name : String} {c : Change} {cs : List Change}

theorem issuesFor_eq_nil_iff {v : Violation} : issuesFor name v = [] ↔ name ∉ v.fields := by
  rw [issuesFor, List.replicate_eq_nil_iff, List.count_eq_zero]

/-- A change that mentions a name puts in an entry for it or adds something to it. -/
theorem added_eq_nil_iff (h : ∀ e, c = .insert e → e.name ≠ name) :
    c.added name = [] ↔ name ∉ c.mentions := by
  cases c with
  | insert e => simpa [added, mentions] using Ne.symm (h e rfl)
  | add other f => simp [added, mentions, eq_comm]
  | addFault f => simp [added, mentions, eq_comm]
  | attach v => exact issuesFor_eq_nil_iff
  | attachAll vs => simp [added, mentions, issuesFor_eq_nil_iff]

theorem flatMap_added_eq_nil_iff (h : NonePuts name cs) :
    cs.flatMap (added name) = [] ↔ name ∉ cs.flatMap mentions := by
  rw [List.flatMap_eq_nil_iff, List.mem_flatMap]
  constructor
  · rintro hnil ⟨c, hc, hm⟩
    exact (added_eq_nil_iff fun e he => h e (he ▸ hc)).mp (hnil c hc) hm
  · intro hm c hc
    exact (added_eq_nil_iff fun e he => h e (he ▸ hc)).mpr fun hmc => hm ⟨c, hc, hmc⟩

theorem nonePuts_of_not_mem (h : name ∉ cs.flatMap mentions) : NonePuts name cs := by
  intro e he hname
  exact h (List.mem_flatMap.mpr ⟨.insert e, he, List.mem_singleton.mpr hname.symm⟩)

end Change

/-! ## Counting -/

/-- The findings of a report are counted entry by entry. -/
theorem errorCount_eq_foldr (r : Report) :
    r.errorCount = (r.entries.map fun e => e.findings.length).foldr (· + ·) 0 := by
  obtain ⟨l⟩ := r
  show (l.flatMap Entry.findings).length = _
  induction l with
  | nil => rfl
  | cons e l ih => rw [List.flatMap_cons, List.length_append, ih]; rfl

theorem isValid_iff_hasErrors {r : Report} : r.isValid = true ↔ r.hasErrors = false := by
  rw [isValid, Bool.not_eq_true']

theorem isValid_iff_errorCount {r : Report} : r.isValid = true ↔ r.errorCount = 0 := by
  rw [isValid_iff_hasErrors, ← Bool.not_eq_true, ← one_le_errorCount_iff]
  omega

theorem isValid_iff_invalid {r : Report} : r.isValid = true ↔ r.invalid = [] := by
  rw [isValid_iff, invalid, List.filter_eq_nil_iff]
  simp [Entry.isValid]

/-- Under distinct names every entry is the one found under its name. -/
theorem find?_of_mem {r : Report} (hn : r.names.Nodup) {e : Entry} (he : e ∈ r.entries) :
    r.find? e.name = some e := by
  obtain ⟨l⟩ := r
  show l.find? (fun x => x.name == e.name) = some e
  induction l with
  | nil => cases he
  | cons x l ih =>
    obtain ⟨hx, hl⟩ := List.nodup_cons.mp hn
    rcases List.mem_cons.mp he with rfl | he
    · simp
    · have hne : x.name ≠ e.name := fun h => hx (h ▸ List.mem_map_of_mem he)
      rw [List.find?_cons_of_neg (by simpa using hne)]
      exact ih hl he

/-- A report with the names of another is known entry by entry if its look-ups are. -/
theorem entries_eq_map_of_find? {r q : Report} {g : Entry → Entry} (hn : r.names.Nodup)
    (hnames : q.names = r.names) (h : ∀ e ∈ r.entries, q.find? e.name = some (g e)) :
    q.entries = r.entries.map g := by
  have hmap : q.entries.map Entry.name = r.entries.map Entry.name := hnames
  have hlength : q.entries.length = r.entries.length := by
    simpa only [List.length_map] using congrArg List.length hmap
  refine List.ext_getElem (by rw [hlength, List.length_map]) fun i hq hr => ?_
  rw [List.length_map] at hr
  have hname : q.entries[i].name = r.entries[i].name := by
    simpa only [List.getElem?_map, List.getElem?_eq_getElem hq, List.getElem?_eq_getElem hr,
      Option.map_some, Option.some.injEq] using congrArg (·[i]?) hmap
  have hfound := find?_of_mem (hnames ▸ hn) (List.getElem_mem hq)
  rw [hname, h _ (List.getElem_mem hr)] at hfound
  rw [List.getElem_map]
  exact (Option.some.inj hfound).symm

/-- **Violations of settings that have entries**, entry by entry: each gets the issues that are held
against its name. -/
theorem entries_attachAll {r : Report} {vs : List Violation} (hn : r.names.Nodup)
    (h : ∀ v ∈ vs, ∀ name ∈ v.fields, name ∈ r.names) :
    (r.attachAll vs).entries =
      r.entries.map fun e => ⟨e.name, e.value, e.findings ++ vs.flatMap (issuesFor e.name)⟩ := by
  have hnames : (r.attachAll vs).names = r.names := by
    rw [names_eq_map_frame, frame_attachAll h, ← names_eq_map_frame]
  refine entries_eq_map_of_find? hn hnames fun e he => ?_
  rw [find?_attachAll, find?_of_mem hn he]
  rfl

/-! ## The report as a log -/

/-- What a report that came from `start` by the changes `cs` has to show for them. -/
structure Records (start : Report) (cs : List Change) (r : Report) : Prop where
  /-- No two entries have one name. -/
  nodup_names : r.names.Nodup
  /-- Names stand in the order in which they were first mentioned, however often they were since. -/
  names_eq : r.names = (start.names ++ cs.flatMap Change.mentions).eraseDups
  /-- Every entry is the one that is found under its name, so the look-ups below say all of it. -/
  find?_of_mem : ∀ e ∈ r.entries, r.find? e.name = some e
  /-- The last entry put in under a name has its own value and findings, and behind these what was
  added to the name since. -/
  put : ∀ before e after, cs = before ++ .insert e :: after → Change.NonePuts e.name after →
    r.find? e.name = some ⟨e.name, e.value, e.findings ++ after.flatMap (Change.added e.name)⟩
  /-- Without an entry put in under its name, one of the start keeps its value and findings. -/
  kept : ∀ name e, start.find? name = some e → Change.NonePuts name cs →
    r.find? name = some ⟨name, e.value, e.findings ++ cs.flatMap (Change.added name)⟩
  /-- An entry that was only added to has no value. -/
  created : ∀ name, start.find? name = none → Change.NonePuts name cs →
    name ∈ cs.flatMap Change.mentions →
    r.find? name = some ⟨name, none, cs.flatMap (Change.added name)⟩
  /-- A name that was never mentioned has what it had. -/
  unmentioned : ∀ name, name ∉ cs.flatMap Change.mentions → r.find? name = start.find? name
  /-- The findings of all entries are counted. -/
  errorCount_eq : r.errorCount = (r.entries.map fun e => e.findings.length).foldr (· + ·) 0
  /-- There are four ways to say that nothing is wrong. -/
  verdicts : (r.isValid = true ↔ r.hasErrors = false) ∧ (r.isValid = true ↔ r.errorCount = 0) ∧
    (r.isValid = true ↔ r.invalid = [])

/-- Changes are recorded on top of any report whose names are distinct. -/
theorem records_of_nodup {start : Report} (h : start.names.Nodup) (cs : List Change) :
    Records start cs (start.changeAll cs) := by
  have hnames := names_changeAll (eraseDups_of_nodup h).symm cs
  have hnodup : (start.changeAll cs).names.Nodup := hnames ▸ nodup_eraseDups _
  refine
    { nodup_names := hnodup
      names_eq := hnames
      find?_of_mem := fun e he => find?_of_mem hnodup he
      put := ?put
      kept := ?kept
      created := ?created
      unmentioned := ?unmentioned
      errorCount_eq := errorCount_eq_foldr _
      verdicts := ⟨isValid_iff_hasErrors, isValid_iff_errorCount, isValid_iff_invalid⟩ }
  case put =>
    rintro before e after rfl hafter
    exact find?_changeAll_insert start before after e hafter
  case kept =>
    intro name e he hputs
    rw [find?_changeAll hputs, he, ← name_of_find? he]
    rfl
  case created =>
    intro name hnone hputs hmentioned
    have hadded : cs.flatMap (Change.added name) ≠ [] :=
      fun hnil => (Change.flatMap_added_eq_nil_iff hputs).mp hnil hmentioned
    obtain ⟨f, fs, hfs⟩ := List.exists_cons_of_ne_nil hadded
    rw [find?_changeAll hputs, hnone, hfs]
    rfl
  case unmentioned =>
    intro name hname
    have hputs := Change.nonePuts_of_not_mem hname
    rw [find?_changeAll hputs, (Change.flatMap_added_eq_nil_iff hputs).mpr hname, grown_nil]

/-- **A report is a log of its changes**, whether they began with no entry at all or with the report of
a configuration.  Its names are distinct and stand in the order of their first mention; an entry is the
last one put in under its name, or else the one of the start, or else one without a value, and its
findings are those that it came with and all that were added to its name since, a violation counting
once for each time that it names it; no change touches a name that it does not mention.  The number of
findings is the sum over the entries, and it is zero exactly if the report is valid. -/
theorem records_changeAll (isFile : String → Bool) (ps : Properties) (cs : List Change) :
    Records Report.empty cs (Report.empty.changeAll cs) ∧
    Records (Report.ofProperties isFile ps) cs ((Report.ofProperties isFile ps).changeAll cs) := by
  have hempty : Report.empty.names.Nodup := List.nodup_nil
  have hproperties : (Report.ofProperties isFile ps).names.Nodup := by
    rw [Report.names_ofProperties]
    exact Key.nodup_names
  exact ⟨records_of_nodup hempty cs, records_of_nodup hproperties cs⟩

/-- An entry that is put in again keeps its place and loses what was added before. -/
example :
    (Report.empty.changeAll
      [.add "a" (.issue .kerberosIncomplete), .insert ⟨"b", none, []⟩,
       .attach ⟨["b", "a", "b"], .ignoreKeyConflict⟩, .insert ⟨"a", some "1", []⟩]).entries =
      [⟨"a", some "1", []⟩, ⟨"b", none, [.issue .ignoreKeyConflict, .issue .ignoreKeyConflict]⟩] := by
  decide

end SinkCheck.Report
