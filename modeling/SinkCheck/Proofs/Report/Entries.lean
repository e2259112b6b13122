import SinkCheck.Report.Basic
/-
  What rows of changes make of a report.

  `find?_insert`, `find?_add` and their companions speak of one change and of one name.  Here whole
  rows of changes are read as lists of entries: entries put in under distinct names are simply the
  entries of the report, and faults added to them, at most one each, stay with their own entries.  The
  question whether anything is wrong needs less: a violation makes a report invalid exactly if it is
  held against something.

  Main statements: `entries_foldl_insert`, `entries_addFaults` and `hasErrors_attachAll`;
  `frame_attachAll` and `mem_findings_attachAll`, what violations leave alone and what they add.
-/

namespace SinkCheck.Report

/-! ## Findings -/

/-- The findings of a report with the names of their settings, entry by entry. -/
def findings (r : Report) : List (String × Finding) :=
  r.entries.flatMap fun e => e.findings.map fun f => (e.name, f)

theorem hasErrors_iff {r : Report} : r.hasErrors = true ↔ ∃ e ∈ r.entries, e.findings ≠ [] := by
  simp [hasErrors, Entry.isValid]

theorem isValid_iff {r : Report} : r.isValid = true ↔ ∀ e ∈ r.entries, e.findings = [] := by
  simp [isValid, hasErrors, Entry.isValid]

/-- A report is invalid exactly if it counts at least one finding. -/
theorem one_le_errorCount_iff {r : Report} : 1 ≤ r.errorCount ↔ r.hasErrors = true := by
  rw [hasErrors_iff, errorCount, Nat.one_le_iff_ne_zero, ne_eq, List.length_eq_zero_iff,
    List.flatMap_eq_nil_iff]
  constructor
  · intro h
    refine Classical.byContradiction fun hnone => h fun e he => ?_
    exact Decidable.byContradiction fun hne => hnone ⟨e, he, hne⟩
  · rintro ⟨e, he, hne⟩ h
    exact hne (h e he)

/-! ## Entries under distinct names -/

/-- An entry of a new name comes last. -/
theorem insertInto_of_not_mem {e : Entry} {l : List Entry} (h : e.name ∉ l.map Entry.name) :
    insertInto e l = l ++ [e] := by
  induction l with
  | nil => rfl
  | cons x l ih =>
    rw [List.map_cons, List.mem_cons, not_or] at h
    rw [insertInto, if_neg (Ne.symm h.1), ih h.2]
    rfl

/-- **Entries put in under distinct names** stand in the report in the order in which they came. -/
theorem entries_foldl_insert {α : Type} (g : α → Entry) (as : List α) (r : Report)
    (h : (r.names ++ as.map fun a => (g a).name).Nodup) :
    (as.foldl (fun r a => r.insert (g a)) r).entries = r.entries ++ as.map g := by
  induction as generalizing r with
  | nil => exact (List.append_nil _).symm
  | cons a as ih =>
    have hnew : (g a).name ∉ r.names := by
      intro hm
      exact (List.nodup_append.mp h).2.2 _ hm _ List.mem_cons_self rfl
    have hins : (r.insert (g a)).entries = r.entries ++ [g a] := insertInto_of_not_mem hnew
    have hnames : (r.insert (g a)).names = r.names ++ [(g a).name] := by
      rw [names_insert, if_neg hnew]
    rw [List.foldl_cons, ih (r.insert (g a)), hins, List.append_assoc, List.map_cons,
      List.singleton_append]
    rw [hnames, List.append_assoc, List.singleton_append]
    exact h

/-! ## Faults on entries of their own -/

/-- A finding goes to the first entry of its name. -/
theorem addInto_append {name : String} {l : List Entry} (h : name ∉ l.map Entry.name) (x : Entry)
    (hx : x.name = name) (f : Finding) (l' : List Entry) :
    addInto name f (l ++ x :: l') = l ++ ⟨x.name, x.value, x.findings ++ [f]⟩ :: l' := by
  induction l with
  | nil => rw [List.nil_append, addInto, if_pos hx]; rfl
  | cons y l ih =>
    rw [List.map_cons, List.mem_cons, not_or] at h
    rw [List.cons_append, addInto, if_neg (Ne.symm h.1), ih h.2]
    rfl

/-- An entry and the fault of its setting, if there is one. -/
def Entry.withFault (e : Entry) : Option SyntaxFault → Entry
  | none => e
  | some f => ⟨e.name, e.value, e.findings ++ [.fault f]⟩

@[simp] theorem Entry.name_withFault (e : Entry) (f : Option SyntaxFault) :
    (e.withFault f).name = e.name := by
  cases f <;> rfl

/-- **Faults of distinct settings**, each of which has an entry: every entry gets its own fault. -/
theorem entries_addFaults {α : Type} (g : α → Entry) (fault? : α → Option SyntaxFault)
    (hf : ∀ a f, fault? a = some f → f.property = (g a).name) (as : List α) (l : List Entry)
    (h : (l.map Entry.name ++ as.map fun a => (g a).name).Nodup) :
    (addFaults ⟨l ++ as.map g⟩ (as.filterMap fault?)).entries =
      l ++ as.map fun a => (g a).withFault (fault? a) := by
  induction as generalizing l with
  | nil => rfl
  | cons a as ih =>
    -- the entry of `a` is settled by now and joins the entries that no later fault touches
    have hrest : ∀ e : Entry, e.name = (g a).name →
        (addFaults ⟨l ++ e :: as.map g⟩ (as.filterMap fault?)).entries =
          l ++ e :: as.map fun a => (g a).withFault (fault? a) := by
      intro e he
      have := ih (l ++ [e]) (by
        rw [List.map_append, List.map_singleton, he, List.append_assoc, List.singleton_append]
        exact h)
      rwa [List.append_assoc, List.append_assoc] at this
    cases hfa : fault? a with
    | none =>
      rw [List.filterMap_cons_none hfa, List.map_cons, List.map_cons, hfa]
      exact hrest (g a) rfl
    | some f =>
      have hnew : f.property ∉ l.map Entry.name := by
        rw [hf a f hfa]
        intro hm
        exact (List.nodup_append.mp h).2.2 _ hm _ List.mem_cons_self rfl
      have hadd : addFault ⟨l ++ g a :: as.map g⟩ f = ⟨l ++ (g a).withFault (some f) :: as.map g⟩ :=
        congrArg Report.mk (addInto_append hnew (g a) (hf a f hfa).symm (.fault f) _)
      rw [List.filterMap_cons_some hfa, List.map_cons, List.map_cons, hfa]
      show (addFaults (addFault ⟨l ++ g a :: as.map g⟩ f) (as.filterMap fault?)).entries = _
      rw [hadd]
      exact hrest _ (Entry.name_withFault _ _)

/-! ## Violations -/

theorem hasErrors_add (r : Report) (name : String) (f : Finding) :
    (r.add name f).hasErrors = true := by
  obtain ⟨l⟩ := r
  show (addInto name f l).any _ = true
  induction l with
  | nil => rfl
  | cons x l ih =>
    rw [addInto]
    split
    · simp [Entry.isValid]
    · rw [List.any_cons, ih, Bool.or_true]

/-- A violation leaves a report invalid if the report was invalid or the violation is held against
something. -/
theorem hasErrors_attach (r : Report) (v : Violation) :
    (r.attach v).hasErrors = true ↔ r.hasErrors = true ∨ v.fields ≠ [] := by
  obtain ⟨fields, issue⟩ := v
  show (fields.foldl _ r).hasErrors = true ↔ r.hasErrors = true ∨ fields ≠ []
  induction fields generalizing r with
  | nil => simp
  | cons name fields ih =>
    rw [List.foldl_cons, ih]
    simp [hasErrors_add]

/-- **A row of violations** leaves a report invalid if the report was invalid or one of the violations is
held against something. -/
theorem hasErrors_attachAll (r : Report) (vs : List Violation) :
    (r.attachAll vs).hasErrors = true ↔ r.hasErrors = true ∨ ∃ v ∈ vs, v.fields ≠ [] := by
  induction vs generalizing r with
  | nil => simp [attachAll]
  | cons v vs ih =>
    show ((r.attach v).attachAll vs).hasErrors = true ↔ _
    rw [ih, hasErrors_attach]
    simp only [List.mem_cons, exists_eq_or_imp, or_assoc]

/-! ## Names and values, and what is found

  Violations of settings that have an entry change the findings of a report and nothing else. -/

/-- The names and values of a report, in order, without the findings. -/
def frame (r : Report) : List (String × Option String) := r.entries.map fun e => (e.name, e.value)

theorem names_eq_map_frame (r : Report) : r.names = r.frame.map Prod.fst := by
  rw [names, frame, List.map_map]
  rfl

/-- A finding of a name that has an entry leaves names and values alone. -/
theorem frame_add {r : Report} {name : String} (h : name ∈ r.names) (f : Finding) :
    (r.add name f).frame = r.frame := by
  obtain ⟨l⟩ := r
  show (addInto name f l).map _ = l.map _
  induction l with
  | nil => cases h
  | cons x l ih =>
    by_cases hx : x.name = name
    · rw [addInto, if_pos hx]
      rfl
    · have hl : name ∈ l.map Entry.name := (List.mem_cons.mp h).resolve_left (Ne.symm hx)
      rw [addInto, if_neg hx, List.map_cons, List.map_cons, ih hl]

theorem frame_attach {r : Report} {v : Violation} (h : ∀ name ∈ v.fields, name ∈ r.names) :
    (r.attach v).frame = r.frame := by
  obtain ⟨fields, issue⟩ := v
  show (fields.foldl _ r).frame = r.frame
  induction fields generalizing r with
  | nil => rfl
  | cons name fields ih =>
    have hname := frame_add (h name List.mem_cons_self) (.issue issue)
    rw [List.foldl_cons, ih, hname]
    intro other hother
    rw [names_eq_map_frame, hname, ← names_eq_map_frame]
    exact h other (List.mem_cons_of_mem name hother)

/-- **Violations of settings that have entries** leave names and values alone. -/
theorem frame_attachAll {r : Report} {vs : List Violation}
    (h : ∀ v ∈ vs, ∀ name ∈ v.fields, name ∈ r.names) : (r.attachAll vs).frame = r.frame := by
  induction vs generalizing r with
  | nil => rfl
  | cons v vs ih =>
    have hv := frame_attach (h v List.mem_cons_self)
    show ((r.attach v).attachAll vs).frame = r.frame
    rw [ih, hv]
    intro w hw name hname
    rw [names_eq_map_frame, hv, ← names_eq_map_frame]
    exact h w (List.mem_cons_of_mem v hw) name hname

theorem mem_findings_add {r : Report} {name : String} {f : Finding} {p : String × Finding} :
    p ∈ (r.add name f).findings ↔ p ∈ r.findings ∨ p = (name, f) := by
  obtain ⟨l⟩ := r
  show p ∈ (addInto name f l).flatMap _ ↔ p ∈ l.flatMap _ ∨ _
  induction l with
  | nil => simp [addInto]
  | cons x l ih =>
    by_cases hx : x.name = name
    · subst hx
      rw [addInto, if_pos rfl]
      simp only [List.flatMap_cons, List.mem_append, List.map_append, List.map_singleton,
        List.mem_singleton]
      exact or_right_comm
    · rw [addInto, if_neg hx, List.flatMap_cons, List.mem_append, ih, List.flatMap_cons,
        List.mem_append, or_assoc]

theorem mem_findings_attach {r : Report} {v : Violation} {p : String × Finding} :
    p ∈ (r.attach v).findings ↔ p ∈ r.findings ∨ (p.1 ∈ v.fields ∧ p.2 = .issue v.issue) := by
  obtain ⟨fields, issue⟩ := v
  show p ∈ (fields.foldl _ r).findings ↔ _ ∨ (p.1 ∈ fields ∧ p.2 = .issue issue)
  induction fields generalizing r with
  | nil => simp
  | cons name fields ih =>
    rw [List.foldl_cons, ih, mem_findings_add, or_assoc, List.mem_cons, or_and_right, Prod.ext_iff]

/-- **What is found in a report after a row of violations** was found before, or is the issue of one of
them at a setting that it is held against. -/
theorem mem_findings_attachAll {r : Report} {vs : List Violation} {p : String × Finding} :
    p ∈ (r.attachAll vs).findings ↔
      p ∈ r.findings ∨ ∃ v ∈ vs, p.1 ∈ v.fields ∧ p.2 = .issue v.issue := by
  induction vs generalizing r with
  | nil => simp [attachAll]
  | cons v vs ih =>
    show p ∈ ((r.attach v).attachAll vs).findings ↔ _
    rw [ih, mem_findings_attach, or_assoc]
    simp only [List.mem_cons, exists_eq_or_imp]

theorem findings_eq_nil_iff {r : Report} : r.findings = [] ↔ r.isValid = true := by
  rw [isValid_iff, findings, List.flatMap_eq_nil_iff]
  simp only [List.map_eq_nil_iff]

/-- The only finding of a report that was clean before. -/
theorem findings_add_of_isValid {r : Report} (h : r.isValid = true) (name : String) (f : Finding) :
    (r.add name f).findings = [(name, f)] := by
  obtain ⟨l⟩ := r
  have hl := isValid_iff.mp h
  show (addInto name f l).flatMap _ = _
  clear h
  induction l with
  | nil => rfl
  | cons x l ih =>
    have hx : x.findings = [] := hl x List.mem_cons_self
    have hrest : ∀ e ∈ l, e.findings = [] := fun e he => hl e (List.mem_cons_of_mem x he)
    have hclean : l.flatMap (fun e => e.findings.map fun f => (e.name, f)) = [] :=
      findings_eq_nil_iff.mpr (isValid_iff.mpr hrest)
    by_cases hname : x.name = name
    · rw [addInto, if_pos hname, List.flatMap_cons, hclean, hx, hname]
      rfl
    · rw [addInto, if_neg hname, List.flatMap_cons, ih hrest, hx]
      rfl

end SinkCheck.Report
