import SinkCheck.Proofs.Report.History
import SinkCheck.Validator.Basic
/-
  What a check hands on.

  A schema answers two questions about the same properties, and nothing makes the answers agree: the
  report may be clean where the settings cannot be made, and name faults where they can; the faults of a
  failure may be of settings that the report has never heard of.  A check brings the two together, and a
  validation goes on exactly if it was handed settings.  So every disagreement has to show in the report,
  for nothing else is left of it.  It does, with one exception: a failure that names no fault adds none,
  and behind a clean report nothing tells of it.

  Main statements: `find?_addFaults` and `frame_addFaults`, what faults add to any report;
  `check_eq_some_iff` and `exists_settings_iff`, when settings come out; `check_tells_failures`.
-/

namespace SinkCheck

namespace Report

/-! ## Faults added to any report -/

/-- The faults of a setting, in their order, as findings. -/
def faultsFor (name : String) (fs : List SyntaxFault) : List Finding :=
  (fs.filter fun f => f.property == name).map Finding.fault

/-- The settings at fault that have no entry, in the order of their first fault. -/
def strangers (r : Report) (fs : List SyntaxFault) : List String :=
  ((fs.map SyntaxFault.property).filter fun name => !r.names.contains name).eraseDups

theorem frame_add_of_not_mem {r : Report} {name : String} (h : name ∉ r.names) (f : Finding) :
    (r.add name f).frame = r.frame ++ [(name, none)] := by
  obtain ⟨l⟩ := r
  show (addInto name f l).map _ = l.map _ ++ _
  induction l with
  | nil => rfl
  | cons x l ih =>
    have hnot : name ∉ x.name :: l.map Entry.name := h
    rw [List.mem_cons, not_or] at hnot
    rw [addInto, if_neg (Ne.symm hnot.1), List.map_cons, List.map_cons, ih hnot.2, List.cons_append]

theorem errorCount_add (r : Report) (name : String) (f : Finding) :
    (r.add name f).errorCount = r.errorCount + 1 := by
  obtain ⟨l⟩ := r
  show ((addInto name f l).flatMap Entry.findings).length = (l.flatMap Entry.findings).length + 1
  induction l with
  | nil => rfl
  | cons x l ih =>
    by_cases hx : x.name = name
    · rw [addInto, if_pos hx]
      simp only [List.flatMap_cons, List.length_append, List.length_singleton]
      omega
    · rw [addInto, if_neg hx, List.flatMap_cons, List.flatMap_cons, List.length_append,
        List.length_append, ih]
      omega

theorem errorCount_addFaults (r : Report) (fs : List SyntaxFault) :
    (r.addFaults fs).errorCount = r.errorCount + fs.length := by
  induction fs generalizing r with
  | nil => rfl
  | cons f fs ih =>
    show ((r.addFault f).addFaults fs).errorCount = _
    rw [ih, addFault, errorCount_add, List.length_cons]
    omega

/-- **Faults go to their settings**, in their order, behind what was found there before. -/
theorem find?_addFaults (r : Report) (fs : List SyntaxFault) (name : String) :
    (r.addFaults fs).find? name = grown name (r.find? name) (faultsFor name fs) := by
  induction fs generalizing r with
  | nil => exact (grown_nil name _).symm
  | cons f fs ih =>
    show ((r.addFault f).addFaults fs).find? name = _
    rw [ih, addFault, find?_add_eq, grown_append, faultsFor, faultsFor, List.filter_cons]
    by_cases hname : f.property = name
    · simp [hname]
    · simp [hname]

/-- **Names and values** are kept.  Settings without an entry get one, without a value. -/
theorem frame_addFaults (r : Report) (fs : List SyntaxFault) :
    (r.addFaults fs).frame = r.frame ++ (r.strangers fs).map fun name => (name, none) := by
  induction fs generalizing r with
  | nil => exact (List.append_nil _).symm
  | cons f fs ih =>
    show ((r.addFault f).addFaults fs).frame = _
    rw [ih, addFault]
    by_cases hmem : f.property ∈ r.names
    · have hnames : (r.add f.property (.fault f)).names = r.names := by rw [names_add, if_pos hmem]
      have hstrangers : r.strangers (f :: fs) = r.strangers fs := by simp [strangers, hmem]
      rw [frame_add hmem, hstrangers, strangers, hnames, strangers]
    · have hnames : (r.add f.property (.fault f)).names = r.names ++ [f.property] := by
        rw [names_add, if_neg hmem]
      have hstrangers : r.strangers (f :: fs) =
          f.property :: (r.add f.property (.fault f)).strangers fs := by
        have hnew : (!r.names.contains f.property) = true := by simpa using hmem
        rw [strangers, List.map_cons, List.filter_cons, if_pos hnew, List.eraseDups_cons,
          List.filter_filter, strangers, hnames]
        -- from its first fault on the setting has an entry
        refine congrArg (fun l => f.property :: List.eraseDups l) (List.filter_congr fun name _ => ?_)
        by_cases hname : name = f.property <;> simp [hname]
      rw [frame_add_of_not_mem hmem, hstrangers, List.append_assoc, List.map_cons,
        List.singleton_append]

/-- A clean report stays clean if there is no fault to add. -/
theorem isValid_addFaults_iff {r : Report} (h : r.isValid = true) (fs : List SyntaxFault) :
    (r.addFaults fs).isValid = true ↔ fs = [] := by
  rw [isValid_iff_errorCount, errorCount_addFaults, isValid_iff_errorCount.mp h, Nat.zero_add,
    List.length_eq_zero_iff]

end Report

/-! ## The ways of a check -/

namespace Schema

variable {s : Schema} {ps : Properties} {report : Report} {c : Settings} {fs : List SyntaxFault}

/-- A report with findings ends a check, whether or not settings could be made. -/
theorem check_of_findings (h : (s.report ps).isValid = false) : s.check ps = (s.report ps, none) := by
  rw [Report.isValid, Bool.not_eq_false'] at h
  rw [check, h]
  rfl

theorem check_of_ok (hclean : (s.report ps).isValid = true) (hparse : s.parse ps = .ok c) :
    s.check ps = (s.report ps, some c) := by
  rw [check, Report.isValid_iff_hasErrors.mp hclean, hparse]
  rfl

/-- What a clean report did not tell of a failure is added to it. -/
theorem check_of_error (hclean : (s.report ps).isValid = true) (hparse : s.parse ps = .error fs) :
    s.check ps = ((s.report ps).addFaults fs, none) := by
  rw [check, Report.isValid_iff_hasErrors.mp hclean, hparse]
  rfl

/-- A failure that names no fault adds nothing. -/
theorem check_of_error_nil (hclean : (s.report ps).isValid = true) (hparse : s.parse ps = .error []) :
    s.check ps = (s.report ps, none) :=
  check_of_error hclean hparse

/-- **Settings come out of a check** if they could be made and the report is clean, and then with this
report. -/
theorem check_eq_some_iff :
    s.check ps = (report, some c) ↔
      report = s.report ps ∧ report.isValid = true ∧ s.parse ps = .ok c := by
  constructor
  · intro h
    cases hclean : (s.report ps).isValid with
    | false =>
      rw [check_of_findings hclean] at h
      cases h
    | true =>
      cases hparse : s.parse ps with
      | ok c' =>
        rw [check_of_ok hclean hparse] at h
        cases h
        exact ⟨rfl, hclean, rfl⟩
      | error fs =>
        rw [check_of_error hclean hparse] at h
        cases h
  · rintro ⟨rfl, hclean, hparse⟩
    exact check_of_ok hclean hparse

/-- If settings cannot be made, none come out. -/
theorem settings_check_of_error (hparse : s.parse ps = .error fs) : (s.check ps).2 = none := by
  cases hclean : (s.report ps).isValid with
  | false => rw [check_of_findings hclean]
  | true => rw [check_of_error hclean hparse]

/-- After a failure the report is clean only if it was before and no fault is named. -/
theorem isValid_check_iff_of_error (hparse : s.parse ps = .error fs) :
    (s.check ps).1.isValid = true ↔ (s.report ps).isValid = true ∧ fs = [] := by
  cases hclean : (s.report ps).isValid with
  | false =>
    rw [check_of_findings hclean, hclean]
    simp
  | true =>
    rw [check_of_error hclean hparse, Report.isValid_addFaults_iff hclean]
    simp

/-- **Settings or findings** come out of a check, unless a failure names no fault. -/
theorem exists_settings_iff :
    (∃ c, (s.check ps).2 = some c) ↔
      (s.check ps).1.isValid = true ∧ s.parse ps ≠ .error [] := by
  cases hparse : s.parse ps with
  | error fs =>
    rw [settings_check_of_error hparse, isValid_check_iff_of_error hparse]
    constructor
    · rintro ⟨c, hc⟩
      cases hc
    · rintro ⟨⟨-, rfl⟩, hnamed⟩
      exact absurd rfl hnamed
  | ok c =>
    cases hclean : (s.report ps).isValid with
    | false =>
      rw [check_of_findings hclean, hclean]
      simp
    | true =>
      rw [check_of_ok hclean hparse, hclean]
      simp

end Schema

/-! ## Failures -/

open Report (grown faultsFor)

/-- **A check tells failures** that name a fault.  Whatever the two answers of a schema are, settings come
out of a check exactly if the report that comes out is clean, unless they cannot be made and no fault is
named; and they are the settings that could be made.  If the schema's report is clean and the settings
cannot be made, then the faults that are named, and nothing else, are added to the report, each behind
what was found at its setting before; the report keeps its names and values, and settings that it did
not know come behind them without a value.  In every other case it stays as it is.  A validation of
properties that make no settings ends with the report of the check and contacts no service, and this
report is clean only if the schema's report is and the failure names no fault. -/
theorem check_tells_failures (s : Schema) (ps : Properties) :
    let before := s.report ps
    let after := (s.check ps).1
    let settings? := (s.check ps).2
    ((∃ c, settings? = some c) ↔ after.isValid = true ∧ s.parse ps ≠ .error []) ∧
    (∀ c, settings? = some c → s.parse ps = .ok c) ∧
    (∀ fs, before.isValid = true → s.parse ps = .error fs →
      after.frame = before.frame ++ (before.strangers fs).map (fun name => (name, none)) ∧
      (∀ name, after.find? name = grown name (before.find? name) (faultsFor name fs)) ∧
      after.errorCount = fs.length) ∧
    (before.isValid = false ∨ (∃ c, s.parse ps = .ok c) → after = before) ∧
    ∀ (ε : Type) (factory : ClientFactory ε) (o : Options) (fs : List SyntaxFault),
      s.parse ps = .error fs →
        (⟨s, factory, o⟩ : Validator ε).validate ps = pure after ∧
        (after.isValid = true ↔ before.isValid = true ∧ fs = []) := by
  intro before after settings?
  refine ⟨Schema.exists_settings_iff, fun c hc => ?_, fun fs hclean hparse => ?_, fun h => ?_,
    fun ε factory o fs hparse => ⟨?_, Schema.isValid_check_iff_of_error hparse⟩⟩
  · have hcheck : s.check ps = (after, some c) := Prod.ext rfl hc
    exact (Schema.check_eq_some_iff.mp hcheck).2.2
  · have hafter : after = before.addFaults fs := congrArg Prod.fst (Schema.check_of_error hclean hparse)
    have hcount : (before.addFaults fs).errorCount = fs.length := by
      rw [Report.errorCount_addFaults, Report.isValid_iff_errorCount.mp hclean, Nat.zero_add]
    rw [hafter]
    exact ⟨Report.frame_addFaults before fs, Report.find?_addFaults before fs, hcount⟩
  · cases hclean : before.isValid with
    | false => exact congrArg Prod.fst (Schema.check_of_findings hclean)
    | true =>
      obtain ⟨c, hparse⟩ := h.resolve_left (by rw [hclean]; decide)
      exact congrArg Prod.fst (Schema.check_of_ok hclean hparse)
  · exact Validator.validate_of_none (Prod.ext rfl (Schema.settings_check_of_error hparse))

/-- The parser misses a setting that the report has never heard of, twice over, and the report tells. -/
theorem check_tells_failures_strange :
    let s : Schema := ⟨fun _ => .error [.missing "cluster.name", .missing "cluster.name"],
      Report.ofProperties fun _ => false⟩
    let ps : Properties := .ofList [("connection.url", "http://[::1]:9200")]
    (s.report ps).isValid = true ∧ (s.report ps).find? "cluster.name" = none ∧
    (s.check ps).1.find? "cluster.name" = some ⟨"cluster.name", none,
      [.fault (.missing "cluster.name"), .fault (.missing "cluster.name")]⟩ ∧
    (s.check ps).1.errorCount = 2 := by
  intro s ps
  have hclean : (s.report ps).isValid = true :=
    (Report.isValid_ofProperties_iff (fun _ => false) ps).mpr (by decide +kernel)
  have hunknown : (s.report ps).find? "cluster.name" = none := by decide +kernel
  obtain ⟨-, hfound, hcount⟩ := (check_tells_failures s ps).2.2.1 _ hclean rfl
  refine ⟨hclean, hunknown, ?_, hcount⟩
  rw [hfound, hunknown]
  rfl

/-- A failure that names no fault goes unnoticed: no settings, and nothing wrong. -/
theorem failure_untold :
    let s : Schema := ⟨fun _ => .error [], Report.ofProperties fun _ => false⟩
    let ps : Properties := .ofList [("connection.url", "http://[::1]:9200")]
    (∃ fs, s.parse ps = .error fs) ∧
    ¬((∃ c, (s.check ps).2 = some c) ↔ (s.check ps).1.isValid = true) ∧
    ∀ (ε : Type) (factory : ClientFactory ε) (o : Options),
      ((⟨s, factory, o⟩ : Validator ε).validate ps).value.isValid = true := by
  intro s ps
  have hparse : s.parse ps = .error [] := rfl
  have hclean : (s.report ps).isValid = true :=
    (Report.isValid_ofProperties_iff (fun _ => false) ps).mpr (by decide +kernel)
  have hcheck : s.check ps = (s.report ps, none) := Schema.check_of_error_nil hclean hparse
  -- from here on it does not matter which schema it is
  clear_value s ps
  refine ⟨⟨[], hparse⟩, fun h => ?_, fun ε factory o => ?_⟩
  · rw [hcheck] at h
    obtain ⟨c, hc⟩ := h.mpr hclean
    cases hc
  · rw [Validator.validate_of_none hcheck]
    exact hclean

end SinkCheck
