import SinkCheck.Proofs.Report.Entries
import SinkCheck.Proofs.Settings.Texts
import SinkCheck.Schema
/-
  What the report of a configuration says of its syntax.

  The report and the settings of a configuration are made on different ways.  The report first gets an
  entry for each setting and then, one by one, the faults; the settings are assembled from the values by
  look-ups that may find faults of their own.  Both ways come to the same verdict: the faults of the
  report are the faults that keep the settings from being made, and where there are none the settings are
  made.

  Main statements: `entries_ofProperties`, the report entry by entry; `check_standard`, the check of the
  standard schema; `report_agrees_with_parse`, all that the two ways have in common.
-/

namespace SinkCheck

open Report (Entry)

section Entries

variable (isFile : String → Bool) (ps : Properties)

/-! ## The report, entry by entry -/

/-- The fault of a setting, if it has one. -/
def Key.fault? (k : Key) : Option SyntaxFault :=
  match k.resolve isFile ps with
  | .ok _ => none
  | .error f => some f

/-- The entry of a setting before any fault is added to it. -/
def Key.cleanEntry (k : Key) : Entry := ⟨k.name, k.shown? (ps.resolved isFile) ps, []⟩

/-- The entry of a setting in the report of a configuration. -/
def Key.entry (k : Key) : Entry := (k.cleanEntry isFile ps).withFault (k.fault? isFile ps)

theorem Properties.faults_eq : ps.faults isFile = Key.all.filterMap (Key.fault? isFile ps) := rfl

theorem Key.property_of_fault? {k : Key} {f : SyntaxFault} (h : k.fault? isFile ps = some f) :
    f.property = k.name := by
  unfold Key.fault? at h
  split at h
  · cases h
  · next g hg =>
    cases h
    exact Definition.property_of_resolve_eq_error hg

@[simp] theorem Key.name_entry (k : Key) : (k.entry isFile ps).name = k.name :=
  Entry.name_withFault _ _

/-- The findings of an entry are the fault of its setting. -/
theorem Key.findings_entry (k : Key) :
    (k.entry isFile ps).findings = (k.fault? isFile ps).toList.map Finding.fault := by
  unfold Key.entry
  cases k.fault? isFile ps <;> rfl

/-- **The report of a configuration** has one entry for each setting, with the fault of that setting. -/
theorem Report.entries_ofProperties :
    (Report.ofProperties isFile ps).entries = Key.all.map (Key.entry isFile ps) := by
  -- stated for any row of distinct settings, so that the row of all settings stays folded
  have row : ∀ ks : List Key, (ks.map Key.name).Nodup →
      ((ks.foldl (fun r k => r.insert (k.cleanEntry isFile ps)) Report.empty).addFaults
        (ks.filterMap (Key.fault? isFile ps))).entries = ks.map (Key.entry isFile ps) := by
    intro ks hn
    have hput : ks.foldl (fun r k => r.insert (k.cleanEntry isFile ps)) Report.empty =
        ⟨ks.map (Key.cleanEntry isFile ps)⟩ :=
      congrArg Report.mk (Report.entries_foldl_insert (Key.cleanEntry isFile ps) ks ⟨[]⟩ hn)
    rw [hput]
    exact Report.entries_addFaults (Key.cleanEntry isFile ps) (Key.fault? isFile ps)
      (fun _ _ h => Key.property_of_fault? isFile ps h) ks [] hn
  exact row Key.all Key.nodup_names

theorem Report.names_ofProperties :
    (Report.ofProperties isFile ps).names = Key.all.map Key.name := by
  rw [Report.names, Report.entries_ofProperties, List.map_map]
  exact List.map_congr_left fun k _ => Key.name_entry isFile ps k

/-- Entry by entry, the findings are the faults of the configuration. -/
theorem Report.findings_ofProperties :
    (Report.ofProperties isFile ps).findings =
      (ps.faults isFile).map fun f => (f.property, .fault f) := by
  rw [Report.findings, Report.entries_ofProperties, Properties.faults_eq]
  induction Key.all with
  | nil => rfl
  | cons k ks ih =>
    rw [List.map_cons, List.flatMap_cons, ih, Key.findings_entry, Key.name_entry]
    cases hk : k.fault? isFile ps with
    | none => rw [List.filterMap_cons_none hk]; rfl
    | some f =>
      rw [List.filterMap_cons_some hk, List.map_cons, Key.property_of_fault? isFile ps hk]
      rfl

/-- The report is clean exactly if no setting is at fault. -/
theorem Report.isValid_ofProperties_iff :
    (Report.ofProperties isFile ps).isValid = true ↔ ps.faults isFile = [] := by
  rw [Report.isValid_iff, Report.entries_ofProperties, Properties.faults_eq, List.filterMap_eq_nil_iff]
  simp only [List.mem_map, forall_exists_index, and_imp, forall_apply_eq_imp_iff₂,
    Key.findings_entry, List.map_eq_nil_iff, Option.toList_eq_nil_iff]

theorem Report.hasErrors_ofProperties :
    (Report.ofProperties isFile ps).hasErrors = true ↔ ps.faults isFile ≠ [] := by
  rw [ne_eq, ← Report.isValid_ofProperties_iff, Report.isValid]
  simp

/-! ## The check of the standard schema -/

/-- **The standard schema** gives the report as it stands, and the settings exactly if it is clean. -/
theorem Schema.check_standard :
    (Schema.standard isFile).check ps =
      (Report.ofProperties isFile ps,
        if ps.faults isFile = [] then some ps.settings else none) := by
  have hrep : (Schema.standard isFile).report ps = Report.ofProperties isFile ps := rfl
  have hparse : (Schema.standard isFile).parse ps = Settings.parse isFile ps := rfl
  rw [Schema.check, hrep, hparse, Settings.parse_eq]
  by_cases hf : ps.faults isFile = []
  · rw [if_neg fun he => (Report.hasErrors_ofProperties isFile ps).mp he hf, if_pos hf, if_pos hf]
  · rw [if_pos ((Report.hasErrors_ofProperties isFile ps).mpr hf), if_neg hf]

end Entries

/-! ## Report and settings agree -/

/-- **The report and the settings agree on the syntax.**  The report has one entry for each definition,
in the order of the table.  It is clean exactly if the settings can be made.  If they cannot, then the
findings met on a walk through the report are the faults given instead of the settings, each as a fault
and at the setting that it names, no two of them at one setting.  The assembly accepts whatever values
were resolved without fault, so the check of the standard schema hands on the report unchanged, and
never finds settings missing behind a clean report. -/
theorem report_agrees_with_parse (isFile : String → Bool) (ps : Properties) :
    let report := Report.ofProperties isFile ps
    let parsed := Settings.parse isFile ps
    report.names = Key.all.map (fun k => k.definition.name) ∧
    (report.isValid = true ↔ ∃ s, parsed = .ok s) ∧
    (∀ fs, parsed = .error fs →
      report.findings = fs.map (fun f => (f.property, Finding.fault f)) ∧
      ∀ e ∈ report.entries, e.findings.length ≤ 1) ∧
    (ps.faults isFile = [] →
      ∃ s, Settings.assemble (ps.resolved isFile) ps = .ok s ∧ parsed = .ok s) ∧
    (Schema.standard isFile).check ps =
      (report, if report.isValid then parsed.toOption else none) ∧
    ¬(report.isValid = true ∧ ∃ fs, (Schema.standard isFile).parse ps = .error fs) := by
  intro report parsed
  have hvalid : report.isValid = true ↔ ∃ s, parsed = .ok s := by
    rw [Report.isValid_ofProperties_iff]
    constructor
    · intro h
      exact ⟨ps.settings, Settings.parse_eq_ok_iff.mpr ⟨h, rfl⟩⟩
    · rintro ⟨s, hs⟩
      exact (Settings.parse_eq_ok_iff.mp hs).1
  refine ⟨Report.names_ofProperties isFile ps, hvalid, fun fs hfs => ⟨?_, fun e he => ?_⟩,
    fun h => ?_, ?_, ?_⟩
  · rw [(Settings.parse_eq_error_iff.mp hfs).2]
    exact Report.findings_ofProperties isFile ps
  · rw [Report.entries_ofProperties] at he
    obtain ⟨k, -, rfl⟩ := List.mem_map.mp he
    rw [Key.findings_entry]
    cases k.fault? isFile ps <;> simp
  · refine ⟨ps.settings, ?_, Settings.parse_eq_ok_iff.mpr ⟨h, rfl⟩⟩
    rw [Settings.assemble, Settings.lookUp_resolved h]
    rfl
  · rw [Schema.check_standard]
    by_cases h : ps.faults isFile = []
    · have hp : parsed = .ok ps.settings := Settings.parse_eq_ok_iff.mpr ⟨h, rfl⟩
      rw [if_pos h, if_pos (hvalid.mpr ⟨_, hp⟩), hp]
      rfl
    · rw [if_neg h, if_neg fun hv => h ((Report.isValid_ofProperties_iff isFile ps).mp hv)]
  · rintro ⟨hv, fs, hfs⟩
    obtain ⟨s, hs⟩ := hvalid.mp hv
    cases hs.symm.trans hfs

end SinkCheck
