import Mathlib.Logic.ExistsUnique
import SinkCheck.Proofs.Validation.Acceptance
/-
  The one stage that a report speaks of.

  A validation goes through several stages: the syntax, the rules, the making of a client, the life of
  the service, its version.  Each of them can fill the report, and each stops those behind it, so that
  a report never mixes what two of them found.  The gates need a second look, for the first gate may
  already have spoken when the second one finds that it cannot compare its versions; what was said is
  then dropped, and the service counts as one that could not be examined.  Nor does any stage touch
  what the report shows of the settings: it names recognised settings alone, and these have their
  entries from the start.

  Main statements: `fromStage_probe`, for what a probe finds out; `frame_validate`, for what is
  not touched; and `validate_one_stage`.
-/

namespace SinkCheck

/-! ## One stage -/

/-- The violations of the settings `s` come from one stage. -/
structure FromStage (s : Settings) (stage : Stage) (vs : List Violation) : Prop where
  raised : ∀ v ∈ vs, v.issue.stage = stage
  /-- The rules raise what they find in the settings. -/
  ruled : stage = .rules → ∀ v ∈ vs, v ∈ s.violations
  /-- There is one client to be made, so at most one that could not be made. -/
  single : stage = .creation → vs = [] ∨ ∃ detail, vs = [creationViolation detail]

theorem FromStage.nil (s : Settings) (stage : Stage) : FromStage s stage [] :=
  ⟨List.forall_mem_nil _, fun _ => List.forall_mem_nil _, fun _ => Or.inl rfl⟩

/-- Violations that neither the rules nor the making of a client raise. -/
theorem FromStage.of_raisedBy {s : Settings} {stage : Stage} {vs : List Violation}
    (h : ∀ v ∈ vs, v.RaisedBy stage) (hrules : stage ≠ .rules) (hcreation : stage ≠ .creation) :
    FromStage s stage vs :=
  ⟨fun v hv => (h v hv).stage_eq, fun hr => absurd hr hrules, fun hc => absurd hc hcreation⟩

theorem FromStage.creation (s : Settings) (detail : String) :
    FromStage s .creation [creationViolation detail] := by
  refine ⟨fun v hv => ?_, fun h => ?_, fun _ => Or.inr ⟨detail, rfl⟩⟩
  · rw [List.mem_singleton.mp hv]
    exact (raisedBy_creationViolation detail).stage_eq
  · cases h

theorem Settings.fromStage_violations (s : Settings) : FromStage s .rules s.violations := by
  refine ⟨fun v hv => (s.raisedBy_violations v hv).stage_eq, fun _ v hv => hv, fun h => ?_⟩
  cases h

/-- The gates raise issues about versions, unless one of them cannot compare its versions: then what the
other one raised is dropped. -/
theorem fromStage_serverViolations (s : Settings) (o : Options) (server : String) :
    ∃ stage, FromStage s stage (serverViolations s o server) := by
  unfold serverViolations
  cases hvs : versionViolations s server o with
  | ok vs =>
    have hraised := raisedBy_of_versionViolations hvs
    exact ⟨.version, FromStage.of_raisedBy hraised (by decide) (by decide)⟩
  | error e => exact ⟨.creation, FromStage.creation s e.message⟩

/-! ## What a probe raises -/

/-- Only a reachable service is asked for its version. -/
theorem Client.isReachable_or_version {ε : Type} (c : Client ε) :
    c.examine.value.1.isReachable = true ∨ c.examine.value.2 = none := by
  rw [Client.value_examine]
  by_cases h : (Liveness.ofAnswer c.ping.value).isReachable = true
  · exact Or.inl h
  · exact Or.inr (if_neg h)

/-- An examination raises issues of one stage: those of an unreachable service, or those of its version. -/
theorem fromStage_examine {ε : Type} (c : Client ε) (o : Options) (s : Settings) :
    ∃ stage, FromStage s stage
      ((Outcome.completed c.examine.value.1 c.examine.value.2).violations o s) := by
  cases hversion : c.examine.value.2 with
  | none =>
    show ∃ stage, FromStage s stage (c.examine.value.1.violations s)
    cases c.examine.value.1 with
    | unreachable detail =>
      have hraised := raisedBy_connectionViolations s detail
      exact ⟨.connection, FromStage.of_raisedBy hraised (by decide) (by decide)⟩
    | reachable => exact ⟨.connection, FromStage.nil s _⟩
    | denied => exact ⟨.connection, FromStage.nil s _⟩
  | some server =>
    have hreachable : c.examine.value.1.isReachable = true := by
      refine c.isReachable_or_version.resolve_right fun hnone => ?_
      cases hversion.symm.trans hnone
    show ∃ stage, FromStage s stage (c.examine.value.1.violations s ++ serverViolations s o server)
    rw [Liveness.violations_eq_nil_iff.mpr hreachable, List.nil_append]
    exact fromStage_serverViolations s o server

/-- **A probe raises issues of one stage.** -/
theorem fromStage_probe {ε : Type} (factory : ClientFactory ε) (o : Options) (s : Settings) :
    ∃ stage, FromStage s stage ((factory.probe s).value.violations o s) := by
  rw [ClientFactory.value_probe]
  cases (factory s).value with
  | error e => exact ⟨.creation, FromStage.creation s e.message⟩
  | ok client => exact fromStage_examine client o s

/-! ## What a validation adds to the report of the properties -/

/-- The settings that a violation is held against have entries in the report of any configuration. -/
theorem Violation.HitsSettings.fields_mem_names {v : Violation} (h : v.HitsSettings)
    (isFile : String → Bool) (ps : Properties) :
    ∀ name ∈ v.fields, name ∈ (Report.ofProperties isFile ps).names := by
  obtain ⟨keys, -, hv⟩ := h
  rw [hv, Report.names_ofProperties]
  intro name hname
  obtain ⟨k, -, rfl⟩ := List.mem_map.mp hname
  exact List.mem_map_of_mem (Key.mem_all k)

namespace Validator

variable {ε : Type} (isFile : String → Bool) (factory : ClientFactory ε) (o : Options)
  (ps : Properties)

/-- A validation adds violations of settings to the report of the properties, all from one stage, and
adds none to a report with faults. -/
theorem exists_value_validate_eq_attachAll :
    ∃ stage vs,
      ((standard isFile factory o).validate ps).value = (Report.ofProperties isFile ps).attachAll vs ∧
      (∀ v ∈ vs, v.HitsSettings) ∧ FromStage ps.settings stage vs ∧
      (ps.faults isFile ≠ [] → vs = []) := by
  -- one case for each place at which a validation can end
  by_cases hf : ps.faults isFile = []
  · by_cases hv : ps.settings.violations = []
    · cases hp : o.probes with
      | false =>
        rw [validate_of_not_probes hf hv hp]
        exact ⟨.rules, [], rfl, List.forall_mem_nil _, FromStage.nil _ _, fun _ => rfl⟩
      | true =>
        obtain ⟨stage, hstage⟩ := fromStage_probe factory o ps.settings
        rw [validate_of_probes hf hv hp]
        exact ⟨stage, _, rfl, Outcome.hitsSettings _ o ps.settings, hstage,
          fun hfaults => absurd hf hfaults⟩
    · rw [validate_of_violations hf hv]
      exact ⟨.rules, _, rfl, ps.settings.hitsSettings_violations, ps.settings.fromStage_violations,
        fun hfaults => absurd hf hfaults⟩
  · rw [validate_of_faults hf]
    exact ⟨.rules, [], rfl, List.forall_mem_nil _, FromStage.nil _ _, fun _ => rfl⟩

/-- **A validation shows the settings** as the report of the properties does: the same names in the same
order, with the same values. -/
theorem frame_validate :
    ((standard isFile factory o).validate ps).value.frame = (Report.ofProperties isFile ps).frame := by
  obtain ⟨stage, vs, hvalue, hhits, -, -⟩ :=
    exists_value_validate_eq_attachAll isFile factory o ps
  rw [hvalue]
  exact Report.frame_attachAll fun v hv => (hhits v hv).fields_mem_names isFile ps

end Validator

/-- Findings that are raised by violations of one stage are issues of that stage and of no other. -/
theorem FromStage.existsUnique {s : Settings} {stage : Stage} {vs : List Violation} {r : Report}
    (h : FromStage s stage vs) (hr : r.isValid = true) :
    (r.attachAll vs).findings = [] ∨ ∃! stage : Stage, ∀ p ∈ (r.attachAll vs).findings,
      ∃ issue, p.2 = .issue issue ∧ issue.stage = stage := by
  have hmem : ∀ p ∈ (r.attachAll vs).findings, ∃ issue, p.2 = .issue issue ∧ issue.stage = stage := by
    intro p hp
    rcases Report.mem_findings_attachAll.mp hp with hp | ⟨v, hv, -, hissue⟩
    · rw [Report.findings_eq_nil_iff.mpr hr] at hp
      cases hp
    · exact ⟨v.issue, hissue, h.raised v hv⟩
  cases hfindings : (r.attachAll vs).findings with
  | nil => exact Or.inl rfl
  | cons p ps =>
    rw [hfindings] at hmem
    refine Or.inr ⟨stage, hmem, fun other hother => ?_⟩
    -- any one finding tells the stage
    obtain ⟨issue, hissue, hstage⟩ := hmem p List.mem_cons_self
    obtain ⟨issue', hissue', hother'⟩ := hother p List.mem_cons_self
    cases hissue.symm.trans hissue'
    exact hother'.symm.trans hstage

/-- **A report speaks of one stage.**  A validation leaves names and values of the report of the
properties as they are.  If that report has findings they are faults, and the validation adds nothing to
them.  Otherwise it adds no fault, and if it adds issues then all of them are raised by one stage and by
no other: by the rules, which found them in the settings; by the making of a client, and then there is
one issue in the whole report, held against the address; by the life of the service; or by its
version. -/
theorem validate_one_stage {ε : Type} (isFile : String → Bool) (factory : ClientFactory ε) (o : Options)
    (ps : Properties) :
    let before := Report.ofProperties isFile ps
    let after := ((Validator.standard isFile factory o).validate ps).value
    after.frame = before.frame ∧
    (before.hasErrors = true →
      after = before ∧ ∀ p ∈ after.findings, ∃ fault, p.2 = .fault fault) ∧
    (before.hasErrors = false → ∃ s, Settings.parse isFile ps = .ok s ∧
      (after.findings = [] ∨ ∃! stage : Stage, ∀ p ∈ after.findings,
        ∃ issue, p.2 = .issue issue ∧ issue.stage = stage) ∧
      ∀ name issue, (name, .issue issue) ∈ after.findings →
        (issue.stage = .rules → ∃ v ∈ s.violations, name ∈ v.fields ∧ v.issue = issue) ∧
        (issue.stage = .creation → ∃ detail,
          after.findings = [("connection.url", .issue (.clientCreationFailed detail))])) := by
  intro before after
  obtain ⟨stage, vs, hvalue, -, hstage, hfaults⟩ :=
    Validator.exists_value_validate_eq_attachAll isFile factory o ps
  have hafter : after = before.attachAll vs := hvalue
  refine ⟨Validator.frame_validate isFile factory o ps, fun herr => ?_, fun hclean => ?_⟩
  · have hf := (Report.hasErrors_ofProperties isFile ps).mp herr
    have hsame : after = before := by
      rw [hafter, hfaults hf]
      rfl
    refine ⟨hsame, ?_⟩
    rw [hsame, Report.findings_ofProperties]
    intro p hp
    obtain ⟨f, -, rfl⟩ := List.mem_map.mp hp
    exact ⟨f, rfl⟩
  · have hvalid : before.isValid = true := by rw [Report.isValid, hclean]; rfl
    have hf := (Report.isValid_ofProperties_iff isFile ps).mp hvalid
    refine ⟨ps.settings, Settings.parse_eq_ok_iff.mpr ⟨hf, rfl⟩, ?_, fun name issue hp => ?_⟩
    · rw [hafter]
      exact hstage.existsUnique hvalid
    · rw [hafter, Report.mem_findings_attachAll, Report.findings_eq_nil_iff.mpr hvalid] at hp
      obtain ⟨v, hv, hname, hissue⟩ := hp.resolve_left (List.not_mem_nil)
      cases hissue
      refine ⟨fun hrules => ?_, fun hcreation => ?_⟩
      · exact ⟨v, hstage.ruled ((hstage.raised v hv).symm.trans hrules) v hv, hname, rfl⟩
      · rcases hstage.single ((hstage.raised v hv).symm.trans hcreation) with hnil | ⟨detail, hone⟩
        · rw [hnil] at hv
          cases hv
        · refine ⟨detail, ?_⟩
          rw [hafter, hone]
          exact Report.findings_add_of_isValid hvalid _ _

end SinkCheck
