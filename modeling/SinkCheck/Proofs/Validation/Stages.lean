import SinkCheck.Proofs.Report.Syntax
import SinkCheck.Validator.Basic
/-
  The stages of a validation.

  A validation under the standard schema ends at one of four places: at the faults of the settings, at
  the violations of the rules, before the service is contacted, or behind the probe.  Each of them has an
  equation here that says what the whole validation is if it ends there; the conditions exclude each
  other and cover everything, so no later proof has to open the validation again.  Nor has it to open the
  rules or the gates to know whom they hold their violations against and which issues are theirs.

  Main statements: `validate_of_faults`, `validate_of_violations`, `validate_of_not_probes` and
  `validate_of_probes`; `raisedBy` and its companions, for what each stage finds;
  `hasErrors_attachAll_iff`, for what any stage finds.
-/

namespace SinkCheck

/-! ## What the stages find -/

/-- Is the violation held against recognised settings, and against one of them at least? -/
def Violation.HitsSettings (v : Violation) : Prop := ∃ keys, keys ≠ [] ∧ v = .on keys v.issue

theorem Violation.hitsSettings_on (k : Key) (keys : List Key) (issue : Issue) :
    (Violation.on (k :: keys) issue).HitsSettings :=
  ⟨k :: keys, List.cons_ne_nil _ _, rfl⟩

theorem Violation.HitsSettings.fields_ne_nil {v : Violation} (h : v.HitsSettings) : v.fields ≠ [] := by
  obtain ⟨keys, hne, hv⟩ := h
  rw [hv]
  exact fun hnil => hne (List.map_eq_nil_iff.mp hnil)

/-- Violations of settings leave a report clean only if there are none. -/
theorem Report.hasErrors_attachAll_iff {r : Report} {vs : List Violation}
    (h : ∀ v ∈ vs, v.HitsSettings) :
    (r.attachAll vs).hasErrors = true ↔ r.hasErrors = true ∨ vs ≠ [] := by
  rw [hasErrors_attachAll]
  refine or_congr_right ?_
  constructor
  · rintro ⟨v, hv, -⟩
    exact List.ne_nil_of_mem hv
  · intro hne
    obtain ⟨v, hv⟩ := List.exists_mem_of_ne_nil vs hne
    exact ⟨v, hv, (h v hv).fields_ne_nil⟩

/-- A report stays clean only if it was clean and there is nothing to hold against it. -/
theorem Report.isValid_attachAll_iff {r : Report} {vs : List Violation}
    (h : ∀ v ∈ vs, v.HitsSettings) :
    (r.attachAll vs).isValid = true ↔ r.isValid = true ∧ vs = [] := by
  rw [isValid, isValid, Bool.not_eq_true', Bool.not_eq_true', ← Bool.not_eq_true,
    ← Bool.not_eq_true, hasErrors_attachAll_iff h, not_or, Decidable.not_not]

/-- The stages of a validation behind the syntax, each of which raises issues of its own. -/
inductive Stage where
  | rules
  | creation
  | connection
  | version
  deriving Repr, DecidableEq

/-- The stage that raises an issue. -/
def Issue.stage : Issue → Stage
  | credentialsIncomplete | dataStreamIncomplete | upsertWithDataStream | deleteWithDataStream
  | timestampWithoutDataStream | ignoreKeyConflict | ignoreSchemaConflict | kerberosIncomplete
  | kerberosWithCredentials | kerberosWithProxy | lingerExceedsFlushTimeout .. | bufferTooSmall ..
  | proxyHostRequired .. | proxyCredentialsIncomplete | sslConfigsWithoutSsl
  | sslConfigsMissing .. => .rules
  | clientCreationFailed .. => .creation
  | connectionFailed .. | authenticationFailed .. | sslConnectionFailed ..
  | kerberosConnectionFailed .. | proxyConnectionFailed .. => .connection
  | dataStreamVersionIncompatible .. | connectorVersionIncompatible .. => .version

/-- The rule that raises an issue. -/
def Issue.rule? : Issue → Option Rule
  | credentialsIncomplete => some .credentials
  | dataStreamIncomplete => some .dataStreamPair
  | upsertWithDataStream => some .dataStreamUpsert
  | deleteWithDataStream => some .dataStreamDelete
  | timestampWithoutDataStream => some .timestampField
  | ignoreKeyConflict => some .ignoreKey
  | ignoreSchemaConflict => some .ignoreSchema
  | kerberosIncomplete => some .kerberosPair
  | kerberosWithCredentials => some .kerberosCredentials
  | kerberosWithProxy => some .kerberosProxy
  | lingerExceedsFlushTimeout .. => some .linger
  | bufferTooSmall .. => some .bufferCapacity
  | proxyHostRequired .. | proxyCredentialsIncomplete => some .proxy
  | sslConfigsWithoutSsl | sslConfigsMissing .. => some .ssl
  | connectionFailed .. | authenticationFailed .. | sslConnectionFailed ..
  | kerberosConnectionFailed .. | proxyConnectionFailed .. | clientCreationFailed ..
  | dataStreamVersionIncompatible .. | connectorVersionIncompatible .. => none

theorem Issue.stage_of_rule? {issue : Issue} {r : Rule} (h : issue.rule? = some r) :
    issue.stage = .rules := by
  cases issue with
  | connectionFailed | authenticationFailed | sslConnectionFailed | kerberosConnectionFailed
  | proxyConnectionFailed | clientCreationFailed | dataStreamVersionIncompatible
  | connectorVersionIncompatible => cases h
  | _ => rfl

/-- Does a violation tell an issue of the stage, and of settings? -/
structure Violation.RaisedBy (stage : Stage) (v : Violation) : Prop where
  hits : v.HitsSettings
  stage_eq : v.issue.stage = stage

section Raised

variable {stage : Stage} {k : Key} {keys : List Key} {issue : Issue} {v : Violation}

theorem Violation.raisedBy_of_eq_on (h : issue.stage = stage) (hv : v = .on (k :: keys) issue) :
    v.RaisedBy stage := by
  subst hv
  exact ⟨hitsSettings_on k keys issue, h⟩

theorem Rule.eq_on_of_mem_violationIf {c : Bool} (h : v ∈ violationIf c keys issue) :
    v = .on keys issue := by
  unfold violationIf at h
  split at h
  · exact List.mem_singleton.mp h
  · cases h

theorem Rule.raisedBy_of_mem_violationIf {c : Bool} (hissue : issue.stage = stage)
    (h : v ∈ violationIf c (k :: keys) issue) : v.RaisedBy stage :=
  Violation.raisedBy_of_eq_on hissue (eq_on_of_mem_violationIf h)

/-- **A violation of a rule** holds an issue of that rule against settings. -/
theorem Rule.exists_eq_on (r : Rule) (s : Settings) :
    ∀ v ∈ r.violations s, ∃ k keys issue, v = .on (k :: keys) issue ∧ issue.rule? = some r := by
  intro v hv
  have found {c : Bool} {k : Key} {keys : List Key} {issue : Issue} (hrule : issue.rule? = some r)
      (h : v ∈ violationIf c (k :: keys) issue) :
      ∃ k keys issue, v = .on (k :: keys) issue ∧ issue.rule? = some r :=
    ⟨k, keys, issue, eq_on_of_mem_violationIf h, hrule⟩
  cases r with
  | proxy =>
    simp only [violations] at hv
    split at hv
    · exact found rfl hv
    · rcases List.mem_append.mp hv with hv | hv
      · exact found rfl hv
      · exact found rfl hv
  | ssl =>
    simp only [violations] at hv
    split at hv
    · exact found rfl hv
    · exact found rfl hv
  | _ => exact found rfl hv

/-- **The rules** hold issues of their own against settings. -/
theorem Rule.raisedBy (r : Rule) (s : Settings) : ∀ v ∈ r.violations s, v.RaisedBy .rules := by
  intro v hv
  obtain ⟨k, keys, issue, hon, hrule⟩ := r.exists_eq_on s v hv
  exact Violation.raisedBy_of_eq_on (Issue.stage_of_rule? hrule) hon

theorem Settings.raisedBy_violations (s : Settings) : ∀ v ∈ s.violations, v.RaisedBy .rules := by
  intro v hv
  obtain ⟨r, -, hr⟩ := List.mem_flatMap.mp hv
  exact r.raisedBy s v hr

theorem Settings.hitsSettings_violations (s : Settings) : ∀ v ∈ s.violations, v.HitsSettings :=
  fun v hv => (s.raisedBy_violations v hv).hits

theorem raisedBy_creationViolation (detail : String) :
    (creationViolation detail).RaisedBy .creation :=
  Violation.raisedBy_of_eq_on rfl rfl

theorem raisedBy_connectionViolations (s : Settings) (detail : String) :
    ∀ v ∈ connectionViolations s detail, v.RaisedBy .connection := by
  intro v hv
  simp only [connectionViolations, List.mem_append, List.mem_singleton] at hv
  -- one feature after the other; each is asked for by a condition of its own
  rcases hv with (((rfl | hv) | hv) | hv) | hv
  · exact Violation.raisedBy_of_eq_on rfl rfl
  · exact Rule.raisedBy_of_mem_violationIf rfl hv
  · exact Rule.raisedBy_of_mem_violationIf rfl hv
  · exact Rule.raisedBy_of_mem_violationIf rfl hv
  · split at hv
    · split at hv
      · exact Violation.raisedBy_of_eq_on rfl (List.mem_singleton.mp hv)
      · exact Violation.raisedBy_of_eq_on rfl (List.mem_singleton.mp hv)
    · cases hv

theorem raisedBy_of_dataStreamGate {s : Settings} {server : String} {o : Options}
    {vs : List Violation} (h : dataStreamGate s server o = .ok vs) : ∀ v ∈ vs, v.RaisedBy .version := by
  unfold dataStreamGate at h
  split at h
  · split at h
    · cases h
    · cases h
      exact fun v hv => Violation.raisedBy_of_eq_on rfl (List.mem_singleton.mp hv)
    · cases h; exact List.forall_mem_nil _
  · cases h; exact List.forall_mem_nil _

theorem raisedBy_of_connectorGate {server : String} {o : Options} {vs : List Violation}
    (h : connectorGate server o = .ok vs) : ∀ v ∈ vs, v.RaisedBy .version := by
  unfold connectorGate at h
  split at h
  · cases h
  · cases h
    exact fun v hv => Violation.raisedBy_of_eq_on rfl (List.mem_singleton.mp hv)
  · cases h; exact List.forall_mem_nil _

theorem raisedBy_of_versionViolations {s : Settings} {server : String} {o : Options}
    {vs : List Violation} (h : versionViolations s server o = .ok vs) :
    ∀ v ∈ vs, v.RaisedBy .version := by
  obtain ⟨us, ws, hu, hw, rfl⟩ := versionViolations_eq_ok_iff.mp h
  intro v hv
  rcases List.mem_append.mp hv with hv | hv
  · exact raisedBy_of_dataStreamGate hu v hv
  · exact raisedBy_of_connectorGate hw v hv

end Raised

theorem hitsSettings_serverViolations (s : Settings) (o : Options) (server : String) :
    ∀ v ∈ serverViolations s o server, v.HitsSettings := by
  unfold serverViolations
  cases hvs : versionViolations s server o with
  | ok vs => exact fun v hv => (raisedBy_of_versionViolations hvs v hv).hits
  | error e =>
    intro v hv
    rw [List.mem_singleton.mp hv]
    exact (raisedBy_creationViolation e.message).hits

theorem Liveness.hitsSettings (liveness : Liveness) (s : Settings) :
    ∀ v ∈ liveness.violations s, v.HitsSettings := by
  intro v hv
  cases liveness with
  | unreachable detail => exact (raisedBy_connectionViolations s detail v hv).hits
  | reachable => cases hv
  | denied => cases hv

/-- **An outcome of the probe** is held against settings. -/
theorem Outcome.hitsSettings (outcome : Outcome) (o : Options) (s : Settings) :
    ∀ v ∈ outcome.violations o s, v.HitsSettings := by
  intro v hv
  cases outcome with
  | unavailable detail =>
    rw [List.mem_singleton.mp hv]
    exact (raisedBy_creationViolation detail).hits
  | completed liveness version =>
    cases version with
    | none => exact liveness.hitsSettings s v hv
    | some server =>
      rcases List.mem_append.mp hv with hv | hv
      · exact liveness.hitsSettings s v hv
      · exact hitsSettings_serverViolations s o server v hv

/-! ## The stages -/

namespace Validator

variable {ε : Type} {isFile : String → Bool} {factory : ClientFactory ε} {o : Options}
  {ps : Properties}

/-- The validator with the standard schema. -/
def standard (isFile : String → Bool) (factory : ClientFactory ε) (o : Options) : Validator ε :=
  ⟨.standard isFile, factory, o⟩

/-- A validation with faults ends at the report of the faults. -/
theorem validate_of_faults (hf : ps.faults isFile ≠ []) :
    (standard isFile factory o).validate ps = pure (Report.ofProperties isFile ps) := by
  refine validate_of_none ?_
  show (Schema.standard isFile).check ps = _
  rw [Schema.check_standard, if_neg hf]

/-- Without faults the rules have their say, and then, if they are content, the probe. -/
theorem validate_of_no_faults (hf : ps.faults isFile = []) :
    (standard isFile factory o).validate ps =
      if ps.settings.violations ≠ [] then
        pure ((Report.ofProperties isFile ps).attachAll ps.settings.violations)
      else if o.probes then
        (fun outcome => (Report.ofProperties isFile ps).attachAll (outcome.violations o ps.settings)) <$>
          factory.probe ps.settings
      else pure (Report.ofProperties isFile ps) := by
  have hcheck : (standard isFile factory o).schema.check ps =
      (Report.ofProperties isFile ps, some ps.settings) := by
    show (Schema.standard isFile).check ps = _
    rw [Schema.check_standard, if_pos hf]
  have hclean : ¬(Report.ofProperties isFile ps).hasErrors = true :=
    fun he => (Report.hasErrors_ofProperties isFile ps).mp he hf
  -- the report is clean up to here, so the violations alone decide whether it has errors
  have herr := Report.hasErrors_attachAll_iff (r := Report.ofProperties isFile ps)
    ps.settings.hitsSettings_violations
  rw [validate, hcheck]
  show (if ((Report.ofProperties isFile ps).attachAll ps.settings.violations).hasErrors = true then _
    else if (!o.probes) = true then _ else _) = _
  by_cases hv : ps.settings.violations = []
  · rw [if_neg fun he => (herr.mp he).elim hclean fun hne => hne hv, if_neg (not_not_intro hv), hv]
    cases o.probes with
    | false => rfl
    | true => rfl
  · rw [if_pos (herr.mpr (Or.inr hv)), if_pos hv]

/-- A validation with violations ends at the report of the violations. -/
theorem validate_of_violations (hf : ps.faults isFile = []) (hv : ps.settings.violations ≠ []) :
    (standard isFile factory o).validate ps =
      pure ((Report.ofProperties isFile ps).attachAll ps.settings.violations) := by
  rw [validate_of_no_faults hf, if_pos hv]

/-- A validation that does not probe ends at the clean report. -/
theorem validate_of_not_probes (hf : ps.faults isFile = []) (hv : ps.settings.violations = [])
    (hp : o.probes = false) :
    (standard isFile factory o).validate ps = pure (Report.ofProperties isFile ps) := by
  rw [validate_of_no_faults hf, if_neg (not_not_intro hv), hp]
  rfl

/-- A validation that probes ends at the report of what the probe found out. -/
theorem validate_of_probes (hf : ps.faults isFile = []) (hv : ps.settings.violations = [])
    (hp : o.probes = true) :
    (standard isFile factory o).validate ps =
      (fun outcome => (Report.ofProperties isFile ps).attachAll (outcome.violations o ps.settings)) <$>
        factory.probe ps.settings := by
  rw [validate_of_no_faults hf, if_neg (not_not_intro hv), if_pos hp]

end Validator

end SinkCheck
