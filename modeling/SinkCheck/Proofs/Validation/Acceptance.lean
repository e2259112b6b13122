import SinkCheck.Proofs.Validation.Stages
/-
  When a configuration is accepted.

  A report is valid if every stage had nothing to say, so acceptance is a condition on the answers alone:
  the settings can be made, no rule is broken, and the service, where it is asked at all, is reachable
  and not older than either minimum.  What it is *not* told counts as well: a service that keeps its
  version to itself passes the gates.

  Main statements: `violations_eq_nil_iff`, an outcome of the probe that has nothing to say, and
  `isValid_validate_iff`, the acceptance of a configuration.
-/

namespace SinkCheck

/-! ## The gates -/

/-- Does a comparison find the version no older than the minimum? -/
def Version.AtLeast (version minimum : String) : Prop :=
  ∃ c, Version.compare version minimum = .ok c ∧ c ≠ .lt

theorem Version.isOlder_eq_ok_false_iff {version minimum : String} :
    Version.isOlder version minimum = .ok false ↔ Version.AtLeast version minimum := by
  unfold Version.isOlder Version.AtLeast
  cases Version.compare version minimum with
  | error e => simp
  | ok c => simp

theorem connectorGate_eq_ok_nil_iff {server : String} {o : Options} :
    connectorGate server o = .ok [] ↔ Version.AtLeast server o.connectorMinimum := by
  rw [← Version.isOlder_eq_ok_false_iff]
  unfold connectorGate
  split <;> simp_all

theorem dataStreamGate_eq_ok_nil_iff {s : Settings} {server : String} {o : Options} :
    dataStreamGate s server o = .ok [] ↔
      (s.isDataStream = true → Version.AtLeast server o.dataStreamMinimum) := by
  rw [← Version.isOlder_eq_ok_false_iff]
  unfold dataStreamGate
  by_cases hs : s.isDataStream = true
  · rw [if_pos hs]
    split <;> simp_all
  · rw [if_neg hs]
    exact ⟨fun _ h => absurd h hs, fun _ => rfl⟩

/-- Both gates are passed exactly if each of them is. -/
theorem versionViolations_eq_ok_nil_iff {s : Settings} {server : String} {o : Options} :
    versionViolations s server o = .ok [] ↔
      Version.AtLeast server o.connectorMinimum ∧
      (s.isDataStream = true → Version.AtLeast server o.dataStreamMinimum) := by
  rw [versionViolations_eq_ok_iff, ← connectorGate_eq_ok_nil_iff, ← dataStreamGate_eq_ok_nil_iff]
  constructor
  · rintro ⟨us, ws, hu, hw, hnil⟩
    obtain ⟨rfl, rfl⟩ := List.append_eq_nil_iff.mp hnil.symm
    exact ⟨hw, hu⟩
  · rintro ⟨hw, hu⟩
    exact ⟨[], [], hu, hw, rfl⟩

/-! ## The probe -/

/-- A service is reachable if it says so or forbids the question. -/
theorem Liveness.isReachable_ofAnswer {answer : Except ClientError Bool} :
    (Liveness.ofAnswer answer).isReachable = true ↔
      answer = .ok true ∨ ∃ m, answer = .error (.status 403 m) := by
  cases answer with
  | ok b => cases b <;> simp [ofAnswer, isReachable]
  | error e =>
    cases e with
    | status c m =>
      by_cases hc : c = 403
      · simp [ofAnswer, isReachable, ClientError.isForbidden, ClientError.code?, hc]
      · simp [ofAnswer, isReachable, ClientError.isForbidden, ClientError.code?, hc]
    | transport m => simp [ofAnswer, isReachable, ClientError.isForbidden, ClientError.code?]
    | other m => simp [ofAnswer, isReachable, ClientError.isForbidden, ClientError.code?]

theorem Client.value_examine {ε : Type} (c : Client ε) :
    c.examine.value =
      (Liveness.ofAnswer c.ping.value,
        if (Liveness.ofAnswer c.ping.value).isReachable then
          c.info.value.toOption.map ServerInfo.version else none) := by
  have hlive : c.liveness.value = Liveness.ofAnswer c.ping.value := rfl
  simp only [examine, Logged.value_bind, hlive]
  split <;> rfl

/-- What a probe finds out is what the one client finds out that is made. -/
theorem ClientFactory.value_probe {ε : Type} (factory : ClientFactory ε) (s : Settings) :
    (factory.probe s).value = match (factory s).value with
      | .error e => .unavailable e.message
      | .ok client => .completed client.examine.value.1 client.examine.value.2 := by
  cases h : (factory s).value with
  | error e =>
    rw [probe, withClient_of_error h]
    rfl
  | ok client =>
    rw [probe, withClient_of_ok h]
    rfl

theorem Liveness.violations_eq_nil_iff {liveness : Liveness} {s : Settings} :
    liveness.violations s = [] ↔ liveness.isReachable = true := by
  cases liveness <;> simp [violations, connectionViolations, isReachable]

theorem serverViolations_eq_nil_iff {s : Settings} {o : Options} {server : String} :
    serverViolations s o server = [] ↔
      Version.AtLeast server o.connectorMinimum ∧
      (s.isDataStream = true → Version.AtLeast server o.dataStreamMinimum) := by
  rw [← versionViolations_eq_ok_nil_iff, serverViolations]
  cases versionViolations s server o with
  | ok vs => simp
  | error e => simp

/-- **An outcome of the probe has nothing to say** if the service is reachable and either keeps its
version to itself or passes both gates. -/
theorem Outcome.violations_eq_nil_iff {outcome : Outcome} {o : Options} {s : Settings} :
    outcome.violations o s = [] ↔
      ∃ liveness version, outcome = .completed liveness version ∧ liveness.isReachable = true ∧
        ∀ server, version = some server →
          Version.AtLeast server o.connectorMinimum ∧
          (s.isDataStream = true → Version.AtLeast server o.dataStreamMinimum) := by
  cases outcome with
  | unavailable detail => simp [violations]
  | completed liveness version =>
    cases version with
    | none =>
      rw [violations, Liveness.violations_eq_nil_iff]
      constructor
      · intro hl
        refine ⟨liveness, none, rfl, hl, ?_⟩
        intro server hserver
        cases hserver
      · rintro ⟨l, w, he, hl, -⟩
        cases he
        exact hl
    | some server =>
      rw [violations, List.append_eq_nil_iff, Liveness.violations_eq_nil_iff,
        serverViolations_eq_nil_iff]
      constructor
      · rintro ⟨hl, hg⟩
        refine ⟨liveness, some server, rfl, hl, ?_⟩
        intro server' hserver
        cases hserver
        exact hg
      · rintro ⟨l, w, he, hl, hg⟩
        cases he
        exact ⟨hl, hg server rfl⟩

/-- A probe has nothing to say if a client can be made that reaches the service, and the service does
not tell a version that is too old or cannot be compared. -/
theorem ClientFactory.violations_probe_eq_nil_iff {ε : Type} {factory : ClientFactory ε} {o : Options}
    {s : Settings} :
    (factory.probe s).value.violations o s = [] ↔
      ∃ client, (factory s).value = .ok client ∧
        (client.ping.value = .ok true ∨ ∃ m, client.ping.value = .error (.status 403 m)) ∧
        ((∃ e, client.info.value = .error e) ∨
          ∃ info, client.info.value = .ok info ∧
            Version.AtLeast info.version o.connectorMinimum ∧
            (s.isDataStream = true → Version.AtLeast info.version o.dataStreamMinimum)) := by
  rw [Outcome.violations_eq_nil_iff, value_probe]
  cases hmade : (factory s).value with
  | error e => simp
  | ok client =>
    simp only [Outcome.completed.injEq, Except.ok.injEq, exists_eq_left', Client.value_examine,
      ← Liveness.isReachable_ofAnswer]
    constructor
    · rintro ⟨l, w, ⟨rfl, rfl⟩, hl, hg⟩
      rw [if_pos hl] at hg
      refine ⟨hl, ?_⟩
      cases hinfo : client.info.value with
      | error e => exact Or.inl ⟨e, rfl⟩
      | ok info =>
        rw [hinfo] at hg
        exact Or.inr ⟨info, rfl, hg info.version rfl⟩
    · rintro ⟨hl, hinfo⟩
      refine ⟨_, _, ⟨rfl, rfl⟩, hl, ?_⟩
      rw [if_pos hl]
      intro server hserver
      rcases hinfo with ⟨e, he⟩ | ⟨info, hi, hg⟩
      · rw [he] at hserver
        cases hserver
      · rw [hi] at hserver
        cases hserver
        exact hg

/-! ## Acceptance -/

/-- A validation ends at a clean report exactly if none of its stages has anything to say. -/
theorem Validator.isValid_iff_stages {ε : Type} {isFile : String → Bool} {factory : ClientFactory ε}
    {o : Options} {ps : Properties} :
    ((standard isFile factory o).validate ps).value.isValid = true ↔
      ps.faults isFile = [] ∧ ps.settings.violations = [] ∧
      (o.probes = false ∨ (factory.probe ps.settings).value.violations o ps.settings = []) := by
  have hsyntax := Report.isValid_ofProperties_iff isFile ps
  -- one case for each place at which a validation can end
  by_cases hf : ps.faults isFile = []
  · by_cases hv : ps.settings.violations = []
    · cases hp : o.probes with
      | false =>
        rw [validate_of_not_probes hf hv hp, Logged.value_pure, hsyntax]
        exact ⟨fun _ => ⟨hf, hv, Or.inl rfl⟩, fun h => h.1⟩
      | true =>
        rw [validate_of_probes hf hv hp, Logged.value_map,
          Report.isValid_attachAll_iff (Outcome.hitsSettings _ o ps.settings), hsyntax]
        exact ⟨fun h => ⟨hf, hv, Or.inr h.2⟩, fun h => ⟨hf, h.2.2.resolve_left (by decide)⟩⟩
    · rw [validate_of_violations hf hv, Logged.value_pure,
        Report.isValid_attachAll_iff ps.settings.hitsSettings_violations]
      exact ⟨fun h => absurd h.2 hv, fun h => absurd h.2.1 hv⟩
  · rw [validate_of_faults hf, Logged.value_pure, hsyntax]
    exact ⟨fun h => absurd h hf, fun h => absurd h.1 hf⟩

/-- **The acceptance of a configuration.**  The report is valid exactly if the settings can be made, no
rule is broken and, where the service is to be contacted, a client can be made, the service is alive or
forbids the question, and it either fails to tell its version or tells one that is no older than the
connector's minimum and, for a sink that writes to a data stream, than the minimum for those.  In every
other case the report counts at least one error. -/
theorem isValid_validate_iff {ε : Type} (isFile : String → Bool) (factory : ClientFactory ε)
    (o : Options) (ps : Properties) :
    let report := ((Validator.standard isFile factory o).validate ps).value
    let accepted := ∃ s, Settings.parse isFile ps = .ok s ∧ s.violations = [] ∧
      (o.probes = false ∨
        ∃ client, (factory s).value = .ok client ∧
          (client.ping.value = .ok true ∨ ∃ m, client.ping.value = .error (.status 403 m)) ∧
          ((∃ e, client.info.value = .error e) ∨
            ∃ info, client.info.value = .ok info ∧
              Version.AtLeast info.version o.connectorMinimum ∧
              (s.isDataStream = true → Version.AtLeast info.version o.dataStreamMinimum)))
    (report.isValid = true ↔ accepted) ∧ (¬accepted → 1 ≤ report.errorCount) := by
  intro report accepted
  have hiff : report.isValid = true ↔ accepted := by
    show _ ↔ ∃ s, _ ∧ _
    rw [Settings.exists_parse_eq_ok_and_iff, ← ClientFactory.violations_probe_eq_nil_iff]
    exact Validator.isValid_iff_stages
  refine ⟨hiff, fun hrefused => ?_⟩
  rw [Report.one_le_errorCount_iff]
  -- a report that is not valid counts something
  have hinvalid : ¬report.isValid = true := fun h => hrefused (hiff.mp h)
  rwa [Report.isValid, Bool.not_eq_true', Bool.not_eq_false] at hinvalid

end SinkCheck
