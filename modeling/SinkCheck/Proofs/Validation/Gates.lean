import SinkCheck.Proofs.Validation.Acceptance
import SinkCheck.Proofs.Validation.Checks
import SinkCheck.Proofs.Version.Order
/-
  The gates that a version has to pass.

  There are two, one for data streams and one for the connector, and each compares the version of the
  service with a minimum of its own.  They are independent: neither asks what the other one found, and the
  gate for data streams is not asked at all where there is no data stream.  But they answer together or
  not at all.  A version that one of them cannot compare makes the service one that could not be examined,
  and what the other one found is dropped.

  A comparison that comes to an answer is an order (`Compares.trans`), so whatever passes a gate passes
  it again in a newer version.  That the newer version can be compared with the minimum needs no proof
  of its own: the order gives an answer along with its side.

  Main statements: `connectorGate_of_ok`, `dataStreamGate_of_ok` and `versionViolations_eq_error_iff`, the
  answers of the gates; `ReachesGates.value_validate`, a validation that comes to them;
  `gates_all_or_nothing` and `gates_upward_closed`.
-/

namespace SinkCheck

/-! ## The answers of the gates -/

section Gates

variable {s : Settings} {server : String} {o : Options} {e : Version.InvalidSegment} {c d : Ordering}

theorem connectorGate_eq_error_iff :
    connectorGate server o = .error e ↔ Version.compare server o.connectorMinimum = .error e := by
  unfold connectorGate Version.isOlder
  cases Version.compare server o.connectorMinimum with
  | error e' => simp
  | ok c => cases c <;> simp

theorem dataStreamGate_eq_error_iff :
    dataStreamGate s server o = .error e ↔
      s.isDataStream = true ∧ Version.compare server o.dataStreamMinimum = .error e := by
  unfold dataStreamGate Version.isOlder
  cases s.isDataStream with
  | false => simp
  | true =>
    cases Version.compare server o.dataStreamMinimum with
    | error e' => simp
    | ok d => cases d <;> simp

/-- **The gate for the connector** holds back versions that are older than its minimum. -/
theorem connectorGate_of_ok (h : Version.compare server o.connectorMinimum = .ok c) :
    connectorGate server o = .ok (if c = .lt then
      [.on [.connectionUrl]
        (.connectorVersionIncompatible o.connectorVersion server o.connectorMinimum)] else []) := by
  rw [connectorGate, Version.isOlder, h]
  cases c <;> rfl

/-- **The gate for data streams** does so where there is a data stream. -/
theorem dataStreamGate_of_ok
    (h : s.isDataStream = true → Version.compare server o.dataStreamMinimum = .ok d) :
    dataStreamGate s server o = .ok (if s.isDataStream = true ∧ d = .lt then
      [.on [.connectionUrl, .dataStreamType, .dataStreamDataset]
        (.dataStreamVersionIncompatible server o.dataStreamMinimum)] else []) := by
  rw [dataStreamGate]
  cases hs : s.isDataStream with
  | false => rfl
  | true =>
    rw [Version.isOlder, h hs]
    cases d <;> rfl

/-- **Both gates together** fail with the first one that fails. -/
theorem versionViolations_eq_error_iff :
    versionViolations s server o = .error e ↔
      dataStreamGate s server o = .error e ∨
        (∃ us, dataStreamGate s server o = .ok us) ∧ connectorGate server o = .error e := by
  unfold versionViolations
  cases dataStreamGate s server o with
  | error e' => simp
  | ok us =>
    cases connectorGate server o with
    | error e' => simp
    | ok ws => simp

/-- There is no answer exactly if one of the gates has none. -/
theorem exists_versionViolations_eq_error_iff :
    (∃ e, versionViolations s server o = .error e) ↔
      (∃ e, Version.compare server o.connectorMinimum = .error e) ∨
        s.isDataStream = true ∧ ∃ e, Version.compare server o.dataStreamMinimum = .error e := by
  simp only [versionViolations_eq_error_iff, ← connectorGate_eq_error_iff, ← exists_and_left,
    ← dataStreamGate_eq_error_iff]
  cases dataStreamGate s server o with
  | error e' => simp
  | ok us => simp

end Gates

/-! ## A validation at the gates -/

namespace Validator

/-- The validation comes to the gates: the check hands on settings, no rule is broken, and the service is
contacted, is reachable and tells its version. -/
structure ReachesGates {ε : Type} (v : Validator ε) (ps : Properties) (report : Report) (s : Settings)
    (server : String) : Prop where
  checked : v.schema.check ps = (report, some s)
  allowed : s.violations = []
  probes : v.options.probes = true
  told : ∃ client info, (v.factory s).value = .ok client ∧
    (client.ping.value = .ok true ∨ ∃ m, client.ping.value = .error (.status 403 m)) ∧
    client.info.value = .ok info ∧ info.version = server

variable {ε : Type} {v : Validator ε} {ps : Properties} {report : Report} {s : Settings}
  {server : String}

theorem ReachesGates.isValid (h : v.ReachesGates ps report s server) : report.isValid = true :=
  (Schema.check_eq_some_iff.mp h.checked).2.1

/-- **A validation that comes to the gates** adds to the report of the check what they find, and nothing
else. -/
theorem ReachesGates.value_validate (h : v.ReachesGates ps report s server) :
    (v.validate ps).value = report.attachAll (serverViolations s v.options server) := by
  have hclean : report.hasErrors = false := Report.isValid_iff_hasErrors.mp h.isValid
  obtain ⟨client, info, hclient, hping, hinfo, rfl⟩ := h.told
  have hreachable : (Liveness.ofAnswer client.ping.value).isReachable = true :=
    Liveness.isReachable_ofAnswer.mpr hping
  have hprobe : (v.factory.probe s).value.violations v.options s =
      serverViolations s v.options info.version := by
    rw [ClientFactory.value_probe, hclient]
    simp only [Client.value_examine, hinfo, hreachable, if_true]
    show Liveness.violations s _ ++ _ = _
    rw [Liveness.violations_eq_nil_iff.mpr hreachable, List.nil_append]
  have hsame : report.attachAll [] = report := rfl
  rw [validate, h.checked]
  dsimp only
  rw [h.allowed, hsame, hclean, h.probes]
  show (v.factory.probe s >>= _).value = _
  rw [Logged.value_bind, Logged.value_pure, hprobe]

end Validator

/-- **The gates answer both or not at all.**  They fail exactly if the version cannot be compared with the
minimum of the connector or, for a data stream, with the minimum for those.  If both comparisons come to
an answer, the violations are that of the data stream, if there is one and the version is older than its
minimum, and behind it that of the connector, if the version is older than its minimum; so none follows
from the other.  In a validation that comes to the gates, under whatever schema, a failure is the fault of
one of the comparisons, and all that the report tells is one issue with the wording of this fault, held
against the address: what is found at other settings, and all names and values, are left as they were. -/
theorem gates_all_or_nothing (s : Settings) (server : String) (o : Options) :
    ((∃ e, versionViolations s server o = .error e) ↔
      (∃ e, Version.compare server o.connectorMinimum = .error e) ∨
        s.isDataStream = true ∧ ∃ e, Version.compare server o.dataStreamMinimum = .error e) ∧
    (∀ c d, Version.compare server o.connectorMinimum = .ok c →
      (s.isDataStream = true → Version.compare server o.dataStreamMinimum = .ok d) →
      versionViolations s server o = .ok
        ((if s.isDataStream = true ∧ d = .lt then
          [⟨["connection.url", "data.stream.type", "data.stream.dataset"],
            .dataStreamVersionIncompatible server o.dataStreamMinimum⟩] else []) ++
        (if c = .lt then
          [⟨["connection.url"],
            .connectorVersionIncompatible o.connectorVersion server o.connectorMinimum⟩] else []))) ∧
    ∀ (ε : Type) (v : Validator ε) (ps : Properties) (report : Report) (e : Version.InvalidSegment),
      v.ReachesGates ps report s server → v.options = o → versionViolations s server o = .error e →
      let after := (v.validate ps).value
      (s.isDataStream = true ∧ Version.compare server o.dataStreamMinimum = .error e ∨
        Version.compare server o.connectorMinimum = .error e) ∧
      after.findings = [("connection.url", .issue (.clientCreationFailed e.message))] ∧
      (∀ name, name ≠ "connection.url" → after.find? name = report.find? name) ∧
      after.frame = report.frame ++
        if "connection.url" ∈ report.names then [] else [("connection.url", none)] := by
  refine ⟨exists_versionViolations_eq_error_iff, fun c d hc hd => ?_, ?_⟩
  · exact versionViolations_eq_ok_iff.mpr
      ⟨_, _, dataStreamGate_of_ok hd, connectorGate_of_ok hc, rfl⟩
  · rintro ε v ps report e hreaches rfl he after
    have hafter : after = report.add "connection.url" (.issue (.clientCreationFailed e.message)) := by
      show (v.validate ps).value = _
      rw [hreaches.value_validate, serverViolations, he]
      rfl
    refine ⟨?_, ?_, fun name hname => ?_, ?_⟩
    · rcases versionViolations_eq_error_iff.mp he with hstream | ⟨-, hconnector⟩
      · exact Or.inl (dataStreamGate_eq_error_iff.mp hstream)
      · exact Or.inr (connectorGate_eq_error_iff.mp hconnector)
    · rw [hafter, Report.findings_add_of_isValid hreaches.isValid]
    · rw [hafter, Report.find?_add, if_neg (Ne.symm hname)]
    · rw [hafter]
      split
      · next hmem => rw [Report.frame_add hmem, List.append_nil]
      · next hmem => rw [Report.frame_add_of_not_mem hmem]

/-- A configuration that writes to a data stream. -/
def streaming : Properties := .ofList
  [("connection.url", "http://[::1]:9200"), ("data.stream.type", "logs"),
   ("data.stream.dataset", "clicks")]

/-- The version is too old for data streams, and still nothing is told but that it cannot be compared with
the other minimum. -/
theorem gates_all_or_nothing_halfway :
    let o : Options := ⟨"7.9.0", "1.x", "0.1.0", true⟩
    let script : Script := ⟨.ok (), .ok true, .ok ⟨"1.0.1", none, none⟩, .ok ()⟩
    dataStreamGate streaming.settings "1.0.1" o =
      .ok [.on [.connectionUrl, .dataStreamType, .dataStreamDataset]
        (.dataStreamVersionIncompatible "1.0.1" "7.9.0")] ∧
    ((Validator.standard (fun _ => false) script.factory o).validate streaming).value.findings =
      [("connection.url", .issue (.clientCreationFailed "Invalid version segment 'x' in '1.x'"))] := by
  intro o script
  have hstream : streaming.settings.isDataStream = true := by decide +kernel
  have hnewer : Version.compare "1.0.1" "7.9.0" = .ok .lt := by rfl
  have hfault : Version.compare "1.0.1" "1.x" = .error ⟨"1.x", "x"⟩ := by rfl
  have hgate : dataStreamGate streaming.settings "1.0.1" o =
      .ok [.on [.connectionUrl, .dataStreamType, .dataStreamDataset]
        (.dataStreamVersionIncompatible "1.0.1" "7.9.0")] := by
    rw [dataStreamGate_of_ok fun _ => hnewer, hstream]
    rfl
  have herror : versionViolations streaming.settings "1.0.1" o = .error ⟨"1.x", "x"⟩ :=
    versionViolations_eq_error_iff.mpr
      (Or.inr ⟨⟨_, hgate⟩, connectorGate_eq_error_iff.mpr hfault⟩)
  have hclean : streaming.faults (fun _ => false) = [] := by decide +kernel
  have hreaches : (Validator.standard (fun _ => false) script.factory o).ReachesGates streaming
      (Report.ofProperties (fun _ => false) streaming) streaming.settings "1.0.1" :=
    { checked := by
        show (Schema.standard fun _ => false).check streaming = _
        rw [Schema.check_standard, if_pos hclean]
      allowed := by decide +kernel
      probes := rfl
      told := ⟨script.client, ⟨"1.0.1", none, none⟩, rfl, Or.inl rfl, rfl, rfl⟩ }
  refine ⟨hgate, ?_⟩
  exact ((gates_all_or_nothing streaming.settings "1.0.1" o).2.2 _ _ _ _ _ hreaches rfl herror).2.1

/-! ## Newer versions -/

/-- What is no older than a minimum is so in a newer version. -/
theorem Version.AtLeast.of_newer {v w minimum : String} {c : Ordering} (h : AtLeast v minimum)
    (hc : compare v w = .ok c) (hnewer : c ≠ .gt) : AtLeast w minimum := by
  obtain ⟨x, hx, holder⟩ := h
  have hswap : x.swap ≠ .gt := by cases x <;> simp_all
  have hminimum : Compares (segments minimum) (segments w) (x.swap.then c) :=
    (compare_eq_ok_iff.mp hx).symm.trans (compare_eq_ok_iff.mp hc) hswap hnewer
  refine ⟨(x.swap.then c).swap, compare_eq_ok_iff.mpr hminimum.symm, ?_⟩
  cases x <;> cases c <;> simp_all

/-- **What passes the gates passes them in every newer version**, whatever the minima are and whether or
not the newer version is well formed. -/
theorem gates_upward_closed {s : Settings} {o : Options} {v w : String} {c : Ordering}
    (h : versionViolations s v o = .ok []) (hc : Version.compare v w = .ok c) (hnewer : c ≠ .gt) :
    versionViolations s w o = .ok [] := by
  obtain ⟨hconnector, hstream⟩ := versionViolations_eq_ok_nil_iff.mp h
  refine versionViolations_eq_ok_nil_iff.mpr ⟨hconnector.of_newer hc hnewer, fun hs => ?_⟩
  exact (hstream hs).of_newer hc hnewer

/-- A newer version passes, though one of its segments has no number. -/
theorem gates_upward_closed_malformed :
    let o : Options := ⟨"7.9.0-rc", "1.2", "0.1.0", true⟩
    versionViolations streaming.settings "7.9.1" o = .ok [] ∧
    Version.compare "7.9.1" "7.10.q" = .ok .lt ∧
    versionViolations streaming.settings "7.10.q" o = .ok [] := by
  intro o
  have hconnector : Version.compare "7.9.1" "1.2" = .ok .gt := by rfl
  have hstream : Version.compare "7.9.1" "7.9.0-rc" = .ok .gt := by rfl
  have hpassed : versionViolations streaming.settings "7.9.1" o = .ok [] :=
    versionViolations_eq_ok_nil_iff.mpr
      ⟨⟨.gt, hconnector, by decide⟩, fun _ => ⟨.gt, hstream, by decide⟩⟩
  have hnewer : Version.compare "7.9.1" "7.10.q" = .ok .lt := by rfl
  exact ⟨hpassed, hnewer, gates_upward_closed hpassed hnewer (by decide)⟩

end SinkCheck
