import SinkCheck.Proofs.Validation.Acceptance
/-
  The calls of many validations.

  One validator checks any number of configurations, one after the other, and every validation makes a
  client of its own or none.  The calls of the whole are the calls of the single validations one behind
  the other; since each of them leaves no client behind, the next one starts where the first did.

  Main statements: `foldlM_next?_flatten`, rows of calls in turn are in turn one behind the other, and
  `calls_validateAll`, the calls of a row of validations.
-/

namespace SinkCheck

/-! ## Calls in turn -/

/-- Take one call, told whether a client is held.  A client is made only when none is held, and used
and released only while it is held; `made` says whether making one succeeds.  The answer is whether a
client is held afterwards, or nothing if it was not the turn of the call. -/
def Call.next? (made : Bool) : Bool → Call → Option Bool
  | false, create => some made
  | true, ping => some true
  | true, info => some true
  | true, close => some false
  | _, _ => none

/-- **Rows of calls** that start and end without a client do so one behind the other. -/
theorem Call.foldlM_next?_flatten {made : Bool} {rows : List (List Call)}
    (h : ∀ row ∈ rows, row.foldlM (next? made) false = some false) :
    rows.flatten.foldlM (next? made) false = some false := by
  induction rows with
  | nil => rfl
  | cons row rows ih =>
    have hrow : row.foldlM (next? made) false = some false := h row List.mem_cons_self
    have hrows := ih fun r hr => h r (List.mem_cons_of_mem row hr)
    rw [List.flatten_cons, List.foldlM_append, hrow]
    exact hrows

/-! ## The calls of one probe -/

namespace Script

/-- Is the making of a client answered with one? -/
def makes (script : Script) : Bool := script.create.toBool

/-- Does the answer to the question of life show the service? -/
def reaches (script : Script) : Bool := (Liveness.ofAnswer script.ping).isReachable

/-- The calls of one probe. -/
def session (script : Script) : List Call :=
  if script.makes then
    if script.reaches then [.create, .ping, .info, .close] else [.create, .ping, .close]
  else [.create]

theorem log_probe (script : Script) (s : Settings) : (script.factory.probe s).log = script.session := by
  rw [log_probe_script, session, makes, reaches]
  cases script.create with
  | error e => rfl
  | ok u => rfl

theorem makes_eq_true_iff {script : Script} : script.makes = true ↔ script.create = .ok () := by
  unfold makes
  cases script.create with
  | error e => simp [Except.toBool]
  | ok u => simp [Except.toBool]

theorem makes_eq_false_iff {script : Script} :
    script.makes = false ↔ ∃ e, script.create = .error e := by
  unfold makes
  cases script.create with
  | error e => simp [Except.toBool]
  | ok u => simp [Except.toBool]

theorem reaches_iff {script : Script} :
    script.reaches = true ↔ script.ping = .ok true ∨ ∃ m, script.ping = .error (.status 403 m) :=
  Liveness.isReachable_ofAnswer

/-- The calls of a probe are in turn and leave no client behind. -/
theorem foldlM_next?_session (script : Script) :
    script.session.foldlM (Call.next? script.makes) false = some false := by
  unfold session
  cases script.makes with
  | false => rfl
  | true => cases script.reaches <;> rfl

/-- The calls of a probe in its three forms. -/
theorem session_mem (script : Script) :
    script.session ∈ [[], [.create], [.create, .ping, .close], [.create, .ping, .info, .close]] := by
  unfold session
  cases script.makes with
  | false => simp
  | true => cases script.reaches <;> simp

theorem session_ne_nil {script : Script} : script.session ≠ [] := by
  unfold session
  cases script.makes with
  | false => exact List.cons_ne_nil _ _
  | true => cases script.reaches <;> exact List.cons_ne_nil _ _

theorem session_eq_create_iff {script : Script} :
    script.session = [.create] ↔ ∃ e, script.create = .error e := by
  rw [← makes_eq_false_iff]
  unfold session
  cases script.makes with
  | false => exact ⟨fun _ => rfl, fun _ => rfl⟩
  | true => cases script.reaches <;> simp

theorem info_mem_session_iff {script : Script} :
    Call.info ∈ script.session ↔ script.create = .ok () ∧
      (script.ping = .ok true ∨ ∃ m, script.ping = .error (.status 403 m)) := by
  rw [← makes_eq_true_iff, ← reaches_iff]
  unfold session
  cases script.makes with
  | false => simp
  | true => cases script.reaches <;> simp

/-- A probe finds out the same, however the release of its client is answered. -/
theorem value_probe_with_close {script : Script} (answer : Except ClientError Unit) (s : Settings) :
    ({ script with close := answer }.factory.probe s).value = (script.factory.probe s).value := by
  rw [ClientFactory.value_probe, ClientFactory.value_probe]
  -- What is left of the two probes speaks of the answers alone, and not of the one to `close`.
  obtain ⟨create, ping, info, close⟩ := script
  cases create with
  | error e => rfl
  | ok u => rfl

end Script

/-! ## The calls of one validation -/

/-- Does the validation end before the service is contacted?  It does if the settings cannot be made, a
rule is broken, or the service is not to be contacted. -/
def Properties.EndsEarly (isFile : String → Bool) (o : Options) (ps : Properties) : Prop :=
  (∃ faults, Settings.parse isFile ps = .error faults) ∨
  (∃ s, Settings.parse isFile ps = .ok s ∧ s.violations ≠ []) ∨ o.probes = false

theorem Properties.not_endsEarly_iff {isFile : String → Bool} {o : Options} {ps : Properties} :
    ¬ps.EndsEarly isFile o ↔
      ps.faults isFile = [] ∧ ps.settings.violations = [] ∧ o.probes = true := by
  rw [EndsEarly, Settings.exists_parse_eq_error_iff, Settings.exists_parse_eq_ok_and_iff, not_or,
    not_or, Decidable.not_not, not_and, Bool.not_eq_false]
  constructor
  · rintro ⟨hf, hv, hp⟩
    exact ⟨hf, Decidable.not_not.mp (hv hf), hp⟩
  · rintro ⟨hf, hv, hp⟩
    exact ⟨hf, fun _ => not_not_intro hv, hp⟩

namespace Validator

variable {ε : Type} {isFile : String → Bool} {o : Options} {ps : Properties}

/-- A validation that ends early logs nothing. -/
theorem log_validate_of_endsEarly {factory : ClientFactory ε} (h : ps.EndsEarly isFile o) :
    ((standard isFile factory o).validate ps).log = [] := by
  by_cases hf : ps.faults isFile = []
  · by_cases hv : ps.settings.violations = []
    · -- with both stages behind it, only the options can have ended it
      have hp : ¬o.probes = true := fun hp =>
        Properties.not_endsEarly_iff.mpr ⟨hf, hv, hp⟩ h
      rw [validate_of_not_probes hf hv (eq_false_of_ne_true hp), Logged.log_pure]
    · rw [validate_of_violations hf hv, Logged.log_pure]
  · rw [validate_of_faults hf, Logged.log_pure]

/-- A validation that does not end early logs what its probe does. -/
theorem log_validate_of_not_endsEarly {factory : ClientFactory ε} (h : ¬ps.EndsEarly isFile o) :
    ((standard isFile factory o).validate ps).log = (factory.probe ps.settings).log := by
  obtain ⟨hf, hv, hp⟩ := Properties.not_endsEarly_iff.mp h
  rw [validate_of_probes hf hv hp, Logged.log_map]

/-- The calls of a validation are those of a probe, or none if it ends early. -/
theorem log_validate_script (isFile : String → Bool) (script : Script) (o : Options) (ps : Properties) :
    (ps.EndsEarly isFile o ∧ ((standard isFile script.factory o).validate ps).log = []) ∨
    (¬ps.EndsEarly isFile o ∧
      ((standard isFile script.factory o).validate ps).log = script.session) := by
  by_cases h : ps.EndsEarly isFile o
  · exact Or.inl ⟨h, log_validate_of_endsEarly h⟩
  · refine Or.inr ⟨h, ?_⟩
    rw [log_validate_of_not_endsEarly h, script.log_probe]

/-- The report depends on the clients through what the probe finds out alone. -/
theorem value_validate_congr {ε' : Type} {factory : ClientFactory ε} {factory' : ClientFactory ε'}
    (h : ∀ s, (factory.probe s).value = (factory'.probe s).value) (schema : Schema) (o : Options)
    (ps : Properties) :
    ((Validator.mk schema factory o).validate ps).value =
      ((Validator.mk schema factory' o).validate ps).value := by
  unfold validate
  rcases schema.check ps with ⟨report, _ | s⟩
  · rfl
  · simp only
    split
    · rfl
    · split
      · rfl
      · simp only [Logged.value_bind, Logged.value_pure, h]

/-! ## The calls of a row of validations -/

/-- Validate one configuration after the other. -/
def validateAll (v : Validator ε) (pss : List Properties) : Logged ε (List Report) :=
  pss.mapM v.validate

theorem log_validateAll (v : Validator ε) (pss : List Properties) :
    (v.validateAll pss).log = (pss.map fun ps => (v.validate ps).log).flatten :=
  Logged.log_mapM v.validate pss

theorem value_validateAll (v : Validator ε) (pss : List Properties) :
    (v.validateAll pss).value = pss.map fun ps => (v.validate ps).value :=
  Logged.value_mapM v.validate pss

/-- No client is left behind by a row of validations, and none is made while another is held. -/
theorem foldlM_next?_validateAll (script : Script) (pss : List Properties) :
    ((standard isFile script.factory o).validateAll pss).log.foldlM (Call.next? script.makes) false =
      some false := by
  rw [log_validateAll]
  refine Call.foldlM_next?_flatten ?_
  intro row hrow
  obtain ⟨ps, -, rfl⟩ := List.mem_map.mp hrow
  rcases log_validate_script isFile script o ps with ⟨-, hlog⟩ | ⟨-, hlog⟩
  · rw [hlog]
    rfl
  · rw [hlog]
    exact script.foldlM_next?_session

end Validator

/-- **The calls of a row of validations** under a script are the calls of the single validations, one
behind the other.  A validation that ends early makes none; any other makes a client and, if it gets
one, asks for life, asks for the version exactly if the service is shown to be there, and releases the
client.  So every client that is made is released once, before the next one is made, whatever the
clients answer; and how a release is answered has no influence on any report. -/
theorem calls_validateAll (isFile : String → Bool) (script : Script) (o : Options)
    (pss : List Properties) :
    let v := Validator.standard isFile script.factory o
    let calls := fun ps => (v.validate ps).log
    (v.validateAll pss).log = (pss.map calls).flatten ∧
    (∀ ps,
      calls ps ∈ [[], [.create], [.create, .ping, .close], [.create, .ping, .info, .close]] ∧
      (calls ps = [] ↔ ps.EndsEarly isFile o) ∧
      (calls ps = [.create] ↔ calls ps ≠ [] ∧ ∃ e, script.create = .error e) ∧
      (.info ∈ calls ps ↔ calls ps ≠ [] ∧ script.create = .ok () ∧
        (script.ping = .ok true ∨ ∃ m, script.ping = .error (.status 403 m)))) ∧
    (v.validateAll pss).log.foldlM (Call.next? script.makes) false = some false ∧
    ∀ answer,
      ((Validator.standard isFile { script with close := answer }.factory o).validateAll pss).value =
        (v.validateAll pss).value := by
  intro v calls
  refine ⟨v.log_validateAll pss, ?_, Validator.foldlM_next?_validateAll script pss, ?_⟩
  · intro ps
    rcases Validator.log_validate_script isFile script o ps with
      ⟨hearly, hlog⟩ | ⟨hearly, hlog⟩
    · have hcalls : calls ps = [] := hlog
      rw [hcalls]
      refine ⟨List.mem_cons_self, ⟨fun _ => hearly, fun _ => rfl⟩, ?_, ?_⟩
      · simp
      · simp
    · have hcalls : calls ps = script.session := hlog
      have hne : script.session ≠ [] := Script.session_ne_nil
      rw [hcalls, Script.session_eq_create_iff, Script.info_mem_session_iff]
      refine ⟨script.session_mem, ?_, ?_, ?_⟩
      · exact ⟨fun h => absurd h hne, fun h => absurd h hearly⟩
      · exact ⟨fun h => ⟨hne, h⟩, fun h => h.2⟩
      · exact ⟨fun h => ⟨hne, h⟩, fun h => h.2⟩
  · intro answer
    rw [Validator.value_validateAll, Validator.value_validateAll]
    refine List.map_congr_left fun ps _ => ?_
    exact Validator.value_validate_congr (Script.value_probe_with_close answer) _ o ps

end SinkCheck
