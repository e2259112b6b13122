import SinkCheck.Proofs.Setting.Spelling
import SinkCheck.Proofs.Settings.NormalForm
import SinkCheck.Proofs.Validation.Secrecy
/-
  The spelling of a configuration means nothing.

  Two configurations are spelled alike if they give the same settings, each in texts that are spelled
  alike, and the same texts to all other names.  A fault quotes the text in which it was found, so faults
  may differ; but where one configuration has none, every setting resolves to the same value in the other.
  The settings are therefore the same, and from there on a validation sees nothing but the settings, and
  the answers of the clients that are made with them.

  Main statements: `Properties.SpelledAlike.resolve_eq_ok`, for one setting; `parse_eq_ok`, for all of them;
  `Validator.validate_congr`, settings decide a validation; `validate_ignores_spelling`.
-/

namespace SinkCheck

/-! ## Configurations that are spelled alike -/

/-- Do two configurations give texts that are spelled alike to the settings, and the same texts to all
other names? -/
structure Properties.SpelledAlike (ps qs : Properties) : Prop where
  texts : ∀ k : Key, Option.Rel k.kind.SpelledAlike (ps.get? k.name) (qs.get? k.name)
  others : ∀ name ∉ Key.all.map Key.name, ps.get? name = qs.get? name

variable {isFile : String → Bool} {ps qs : Properties} {s : Settings}

/-- The properties of names that are not recognised. -/
def Properties.unrecognised (ps : Properties) : Properties :=
  ps.filter fun name => decide (name ∉ Key.all.map Key.name)

theorem Properties.unrecognised_eq_iff :
    ps.unrecognised = qs.unrecognised ↔ ∀ name ∉ Key.all.map Key.name, ps.get? name = qs.get? name := by
  constructor
  · intro h name hname
    have hget := congrArg (fun rs : Properties => rs.get? name) h
    simpa only [unrecognised, get?_filter, decide_eq_true hname, if_true] using hget
  · intro h
    refine ext_get? fun name => ?_
    rw [unrecognised, get?_filter, unrecognised, get?_filter]
    split
    · next hname => exact h name (of_decide_eq_true hname)
    · rfl

namespace Properties.SpelledAlike

variable (h : ps.SpelledAlike qs)

include h

theorem symm : qs.SpelledAlike ps :=
  ⟨fun k => Kind.rel_spelledAlike_symm (h.texts k), fun name hname => (h.others name hname).symm⟩

/-- **A setting that resolves** resolves to the same value. -/
theorem resolve_eq_ok {k : Key} {v : Value} (hv : k.resolve isFile ps = .ok v) :
    k.resolve isFile qs = .ok v :=
  Definition.resolve_eq_ok_of_spelledAlike (h.texts k) hv

/-- The properties of the encrypted connection are no recognised settings, so their texts are the same. -/
theorem filter_https_eq :
    qs.filter (Text.beginsWith Https.head) = ps.filter (Text.beginsWith Https.head) := by
  refine ext_get? fun name => ?_
  rw [get?_filter, get?_filter]
  split
  · next hhead =>
    refine (h.others name fun hname => ?_).symm
    obtain ⟨k, -, rfl⟩ := List.mem_map.mp hname
    cases hhead.symm.trans (beginsWith_name k)
  · rfl

/-- **A configuration that makes settings** makes the same ones in the other spelling. -/
theorem parse_eq_ok (hs : Settings.parse isFile ps = .ok s) : Settings.parse isFile qs = .ok s := by
  obtain ⟨hf, -⟩ := Settings.parse_eq_ok_iff.mp hs
  have hresolve : ∀ k : Key, k.resolve isFile qs = k.resolve isFile ps := by
    intro k
    obtain ⟨v, hv⟩ := Key.resolve_of_faults_eq_nil hf k
    rw [hv, h.resolve_eq_ok hv]
  rw [Settings.parse_congr hresolve h.filter_https_eq, hs]

end Properties.SpelledAlike

/-- The settings are compared one by one, and all other properties at once. -/
theorem Properties.spelledAlike_iff :
    ps.SpelledAlike qs ↔
      (∀ k ∈ Key.all, Option.Rel k.kind.SpelledAlike (ps.get? k.name) (qs.get? k.name)) ∧
      ps.unrecognised.entries = qs.unrecognised.entries := by
  constructor
  · intro h
    exact ⟨fun k _ => h.texts k, congrArg entries (unrecognised_eq_iff.mpr h.others)⟩
  · rintro ⟨htexts, hentries⟩
    have hothers : ps.unrecognised = qs.unrecognised :=
      ext_get? fun name => congrArg (Keyed.find? name) hentries
    exact ⟨fun k => htexts k (Key.mem_all k), unrecognised_eq_iff.mp hothers⟩

instance (ps qs : Properties) : Decidable (ps.SpelledAlike qs) :=
  decidable_of_iff _ Properties.spelledAlike_iff.symm

/-! ## From settings to reports -/

namespace Validator

variable {ε δ : Type} {factory : ClientFactory ε} {other : ClientFactory δ} {o : Options}

/-- **The settings decide a validation**, whatever properties they come out of. -/
theorem validate_congr (hps : Settings.parse isFile ps = .ok s) (hqs : Settings.parse isFile qs = .ok s) :
    (standard isFile factory o).validate ps = (standard isFile factory o).validate qs := by
  obtain ⟨hf, rfl⟩ := Settings.parse_eq_ok_iff.mp hps
  obtain ⟨hg, hsettings⟩ := Settings.parse_eq_ok_iff.mp hqs
  have hentries : (Report.ofProperties isFile ps).entries = (Report.ofProperties isFile qs).entries := by
    rw [Report.entries_of_no_faults hf, Report.entries_of_no_faults hg, hsettings]
  have hreport : Report.ofProperties isFile ps = Report.ofProperties isFile qs :=
    congrArg Report.mk hentries
  rw [validate_of_no_faults hf, validate_of_no_faults hg, hreport, hsettings]

/-- **The answers decide a validation**, whatever clients they come from: where the calls are answered
alike, the report is the same and so are the calls. -/
theorem validate_tapped_congr (hps : Settings.parse isFile ps = .ok s)
    (hanswers : ∀ call ∈ ((standard isFile factory.tapped o).validate ps).log,
      factory.answer s call = other.answer s call) :
    (standard isFile factory.tapped o).validate ps = (standard isFile other.tapped o).validate ps := by
  obtain ⟨hf, rfl⟩ := Settings.parse_eq_ok_iff.mp hps
  by_cases hv : ps.settings.violations = []
  · cases hp : o.probes with
    | false => rw [validate_of_not_probes hf hv hp, validate_of_not_probes hf hv hp]
    | true =>
      rw [validate_of_probes hf hv hp, Logged.log_map] at hanswers
      rw [validate_of_probes hf hv hp, validate_of_probes hf hv hp,
        ClientFactory.probe_tapped_congr hanswers]
  · rw [validate_of_violations hf hv, validate_of_violations hf hv]

end Validator

/-! ## Two validations -/

variable {ε δ : Type}

/-- **The spelling means nothing.**  Configurations that are spelled alike make the same settings, or both
none; and if they make settings, then validations of the two, with clients that answer the calls of the
first one alike, give equal reports and make the same calls. -/
theorem validate_ignores_spelling (isFile : String → Bool) (factory : ClientFactory ε)
    (other : ClientFactory δ) (o : Options) {ps qs : Properties} (h : ps.SpelledAlike qs) :
    (∀ s, Settings.parse isFile qs = .ok s ↔ Settings.parse isFile ps = .ok s) ∧
    ∀ s, Settings.parse isFile ps = .ok s →
      (∀ call ∈ ((Validator.standard isFile factory.tapped o).validate ps).log,
        factory.answer s call = other.answer s call) →
      ((Validator.standard isFile factory o).validate ps).value =
        ((Validator.standard isFile other o).validate qs).value ∧
      ((Validator.standard isFile factory.tapped o).validate ps).log =
        ((Validator.standard isFile other.tapped o).validate qs).log := by
  refine ⟨fun s => ⟨h.symm.parse_eq_ok, h.parse_eq_ok⟩, fun s hs hanswers => ?_⟩
  -- a tapped validation has the report and the calls in one value, so one equation gives both
  have hrun : (Validator.standard isFile factory.tapped o).validate ps =
      (Validator.standard isFile other.tapped o).validate qs := by
    rw [Validator.validate_tapped_congr hs hanswers, Validator.validate_congr hs (h.parse_eq_ok hs)]
  have hreport : ∀ {γ : Type} (maker : ClientFactory γ) (rs : Properties),
      ((Validator.standard isFile maker.tapped o).validate rs).value =
        ((Validator.standard isFile maker o).validate rs).value :=
    fun maker rs => Validator.value_validate_congr maker.value_probe_tapped (.standard isFile) o rs
  refine ⟨?_, congrArg Logged.log hrun⟩
  rw [← hreport factory, ← hreport other, hrun]

/-- A configuration without any blank too many. -/
def tidy : Properties := .ofList
  [("batch.size", "300"), ("behavior.on.null.values", "IGNORE"), ("connection.password", " secret"),
   ("connection.url", "http://[::1]:9200,http://[::2]:9200"), ("connection.username", "sink"),
   ("data.stream.dataset", "orders"), ("data.stream.type", "LOGS"),
   ("key.ignore", "true"), ("linger.ms", "-0"), ("topic.schema.ignore", "a b,,c"), ("topics", "orders")]

/-- The same configuration in another spelling. -/
def untidy : Properties := .ofList
  [("batch.size", "\u00a0300\n"), ("behavior.on.null.values", "Ignore "),
   ("connection.password", " secret"), ("connection.url", " http://[::1]:9200 ,\thttp://[::2]:9200 "),
   ("connection.username", "\u3000sink "), ("data.stream.dataset", " orders"),
   ("data.stream.type", "logs"), ("key.ignore", " TRUE "), ("linger.ms", "-0 "),
   ("topic.schema.ignore", "a b , ,\u2003c"), ("topics", "orders")]

/-- A maker of clients that are turned away as well, but talk of nothing. -/
def taciturn : ClientFactory Empty := fun _ =>
  ⟨.ok ⟨⟨.error (.status 401 "unauthorized"), []⟩, ⟨.ok ⟨"8.0.0", none, none⟩, []⟩, ⟨.ok (), []⟩⟩, []⟩

theorem validate_ignores_spelling_tidy :
    let isFile := fun _ => false
    Settings.parse isFile untidy = .ok tidy.settings ∧
    ((Validator.standard isFile telltale .standard).validate tidy).value =
      ((Validator.standard isFile taciturn .standard).validate untidy).value ∧
    ((Validator.standard isFile taciturn.tapped .standard).validate untidy).log =
      [.create, .ping, .close] := by
  intro isFile
  have hparse : Settings.parse isFile tidy = .ok tidy.settings :=
    Settings.parse_eq_ok_iff.mpr ⟨by decide +kernel, rfl⟩
  have hcalls : ((Validator.standard isFile telltale.tapped .standard).validate tidy).log =
      [.create, .ping, .close] := by decide +kernel
  have hanswers : ∀ call ∈ ((Validator.standard isFile telltale.tapped .standard).validate tidy).log,
      telltale.answer tidy.settings call = taciturn.answer tidy.settings call := by
    intro call hcall
    rw [hcalls] at hcall
    cases call with
    | create | ping | close => rfl
    | info => exact absurd hcall (by decide)
  have h := validate_ignores_spelling isFile telltale taciturn .standard
    (by decide +kernel : tidy.SpelledAlike untidy)
  obtain ⟨hreport, hlog⟩ := h.2 tidy.settings hparse hanswers
  exact ⟨(h.1 tidy.settings).mpr hparse, hreport, hlog.symm.trans hcalls⟩

end SinkCheck
