import SinkCheck.Proofs.Rules
import SinkCheck.Proofs.Validation.Sessions
/-
  Secrets and unknown properties have no say.

  Two configurations *agree openly* if nobody who is not shown the secrets can tell them apart: their
  passwords may differ, as long as they are given or left out together, so may the texts of the settings
  for the encrypted connection, as long as the same ones are given, and unknown properties do not count
  at all.  Every part of a validation respects that agreement: the entries and the faults of the report,
  the rules, and what an outcome of the probe means.  The secrets only reach the client that is made with
  them, so two validations part company only where their clients give different answers.

  Main statements: `entry_eq`, `verdict_eq` and `outcome_eq`, one for each part;
  `probe_tapped_congr`, the same answers make the same probe; `validate_ignores_secrets`, the reports and
  the calls of two validations.
-/

namespace SinkCheck

/-! ## Open agreement -/

/-- The settings that are secret. -/
def Key.passwords : List Key := [.connectionPassword, .proxyPassword]

theorem Key.kind_eq_secret_iff {k : Key} : k.kind = .secret ↔ k ∈ Key.passwords := by
  cases k <;> decide

/-- Do two configurations give the same texts to all settings but the passwords, and the same passwords
and settings of the encrypted connection, whatever their texts? -/
structure Properties.AgreeOpenly (ps qs : Properties) : Prop where
  texts : ∀ k ∉ Key.passwords, ps.get? k.name = qs.get? k.name
  passwords : ∀ k ∈ Key.passwords, (ps.get? k.name).isSome = (qs.get? k.name).isSome
  https : ∀ name, Text.beginsWith Https.head name = true → (name ∈ ps.names ↔ name ∈ qs.names)

section Parts

variable {isFile : String → Bool} {ps qs : Properties} {k : Key}

/-! ## The report -/

/-- Any text is a password, and a password may be left out, so none is ever at fault. -/
theorem Key.resolve_password (hk : k ∈ Key.passwords) :
    k.resolve isFile ps = .ok ((ps.get? k.name).elim .null .secret) := by
  have hcases : k = .connectionPassword ∨ k = .proxyPassword := by
    simpa only [Key.passwords, List.mem_cons, List.not_mem_nil, or_false] using hk
  rcases hcases with rfl | rfl
  · unfold Key.resolve
    cases ps.get? (Key.name .connectionPassword) <;> rfl
  · unfold Key.resolve
    cases ps.get? (Key.name .proxyPassword) <;> rfl

/-- All that is shown of a password is that there is one. -/
theorem Key.shown?_password (hk : k ∈ Key.passwords) :
    k.shown? (ps.resolved isFile) ps = if (ps.get? k.name).isSome then some Value.hidden else none := by
  simp only [Key.shown?, Properties.get?_resolved, Key.resolve_password hk,
    if_pos (Key.kind_eq_secret_iff.mpr hk)]
  cases ps.get? k.name <;> rfl

namespace Properties.AgreeOpenly

variable (h : ps.AgreeOpenly qs)

include h

theorem fault?_eq (isFile : String → Bool) (k : Key) : k.fault? isFile ps = k.fault? isFile qs := by
  unfold Key.fault?
  by_cases hk : k ∈ Key.passwords
  · rw [Key.resolve_password hk, Key.resolve_password hk]
  · rw [Key.resolve, Key.resolve, h.texts k hk]

theorem faults_eq (isFile : String → Bool) : ps.faults isFile = qs.faults isFile := by
  rw [Properties.faults_eq, Properties.faults_eq, funext (h.fault?_eq isFile)]

theorem shown?_eq (isFile : String → Bool) (k : Key) :
    k.shown? (ps.resolved isFile) ps = k.shown? (qs.resolved isFile) qs := by
  by_cases hk : k ∈ Key.passwords
  · -- the values differ here, and only what is shown of them is the same
    rw [Key.shown?_password hk, Key.shown?_password hk, h.passwords k hk]
  · unfold Key.shown?
    rw [Properties.get?_resolved, Properties.get?_resolved, Key.resolve, Key.resolve, h.texts k hk]

/-- The entries of a setting are equal, with what they show and what is found. -/
theorem entry_eq (isFile : String → Bool) (k : Key) : k.entry isFile ps = k.entry isFile qs := by
  rw [Key.entry, Key.entry, Key.cleanEntry, Key.cleanEntry, h.shown?_eq isFile k, h.fault?_eq isFile k]

theorem ofProperties_eq (isFile : String → Bool) :
    Report.ofProperties isFile ps = Report.ofProperties isFile qs := by
  have hentries : (Report.ofProperties isFile ps).entries = (Report.ofProperties isFile qs).entries := by
    rw [Report.entries_ofProperties, Report.entries_ofProperties, funext (h.entry_eq isFile)]
  exact congrArg Report.mk hentries

/-! ## What the texts set -/

/-- What is given is given in both, password or not. -/
theorem has_eq (k : Key) : ps.has k = qs.has k := by
  by_cases hk : k ∈ Key.passwords
  · exact h.passwords k hk
  · exact congrArg Option.isSome (h.texts k hk)

theorem trimmed_eq (hk : k ∉ Key.passwords) : ps.trimmed k = qs.trimmed k := by
  unfold Properties.trimmed Properties.text?
  rw [h.texts k hk]

theorem number_eq (hk : k ∉ Key.passwords) : ps.number k = qs.number k := by
  rw [Properties.number, h.trimmed_eq hk, Properties.number]

theorem isWord_eq (hk : k ∉ Key.passwords) (word : String) : ps.isWord k word = qs.isWord k word := by
  rw [Properties.isWord, h.trimmed_eq hk, Properties.isWord]

theorem isBlank_eq (hk : k ∉ Key.passwords) : ps.isBlank k = qs.isBlank k := by
  rw [Properties.isBlank, h.trimmed_eq hk, Properties.isBlank]

theorem hasItems_eq (hk : k ∉ Key.passwords) : ps.hasItems k = qs.hasItems k := by
  rw [Properties.hasItems, h.trimmed_eq hk, Properties.hasItems]

theorem hasCredentials_eq : ps.hasCredentials = qs.hasCredentials := by
  rw [Properties.hasCredentials, h.has_eq, h.has_eq, Properties.hasCredentials]

theorem hasKerberos_eq : ps.hasKerberos = qs.hasKerberos := by
  rw [Properties.hasKerberos, h.has_eq, h.has_eq, Properties.hasKerberos]

theorem hasProxy_eq : ps.hasProxy = qs.hasProxy := by
  rw [Properties.hasProxy, h.isBlank_eq (by decide), Properties.hasProxy]

theorem hasStreamType_eq : ps.hasStreamType = qs.hasStreamType := by
  rw [Properties.hasStreamType, h.isWord_eq (by decide), Properties.hasStreamType]

theorem hasDataStream_eq : ps.hasDataStream = qs.hasDataStream := by
  rw [Properties.hasDataStream, h.hasStreamType_eq, h.isBlank_eq (by decide),
    Properties.hasDataStream]

/-- The required settings of the encrypted connection have names of that kind, so the same are
missing. -/
theorem missingHttps_eq : ps.missingHttps = qs.missingHttps := by
  refine List.filter_congr fun name hname => ?_
  have hsome : (ps.get? name).isSome = (qs.get? name).isSome := by
    rw [Bool.eq_iff_iff, ← mem_names_iff, ← mem_names_iff]
    exact h.https name (Https.beginsWith_of_mem_required hname)
  rw [← Option.not_isSome, ← Option.not_isSome, hsome]

theorem anyHttps_eq :
    ps.names.any (Text.beginsWith Https.head) = qs.names.any (Text.beginsWith Https.head) := by
  rw [Bool.eq_iff_iff, List.any_eq_true, List.any_eq_true]
  constructor
  · rintro ⟨name, hname, hhead⟩
    exact ⟨name, (h.https name hhead).mp hname, hhead⟩
  · rintro ⟨name, hname, hhead⟩
    exact ⟨name, (h.https name hhead).mpr hname, hhead⟩

/-! ## The rules -/

/-- **Each rule** comes to the same verdict. -/
theorem verdict_eq (r : Rule) : r.verdict ps = r.verdict qs := by
  cases r with
  | credentials => rw [Rule.verdict, h.has_eq, h.has_eq, Rule.verdict]
  | dataStreamPair =>
    rw [Rule.verdict, h.hasStreamType_eq, h.isBlank_eq (by decide), Rule.verdict]
  | dataStreamUpsert =>
    rw [Rule.verdict, h.hasDataStream_eq, h.isWord_eq (by decide), Rule.verdict]
  | dataStreamDelete =>
    rw [Rule.verdict, h.hasDataStream_eq, h.isWord_eq (by decide), Rule.verdict]
  | timestampField =>
    rw [Rule.verdict, h.hasDataStream_eq, h.hasItems_eq (by decide), Rule.verdict]
  | ignoreKey =>
    rw [Rule.verdict, h.isWord_eq (by decide), h.hasItems_eq (by decide), Rule.verdict]
  | ignoreSchema =>
    rw [Rule.verdict, h.isWord_eq (by decide), h.hasItems_eq (by decide), Rule.verdict]
  | kerberosPair => rw [Rule.verdict, h.has_eq, h.has_eq, Rule.verdict]
  | kerberosCredentials => rw [Rule.verdict, h.hasKerberos_eq, h.hasCredentials_eq, Rule.verdict]
  | kerberosProxy => rw [Rule.verdict, h.hasKerberos_eq, h.hasProxy_eq, Rule.verdict]
  | linger =>
    simp only [Rule.verdict, h.number_eq (k := .lingerMs) (by decide),
      h.number_eq (k := .flushTimeoutMs) (by decide)]
  | bufferCapacity =>
    simp only [Rule.verdict, h.number_eq (k := .maxBufferedRecords) (by decide),
      h.number_eq (k := .batchSize) (by decide), h.number_eq (k := .maxInFlightRequests) (by decide)]
  | proxy =>
    rw [Rule.verdict, h.hasProxy_eq, h.isBlank_eq (by decide), h.has_eq, Rule.verdict]
  | ssl =>
    have hany := h.anyHttps_eq
    rw [Https.head] at hany
    rw [Rule.verdict, h.isWord_eq (by decide), h.missingHttps_eq, hany, Rule.verdict]

theorem violations_eq (hf : ps.faults isFile = []) :
    ps.settings.violations = qs.settings.violations := by
  have hg : qs.faults isFile = [] := h.faults_eq isFile ▸ hf
  unfold Settings.violations
  refine congrArg (Rule.all.flatMap ·) (funext fun r => ?_)
  rw [Rule.violations_settings hf, Rule.violations_settings hg, h.verdict_eq]

/-! ## Outcomes of the probe -/

theorem isProxyAuthenticated_settings_eq :
    ps.settings.isProxyAuthenticated = qs.settings.isProxyAuthenticated := by
  rw [Settings.isProxyAuthenticated, Settings.isProxyAuthenticated, isProxyConfigured_settings,
    isProxyConfigured_settings, isSome_proxyPassword, isSome_proxyPassword, h.hasProxy_eq, h.has_eq]
  have hname : ps.settings.proxyUsername = qs.settings.proxyUsername := h.trimmed_eq (by decide)
  rw [hname]

theorem connectionViolations_eq (hf : ps.faults isFile = []) (detail : String) :
    connectionViolations ps.settings detail = connectionViolations qs.settings detail := by
  have hg : qs.faults isFile = [] := h.faults_eq isFile ▸ hf
  rw [connectionViolations, connectionViolations, isAuthenticated_settings, isAuthenticated_settings,
    isSslEnabled_settings hf, isSslEnabled_settings hg, isKerberosEnabled_settings,
    isKerberosEnabled_settings, isProxyConfigured_settings, isProxyConfigured_settings,
    h.isProxyAuthenticated_settings_eq, h.hasCredentials_eq, h.isWord_eq (by decide),
    h.hasKerberos_eq, h.hasProxy_eq]

theorem serverViolations_eq (hf : ps.faults isFile = []) (o : Options) (server : String) :
    serverViolations ps.settings o server = serverViolations qs.settings o server := by
  have hg : qs.faults isFile = [] := h.faults_eq isFile ▸ hf
  have hgate : dataStreamGate ps.settings server o = dataStreamGate qs.settings server o := by
    rw [dataStreamGate, dataStreamGate, isDataStream_settings hf, isDataStream_settings hg,
      h.hasDataStream_eq]
  rw [serverViolations, versionViolations, hgate, ← versionViolations, ← serverViolations]

/-- **An outcome of the probe** means the same. -/
theorem outcome_eq (hf : ps.faults isFile = []) (o : Options) (outcome : Outcome) :
    outcome.violations o ps.settings = outcome.violations o qs.settings := by
  have hlife : ∀ liveness : Liveness,
      liveness.violations ps.settings = liveness.violations qs.settings := by
    intro liveness
    cases liveness with
    | unreachable detail => exact h.connectionViolations_eq hf detail
    | reachable => rw [Liveness.violations, Liveness.violations]
    | denied => rw [Liveness.violations, Liveness.violations]
  cases outcome with
  | unavailable detail => rw [Outcome.violations, Outcome.violations]
  | completed liveness version =>
    cases version with
    | none => rw [Outcome.violations, hlife, Outcome.violations]
    | some server => rw [Outcome.violations, hlife, h.serverViolations_eq hf, Outcome.violations]

end Properties.AgreeOpenly

end Parts

/-! ## Calls and answers

  A client may log whatever it likes, its secrets included.  What counts here is how it is called and
  what it answers. -/

variable {ε : Type}

/-- The client, logging the calls on it and nothing else. -/
def Client.tapped (c : Client ε) : Client Call :=
  ⟨⟨c.ping.value, [.ping]⟩, ⟨c.info.value, [.info]⟩, ⟨c.close.value, [.close]⟩⟩

/-- The maker of clients, logging the calls on itself and on its clients and nothing else. -/
def ClientFactory.tapped (factory : ClientFactory ε) : ClientFactory Call := fun s =>
  ⟨(factory s).value.map Client.tapped, [.create]⟩

/-- The use of a client that a call is, if it is not the making of one. -/
def Call.use? : Call → Option Use
  | create => none
  | ping => some .ping
  | info => some .info
  | close => some .close

/-- The answer to a call.  The making of a client has none, or the failure that there is no client. -/
def ClientFactory.answer (factory : ClientFactory ε) (s : Settings) (call : Call) :
    Except ClientError (Option Answer) :=
  (factory s).value.map fun c => call.use?.map fun use => (c.perform use).value

namespace ClientFactory

variable {factory : ClientFactory ε} {s t : Settings}

theorem probe_tapped_of_error {e : ClientError} (h : (factory s).value = .error e) :
    factory.tapped.probe s = ⟨.unavailable e.message, [.create]⟩ := by
  have ht : (factory.tapped s).value = .error e := by rw [tapped, h]; rfl
  rw [probe, withClient_of_error ht]
  rfl

theorem probe_tapped_of_ok {c : Client ε} (h : (factory s).value = .ok c) :
    factory.tapped.probe s =
      if (Liveness.ofAnswer c.ping.value).isReachable then
        ⟨.completed (Liveness.ofAnswer c.ping.value) (c.info.value.toOption.map ServerInfo.version),
          [.create, .ping, .info, .close]⟩
      else ⟨.completed (Liveness.ofAnswer c.ping.value) none, [.create, .ping, .close]⟩ := by
  have ht : (factory.tapped s).value = .ok c.tapped := by rw [tapped, h]; rfl
  rw [probe, withClient_of_ok ht]
  by_cases hl : (Liveness.ofAnswer c.ping.value).isReachable = true
  · rw [if_pos hl]
    ext <;> simp [tapped, Client.tapped, Client.examine, Client.liveness, Client.version?, hl]
  · rw [if_neg hl]
    ext <;> simp [tapped, Client.tapped, Client.examine, Client.liveness, hl]

/-- A tapped probe finds out what the probe finds out. -/
theorem value_probe_tapped (factory : ClientFactory ε) (s : Settings) :
    (factory.tapped.probe s).value = (factory.probe s).value := by
  rw [value_probe factory]
  cases h : (factory s).value with
  | error e => rw [probe_tapped_of_error h]
  | ok c =>
    simp only [probe_tapped_of_ok h, Client.value_examine]
    split <;> rfl

/-- **The same answers make the same probe**, be it with other settings or with another maker of clients.
It is enough that the calls of one probe are answered alike; that the other makes the same calls follows. -/
theorem probe_tapped_congr {δ : Type} {other : ClientFactory δ}
    (h : ∀ call ∈ (factory.tapped.probe s).log, factory.answer s call = other.answer t call) :
    factory.tapped.probe s = other.tapped.probe t := by
  cases hs : (factory s).value with
  | error e =>
    rw [probe_tapped_of_error hs] at h ⊢
    have hmake := h .create List.mem_cons_self
    rw [answer, answer, hs] at hmake
    cases ht : (other t).value with
    | error e' =>
      rw [ht] at hmake
      cases hmake
      rw [probe_tapped_of_error ht]
    | ok d => rw [ht] at hmake; cases hmake
  | ok c =>
    rw [probe_tapped_of_ok hs] at h ⊢
    have hping := h .ping (by split <;> simp)
    rw [answer, answer, hs] at hping
    cases ht : (other t).value with
    | error e => rw [ht] at hping; cases hping
    | ok d =>
      rw [ht] at hping
      have hlife : c.ping.value = d.ping.value := by
        simpa [Except.map, Call.use?, Client.perform] using hping
      rw [probe_tapped_of_ok ht, ← hlife]
      -- the version is asked of a reachable service only, so only there the answers have to agree
      by_cases hl : (Liveness.ofAnswer c.ping.value).isReachable = true
      · rw [if_pos hl] at h
        have hinfo := h .info (by simp)
        rw [answer, answer, hs, ht] at hinfo
        have hversion : c.info.value = d.info.value := by
          simpa [Except.map, Call.use?, Client.perform] using hinfo
        rw [hversion]
      · rw [if_neg hl, if_neg hl]

end ClientFactory

/-! ## Two validations -/

/-- **Secrets and unknown properties have no say.**  Validations of two configurations that agree
openly, with clients that answer the calls of the first one alike, give equal reports and make the same
calls. -/
theorem validate_ignores_secrets (isFile : String → Bool) (factory : ClientFactory ε) (o : Options)
    {ps qs : Properties} (h : ps.AgreeOpenly qs)
    (hanswers : ∀ s t, Settings.parse isFile ps = .ok s → Settings.parse isFile qs = .ok t →
      ∀ call ∈ ((Validator.standard isFile factory.tapped o).validate ps).log,
        factory.answer s call = factory.answer t call) :
    ((Validator.standard isFile factory o).validate ps).value =
      ((Validator.standard isFile factory o).validate qs).value ∧
    ((Validator.standard isFile factory.tapped o).validate ps).log =
      ((Validator.standard isFile factory.tapped o).validate qs).log := by
  have hreport := h.ofProperties_eq isFile
  -- a tapped validation has the report and the calls in one value, so one equation gives both
  suffices hrun : (Validator.standard isFile factory.tapped o).validate ps =
      (Validator.standard isFile factory.tapped o).validate qs by
    refine ⟨?_, congrArg Logged.log hrun⟩
    have htap := Validator.value_validate_congr factory.value_probe_tapped (.standard isFile) o
    exact (htap ps).symm.trans ((congrArg Logged.value hrun).trans (htap qs))
  by_cases hf : ps.faults isFile = []
  · have hg : qs.faults isFile = [] := h.faults_eq isFile ▸ hf
    have hrules := h.violations_eq hf
    by_cases hv : ps.settings.violations = []
    · have hw : qs.settings.violations = [] := hrules ▸ hv
      cases hp : o.probes with
      | false =>
        rw [Validator.validate_of_not_probes hf hv hp, Validator.validate_of_not_probes hg hw hp, hreport]
      | true =>
        have hprobe : factory.tapped.probe ps.settings = factory.tapped.probe qs.settings := by
          refine ClientFactory.probe_tapped_congr fun call hcall => ?_
          refine hanswers _ _ (Settings.parse_eq_ok_iff.mpr ⟨hf, rfl⟩)
            (Settings.parse_eq_ok_iff.mpr ⟨hg, rfl⟩) call ?_
          rwa [Validator.validate_of_probes hf hv hp, Logged.log_map]
        rw [Validator.validate_of_probes hf hv hp, Validator.validate_of_probes hg hw hp, hprobe,
          hreport, funext (h.outcome_eq hf o)]
    · have hw : qs.settings.violations ≠ [] := hrules ▸ hv
      rw [Validator.validate_of_violations hf hv, Validator.validate_of_violations hg hw, hreport, hrules]
  · have hg : qs.faults isFile ≠ [] := h.faults_eq isFile ▸ hf
    rw [Validator.validate_of_faults hf, Validator.validate_of_faults hg, hreport]

/-- A configuration with passwords and an encrypted connection. -/
def guarded : Properties where
  entries :=
    [("connection.password", "correct horse"), ("connection.url", "http://[::1]:9200"),
     ("connection.username", "sink"), ("elastic.https.ssl.keystore.location", "/keys"),
     ("elastic.https.ssl.keystore.password", "battery"),
     ("elastic.https.ssl.truststore.location", "/trust"),
     ("elastic.https.ssl.truststore.password", "staple"), ("elastic.security.protocol", "ssl"),
     ("proxy.host", "gate"), ("proxy.password", "[hidden]"), ("proxy.username", "sink"),
     ("tasks.max", "3")]
  ordered := by unfold Keyed.Ordered; decide +kernel

/-- The same configuration with other secrets and other unknown properties. -/
def guardedElse : Properties where
  entries :=
    [("connection.password", ""), ("connection.password ", "none"),
     ("connection.url", "http://[::1]:9200"), ("connection.username", "sink"),
     ("elastic.https.ssl.keystore.location", ""), ("elastic.https.ssl.keystore.password", " "),
     ("elastic.https.ssl.truststore.location", ""), ("elastic.https.ssl.truststore.password", "x"),
     ("elastic.security.protocol", "ssl"), ("proxy.host", "gate"), ("proxy.password", "8080"),
     ("proxy.username", "sink"), ("topics", "a")]
  ordered := by unfold Keyed.Ordered; decide +kernel

/-- A maker of clients that are turned away and talk of the passwords. -/
def telltale : ClientFactory (Option String) := fun s =>
  ⟨.ok ⟨⟨.error (.status 401 "unauthorized"), [s.password]⟩, ⟨.error (.other "unasked"), []⟩,
    ⟨.ok (), [s.proxyPassword]⟩⟩, []⟩

theorem guarded_agreeOpenly : guarded.AgreeOpenly guardedElse := by
  have htexts : ∀ k ∈ Key.all, k ∉ Key.passwords →
      guarded.get? k.name = guardedElse.get? k.name := by decide +kernel
  have hnames : (guarded.filter (Text.beginsWith Https.head)).names =
      (guardedElse.filter (Text.beginsWith Https.head)).names := by decide +kernel
  refine ⟨fun k => htexts k (Key.mem_all k), by decide +kernel, fun name hhead => ?_⟩
  have hp : name ∈ (guarded.filter (Text.beginsWith Https.head)).names ↔ name ∈ guarded.names :=
    Properties.mem_names_filter_iff.trans (and_iff_left hhead)
  have hq : name ∈ (guardedElse.filter (Text.beginsWith Https.head)).names ↔
      name ∈ guardedElse.names :=
    Properties.mem_names_filter_iff.trans (and_iff_left hhead)
  rw [← hp, hnames, hq]

theorem validate_ignores_secrets_guarded :
    let calls := fun ps =>
      ((Validator.standard (fun _ => false) telltale.tapped .standard).validate ps).log
    let report := fun ps => ((Validator.standard (fun _ => false) telltale .standard).validate ps).value
    report guarded = report guardedElse ∧ calls guarded = calls guardedElse ∧
      calls guarded = [.create, .ping, .close] := by
  have hrefused : ∀ s t call, telltale.answer s call = telltale.answer t call := by
    intro s t call
    cases call <;> rfl
  have h := validate_ignores_secrets (fun _ => false) telltale .standard guarded_agreeOpenly
    (fun s t _ _ call _ => hrefused s t call)
  have hcalls : ((Validator.standard (fun _ => false) telltale.tapped .standard).validate guarded).log =
      [.create, .ping, .close] := by decide +kernel
  exact ⟨h.1, h.2, hcalls⟩

end SinkCheck
