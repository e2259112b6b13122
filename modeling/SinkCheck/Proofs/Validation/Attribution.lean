import Mathlib.Logic.Basic
import SinkCheck.Proofs.Report.History
import SinkCheck.Proofs.Report.Values
import SinkCheck.Proofs.Rules
import SinkCheck.Proofs.Validation.Acceptance
/-
  Whom an unreachable service is blamed on.

  A service that does not answer is held against the address, and against every feature that may be the
  cause: the credentials, the encryption, Kerberos and the proxy.  Which features a configuration uses can
  be told from its texts (`Properties.suspicion`), without the settings.  That no setting is suspected
  twice and that Kerberos never stands beside credentials or a proxy is not a matter of the probe: the
  rules see to it, and the probe only runs when none of them is broken.

  The findings of a setting are counted name by name in `issuesFor`, so everything comes down to what the
  violations of the probe add to one name.

  Main statements: `flatMap_issuesFor_connectionViolations`, what an unreachable service adds to a
  setting; `entries_attachAll_of_no_faults`, the report behind the probe; `unreachable_blames`.
-/

namespace SinkCheck

open Report (issuesFor)

/-! ## Suspicion -/

/-- The issue that an unreachable service raises at a setting, going by the texts. -/
def Properties.suspicion (ps : Properties) (detail : String) : Key → Option Issue
  | .connectionUrl => some (.connectionFailed detail)
  | .connectionUsername | .connectionPassword =>
    if ps.hasCredentials then some (.authenticationFailed detail) else none
  | .securityProtocol =>
    if ps.isWord .securityProtocol "SSL" then some (.sslConnectionFailed detail) else none
  | .kerberosPrincipal | .kerberosKeytabPath =>
    if ps.hasKerberos then some (.kerberosConnectionFailed detail) else none
  | .proxyHost | .proxyPort =>
    if ps.hasProxy then some (.proxyConnectionFailed detail) else none
  | .proxyUsername | .proxyPassword =>
    if ps.hasProxy && !ps.isBlank .proxyUsername then some (.proxyConnectionFailed detail) else none
  | _ => none

/-- An answer that tells nothing of a living service, and what it tells instead. -/
inductive Unanswered : Except ClientError Bool → String → Prop where
  | dead : Unanswered (.ok false) ""
  | failed (e : ClientError) (h : ∀ m, e ≠ .status 403 m) : Unanswered (.error e) e.message

theorem Liveness.ofAnswer_of_unanswered {answer : Except ClientError Bool} {detail : String}
    (h : Unanswered answer detail) : Liveness.ofAnswer answer = .unreachable detail := by
  cases h with
  | dead => rfl
  | failed e h =>
    have hforbidden : ¬e.isForbidden = true := by
      cases e with
      | status c m =>
        intro hc
        have hcode : c = 403 := by simpa [ClientError.isForbidden, ClientError.code?] using hc
        exact h m (by rw [hcode])
      | transport m => exact Bool.false_ne_true
      | other m => exact Bool.false_ne_true
    exact if_neg hforbidden

/-! ## What the rules rule out -/

section Rules

variable {isFile : String → Bool} {ps : Properties}

/-- Where no violation is found every rule is content with the texts. -/
theorem Rule.verdict_eq_nil (hf : ps.faults isFile = []) (hv : ps.settings.violations = []) (r : Rule) :
    r.verdict ps = [] := by
  rw [← Rule.violations_settings hf]
  exact List.flatMap_eq_nil_iff.mp hv r (Rule.mem_all r)

theorem Properties.not_hasKerberos_and_hasCredentials (hf : ps.faults isFile = [])
    (hv : ps.settings.violations = []) : ¬(ps.hasKerberos = true ∧ ps.hasCredentials = true) := by
  rintro ⟨hk, hc⟩
  have hverdict := Rule.verdict_eq_nil hf hv .kerberosCredentials
  rw [Rule.verdict, hk, hc] at hverdict
  cases hverdict

theorem Properties.not_hasKerberos_and_hasProxy (hf : ps.faults isFile = [])
    (hv : ps.settings.violations = []) : ¬(ps.hasKerberos = true ∧ ps.hasProxy = true) := by
  rintro ⟨hk, hp⟩
  have hverdict := Rule.verdict_eq_nil hf hv .kerberosProxy
  rw [Rule.verdict, hk, hp] at hverdict
  cases hverdict

/-- A name for the proxy comes with a password, so either of them tells whether the sink logs in there. -/
theorem Properties.isProxyAuthenticated_settings (hf : ps.faults isFile = [])
    (hv : ps.settings.violations = []) :
    ps.settings.isProxyAuthenticated = (ps.hasProxy && !ps.isBlank .proxyUsername) := by
  have hname : (!ps.settings.proxyUsername.isEmpty) = !ps.isBlank .proxyUsername :=
    congrArg (!·) (Properties.isEmpty_trimmed ps .proxyUsername)
  have hverdict := Rule.verdict_eq_nil hf hv .proxy
  rw [Settings.isProxyAuthenticated, Properties.isProxyConfigured_settings, hname,
    Properties.isSome_proxyPassword]
  cases hp : ps.hasProxy with
  | false => rfl
  | true =>
    rw [Rule.verdict, hp, if_pos rfl] at hverdict
    split at hverdict
    · cases hverdict
    · next hpair =>
      have agree : ∀ blank has : Bool, ¬(!(blank != has)) = true →
          (true && !blank && has) = (true && !blank) := by decide
      exact agree _ _ hpair

end Rules

/-! ## What a violation adds to a setting -/

section Issues

variable (k : Key) (detail : String)

theorem issuesFor_on {keys : List Key} (h : keys.Nodup) (issue : Issue) :
    issuesFor k.name (.on keys issue) = if k ∈ keys then [.issue issue] else [] := by
  have hnames : (keys.map Key.name).Nodup :=
    List.Pairwise.map Key.name (fun _ _ hne hname => hne (Key.name_injective hname)) h
  have hmem : k.name ∈ keys.map Key.name ↔ k ∈ keys := by simp
  show List.replicate ((keys.map Key.name).count k.name) _ = _
  rw [List.Nodup.count hnames]
  by_cases hk : k ∈ keys
  · rw [if_pos (hmem.mpr hk), if_pos hk]
    rfl
  · rw [if_neg (mt hmem.mp hk), if_neg hk]
    rfl

/-- A violation that hangs on a condition. -/
theorem flatMap_issuesFor_if {keys : List Key} (h : keys.Nodup) (c : Bool) (issue : Issue) :
    (if c then [Violation.on keys issue] else []).flatMap (issuesFor k.name) =
      if c = true ∧ k ∈ keys then [.issue issue] else [] := by
  cases c with
  | false => simp
  | true => simp [issuesFor_on k h]

/-- **What an unreachable service adds to a setting** is the issue of its feature, once. -/
theorem flatMap_issuesFor_connectionViolations {isFile : String → Bool} {ps : Properties}
    (hf : ps.faults isFile = []) (hv : ps.settings.violations = []) :
    (connectionViolations ps.settings detail).flatMap (issuesFor k.name) =
      (ps.suspicion detail k).toList.map Finding.issue := by
  rw [connectionViolations, Properties.isAuthenticated_settings, Properties.isSslEnabled_settings hf,
    Properties.isKerberosEnabled_settings, Properties.isProxyConfigured_settings,
    Properties.isProxyAuthenticated_settings hf hv]
  have hproxy : (if (ps.hasProxy && !ps.isBlank .proxyUsername) = true then
      [Key.proxyHost, .proxyPort, .proxyUsername, .proxyPassword]
      else [.proxyHost, .proxyPort]).Nodup := by
    split <;> decide
  have hmem : ∀ c : Bool, (k ∈ if c = true then
      [Key.proxyHost, .proxyPort, .proxyUsername, .proxyPassword] else [.proxyHost, .proxyPort]) ↔
      k ∈ [Key.proxyHost, .proxyPort] ∨ (c = true ∧ k ∈ [Key.proxyUsername, .proxyPassword]) := by
    intro c
    cases c <;> simp [or_assoc]
  simp only [List.flatMap_append, List.flatMap_singleton,
    issuesFor_on k (by decide : [Key.connectionUrl].Nodup),
    flatMap_issuesFor_if k (by decide : [Key.connectionUsername, .connectionPassword].Nodup),
    flatMap_issuesFor_if k (by decide : [Key.securityProtocol].Nodup),
    flatMap_issuesFor_if k (by decide : [Key.kerberosPrincipal, .kerberosKeytabPath].Nodup),
    flatMap_issuesFor_if k hproxy, hmem]
  -- a setting belongs to one feature at most, so at most one of the five conditions can hold of it
  cases k <;> simp [Properties.suspicion, apply_ite Option.toList, apply_ite (List.map Finding.issue)]

end Issues

/-! ## Whom an outcome of the probe is held against -/

/-- The settings that are not asked for by a feature of the connection, but by the version of the
service. -/
def Key.versioned : List Key := [.connectionUrl, .dataStreamType, .dataStreamDataset]

section Outcomes

variable {s : Settings} {o : Options} {v : Violation} {k : Key}

theorem Key.mem_of_mem_fields_on {keys : List Key} {issue : Issue}
    (h : k.name ∈ (Violation.on keys issue).fields) : k ∈ keys := by
  obtain ⟨l, hl, hname⟩ := List.mem_map.mp h
  rwa [← Key.name_injective hname]

theorem mem_versioned_of_dataStreamGate {server : String} {vs : List Violation}
    (h : dataStreamGate s server o = .ok vs) (hv : v ∈ vs) (hk : k.name ∈ v.fields) :
    k ∈ Key.versioned := by
  unfold dataStreamGate at h
  split at h
  · split at h
    · cases h
    · cases h
      rw [List.mem_singleton.mp hv] at hk
      exact Key.mem_of_mem_fields_on hk
    · cases h; cases hv
  · cases h; cases hv

theorem mem_versioned_of_connectorGate {server : String} {vs : List Violation}
    (h : connectorGate server o = .ok vs) (hv : v ∈ vs) (hk : k.name ∈ v.fields) :
    k ∈ Key.versioned := by
  unfold connectorGate at h
  split at h
  · cases h
  · cases h
    rw [List.mem_singleton.mp hv] at hk
    rw [List.mem_singleton.mp (Key.mem_of_mem_fields_on hk)]
    exact List.mem_cons_self
  · cases h; cases hv

theorem mem_versioned_of_serverViolations {server : String} (hv : v ∈ serverViolations s o server)
    (hk : k.name ∈ v.fields) : k ∈ Key.versioned := by
  unfold serverViolations at hv
  split at hv
  · next vs hvs =>
    obtain ⟨us, ws, hu, hw, rfl⟩ := versionViolations_eq_ok_iff.mp hvs
    rcases List.mem_append.mp hv with hv | hv
    · exact mem_versioned_of_dataStreamGate hu hv hk
    · exact mem_versioned_of_connectorGate hw hv hk
  · rw [List.mem_singleton.mp hv] at hk
    rw [List.mem_singleton.mp (Key.mem_of_mem_fields_on hk)]
    exact List.mem_cons_self

/-- **Every other setting** that an outcome is held against is blamed for an unreachable service. -/
theorem Outcome.mem_connectionViolations {outcome : Outcome} (hv : v ∈ outcome.violations o s)
    (hk : k.name ∈ v.fields) (hother : k ∉ Key.versioned) :
    ∃ detail, v ∈ connectionViolations s detail := by
  have live {liveness : Liveness} (hv : v ∈ liveness.violations s) :
      ∃ detail, v ∈ connectionViolations s detail := by
    cases liveness with
    | unreachable detail => exact ⟨detail, hv⟩
    | reachable => cases hv
    | denied => cases hv
  cases outcome with
  | unavailable detail =>
    rw [List.mem_singleton.mp hv] at hk
    rw [List.mem_singleton.mp (Key.mem_of_mem_fields_on hk)] at hother
    exact absurd List.mem_cons_self hother
  | completed liveness version =>
    cases version with
    | none => exact live hv
    | some server =>
      rcases List.mem_append.mp hv with hv | hv
      · exact live hv
      · exact absurd (mem_versioned_of_serverViolations hv hk) hother

end Outcomes

/-! ## The report behind the probe -/

/-- Is anything found at a setting? -/
def Report.Flags (r : Report) (k : Key) : Prop := ∃ e ∈ r.entries, e.name = k.name ∧ e.findings ≠ []

/-- The settings of Kerberos. -/
def Key.kerberos : List Key := [.kerberosPrincipal, .kerberosKeytabPath]

/-- The settings of the credentials and of the proxy. -/
def Key.access : List Key :=
  [.connectionUsername, .connectionPassword, .proxyHost, .proxyPort, .proxyUsername, .proxyPassword]

section Reports

variable {ε : Type} {isFile : String → Bool} {ps : Properties} {factory : ClientFactory ε} {o : Options}
  {vs : List Violation} {k : Key}

/-- Violations of settings are all that is found where the syntax is without fault. -/
theorem Report.entries_attachAll_of_no_faults (hf : ps.faults isFile = [])
    (hs : ∀ v ∈ vs, v.HitsSettings) :
    ((Report.ofProperties isFile ps).attachAll vs).entries =
      Key.all.map fun k => ⟨k.name, ps.settings.shown? k, vs.flatMap (issuesFor k.name)⟩ := by
  have hnames := Report.names_ofProperties isFile ps
  have hn : (Report.ofProperties isFile ps).names.Nodup := hnames ▸ Key.nodup_names
  rw [Report.entries_attachAll hn, Report.entries_of_no_faults hf, List.map_map]
  · rfl
  · intro v hv name hname
    obtain ⟨keys, -, hkeys⟩ := hs v hv
    rw [hkeys] at hname
    obtain ⟨k, -, rfl⟩ := List.mem_map.mp hname
    rw [hnames]
    exact List.mem_map_of_mem (Key.mem_all k)

/-- A setting is flagged if a violation is held against it. -/
theorem Report.flags_attachAll_iff (hf : ps.faults isFile = []) (hs : ∀ v ∈ vs, v.HitsSettings) :
    ((Report.ofProperties isFile ps).attachAll vs).Flags k ↔ ∃ v ∈ vs, k.name ∈ v.fields := by
  have hfound : vs.flatMap (issuesFor k.name) ≠ [] ↔ ∃ v ∈ vs, k.name ∈ v.fields := by
    simp [List.flatMap_eq_nil_iff, Report.Change.issuesFor_eq_nil_iff]
  rw [Report.Flags, Report.entries_attachAll_of_no_faults hf hs, ← hfound]
  constructor
  · rintro ⟨e, he, hname, hne⟩
    obtain ⟨l, -, rfl⟩ := List.mem_map.mp he
    rwa [← Key.name_injective hname]
  · intro hne
    exact ⟨_, List.mem_map_of_mem (Key.mem_all k), rfl, hne⟩

/-- Without faults and violations, the report is that of the syntax and of what the probe found out, if
there was one. -/
theorem Validator.value_validate_of_clean (factory : ClientFactory ε) (o : Options)
    (hf : ps.faults isFile = []) (hv : ps.settings.violations = []) :
    ∃ vs, ((Validator.standard isFile factory o).validate ps).value =
        (Report.ofProperties isFile ps).attachAll vs ∧
      (vs = [] ∨ ∃ outcome : Outcome, vs = outcome.violations o ps.settings) := by
  cases hp : o.probes with
  | false =>
    rw [validate_of_not_probes hf hv hp]
    exact ⟨[], rfl, Or.inl rfl⟩
  | true =>
    rw [validate_of_probes hf hv hp]
    exact ⟨_, rfl, Or.inr ⟨_, rfl⟩⟩

/-- A setting that is blamed for an unreachable service is suspected. -/
theorem Properties.suspicion_ne_none (hf : ps.faults isFile = []) (hv : ps.settings.violations = [])
    {v : Violation} {detail : String} (hmem : v ∈ connectionViolations ps.settings detail)
    (hk : k.name ∈ v.fields) : ps.suspicion detail k ≠ none := by
  intro hnone
  have hnil := flatMap_issuesFor_connectionViolations k detail hf hv
  rw [hnone] at hnil
  exact Report.Change.issuesFor_eq_nil_iff.mp (List.flatMap_eq_nil_iff.mp hnil v hmem) hk

/-- Kerberos is suspected only where something of it is set. -/
theorem Properties.hasKerberos_of_suspicion {detail : String} (hk : k ∈ Key.kerberos)
    (h : ps.suspicion detail k ≠ none) : ps.hasKerberos = true := by
  simp only [Key.kerberos, List.mem_cons, List.not_mem_nil, or_false] at hk
  rcases hk with rfl | rfl <;> exact (ite_ne_right_iff.mp h).1

/-- Credentials and proxy are suspected only where they are used. -/
theorem Properties.hasCredentials_or_hasProxy_of_suspicion {detail : String} (hk : k ∈ Key.access)
    (h : ps.suspicion detail k ≠ none) : ps.hasCredentials = true ∨ ps.hasProxy = true := by
  simp only [Key.access, List.mem_cons, List.not_mem_nil, or_false] at hk
  rcases hk with rfl | rfl | rfl | rfl | rfl | rfl
  · exact Or.inl (ite_ne_right_iff.mp h).1
  · exact Or.inl (ite_ne_right_iff.mp h).1
  · exact Or.inr (ite_ne_right_iff.mp h).1
  · exact Or.inr (ite_ne_right_iff.mp h).1
  · exact Or.inr (Bool.and_eq_true_iff.mp (ite_ne_right_iff.mp h).1).1
  · exact Or.inr (Bool.and_eq_true_iff.mp (ite_ne_right_iff.mp h).1).1

/-- Kerberos is never flagged beside credentials or a proxy. -/
theorem Validator.not_flags_and_flags (hf : ps.faults isFile = []) (hv : ps.settings.violations = [])
    {l : Key} (hk : k ∈ Key.kerberos) (hl : l ∈ Key.access) :
    ¬(((Validator.standard isFile factory o).validate ps).value.Flags k ∧
      ((Validator.standard isFile factory o).validate ps).value.Flags l) := by
  obtain ⟨vs, hreport, hvs⟩ := Validator.value_validate_of_clean factory o hf hv
  have hs : ∀ v ∈ vs, v.HitsSettings := by
    rcases hvs with rfl | ⟨outcome, rfl⟩
    · exact List.forall_mem_nil _
    · exact outcome.hitsSettings o ps.settings
  -- a flag on a setting of a feature other than the connection is the suspicion of that feature
  have suspected {k : Key} (hother : k ∉ Key.versioned) (hflag : ∃ v ∈ vs, k.name ∈ v.fields) :
      ∃ detail, ps.suspicion detail k ≠ none := by
    obtain ⟨v, hmem, hname⟩ := hflag
    rcases hvs with rfl | ⟨outcome, rfl⟩
    · cases hmem
    · obtain ⟨detail, hdetail⟩ := Outcome.mem_connectionViolations hmem hname hother
      exact ⟨detail, Properties.suspicion_ne_none hf hv hdetail hname⟩
  rw [hreport, Report.flags_attachAll_iff hf hs, Report.flags_attachAll_iff hf hs]
  rintro ⟨hflagk, hflagl⟩
  have hdisjoint : ∀ k ∈ Key.kerberos ++ Key.access, k ∉ Key.versioned := by decide
  obtain ⟨_, hnek⟩ := suspected (hdisjoint k (List.mem_append_left _ hk)) hflagk
  obtain ⟨_, hnel⟩ := suspected (hdisjoint l (List.mem_append_right _ hl)) hflagl
  have hkerberos := Properties.hasKerberos_of_suspicion hk hnek
  have haccess := Properties.hasCredentials_or_hasProxy_of_suspicion hl hnel
  rcases haccess with hc | hp
  · exact Properties.not_hasKerberos_and_hasCredentials hf hv ⟨hkerberos, hc⟩
  · exact Properties.not_hasKerberos_and_hasProxy hf hv ⟨hkerberos, hp⟩

/-- A configuration that uses every feature but Kerberos. -/
def exposed : Properties := .ofList
  [("connection.url", "http://[::1]:9200"), ("connection.username", ""), ("connection.password", ""),
   ("elastic.security.protocol", " ssl"), ("elastic.https.ssl.keystore.location", "/keys"),
   ("elastic.https.ssl.keystore.password", "battery"),
   ("elastic.https.ssl.truststore.location", "/trust"),
   ("elastic.https.ssl.truststore.password", "staple"), ("proxy.host", "gate"),
   ("proxy.username", "sink"), ("proxy.password", "")]

/-- A configuration that uses Kerberos and blank texts for all else. -/
def ticketed : Properties := .ofList
  [("connection.url", "http://[::1]:9200"), ("kerberos.user.principal", " "),
   ("kerberos.keytab.path", "sink.keytab"), ("proxy.host", " "), ("connection.timeout.ms", "0")]

/-- The names and issues of the entries with findings. -/
def Report.blamed (r : Report) : List (String × List Finding) :=
  r.invalid.map fun e => (e.name, e.findings)

end Reports

end SinkCheck
