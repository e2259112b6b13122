import SinkCheck.Proofs.Http.Failover
import SinkCheck.Proofs.Settings.Guarantees
/-
  Clients of settings that were checked.

  The addresses of the nodes are read twice, and each time from their texts: when a configuration is
  checked, and when a client is made of its settings.  The check asks for more than the maker does, which
  takes any row of addresses that is not empty.  So the maker does not object to what was checked, and the
  failures that put the blame on the addresses (`BlamesAddresses`) never come up: not when the client is
  made, where only a proxy may be in the way, and not when it sends, where the failure of some node stands
  for all.

  None of this depends on how an address is read, as long as both read it alike, nor on what a contact
  with a node comes to: the reader is a parameter here, and so are the contacts.

  Main statements: `clients_of_addresses`, for any reader of addresses and any contacts, and
  `clients_of_checked_settings`.
-/

namespace SinkCheck

open Http

namespace Http

variable {parse : String → Except Url.Fault Url} {s : Settings}

/-- Addresses of the web are addresses, so they are nodes. -/
theorem exists_nodes?_of_isWebAddress {texts : List String}
    (h : ∀ text ∈ texts, IsWebAddress parse text) : ∃ nodes, nodes? parse texts = .ok nodes := by
  induction texts with
  | nil => exact ⟨[], rfl⟩
  | cons text texts ih =>
    obtain ⟨⟨u, hu, -⟩, hrest⟩ := List.forall_mem_cons.mp h
    obtain ⟨nodes, hnodes⟩ := ih hrest
    exact ⟨u :: nodes, by rw [nodes?, hu, hnodes]⟩

theorem proxyOf_of_not_isProxyConfigured (h : s.isProxyConfigured = false) :
    proxyOf parse s = .ok none := by
  rw [proxyOf, h]
  rfl

/-- A proxy that cannot be used is what is blamed then. -/
theorem exists_detail_of_proxyOf {e : ClientError} (h : proxyOf parse s = .error e) :
    ∃ detail, e = .other ("Invalid proxy '" ++ detail) := by
  rw [proxyOf] at h
  by_cases hproxy : s.isProxyConfigured = true
  · rw [if_pos hproxy] at h
    cases hu : parse ("http://" ++ s.proxyHost ++ ":" ++ s.proxyPort.toNat.repr) with
    | error f =>
      simp only [hu, Except.error.injEq] at h
      rw [String.append_assoc] at h
      exact ⟨_, h.symm⟩
    | ok u => simp only [hu, reduceCtorEq] at h
  · rw [if_neg hproxy] at h
    cases h

end Http

namespace HttpClient

variable {ε : Type} {isFile : String → Bool} {parse : String → Except Url.Fault Url} {ps : Properties}
  {s : Settings} {c : HttpClient} {e : ClientError}

/-! ## Blame -/

/-- Does a failure put the blame on the addresses of the nodes: is a text none, or is there none? -/
inductive BlamesAddresses : ClientError → Prop where
  | invalid (text detail : String) :
    BlamesAddresses (.other ("Invalid connection URL '" ++ text ++ "': " ++ detail))
  | missing : BlamesAddresses (.other "No connection URL configured")

/-- Failures that put the blame on the addresses are told from the others by the ninth character. -/
theorem BlamesAddresses.exists_message (h : BlamesAddresses e) :
    ∃ message, e = .other message ∧ message.toList[8]? = some 'c' := by
  cases h with
  | invalid text detail =>
    refine ⟨_, rfl, ?_⟩
    rw [String.append_assoc, String.append_assoc, String.toList_append]
    rfl
  | missing => exact ⟨_, rfl, rfl⟩

theorem not_blamesAddresses_status {code : Nat} {message : String} :
    ¬BlamesAddresses (.status code message) := by
  intro h
  obtain ⟨_, hmessage, -⟩ := h.exists_message
  cases hmessage

theorem not_blamesAddresses_closed : ¬BlamesAddresses closed := by
  intro h
  obtain ⟨message, hmessage, hninth⟩ := h.exists_message
  cases hmessage
  cases hninth

/-- A mishap is no fault of the addresses. -/
theorem not_blamesAddresses_failure (m : Mishap) (node : Url) : ¬BlamesAddresses (m.failure node) := by
  intro h
  obtain ⟨message, hmessage, hninth⟩ := h.exists_message
  cases m with
  | noAnswer => cases hmessage
  | unusable | endless =>
    cases hmessage
    rw [String.append_assoc, String.append_assoc, String.toList_append] at hninth
    cases hninth

/-- A proxy that cannot be used is no fault of the addresses. -/
theorem not_blamesAddresses_of_proxyOf (h : proxyOf parse s = .error e) : ¬BlamesAddresses e := by
  intro hblames
  obtain ⟨message, hmessage, hninth⟩ := hblames.exists_message
  obtain ⟨detail, rfl⟩ := exists_detail_of_proxyOf h
  cases hmessage
  rw [String.toList_append] at hninth
  cases hninth

/-! ## Making a client -/

/-- **Only the proxy** may stand in the way of a client whose addresses were checked. -/
theorem ofAddresses_eq_error_iff (hne : s.connectionUrls ≠ [])
    (hweb : ∀ url ∈ s.connectionUrls, IsWebAddress parse url) :
    ofAddresses parse s = .error e ↔ proxyOf parse s = .error e := by
  obtain ⟨nodes, hnodes⟩ := exists_nodes?_of_isWebAddress hweb
  rw [ofAddresses, hnodes]
  cases nodes with
  | nil =>
    have hnone := nodes?_eq_ok_iff.mp hnodes
    exact absurd (List.map_eq_nil_iff.mp hnone) hne
  | cons node nodes => cases proxyOf parse s <;> simp

/-- A host of a proxy that resolves to nothing configures none. -/
theorem isProxyConfigured_of_resolve (hparse : Settings.parse isFile ps = .ok s)
    (h : Key.proxyHost.resolve isFile ps = .ok (.string "")) : s.isProxyConfigured = false := by
  obtain ⟨-, rfl⟩ := Settings.parse_eq_ok_iff.mp hparse
  have hhost : ps.trimmed .proxyHost = "" :=
    (Value.string.inj (Key.text_of_resolve h (by decide) rfl)).symm
  rw [Properties.isProxyConfigured_settings, Properties.hasProxy, Properties.isBlank, hhost]
  rfl

/-! ## Sending -/

/-- **A request that fails** fails as one of the nodes did. -/
theorem error_of_send (hopen : c.isOpen = true) (hne : c.nodes ≠ []) {contact : Contact ε}
    (h : (c.send contact).value = .error e) :
    ∃ attempt ∈ c.attempts contact, e = failureOf attempt.value := by
  have hsent := failsOver_send hopen hne contact
  by_cases hex : ∃ i r, DecidedBy ((c.attempts contact).map Logged.value) i r
  · obtain ⟨i, r, hi⟩ := hex
    rw [hsent.decided i r hi] at h
    cases h
  · obtain ⟨last, hlast, hfailed⟩ := hsent.failed fun i r hi => hex ⟨i, r, hi⟩
    rw [hfailed] at h
    exact ⟨last, List.mem_of_getLast? hlast, (Except.error.inj h).symm⟩

/-- A request blames the addresses only if a contact does, whether the client is open or closed. -/
theorem not_blamesAddresses_of_send (hne : c.nodes ≠ []) {contact : Contact ε}
    (hcontact : ∀ attempt ∈ c.attempts contact, ∀ e, attempt.value = .error e → ¬BlamesAddresses e)
    (h : (c.send contact).value = .error e) : ¬BlamesAddresses e := by
  cases hopen : c.isOpen with
  | false =>
    rw [send_closed hopen] at h
    cases h
    exact not_blamesAddresses_closed
  | true =>
    obtain ⟨attempt, hattempt, rfl⟩ := error_of_send hopen hne h
    cases hv : attempt.value with
    | error e => exact hcontact attempt hattempt e hv
    | ok r => exact not_blamesAddresses_status

/-- A contact over a network does not. -/
theorem not_blamesAddresses_of_attempt {transport : Transport ε} {method : Method}
    {attempt : Logged ε (Except ClientError Response)}
    (hattempt : attempt ∈ c.attempts (c.contact transport method)) (h : attempt.value = .error e) :
    ¬BlamesAddresses e := by
  obtain ⟨p, -, rfl⟩ := List.mem_map.mp hattempt
  obtain ⟨m, rfl⟩ := exists_mishap_of_exchange h
  exact not_blamesAddresses_failure m _

/-- **Clients of addresses without objections.**  Whatever reads addresses: if it finds no objection to
those of the settings, and no proxy is configured, there is a client, and its nodes are these addresses,
one for each and in their order.  Otherwise only the proxy can be in the way.  Whatever client there is
and whatever comes of its contacts, a request that it cannot serve fails as one of its nodes did.  The
making blames no address, and a request blames one only if a contact does, before the client is closed or
after. -/
theorem clients_of_addresses (hurls : urlsObjection? parse s.connectionUrls = none) :
    (s.isProxyConfigured = false → ∃ c, ofAddresses parse s = .ok c) ∧
    (∀ e, ofAddresses parse s = .error e → proxyOf parse s = .error e ∧ ¬BlamesAddresses e) ∧
    ∀ c, ofAddresses parse s = .ok c →
      s.connectionUrls.map parse = c.nodes.map .ok ∧
      (∀ (contact : Contact ε) e, (c.send contact).value = .error e →
        ∃ attempt ∈ c.attempts contact, e = failureOf attempt.value) ∧
      ∀ isOpen (contact : Contact ε) e,
        (∀ attempt ∈ c.attempts contact, ∀ e, attempt.value = .error e → ¬BlamesAddresses e) →
        ({ c with isOpen }.send contact).value = .error e → ¬BlamesAddresses e := by
  obtain ⟨hne, hweb⟩ := urlsObjection?_eq_none_iff.mp hurls
  have hfailed : ∀ e, ofAddresses parse s = .error e → proxyOf parse s = .error e :=
    fun e => (ofAddresses_eq_error_iff hne hweb).mp
  refine ⟨fun hproxy => ?_, fun e he => ?_, fun c hc => ?_⟩
  · cases hmade : ofAddresses parse s with
    | ok c => exact ⟨c, rfl⟩
    | error e => cases (proxyOf_of_not_isProxyConfigured hproxy).symm.trans (hfailed e hmade)
  · exact ⟨hfailed e he, not_blamesAddresses_of_proxyOf (hfailed e he)⟩
  · obtain ⟨hnodes, hsome, hopen⟩ := nodes_of_ofAddresses hc
    refine ⟨hnodes, fun contact e he => error_of_send hopen hsome he, ?_⟩
    intro isOpen contact e hcontact he
    have hused : { c with isOpen }.nodes ≠ [] := hsome
    exact not_blamesAddresses_of_send hused hcontact he

/-- **Settings that were checked make clients.**  If no proxy is configured there is a client, and its
nodes are the addresses of the settings, one for each and in their order.  Otherwise only the proxy can be
in the way.  Whatever client there is, a request that it cannot serve fails as one of its nodes did, and
neither its making nor any of its requests, before it is closed or after, puts the blame on the addresses
unless a contact with a node does; over a network none does. -/
theorem clients_of_checked_settings (hparse : Settings.parse isFile ps = .ok s) :
    (Key.proxyHost.resolve isFile ps = .ok (.string "") → ∃ c, ofSettings s = .ok c) ∧
    (∀ e, ofSettings s = .error e → proxyOf Url.parse s = .error e ∧ ¬BlamesAddresses e) ∧
    ∀ c, ofSettings s = .ok c →
      s.connectionUrls.map Url.parse = c.nodes.map .ok ∧
      (∀ (contact : Contact ε) e, (c.send contact).value = .error e →
        ∃ attempt ∈ c.attempts contact, e = failureOf attempt.value) ∧
      (∀ isOpen (contact : Contact ε) e,
        (∀ attempt ∈ c.attempts contact, ∀ e, attempt.value = .error e → ¬BlamesAddresses e) →
        ({ c with isOpen }.send contact).value = .error e → ¬BlamesAddresses e) ∧
      ∀ isOpen (transport : Transport ε) method e,
        let used := { c with isOpen }
        (used.send (used.contact transport method)).value = .error e → ¬BlamesAddresses e := by
  have hurls := urlsObjection?_eq_none_iff.mpr (guaranteed_of_parse hparse).connectionUrls
  obtain ⟨hmade, hfailed, hclient⟩ := clients_of_addresses (ε := ε) hurls
  refine ⟨fun hhost => hmade (isProxyConfigured_of_resolve hparse hhost), hfailed, fun c hc => ?_⟩
  obtain ⟨hnodes, hsend, hblame⟩ := hclient c hc
  refine ⟨hnodes, hsend, hblame, fun isOpen transport method e he => ?_⟩
  exact hblame isOpen _ e (fun _ hattempt _ => not_blamesAddresses_of_attempt hattempt) he

/-- Two addresses among commas, and a blank for the host of a proxy. -/
def blankProxy : Properties := .ofList
  [("connection.url", ", http://[::1]:9201 ,HTTPS://[::1]"), ("proxy.host", "\t")]

theorem clients_of_checked_settings_blankProxy :
    let isFile := fun _ : String => false
    let s := blankProxy.settings
    Settings.parse isFile blankProxy = .ok s ∧
    Key.proxyHost.resolve isFile blankProxy = .ok (.string "") ∧
    ∃ c, ofSettings s = .ok c ∧
      c.nodes.map (fun node => (node.scheme, node.port)) = [("http", some 9201), ("https", none)] ∧
      ∀ (transport : Transport Nat) method,
        (c.send (c.contact transport method)).value ≠ .error noNodes := by
  intro isFile s
  have hclean : blankProxy.faults isFile = [] := by decide +kernel
  have hparse : Settings.parse isFile blankProxy = .ok s := Settings.parse_eq_ok_iff.mpr ⟨hclean, rfl⟩
  have hhost : Key.proxyHost.resolve isFile blankProxy = .ok (.string "") := by
    have hblank : (Key.proxyHost.resolve isFile blankProxy).toOption = some (.string "") := by
      decide +kernel
    obtain ⟨v, hv⟩ := Key.resolve_of_faults_eq_nil hclean .proxyHost
    rw [hv] at hblank ⊢
    exact congrArg Except.ok (Option.some.inj hblank)
  obtain ⟨hmade, -, hclient⟩ := clients_of_checked_settings (ε := Nat) hparse
  obtain ⟨c, hc⟩ := hmade hhost
  have hnodes : (ofSettings s).toOption.map (fun c => c.nodes.map fun node => (node.scheme, node.port)) =
      some [("http", some 9201), ("https", none)] := by decide +kernel
  rw [hc] at hnodes
  refine ⟨hparse, hhost, c, hc, Option.some.inj hnodes, fun transport method he => ?_⟩
  exact (hclient c hc).2.2.2 c.isOpen transport method noNodes he .missing

end HttpClient

end SinkCheck
