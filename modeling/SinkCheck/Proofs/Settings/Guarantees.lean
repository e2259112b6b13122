import SinkCheck.Proofs.Rules
import SinkCheck.Proofs.Setting.Constraints
import SinkCheck.Proofs.Setting.Items
/-
  What settings guarantee.

  Rules, gates and clients take settings as they are and check nothing again.  What they may rely on is
  stated here once, for all settings that come out of a configuration (`Settings.Guaranteed`).  Nothing of
  it holds of settings as such, which may hold any numbers and texts.  Each guarantee comes from a constraint
  of the table, through the reading of the text that was given or is the default, and through the look-up
  in the assembly, where integers become narrower; the table bounds every integer so that none is cut off.

  Main statements: `Key.holds_of_resolve`, a setting that resolves has a value of which its constraint
  holds; `Properties.mem_range_of_held` and `le_of_held`, the bounds behind the assembly;
  `guaranteed_of_parse`.
-/

namespace SinkCheck

/-- What the settings of a configuration guarantee. -/
structure Settings.Guaranteed (isFile : String → Bool) (ps : Properties) (s : Settings) : Prop where
  batchSize : 1 ≤ s.batchSize.toInt ∧ s.batchSize.toInt ≤ 1000000
  maxInFlightRequests : 1 ≤ s.maxInFlightRequests.toInt ∧ s.maxInFlightRequests.toInt ≤ 1000
  maxBufferedRecords : 1 ≤ s.maxBufferedRecords.toInt
  lingerMs : 0 ≤ s.lingerMs.toInt ∧ s.lingerMs.toInt ≤ 604800000
  flushTimeoutMs : 1000 ≤ s.flushTimeoutMs.toInt
  maxRetries : 0 ≤ s.maxRetries.toInt
  retryBackoffMs : 0 ≤ s.retryBackoffMs.toInt
  connectionTimeoutMs : 0 ≤ s.connectionTimeoutMs.toInt
  readTimeoutMs : 0 ≤ s.readTimeoutMs.toInt
  /-- The port of the proxy is one, and the one that was resolved: no other stands in for it. -/
  proxyPort : 1 ≤ s.proxyPort.toNat ∧ s.proxyPort.toNat ≤ 65535 ∧
    ∃ n, Key.proxyPort.resolve isFile ps = .ok (.int n) ∧ n.toInt = s.proxyPort.toNat
  /-- The records in flight fit 32 bits, so only the comparison decides about the buffer. -/
  needed : Width.int.Fits (s.batchSize.toInt * s.maxInFlightRequests.toInt) ∧
    Rule.bufferTooSmall s =
      decide (s.maxBufferedRecords.toInt < s.batchSize.toInt * s.maxInFlightRequests.toInt)
  connectionUrls : s.connectionUrls ≠ [] ∧ ∀ url ∈ s.connectionUrls, IsWebAddress Url.parse url
  items : ∀ list ∈ [s.connectionUrls, s.ignoreKeyTopics, s.ignoreSchemaTopics, s.timestampFields],
    ∀ item ∈ list, IsItem item
  keytabPath : ∀ path, s.keytabPath = some path → IsKeytab isFile path
  /-- The settings of the encrypted connection are the properties with such names, in their order. -/
  httpsSettings : Keyed.Ordered s.httpsSettings ∧ ∀ name text, (name, text) ∈ s.httpsSettings ↔
    ps.get? name = some text ∧ "elastic.https.".toList <+: name.toList

variable {isFile : String → Bool} {ps : Properties} {k : Key} {v : Value}

/-! ## Constraints behind the resolution -/

/-- **The constraint of a setting** holds of its value, if there is a text for it. -/
theorem Key.holds_of_resolve (h : k.resolve isFile ps = .ok v) {t : String} (ht : ps.text? k = some t) :
    k.constraint.Holds isFile v :=
  Constraint.objection?_eq_none_iff.mp (Key.read_of_resolve h ht).2

namespace Properties

/-- The number of an integer setting is not below the least one that its constraint allows. -/
theorem le_number {w : Width} {min : Int64} (h : k.resolve isFile ps = .ok v) (hd : k.default ≠ .null)
    (hk : k.kind = .integer w) (hc : k.constraint = .atLeast min) : min.toInt ≤ ps.number k := by
  obtain ⟨t, ht⟩ := Key.text?_of_resolve h hd
  obtain ⟨rfl, hfits⟩ := Key.integer_of_resolve h hd hk
  have hholds := Key.holds_of_resolve h ht
  rw [hc] at hholds
  have hle := hholds _ rfl
  rwa [Width.toInt_ofInt hfits] at hle

/-! ## Bounds behind the assembly

  An integer is held in as many bits as its kind has, so it is held unchanged, and with it its bounds. -/

section Bounds

variable {w : Width} {min max : Int64} {n lo hi : Int} (hf : ps.faults isFile = [])
  (hd : k.default ≠ .null) (hk : k.kind = .integer w) (hn : n = ps.number k)

include hf hd hk hn

theorem mem_range_of_held (hc : k.constraint = .range min max) (hlo : min.toInt = lo)
    (hhi : max.toInt = hi) : lo ≤ n ∧ n ≤ hi := by
  obtain ⟨v, hv⟩ := Key.resolve_of_faults_eq_nil hf k
  rw [hn, ← hlo, ← hhi]
  exact number_mem_range hv hd hk hc

theorem le_of_held (hc : k.constraint = .atLeast min) (hlo : min.toInt = lo) : lo ≤ n := by
  obtain ⟨v, hv⟩ := Key.resolve_of_faults_eq_nil hf k
  rw [hn, ← hlo]
  exact le_number hv hd hk hc

end Bounds

/-- **The port of the proxy** is the number that was resolved, and never a stand-in. -/
theorem proxyPort_of_faults_eq_nil (hf : ps.faults isFile = []) :
    1 ≤ ps.settings.proxyPort.toNat ∧ ps.settings.proxyPort.toNat ≤ 65535 ∧
    ∃ n, Key.proxyPort.resolve isFile ps = .ok (.int n) ∧ n.toInt = ps.settings.proxyPort.toNat := by
  obtain ⟨v, hv⟩ := Key.resolve_of_faults_eq_nil hf .proxyPort
  have hrange := number_mem_port hv (by decide) rfl rfl
  have hheld : (ps.settings.proxyPort.toNat : Int) = ps.number .proxyPort :=
    Resolved.toNat_ofNat_of_isPort ⟨by omega, by omega⟩
  obtain ⟨rfl, hfits⟩ := Key.integer_of_resolve hv (by decide) rfl
  exact ⟨by omega, by omega, _, hv, (Width.toInt_ofInt hfits).trans hheld.symm⟩

/-- **The records in flight** are compared with the buffer by exact arithmetic. -/
theorem needed_of_faults_eq_nil (hf : ps.faults isFile = []) :
    let needed := ps.settings.batchSize.toInt * ps.settings.maxInFlightRequests.toInt
    Width.int.Fits needed ∧
      Rule.bufferTooSmall ps.settings = decide (ps.settings.maxBufferedRecords.toInt < needed) := by
  have hbatch : ps.settings.batchSize.toInt = ps.number .batchSize := toInt_int32 hf (by decide) rfl
  have hflight : ps.settings.maxInFlightRequests.toInt = ps.number .maxInFlightRequests :=
    toInt_int32 hf (by decide) rfl
  have hbuffer : ps.settings.maxBufferedRecords.toInt = ps.number .maxBufferedRecords :=
    toInt_int32 hf (by decide) rfl
  rw [hbatch, hflight, hbuffer]
  exact ⟨fits_needed hf, Rule.bufferTooSmall_settings hf⟩

/-! ## Lists and texts -/

theorem connectionUrls_of_faults_eq_nil (hf : ps.faults isFile = []) :
    ps.settings.connectionUrls ≠ [] ∧
      ∀ url ∈ ps.settings.connectionUrls, IsWebAddress Url.parse url := by
  obtain ⟨v, hv⟩ := Key.resolve_of_faults_eq_nil hf .connectionUrl
  obtain ⟨t, ht⟩ := Key.text?_of_resolve hv (by decide)
  obtain ⟨urls, hurls, hne, hweb⟩ := Key.holds_of_resolve hv ht
  rw [Key.list_of_resolve hv (by decide) rfl, Value.list?, Option.some_inj] at hurls
  have hheld : ps.settings.connectionUrls = urls := by rw [← hurls, Properties.settings]
  rw [hheld]
  exact ⟨hne, hweb⟩

theorem isKeytab_of_faults_eq_nil (hf : ps.faults isFile = []) {path : String}
    (h : ps.settings.keytabPath = some path) : IsKeytab isFile path := by
  obtain ⟨v, hv⟩ := Key.resolve_of_faults_eq_nil hf .kerberosKeytabPath
  have hpath : (ps.text? .kerberosKeytabPath).map Text.trim = some path := h
  obtain ⟨t, ht, rfl⟩ := Option.map_eq_some_iff.mp hpath
  have hholds : Key.kerberosKeytabPath.constraint.Holds isFile v := Key.holds_of_resolve hv ht
  rw [Key.string_of_resolve hv rfl, ht] at hholds
  exact hholds _ rfl

/-- Whatever the lists of the settings hold was cut out of a text. -/
theorem isItem_of_mem_lists {list : List String} {item : String}
    (h : list ∈ [ps.settings.connectionUrls, ps.settings.ignoreKeyTopics,
      ps.settings.ignoreSchemaTopics, ps.settings.timestampFields]) (hitem : item ∈ list) :
    IsItem item := by
  obtain ⟨k, hk⟩ : ∃ k : Key, list = listItems (ps.trimmed k) := by
    simp only [Properties.settings, List.mem_cons, List.not_mem_nil, or_false] at h
    rcases h with h | h | h | h
    · exact ⟨.connectionUrl, h⟩
    · exact ⟨.ignoreKeyTopics, h⟩
    · exact ⟨.ignoreSchemaTopics, h⟩
    · exact ⟨.dataStreamTimestampField, h⟩
  rw [hk] at hitem
  exact isItem_of_mem_listItems hitem

/-- The properties whose names fulfil a condition, pair by pair. -/
theorem mem_entries_filter_iff {p : String → Bool} {name text : String} :
    (name, text) ∈ (ps.filter p).entries ↔ ps.get? name = some text ∧ p name = true := by
  rw [← Keyed.find?_eq_some_iff (ps.filter p).ordered]
  show (ps.filter p).get? name = some text ↔ _
  rw [get?_filter]
  split
  · next h => simp [h]
  · next h => simp [h]

end Properties

/-! ## All guarantees -/

/-- **Settings that come out of a configuration are guaranteed.** -/
theorem guaranteed_of_parse {s : Settings} (h : Settings.parse isFile ps = .ok s) :
    s.Guaranteed isFile ps := by
  obtain ⟨hf, rfl⟩ := Settings.parse_eq_ok_iff.mp h
  -- the integers as they are held, each against the number of its text
  have int32 := fun k => Properties.toInt_int32 (k := k) hf
  have int64 := fun k => Properties.toInt_int64 (k := k) hf
  exact {
    batchSize := Properties.mem_range_of_held hf (by decide) rfl (int32 .batchSize (by decide) rfl) rfl
      (by decide) (by decide)
    maxInFlightRequests := Properties.mem_range_of_held hf (by decide) rfl
      (int32 .maxInFlightRequests (by decide) rfl) rfl (by decide) (by decide)
    maxBufferedRecords := (Properties.mem_range_of_held hf (by decide) rfl
      (int32 .maxBufferedRecords (by decide) rfl) rfl (by decide) rfl).1
    lingerMs := Properties.mem_range_of_held hf (by decide) rfl (int64 .lingerMs (by decide) rfl) rfl
      (by decide) (by decide)
    flushTimeoutMs := Properties.le_of_held hf (by decide) rfl (int64 .flushTimeoutMs (by decide) rfl) rfl
      (by decide)
    maxRetries := Properties.le_of_held hf (by decide) rfl (int32 .maxRetries (by decide) rfl) rfl
      (by decide)
    retryBackoffMs := Properties.le_of_held hf (by decide) rfl (int64 .retryBackoffMs (by decide) rfl) rfl
      (by decide)
    connectionTimeoutMs := Properties.le_of_held hf (by decide) rfl
      (int32 .connectionTimeoutMs (by decide) rfl) rfl (by decide)
    readTimeoutMs := Properties.le_of_held hf (by decide) rfl (int32 .readTimeoutMs (by decide) rfl) rfl
      (by decide)
    proxyPort := Properties.proxyPort_of_faults_eq_nil hf
    needed := Properties.needed_of_faults_eq_nil hf
    connectionUrls := Properties.connectionUrls_of_faults_eq_nil hf
    items := fun _ hlist _ hitem => Properties.isItem_of_mem_lists hlist hitem
    keytabPath := fun _ hpath => Properties.isKeytab_of_faults_eq_nil hf hpath
    httpsSettings := ⟨(ps.filter (Text.beginsWith Https.head)).ordered, fun name _ =>
      Properties.mem_entries_filter_iff.trans (and_congr_right' (Text.beginsWith_iff Https.head name))⟩ }

/-- A configuration whose numbers lie at their bounds. -/
def brimful : Properties := .ofList
  [("connection.url", " HTTP://[::1]:9200 ,, https://u:p@[::1]\t"), ("batch.size", "1000000"),
   ("max.in.flight.requests", "+1000"), ("max.buffered.records", "2147483647"),
   ("linger.ms", "604800000"), ("flush.timeout.ms", "9223372036854775807"), ("max.retries", "-0"),
   ("topic.key.ignore", ",a b ,"), ("proxy.port", " 065535"),
   ("kerberos.keytab.path", " /etc/sink.keytab\n"), ("elastic.https.verify", " no "),
   ("elastic.httpS.verify", "")]

theorem guaranteed_of_parse_brimful :
    let isFile := fun path => path == "/etc/sink.keytab"
    Settings.parse isFile brimful = .ok brimful.settings ∧
    brimful.settings.Guaranteed isFile brimful ∧
    brimful.settings.connectionUrls = ["HTTP://[::1]:9200", "https://u:p@[::1]"] ∧
    brimful.settings.batchSize = 1000000 ∧ brimful.settings.maxInFlightRequests = 1000 ∧
    brimful.settings.maxBufferedRecords = 2147483647 ∧ brimful.settings.maxRetries = 0 ∧
    brimful.settings.flushTimeoutMs = 9223372036854775807 ∧ brimful.settings.proxyPort = 65535 ∧
    brimful.settings.keytabPath = some "/etc/sink.keytab" ∧
    brimful.settings.httpsSettings = [("elastic.https.verify", " no ")] := by
  intro isFile
  have hclean : brimful.faults isFile = [] := by decide +kernel
  have hparse := Settings.parse_eq_ok_iff.mpr ⟨hclean, rfl⟩
  exact ⟨hparse, guaranteed_of_parse hparse, by decide +kernel⟩

end SinkCheck
