import SinkCheck.Proofs.Settings.Texts
import SinkCheck.Rule
/-
  The rules, read off the texts of a configuration.

  A rule looks at settings, and a setting has come a long way from its text: it was given or is a
  default, was trimmed, read, held against a constraint and looked up.  What being *set* means differs
  from setting to setting: credentials and Kerberos settings are set when they are given, be it as a
  blank text, the host and the name for the proxy when they are not blank, the type of the data stream
  when it is another word than `NONE`.  Here each rule is stated on the texts themselves
  (`Rule.verdict`), and the violations of a configuration without faults are shown to be the verdicts of
  the fourteen rules, in their order.

  Main statement: `violations_eq_verdicts`.
-/

namespace SinkCheck

/-! ## What the texts set -/

namespace Properties

/-- Does a setting have no text, or a blank one? -/
def isBlank (ps : Properties) (k : Key) : Bool := ps.trimmed k == ""

/-- Are there both a name and a password for the service? -/
def hasCredentials (ps : Properties) : Bool := ps.has .connectionUsername && ps.has .connectionPassword

/-- Is the type of the data stream other than `NONE`? -/
def hasStreamType (ps : Properties) : Bool := !ps.isWord .dataStreamType "NONE"

/-- Is there a data stream, with a type and a dataset? -/
def hasDataStream (ps : Properties) : Bool := ps.hasStreamType && !ps.isBlank .dataStreamDataset

/-- Is there anything of Kerberos? -/
def hasKerberos (ps : Properties) : Bool := ps.has .kerberosPrincipal || ps.has .kerberosKeytabPath

/-- Is there a host for the proxy? -/
def hasProxy (ps : Properties) : Bool := !ps.isBlank .proxyHost

/-- Does a list have items? -/
def hasItems (ps : Properties) (k : Key) : Bool := !(listItems (ps.trimmed k)).isEmpty

/-- The stores of the encrypted connection and their passwords, as far as they are not given. -/
def missingHttps (ps : Properties) : List String :=
  ["elastic.https.ssl.keystore.location", "elastic.https.ssl.keystore.password",
   "elastic.https.ssl.truststore.location", "elastic.https.ssl.truststore.password"].filter
    fun name => (ps.get? name).isNone

end Properties

/-- The verdict of a rule on the texts of a configuration. -/
def Rule.verdict (ps : Properties) : Rule → List Violation
  | credentials =>
    if ps.has .connectionUsername != ps.has .connectionPassword then
      [.on [.connectionUsername, .connectionPassword] .credentialsIncomplete] else []
  | dataStreamPair =>
    if ps.hasStreamType != !ps.isBlank .dataStreamDataset then
      [.on [.dataStreamDataset, .dataStreamType] .dataStreamIncomplete] else []
  | dataStreamUpsert =>
    if ps.hasDataStream && ps.isWord .writeMethod "UPSERT" then
      [.on [.writeMethod] .upsertWithDataStream] else []
  | dataStreamDelete =>
    if ps.hasDataStream && ps.isWord .nullBehavior "DELETE" then
      [.on [.nullBehavior] .deleteWithDataStream] else []
  | timestampField =>
    if !ps.hasDataStream && ps.hasItems .dataStreamTimestampField then
      [.on [.dataStreamTimestampField] .timestampWithoutDataStream] else []
  | ignoreKey =>
    if ps.isWord .ignoreKey "true" && ps.hasItems .ignoreKeyTopics then
      [.on [.ignoreKey, .ignoreKeyTopics] .ignoreKeyConflict] else []
  | ignoreSchema =>
    if ps.isWord .ignoreSchema "true" && ps.hasItems .ignoreSchemaTopics then
      [.on [.ignoreSchema, .ignoreSchemaTopics] .ignoreSchemaConflict] else []
  | kerberosPair =>
    if ps.has .kerberosPrincipal != ps.has .kerberosKeytabPath then
      [.on [.kerberosPrincipal, .kerberosKeytabPath] .kerberosIncomplete] else []
  | kerberosCredentials =>
    if ps.hasKerberos && ps.hasCredentials then
      [.on [.kerberosPrincipal, .kerberosKeytabPath, .connectionUsername, .connectionPassword]
        .kerberosWithCredentials] else []
  | kerberosProxy =>
    if ps.hasKerberos && ps.hasProxy then
      [.on [.kerberosPrincipal, .kerberosKeytabPath, .proxyHost] .kerberosWithProxy] else []
  | linger =>
    if ps.number .flushTimeoutMs < ps.number .lingerMs then
      [.on [.lingerMs, .flushTimeoutMs] (.lingerExceedsFlushTimeout
        (Int64.ofInt (ps.number .lingerMs)) (Int64.ofInt (ps.number .flushTimeoutMs)))] else []
  | bufferCapacity =>
    if ps.number .maxBufferedRecords < ps.number .batchSize * ps.number .maxInFlightRequests then
      [.on [.maxBufferedRecords, .batchSize, .maxInFlightRequests] (.bufferTooSmall
        (Int32.ofInt (ps.number .maxBufferedRecords)) (Int32.ofInt (ps.number .batchSize))
        (Int32.ofInt (ps.number .maxInFlightRequests)))] else []
  | proxy =>
    if ps.hasProxy then
      if !ps.isBlank .proxyUsername != ps.has .proxyPassword then
        [.on [.proxyUsername, .proxyPassword] .proxyCredentialsIncomplete] else []
    else
      (if !ps.isBlank .proxyUsername then
        [.on [.proxyUsername, .proxyHost] (.proxyHostRequired "proxy.username")] else []) ++
      (if ps.has .proxyPassword then
        [.on [.proxyPassword, .proxyHost] (.proxyHostRequired "proxy.password")] else [])
  | ssl =>
    if ps.isWord .securityProtocol "SSL" then
      if ps.missingHttps ≠ [] then
        [.on [.securityProtocol] (.sslConfigsMissing ps.missingHttps)] else []
    else
      if ps.names.any (Text.beginsWith "elastic.https.") then
        [.on [.securityProtocol] .sslConfigsWithoutSsl] else []

/-! ## What the settings keep of the texts -/

variable {isFile : String → Bool} {ps : Properties} {k : Key}

/-- A setting whose default is null has a text exactly if it is given. -/
theorem Properties.isSome_text? (ps : Properties) (hd : k.default = .null) :
    (ps.text? k).isSome = ps.has k := by
  unfold text? has
  rw [hd]
  cases ps.get? k.name <;> rfl

theorem Properties.isEmpty_trimmed (ps : Properties) (k : Key) :
    (ps.trimmed k).isEmpty = ps.isBlank k := by
  rw [isBlank, Bool.eq_iff_iff, String.isEmpty_iff, beq_iff_eq]

/-- A text says a keyword exactly if it is the word of the keyword. -/
theorem Keyword.ofText?_eq_some_iff {α : Type} [Keyword α]
    (hw : ∀ a : α, Keyword.ofText? (Keyword.word a) = some a) {t : String} {a : α} :
    (Keyword.ofText? t : Option α) = some a ↔ Text.eqFolded t (Keyword.word a) = true := by
  constructor
  · exact fun h => (List.find?_eq_some_iff_append.mp h).1
  · intro h
    -- texts that fold alike are passed over by the same keywords
    have hfold : Text.folded t = Text.folded (Keyword.word a) := (Text.eqFolded_iff _ _).mp h
    have hsame : (Keyword.ofText? t : Option α) = Keyword.ofText? (Keyword.word a) := by
      simp only [Keyword.ofText?, Text.eqFolded, hfold]
    rw [hsame, hw a]

/-- The text of a setting without fault that takes keywords is the word of its keyword and of no
other. -/
theorem Properties.keyword_beq {α : Type} [Keyword α] [DecidableEq α] (h : ps.faults isFile = [])
    (hd : k.default ≠ .null) (hk : k.kind = .choice (Keyword.words α))
    (hw : ∀ a : α, Keyword.ofText? (Keyword.word a) = some a) (standIn a : α) :
    (ps.keyword k standIn == a) = ps.isWord k (Keyword.word a) := by
  obtain ⟨v, hv⟩ := Key.resolve_of_faults_eq_nil h k
  obtain ⟨b, hb, -⟩ := Key.keyword_of_resolve (α := α) hv hd hk
  rw [keyword, hb, Option.getD_some, Bool.eq_iff_iff, beq_iff_eq, isWord,
    ← Keyword.ofText?_eq_some_iff hw, hb, Option.some_inj]

/-! ## Numbers within their bounds -/

/-- **The bounds of the two factors keep their product within 32 bits.** -/
theorem Properties.fits_needed (h : ps.faults isFile = []) :
    Width.int.Fits (ps.number .batchSize * ps.number .maxInFlightRequests) := by
  obtain ⟨v, hv⟩ := Key.resolve_of_faults_eq_nil h .batchSize
  obtain ⟨w, hw⟩ := Key.resolve_of_faults_eq_nil h .maxInFlightRequests
  have hb := Properties.number_mem_range hv (by decide) rfl rfl
  have hf := Properties.number_mem_range hw (by decide) rfl rfl
  rw [show (1 : Int64).toInt = 1 by decide, show (1000000 : Int64).toInt = 1000000 by decide] at hb
  rw [show (1 : Int64).toInt = 1 by decide, show (1000 : Int64).toInt = 1000 by decide] at hf
  have hlo : 0 ≤ ps.number .batchSize * ps.number .maxInFlightRequests :=
    Int.mul_nonneg (by omega) (by omega)
  have hhi : ps.number .batchSize * ps.number .maxInFlightRequests ≤ 1000000 * 1000 :=
    Int.mul_le_mul hb.2 hf.2 (by omega) (by omega)
  exact ⟨Int.le_trans (by decide) hlo, Int.lt_of_le_of_lt hhi (by decide)⟩

/-- So the buffer is judged by exact arithmetic. -/
theorem Rule.bufferTooSmall_settings (h : ps.faults isFile = []) :
    Rule.bufferTooSmall ps.settings = decide
      (ps.number .maxBufferedRecords < ps.number .batchSize * ps.number .maxInFlightRequests) := by
  have hbatch := Properties.toInt_int32 h (k := .batchSize) (by decide) rfl
  have hflight := Properties.toInt_int32 h (k := .maxInFlightRequests) (by decide) rfl
  have hbuffer := Properties.toInt_int32 h (k := .maxBufferedRecords) (by decide) rfl
  -- the product can leave the 32 bits on neither side, and only the comparison is left
  have hfits := Properties.fits_needed h
  show (decide (¬Width.int.Fits ((Int32.ofInt (ps.number .batchSize)).toInt *
      (Int32.ofInt (ps.number .maxInFlightRequests)).toInt)) ||
    decide ((Int32.ofInt (ps.number .maxBufferedRecords)).toInt <
      (Int32.ofInt (ps.number .batchSize)).toInt *
      (Int32.ofInt (ps.number .maxInFlightRequests)).toInt)) = _
  rw [hbatch, hflight, hbuffer, decide_eq_false (not_not_intro hfits), Bool.false_or]

/-! ## Features -/

/-- The settings that an encrypted connection needs are found by the beginnings of their names. -/
theorem Https.beginsWith_of_mem_required {name : String} (h : name ∈ Https.required) :
    Text.beginsWith Https.head name = true := by
  have hheads : ∀ name ∈ Https.required, Text.beginsWith Https.head name = true := by decide +kernel
  exact hheads name h

namespace Properties

theorem isSome_username (ps : Properties) :
    ps.settings.username.isSome = ps.has .connectionUsername :=
  Option.isSome_map.trans (isSome_text? ps rfl)

theorem isSome_password (ps : Properties) :
    ps.settings.password.isSome = ps.has .connectionPassword :=
  isSome_text? ps rfl

theorem isSome_proxyPassword (ps : Properties) :
    ps.settings.proxyPassword.isSome = ps.has .proxyPassword :=
  isSome_text? ps rfl

theorem isSome_kerberosPrincipal (ps : Properties) :
    ps.settings.kerberosPrincipal.isSome = ps.has .kerberosPrincipal :=
  Option.isSome_map.trans (isSome_text? ps rfl)

theorem isSome_keytabPath (ps : Properties) :
    ps.settings.keytabPath.isSome = ps.has .kerberosKeytabPath :=
  Option.isSome_map.trans (isSome_text? ps rfl)

theorem isAuthenticated_settings (ps : Properties) :
    ps.settings.isAuthenticated = ps.hasCredentials := by
  rw [Settings.isAuthenticated, isSome_username, isSome_password]
  rfl

theorem isKerberosEnabled_settings (ps : Properties) :
    ps.settings.isKerberosEnabled = ps.hasKerberos := by
  rw [Settings.isKerberosEnabled, isSome_kerberosPrincipal, isSome_keytabPath]
  rfl

theorem isProxyConfigured_settings (ps : Properties) :
    ps.settings.isProxyConfigured = ps.hasProxy :=
  congrArg (!·) (isEmpty_trimmed ps .proxyHost)

theorem streamType_settings (h : ps.faults isFile = []) :
    (ps.settings.dataStreamType != .none) = ps.hasStreamType := by
  have hword := keyword_beq (k := .dataStreamType) h (by decide) Key.kind_dataStreamType
    DataStreamType.ofText?_word .none .none
  have hkept : ps.settings.dataStreamType = ps.keyword .dataStreamType .none := by rw [settings]
  rw [bne, hkept, hword]
  rfl

theorem isDataStream_settings (h : ps.faults isFile = []) :
    ps.settings.isDataStream = ps.hasDataStream := by
  rw [Settings.isDataStream, streamType_settings h]
  exact congrArg (ps.hasStreamType && !·) (isEmpty_trimmed ps .dataStreamDataset)

theorem isSslEnabled_settings (h : ps.faults isFile = []) :
    ps.settings.isSslEnabled = ps.isWord .securityProtocol "SSL" := by
  have hword := keyword_beq (k := .securityProtocol) h (by decide) Key.kind_securityProtocol
    SecurityProtocol.ofText?_word .plaintext .ssl
  have hkept : ps.settings.securityProtocol = ps.keyword .securityProtocol .plaintext := by
    rw [settings]
  rw [Settings.isSslEnabled, hkept, hword]
  rfl

/-- The settings of the encrypted connection are the given ones of that name. -/
theorem mem_httpsSettings_iff {name : String} :
    name ∈ ps.settings.httpsSettings.map Prod.fst ↔
      name ∈ ps.names ∧ Text.beginsWith Https.head name = true :=
  mem_names_filter_iff

theorem isEmpty_httpsSettings (ps : Properties) :
    (!ps.settings.httpsSettings.isEmpty) = ps.names.any (Text.beginsWith Https.head) := by
  rw [Bool.eq_iff_iff, List.any_eq_true, Bool.not_eq_true', List.isEmpty_eq_false_iff_exists_mem]
  constructor
  · rintro ⟨e, he⟩
    exact ⟨e.1, mem_httpsSettings_iff.mp (List.mem_map_of_mem he)⟩
  · rintro ⟨name, hname⟩
    obtain ⟨e, he, -⟩ := List.mem_map.mp (mem_httpsSettings_iff.mpr hname)
    exact ⟨e, he⟩

theorem missingHttpsSettings_settings (ps : Properties) :
    Rule.missingHttpsSettings ps.settings = ps.missingHttps := by
  refine List.filter_congr fun name hname => ?_
  have hmem : name ∈ ps.settings.httpsSettings.map Prod.fst ↔ (ps.get? name).isSome = true := by
    rw [mem_httpsSettings_iff, mem_names_iff]
    exact and_iff_left (Https.beginsWith_of_mem_required hname)
  rw [Bool.eq_iff_iff, Bool.not_eq_true', ← Bool.not_eq_true, List.contains_iff_mem, hmem]
  cases ps.get? name <;> simp

end Properties

/-! ## The verdicts -/

/-- **Each rule finds in the settings** what its verdict on the texts says. -/
theorem Rule.violations_settings (h : ps.faults isFile = []) (r : Rule) :
    r.violations ps.settings = r.verdict ps := by
  cases r with
  | credentials =>
    rw [violations, Properties.isSome_username, Properties.isSome_password]
    rfl
  | dataStreamPair =>
    show violationIf
      ((ps.settings.dataStreamType != .none) != !(ps.trimmed .dataStreamDataset).isEmpty) _ _ = _
    rw [Properties.streamType_settings h, Properties.isEmpty_trimmed]
    rfl
  | dataStreamUpsert =>
    have hword := Properties.keyword_beq (k := .writeMethod) h (by decide) Key.kind_writeMethod
      WriteMethod.ofText?_word .insert .upsert
    have hkept : ps.settings.writeMethod = ps.keyword .writeMethod .insert := by
      rw [Properties.settings]
    rw [violations, Properties.isDataStream_settings h, hkept, hword]
    rfl
  | dataStreamDelete =>
    have hword := Properties.keyword_beq (k := .nullBehavior) h (by decide) Key.kind_nullBehavior
      NullBehavior.ofText?_word .fail .delete
    have hkept : ps.settings.nullBehavior = ps.keyword .nullBehavior .fail := by
      rw [Properties.settings]
    rw [violations, Properties.isDataStream_settings h, hkept, hword]
    rfl
  | timestampField =>
    rw [violations, Properties.isDataStream_settings h, Properties.settings, verdict,
      Properties.hasItems, violationIf]
  | ignoreKey =>
    rw [violations, Properties.settings, verdict, Properties.hasItems, violationIf]
  | ignoreSchema =>
    rw [violations, Properties.settings, verdict, Properties.hasItems, violationIf]
  | kerberosPair =>
    rw [violations, Properties.isSome_kerberosPrincipal, Properties.isSome_keytabPath]
    rfl
  | kerberosCredentials =>
    rw [violations, Properties.isKerberosEnabled_settings, Properties.isAuthenticated_settings]
    rfl
  | kerberosProxy =>
    rw [violations, Properties.isKerberosEnabled_settings, Properties.isProxyConfigured_settings]
    rfl
  | linger =>
    have hlinger := Properties.toInt_int64 (k := .lingerMs) h (by decide) rfl
    have hflush := Properties.toInt_int64 (k := .flushTimeoutMs) h (by decide) rfl
    have hlt : decide (ps.settings.flushTimeoutMs < ps.settings.lingerMs) =
        decide (ps.number .flushTimeoutMs < ps.number .lingerMs) := by
      rw [decide_eq_decide, Int64.lt_iff_toInt_lt, Properties.settings, hlinger, hflush]
    rw [violations, hlt, Properties.settings]
    simp only [verdict, violationIf, decide_eq_true_eq]
  | bufferCapacity =>
    rw [violations, Rule.bufferTooSmall_settings h, Properties.settings]
    simp only [verdict, violationIf, decide_eq_true_eq]
  | proxy =>
    rw [violations, Properties.isProxyConfigured_settings, Properties.isSome_proxyPassword,
      Properties.settings]
    simp only [Properties.isEmpty_trimmed]
    rfl
  | ssl =>
    rw [violations, Properties.isSslEnabled_settings h, Properties.missingHttpsSettings_settings,
      Properties.isEmpty_httpsSettings]
    simp only [verdict, violationIf, Bool.not_eq_true', List.isEmpty_eq_false_iff]
    rfl

/-- **The violations of a configuration without faults** are the verdicts of the rules on its texts, one
behind the other, and nothing else. -/
theorem violations_eq_verdicts {s : Settings} (h : Settings.parse isFile ps = .ok s) :
    s.violations =
      Rule.credentials.verdict ps ++ Rule.dataStreamPair.verdict ps ++
      Rule.dataStreamUpsert.verdict ps ++ Rule.dataStreamDelete.verdict ps ++
      Rule.timestampField.verdict ps ++ Rule.ignoreKey.verdict ps ++ Rule.ignoreSchema.verdict ps ++
      Rule.kerberosPair.verdict ps ++ Rule.kerberosCredentials.verdict ps ++
      Rule.kerberosProxy.verdict ps ++ Rule.linger.verdict ps ++ Rule.bufferCapacity.verdict ps ++
      Rule.proxy.verdict ps ++ Rule.ssl.verdict ps := by
  obtain ⟨hf, rfl⟩ := Settings.parse_eq_ok_iff.mp h
  rw [Settings.violations, Rule.all]
  simp only [List.flatMap_cons, List.flatMap_nil, List.append_nil, List.append_assoc,
    Rule.violations_settings hf]

/-- A configuration that breaks nine rules at once, some of them by texts that are blank or quoted from
a default. -/
def tangled : Properties := .ofList
  [("connection.url", "http://[::1]:9200"), ("connection.username", " "),
   ("data.stream.type", " logs "), ("data.stream.timestamp.field", " , @ts"), ("key.ignore", "TRUE"),
   ("topic.key.ignore", "a,b"), ("kerberos.user.principal", "sink"), ("linger.ms", "+0200000"),
   ("max.buffered.records", "1"), ("proxy.password", ""), ("elastic.https.ssl", "x")]

/-- A configuration that breaks the other rules, and the last one in its other way: two of the four
settings of the encrypted connection are given, one of them as a blank text. -/
def halfEncrypted : Properties := .ofList
  [("behavior.on.null.values", "Delete"), ("connection.password", ""), ("connection.url", "http://[::1]"),
   ("connection.username", "sink"), ("data.stream.dataset", " audit "), ("data.stream.type", "metrics"),
   ("elastic.https.ssl.keystore.location", " "), ("elastic.https.ssl.keystores", "x"),
   ("elastic.https.ssl.truststore.password", "hunter2"), ("elastic.security.protocol", " ssl "),
   ("kerberos.user.principal", ""), ("proxy.host", "gate"), ("proxy.username", "mole"),
   ("schema.ignore", "true"), ("topic.schema.ignore", "a"), ("write.method", "upsert")]

theorem violations_eq_verdicts_tangled :
    Settings.parse (fun _ => false) tangled = .ok tangled.settings ∧
    tangled.settings.violations =
      [.on [.connectionUsername, .connectionPassword] .credentialsIncomplete,
       .on [.dataStreamDataset, .dataStreamType] .dataStreamIncomplete,
       .on [.dataStreamTimestampField] .timestampWithoutDataStream,
       .on [.ignoreKey, .ignoreKeyTopics] .ignoreKeyConflict,
       .on [.kerberosPrincipal, .kerberosKeytabPath] .kerberosIncomplete,
       .on [.lingerMs, .flushTimeoutMs] (.lingerExceedsFlushTimeout 200000 180000),
       .on [.maxBufferedRecords, .batchSize, .maxInFlightRequests] (.bufferTooSmall 1 2000 5),
       .on [.proxyPassword, .proxyHost] (.proxyHostRequired "proxy.password"),
       .on [.securityProtocol] .sslConfigsWithoutSsl] ∧
    Settings.parse (fun _ => false) halfEncrypted = .ok halfEncrypted.settings ∧
    halfEncrypted.settings.violations =
      [.on [.writeMethod] .upsertWithDataStream, .on [.nullBehavior] .deleteWithDataStream,
       .on [.ignoreSchema, .ignoreSchemaTopics] .ignoreSchemaConflict,
       .on [.kerberosPrincipal, .kerberosKeytabPath] .kerberosIncomplete,
       .on [.kerberosPrincipal, .kerberosKeytabPath, .connectionUsername, .connectionPassword]
         .kerberosWithCredentials,
       .on [.kerberosPrincipal, .kerberosKeytabPath, .proxyHost] .kerberosWithProxy,
       .on [.proxyUsername, .proxyPassword] .proxyCredentialsIncomplete,
       .on [.securityProtocol] (.sslConfigsMissing
         ["elastic.https.ssl.keystore.password", "elastic.https.ssl.truststore.location"])] := by
  have hclean : tangled.faults (fun _ => false) = [] := by decide +kernel
  have hcleanHalf : halfEncrypted.faults (fun _ => false) = [] := by decide +kernel
  have h := Settings.parse_eq_ok_iff.mpr ⟨hclean, rfl⟩
  have hhalf := Settings.parse_eq_ok_iff.mpr ⟨hcleanHalf, rfl⟩
  refine ⟨h, ?_, hhalf, ?_⟩
  · rw [violations_eq_verdicts h]
    decide +kernel
  · rw [violations_eq_verdicts hhalf]
    decide +kernel

end SinkCheck
