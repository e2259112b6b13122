import SinkCheck.Proofs.Report.Syntax
import SinkCheck.Proofs.Setting.Shown
/-
  What the report shows and what the settings hold.

  The report shows the values that the settings resolved to, each in the way of its kind, and the given
  text where a setting has no value.  The settings are put together from the same values by look-ups, on
  which integers become narrower, a port becomes a natural number and words become keywords.  So the two
  could come apart: by a number that was cut off, by a word of another keyword, by a text shown in place
  of a value, or by a look-up under another name.  They do not.  Every getter is written out once more as
  the text in which it would be shown (`Settings.shown?`), and that is what the report shows: numbers keep
  within their types, a word is that of its keyword, and only what was not given has no value.

  Main statements: `Key.entry_of_resolve`, the entry of a setting that resolves;
  `Settings.shown?_settings`, each getter against its value; `report_shows_settings`, the whole report.
-/

namespace SinkCheck

/-- How a setting would be shown, going by what the settings hold for it. -/
def Settings.shown? (s : Settings) : Key → Option String
  | .connectionUrl => some (",".intercalate s.connectionUrls)
  | .connectionUsername => s.username
  | .connectionPassword => s.password.map fun _ => Value.hidden
  | .batchSize => some (Text.integerText s.batchSize.toInt)
  | .maxInFlightRequests => some (Text.integerText s.maxInFlightRequests.toInt)
  | .maxBufferedRecords => some (Text.integerText s.maxBufferedRecords.toInt)
  | .lingerMs => some (Text.integerText s.lingerMs.toInt)
  | .flushTimeoutMs => some (Text.integerText s.flushTimeoutMs.toInt)
  | .maxRetries => some (Text.integerText s.maxRetries.toInt)
  | .retryBackoffMs => some (Text.integerText s.retryBackoffMs.toInt)
  | .connectionTimeoutMs => some (Text.integerText s.connectionTimeoutMs.toInt)
  | .readTimeoutMs => some (Text.integerText s.readTimeoutMs.toInt)
  | .ignoreKey => some (if s.ignoreKey then "true" else "false")
  | .ignoreSchema => some (if s.ignoreSchema then "true" else "false")
  | .ignoreKeyTopics => some (",".intercalate s.ignoreKeyTopics)
  | .ignoreSchemaTopics => some (",".intercalate s.ignoreSchemaTopics)
  | .writeMethod => some (Keyword.word s.writeMethod)
  | .nullBehavior => some (Keyword.word s.nullBehavior)
  | .dataStreamType => some (Keyword.word s.dataStreamType)
  | .dataStreamDataset => some s.dataset
  | .dataStreamTimestampField => some (",".intercalate s.timestampFields)
  | .proxyHost => some s.proxyHost
  | .proxyPort => some (Text.integerText s.proxyPort.toNat)
  | .proxyUsername => some s.proxyUsername
  | .proxyPassword => s.proxyPassword.map fun _ => Value.hidden
  | .securityProtocol => some (Keyword.word s.securityProtocol)
  | .kerberosPrincipal => s.kerberosPrincipal
  | .kerberosKeytabPath => s.keytabPath

variable {isFile : String → Bool} {ps : Properties} {k : Key} {v : Value}

/-! ## What is shown of a value -/

/-- A setting that resolves to null was not given. -/
theorem Key.get?_of_resolve_null (h : k.resolve isFile ps = .ok .null) : ps.get? k.name = none := by
  cases hg : ps.get? k.name with
  | none => rfl
  | some t =>
    have hread : k.definition.read isFile t = .ok .null := by
      rw [← h, Key.resolve, hg, Definition.resolve_some]
    have hnull := Kind.isNull_of_read (Definition.read_eq_ok_iff.mp hread).1
    cases hnull

/-- Of a setting that resolves its value is shown, and never the text in place of it. -/
theorem Key.shown?_of_resolve (h : k.resolve isFile ps = .ok v) :
    k.shown? (ps.resolved isFile) ps = v.shown? := by
  rw [Key.shown?, Properties.get?_resolved_of_ok h, Option.bind_some]
  cases v with
  | null => simp [Value.shown?, Key.get?_of_resolve_null h]
  | string | secret | int | boolean | list => rfl

/-- **The entry of a setting that resolves** shows its value and has no findings. -/
theorem Key.entry_of_resolve (h : k.resolve isFile ps = .ok v) :
    k.entry isFile ps = ⟨k.name, v.shown?, []⟩ := by
  have hfault : k.fault? isFile ps = none := by rw [Key.fault?, h]
  rw [Key.entry, hfault, Key.cleanEntry, Key.shown?_of_resolve h]
  rfl

/-! ## What is shown of a getter -/

theorem Key.shown?_list (h : k.resolve isFile ps = .ok v) (hd : k.default ≠ .null)
    (hk : k.kind = .list) : v.shown? = some (",".intercalate (listItems (ps.trimmed k))) := by
  rw [Key.list_of_resolve h hd hk]
  rfl

theorem Key.shown?_integer {w : Width} (h : k.resolve isFile ps = .ok v) (hd : k.default ≠ .null)
    (hk : k.kind = .integer w) : v.shown? = some (Text.integerText (ps.number k)) := by
  obtain ⟨hv, hfits⟩ := Key.integer_of_resolve h hd hk
  have htext : (Value.int (Int64.ofInt (ps.number k))).shown? =
      some (Text.integerText (Int64.ofInt (ps.number k)).toInt) := rfl
  rw [hv, htext, Width.toInt_ofInt hfits]

theorem Key.shown?_boolean (h : k.resolve isFile ps = .ok v) (hd : k.default ≠ .null)
    (hk : k.kind = .boolean) :
    v.shown? = some (if ps.isWord k "true" then "true" else "false") := by
  rw [Key.boolean_of_resolve h hd hk]
  rfl

theorem Key.shown?_keyword {α : Type} [Keyword α] (h : k.resolve isFile ps = .ok v)
    (hd : k.default ≠ .null) (hk : k.kind = .choice (Keyword.words α)) (standIn : α) :
    v.shown? = some (Keyword.word (ps.keyword k standIn)) := by
  obtain ⟨a, ha, hv⟩ := Key.keyword_of_resolve (α := α) h hd hk
  rw [hv, Properties.keyword, ha]
  rfl

/-- An optional text is shown as it is held, and not at all where it is not. -/
theorem Key.shown?_string (h : k.resolve isFile ps = .ok v) (hk : k.kind = .string) :
    v.shown? = (ps.text? k).map Text.trim := by
  rw [Key.string_of_resolve h hk]
  cases ps.text? k <;> rfl

theorem Key.shown?_text (h : k.resolve isFile ps = .ok v) (hd : k.default ≠ .null)
    (hk : k.kind = .string) : v.shown? = some (ps.trimmed k) := by
  obtain ⟨t, ht⟩ := Key.text?_of_resolve h hd
  rw [Key.shown?_string h hk, Properties.trimmed, ht]
  rfl

theorem Key.shown?_secret (h : k.resolve isFile ps = .ok v) (hk : k.kind = .secret) :
    v.shown? = (ps.text? k).map fun _ => Value.hidden := by
  rw [Key.secret_of_resolve h hk]
  cases ps.text? k <;> rfl

/-- **Each getter** would be shown as the value of its setting is. -/
theorem Settings.shown?_settings (hf : ps.faults isFile = []) (h : k.resolve isFile ps = .ok v) :
    ps.settings.shown? k = v.shown? := by
  cases k with
  | connectionUrl | ignoreKeyTopics | ignoreSchemaTopics | dataStreamTimestampField =>
    rw [Key.shown?_list h (by decide) rfl, Settings.shown?, Properties.settings]
  | connectionUsername | kerberosPrincipal | kerberosKeytabPath =>
    rw [Key.shown?_string h rfl, Settings.shown?, Properties.settings]
  | connectionPassword | proxyPassword =>
    rw [Key.shown?_secret h rfl, Settings.shown?, Properties.settings]
  | dataStreamDataset | proxyHost | proxyUsername =>
    rw [Key.shown?_text h (by decide) rfl, Settings.shown?, Properties.settings]
  | ignoreKey | ignoreSchema =>
    rw [Key.shown?_boolean h (by decide) rfl, Settings.shown?, Properties.settings]
  | batchSize | maxInFlightRequests | maxBufferedRecords | maxRetries | connectionTimeoutMs
  | readTimeoutMs =>
    rw [Key.shown?_integer h (by decide) rfl, Settings.shown?, Properties.settings,
      Properties.toInt_int32 hf (by decide) rfl]
  | lingerMs | flushTimeoutMs | retryBackoffMs =>
    rw [Key.shown?_integer h (by decide) rfl, Settings.shown?, Properties.settings,
      Properties.toInt_int64 hf (by decide) rfl]
  | proxyPort =>
    have hr := Properties.number_mem_port h (by decide) rfl rfl
    rw [Key.shown?_integer h (by decide) rfl, Settings.shown?, Properties.settings,
      Resolved.toNat_ofNat_of_isPort ⟨by omega, by omega⟩]
  | writeMethod =>
    rw [Key.shown?_keyword h (by decide) Key.kind_writeMethod .insert, Settings.shown?,
      Properties.settings]
  | nullBehavior =>
    rw [Key.shown?_keyword h (by decide) Key.kind_nullBehavior .fail, Settings.shown?,
      Properties.settings]
  | dataStreamType =>
    rw [Key.shown?_keyword h (by decide) Key.kind_dataStreamType .none, Settings.shown?,
      Properties.settings]
  | securityProtocol =>
    rw [Key.shown?_keyword h (by decide) Key.kind_securityProtocol .plaintext, Settings.shown?,
      Properties.settings]

/-! ## The whole report -/

/-- Without faults the report is a view of the settings of the texts. -/
theorem Report.entries_of_no_faults (hf : ps.faults isFile = []) :
    (Report.ofProperties isFile ps).entries =
      Key.all.map fun k => ⟨k.name, ps.settings.shown? k, []⟩ := by
  rw [Report.entries_ofProperties]
  refine List.map_congr_left fun k _ => ?_
  obtain ⟨v, hv⟩ := Key.resolve_of_faults_eq_nil hf k
  rw [Key.entry_of_resolve hv, Settings.shown?_settings hf hv]

/-- **The report shows what the settings hold.**  If the properties make settings, then each of the entries of
the report, one for each setting in their order, shows what the getter of that setting holds, and has no
findings. -/
theorem report_shows_settings {s : Settings} (h : Settings.parse isFile ps = .ok s) :
    (Report.ofProperties isFile ps).entries = Key.all.map fun k => ⟨k.name, s.shown? k, []⟩ := by
  obtain ⟨hf, rfl⟩ := Settings.parse_eq_ok_iff.mp h
  exact Report.entries_of_no_faults hf

/-- Properties of every kind, hardly one of them written as it is shown. -/
def sloppy : Properties := .ofList
  [("connection.url", " https://[::1]:9200 ,, http://[::1]/ "), ("connection.username", " sink\t"),
   ("connection.password", ""), ("batch.size", " +0300 "), ("linger.ms", "-0"), ("key.ignore", "True"),
   ("topic.key.ignore", ","), ("topic.schema.ignore", " a b ,c"), ("write.method", " upsert"),
   ("behavior.on.null.values", "Ignore"), ("proxy.host", " gate "), ("proxy.port", "065535"),
   ("proxy.username", "\n"), ("kerberos.user.principal", " ")]

theorem report_shows_settings_sloppy :
    Settings.parse (fun _ => false) sloppy = .ok sloppy.settings ∧
    ((Report.ofProperties (fun _ => false) sloppy).entries.map fun e => (e.name, e.value)) =
      [("connection.url", some "https://[::1]:9200,http://[::1]/"), ("connection.username", some "sink"),
       ("connection.password", some "[hidden]"), ("batch.size", some "300"),
       ("max.in.flight.requests", some "5"), ("max.buffered.records", some "20000"),
       ("linger.ms", some "0"), ("flush.timeout.ms", some "180000"), ("max.retries", some "5"),
       ("retry.backoff.ms", some "100"), ("connection.timeout.ms", some "1000"),
       ("read.timeout.ms", some "3000"), ("key.ignore", some "true"), ("schema.ignore", some "false"),
       ("topic.key.ignore", some ""), ("topic.schema.ignore", some "a b,c"),
       ("write.method", some "UPSERT"), ("behavior.on.null.values", some "IGNORE"),
       ("data.stream.type", some "NONE"), ("data.stream.dataset", some ""),
       ("data.stream.timestamp.field", some ""), ("proxy.host", some "gate"),
       ("proxy.port", some "65535"), ("proxy.username", some ""), ("proxy.password", none),
       ("elastic.security.protocol", some "PLAINTEXT"), ("kerberos.user.principal", some ""),
       ("kerberos.keytab.path", none)] := by
  have hclean : sloppy.faults (fun _ => false) = [] := by decide +kernel
  have h := Settings.parse_eq_ok_iff.mpr ⟨hclean, rfl⟩
  refine ⟨h, ?_⟩
  rw [report_shows_settings h]
  decide +kernel

end SinkCheck
