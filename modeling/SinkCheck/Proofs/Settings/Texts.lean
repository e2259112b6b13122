import SinkCheck.Settings.Resolution
/-
  The settings that the texts of a configuration amount to.

  Resolving makes values of texts, and the assembly looks the values up again by name and type.  Here
  the settings are read off the texts at one go, without values, names or types in between
  (`Properties.settings`), and the two ways are shown to agree: where no setting is at fault every
  look-up finds a value of the type that it wants, so the assembly has nothing to complain of.

  Main statements: `get?_resolved`, one equation per typed look-up (`list_resolved` and so on), and
  `lookUp_resolved`, `parse_eq` for all of them together.
-/

namespace SinkCheck

/-! ## The texts that count -/

namespace Properties

/-- Is the setting given? -/
def has (ps : Properties) (k : Key) : Bool := (ps.get? k.name).isSome

/-- The text that counts for a setting: the given one, or else the one that is its default. -/
def text? (ps : Properties) (k : Key) : Option String :=
  match ps.get? k.name, k.default with
  | some t, _ => some t
  | none, .text t => some t
  | none, _ => none

/-- The text that counts, without the blanks at its ends, or the empty text. -/
def trimmed (ps : Properties) (k : Key) : String := Text.trim ((ps.text? k).getD "")

/-- The integer that the text of a setting denotes. -/
def number (ps : Properties) (k : Key) : Int := (Text.integer? (ps.trimmed k).toList).getD 0

/-- Is the text of a setting this word? -/
def isWord (ps : Properties) (k : Key) (word : String) : Bool := Text.eqFolded (ps.trimmed k) word

/-- The keyword that the text of a setting says. -/
def keyword {α : Type} [Keyword α] (ps : Properties) (k : Key) (standIn : α) : α :=
  (Keyword.ofText? (ps.trimmed k)).getD standIn

/-- The settings, read off the texts. -/
def settings (ps : Properties) : Settings where
  connectionUrls := listItems (ps.trimmed .connectionUrl)
  username := (ps.text? .connectionUsername).map Text.trim
  password := ps.text? .connectionPassword
  batchSize := Int32.ofInt (ps.number .batchSize)
  maxInFlightRequests := Int32.ofInt (ps.number .maxInFlightRequests)
  maxBufferedRecords := Int32.ofInt (ps.number .maxBufferedRecords)
  lingerMs := Int64.ofInt (ps.number .lingerMs)
  flushTimeoutMs := Int64.ofInt (ps.number .flushTimeoutMs)
  maxRetries := Int32.ofInt (ps.number .maxRetries)
  retryBackoffMs := Int64.ofInt (ps.number .retryBackoffMs)
  connectionTimeoutMs := Int32.ofInt (ps.number .connectionTimeoutMs)
  readTimeoutMs := Int32.ofInt (ps.number .readTimeoutMs)
  ignoreKey := ps.isWord .ignoreKey "true"
  ignoreSchema := ps.isWord .ignoreSchema "true"
  ignoreKeyTopics := listItems (ps.trimmed .ignoreKeyTopics)
  ignoreSchemaTopics := listItems (ps.trimmed .ignoreSchemaTopics)
  writeMethod := ps.keyword .writeMethod WriteMethod.insert
  nullBehavior := ps.keyword .nullBehavior NullBehavior.fail
  dataStreamType := ps.keyword .dataStreamType DataStreamType.none
  dataset := ps.trimmed .dataStreamDataset
  timestampFields := listItems (ps.trimmed .dataStreamTimestampField)
  proxyHost := ps.trimmed .proxyHost
  proxyPort := UInt16.ofNat (ps.number .proxyPort).toNat
  proxyUsername := ps.trimmed .proxyUsername
  proxyPassword := ps.text? .proxyPassword
  securityProtocol := ps.keyword .securityProtocol SecurityProtocol.plaintext
  kerberosPrincipal := (ps.text? .kerberosPrincipal).map Text.trim
  keytabPath := (ps.text? .kerberosKeytabPath).map Text.trim
  httpsSettings := (ps.filter (Text.beginsWith Https.head)).entries

end Properties

/-! ## Values of texts -/

variable {isFile : String → Bool} {ps : Properties} {k : Key} {v : Value}

/-- A setting is resolved from the text that counts; without one it is null, unless it is required. -/
theorem Key.resolve_eq (isFile : String → Bool) (ps : Properties) (k : Key) :
    k.resolve isFile ps = match ps.text? k with
      | some t => k.definition.read isFile t
      | none => if k.default = .required then .error (.missing k.name) else .ok .null := by
  show k.definition.resolve isFile (ps.get? k.name) = _
  unfold Properties.text?
  cases ps.get? k.name with
  | some t => rfl
  | none =>
    have hd : k.definition.default = k.default := rfl
    rw [Definition.resolve_none, hd]
    cases k.default <;> rfl

/-- A text that resolves is read as the kind of its setting says. -/
theorem Key.read_of_resolve {t : String} (h : k.resolve isFile ps = .ok v) (ht : ps.text? k = some t) :
    k.kind.read t = .ok v ∧ k.constraint.objection? isFile v = none := by
  rw [Key.resolve_eq, ht] at h
  exact Definition.read_eq_ok_iff.mp h

theorem Key.eq_null_of_resolve (h : k.resolve isFile ps = .ok v) (ht : ps.text? k = none) :
    v = .null := by
  rw [Key.resolve_eq, ht] at h
  simp only at h
  split at h
  · cases h
  · cases h; rfl

/-- A setting that resolves has a text, unless its default is null. -/
theorem Key.text?_of_resolve (h : k.resolve isFile ps = .ok v) (hd : k.default ≠ .null) :
    ∃ t, ps.text? k = some t := by
  cases ht : ps.text? k with
  | some t => exact ⟨t, rfl⟩
  | none =>
    rw [Key.resolve_eq, ht] at h
    simp only at h
    split at h
    · cases h
    · next hr =>
      unfold Properties.text? at ht
      cases hg : ps.get? k.name <;> cases hk : k.default <;> simp_all

/-! ## Resolved values by name -/

/-- The resolved values are those of the settings that resolve, with their names. -/
theorem Properties.resolved_eq (isFile : String → Bool) (ps : Properties) :
    ps.resolved isFile =
      Key.all.filterMap fun k => (k.resolve isFile ps).toOption.map fun v => (k.name, v) := by
  unfold Properties.resolved
  refine congrArg (Key.all.filterMap ·) (funext fun k => ?_)
  cases k.resolve isFile ps <;> rfl

/-- **Looking a setting up** in the resolved values gives what it resolves to, if it does. -/
theorem Properties.get?_resolved (isFile : String → Bool) (ps : Properties) (k : Key) :
    (ps.resolved isFile).get? k = (k.resolve isFile ps).toOption := by
  -- the induction runs over any row of distinct settings, of which `k` may or may not be one
  have row : ∀ ks : List Key, ks.Nodup →
      Keyed.find? k.name
        (ks.filterMap fun l => (l.resolve isFile ps).toOption.map fun v => (l.name, v)) =
          if k ∈ ks then (k.resolve isFile ps).toOption else none := by
    intro ks
    induction ks with
    | nil => intro _; rfl
    | cons a ks ih =>
      intro hn
      obtain ⟨ha, hks⟩ := List.nodup_cons.mp hn
      by_cases hak : a = k
      · subst hak
        rw [List.filterMap_cons, if_pos List.mem_cons_self]
        cases hr : a.resolve isFile ps with
        | ok v => simp [Except.toOption]
        | error f => simpa [ha, Except.toOption] using ih hks
      · have hmem : k ∈ a :: ks ↔ k ∈ ks := by
          rw [List.mem_cons]
          exact ⟨fun h => h.resolve_left (Ne.symm hak), Or.inr⟩
        simp only [hmem, List.filterMap_cons]
        cases hr : a.resolve isFile ps with
        | ok v =>
          rw [← ih hks]
          exact if_neg fun hname => hak (Key.name_injective hname)
        | error f => exact ih hks
  rw [Properties.resolved_eq]
  exact (row Key.all Key.nodup_all).trans (if_pos (Key.mem_all k))

theorem Properties.get?_resolved_of_ok (h : k.resolve isFile ps = .ok v) :
    (ps.resolved isFile).get? k = some v := by
  rw [Properties.get?_resolved, h]; rfl

/-! ## Typed look-ups -/

/-- A setting with a text is read from that text as its kind says. -/
theorem Key.read_trimmed (h : k.resolve isFile ps = .ok v) (hd : k.default ≠ .null) :
    k.kind.read ((ps.text? k).getD "") = .ok v ∧ k.constraint.objection? isFile v = none := by
  obtain ⟨t, ht⟩ := Key.text?_of_resolve h hd
  rw [ht]
  exact Key.read_of_resolve h ht

theorem Key.list_of_resolve (h : k.resolve isFile ps = .ok v) (hd : k.default ≠ .null)
    (hk : k.kind = .list) : v = .list (listItems (ps.trimmed k)) := by
  have hr := (Key.read_trimmed h hd).1
  rw [hk] at hr
  cases hr
  rfl

/-- A text that is given or is the default is kept without the blanks at its ends. -/
theorem Key.text_of_resolve (h : k.resolve isFile ps = .ok v) (hd : k.default ≠ .null)
    (hk : k.kind = .string) : v = .string (ps.trimmed k) := by
  have hr := (Key.read_trimmed h hd).1
  rw [hk] at hr
  cases hr
  rfl

theorem Properties.list_resolved (h : k.resolve isFile ps = .ok v) (hd : k.default ≠ .null)
    (hk : k.kind = .list) : (ps.resolved isFile).list k = pure (listItems (ps.trimmed k)) := by
  rw [Resolved.list, Properties.get?_resolved_of_ok h, Key.list_of_resolve h hd hk]
  rfl

/-- The value of a text is the text without the blanks at its ends, and without a text there is none. -/
theorem Key.string_of_resolve (h : k.resolve isFile ps = .ok v) (hk : k.kind = .string) :
    v = ((ps.text? k).map Text.trim).elim .null .string := by
  cases ht : ps.text? k with
  | none => exact Key.eq_null_of_resolve h ht
  | some t =>
    have hr := (Key.read_of_resolve h ht).1
    rw [hk] at hr
    cases hr
    rfl

theorem Properties.optionalText_resolved (h : k.resolve isFile ps = .ok v) (hk : k.kind = .string) :
    (ps.resolved isFile).optionalText k = pure ((ps.text? k).map Text.trim) := by
  rw [Resolved.optionalText, Properties.get?_resolved_of_ok h, Key.string_of_resolve h hk]
  cases ps.text? k <;> rfl

/-- A secret is kept as it is given. -/
theorem Key.secret_of_resolve (h : k.resolve isFile ps = .ok v) (hk : k.kind = .secret) :
    v = (ps.text? k).elim .null .secret := by
  cases ht : ps.text? k with
  | none => exact Key.eq_null_of_resolve h ht
  | some t =>
    have hr := (Key.read_of_resolve h ht).1
    rw [hk] at hr
    cases hr
    rfl

theorem Properties.optionalText_resolved_of_secret (h : k.resolve isFile ps = .ok v)
    (hk : k.kind = .secret) :
    (ps.resolved isFile).optionalText k = pure (ps.text? k) := by
  rw [Resolved.optionalText, Properties.get?_resolved_of_ok h, Key.secret_of_resolve h hk]
  cases ps.text? k <;> rfl

theorem Properties.text_resolved (h : k.resolve isFile ps = .ok v) (hk : k.kind = .string) :
    (ps.resolved isFile).text k = pure (ps.trimmed k) := by
  rw [Resolved.text, Properties.optionalText_resolved h hk, pure_bind, Properties.trimmed]
  cases ps.text? k <;> rfl

/-- A text that says a truth value says whether it is the word `true`. -/
theorem eq_of_readBoolean?_eq_some {t : String} {b : Bool} (h : readBoolean? t = some b) :
    b = Text.eqFolded t "true" := by
  unfold readBoolean? at h
  split at h
  · next ht => cases h; exact ht.symm
  · next ht =>
    split at h
    · cases h; exact (Bool.eq_false_iff.mpr ht).symm
    · cases h

theorem Key.boolean_of_resolve (h : k.resolve isFile ps = .ok v) (hd : k.default ≠ .null)
    (hk : k.kind = .boolean) : v = .boolean (ps.isWord k "true") := by
  have hr := (Key.read_trimmed h hd).1
  rw [hk] at hr
  simp only [Kind.read] at hr
  split at hr
  · next b hb =>
    cases hr
    rw [eq_of_readBoolean?_eq_some hb]
    rfl
  · cases hr

theorem Properties.boolean_resolved (h : k.resolve isFile ps = .ok v) (hd : k.default ≠ .null)
    (hk : k.kind = .boolean) : (ps.resolved isFile).boolean k = pure (ps.isWord k "true") := by
  rw [Resolved.boolean, Properties.get?_resolved_of_ok h, Key.boolean_of_resolve h hd hk]
  rfl

/-- The value of an integer setting is the number of its text, which fits its type. -/
theorem Key.integer_of_resolve {w : Width} (h : k.resolve isFile ps = .ok v) (hd : k.default ≠ .null)
    (hk : k.kind = .integer w) :
    v = .int (Int64.ofInt (ps.number k)) ∧ w.Fits (ps.number k) := by
  have hr := (Key.read_trimmed h hd).1
  rw [hk] at hr
  simp only [Kind.read, Width.read?] at hr
  show v = .int (Int64.ofInt ((Text.integer? (ps.trimmed k).toList).getD 0)) ∧
    w.Fits ((Text.integer? (ps.trimmed k).toList).getD 0)
  have htr : ps.trimmed k = Text.trim ((ps.text? k).getD "") := rfl
  rw [← htr] at hr
  cases hn : Text.integer? (ps.trimmed k).toList with
  | none => rw [hn] at hr; cases hr
  | some n =>
    rw [hn] at hr
    by_cases hf : w.Fits n
    · simp only [if_pos hf] at hr
      cases hr
      exact ⟨rfl, hf⟩
    · simp only [if_neg hf] at hr
      cases hr

theorem Properties.long_resolved {w : Width} (h : k.resolve isFile ps = .ok v) (hd : k.default ≠ .null)
    (hk : k.kind = .integer w) :
    (ps.resolved isFile).long k = pure (Int64.ofInt (ps.number k)) := by
  rw [Resolved.long, Properties.get?_resolved_of_ok h, (Key.integer_of_resolve h hd hk).1]
  rfl

theorem Properties.int_resolved (h : k.resolve isFile ps = .ok v) (hd : k.default ≠ .null)
    (hk : k.kind = .integer .int) :
    (ps.resolved isFile).int k = pure (Int32.ofInt (ps.number k)) := by
  have hf := (Key.integer_of_resolve h hd hk).2
  rw [Resolved.int, Properties.long_resolved h hd hk, pure_bind, Width.toInt_ofInt hf, if_pos hf,
    Int64.toInt32_ofInt]

/-- An integer setting keeps to the bounds of its constraint. -/
theorem Properties.number_mem_range {w : Width} {min max : Int64} (h : k.resolve isFile ps = .ok v)
    (hd : k.default ≠ .null) (hk : k.kind = .integer w) (hc : k.constraint = .range min max) :
    min.toInt ≤ ps.number k ∧ ps.number k ≤ max.toInt := by
  obtain ⟨hv, hf⟩ := Key.integer_of_resolve h hd hk
  have ho := (Key.read_trimmed h hd).2
  rw [hc, hv] at ho
  simp only [Constraint.objection?, Value.int?, Option.bind_some] at ho
  split at ho
  · cases ho
  · next hlo =>
    split at ho
    · cases ho
    · next hhi =>
      rw [Int64.lt_iff_toInt_lt, Width.toInt_ofInt hf] at hlo hhi
      exact ⟨Int.not_lt.mp hlo, Int.not_lt.mp hhi⟩

/-- A number between the bounds of a port. -/
theorem Properties.number_mem_port {w : Width} (h : k.resolve isFile ps = .ok v) (hd : k.default ≠ .null)
    (hk : k.kind = .integer w) (hc : k.constraint = .range 1 65535) :
    1 ≤ ps.number k ∧ ps.number k ≤ 65535 := by
  have hr := Properties.number_mem_range h hd hk hc
  rwa [show (1 : Int64).toInt = 1 by decide, show (65535 : Int64).toInt = 65535 by decide] at hr

theorem Properties.port_resolved (h : k.resolve isFile ps = .ok v) (hd : k.default ≠ .null)
    (hk : k.kind = .integer .int) (hc : k.constraint = .range 1 65535) :
    (ps.resolved isFile).port k = pure (UInt16.ofNat (ps.number k).toNat) := by
  have hr := Properties.number_mem_port h hd hk hc
  -- within these bounds neither the 32 bits of the value nor the 16 of the port cut anything off
  have hn : (Int32.ofInt (ps.number k)).toInt = ps.number k :=
    Int32.toInt_ofInt_of_le (by omega) (by omega)
  have hport : 0 ≤ ps.number k ∧ ps.number k < 2 ^ 16 := ⟨by omega, by omega⟩
  rw [Resolved.port, Properties.int_resolved h hd hk, pure_bind, hn, if_pos hport]

/-- The word that a text says is the word of the keyword that it says. -/
theorem Keyword.find?_words (α : Type) [Keyword α] (t : String) :
    (Keyword.words α).find? (fun w => Text.eqFolded w t) =
      (Keyword.ofText? t : Option α).map Keyword.word := by
  rw [Keyword.words, List.find?_map, Keyword.ofText?]
  congr 2
  funext a
  exact Text.eqFolded_comm _ _

/-- The value of a setting that takes keywords is the word of the keyword that its text says. -/
theorem Key.keyword_of_resolve {α : Type} [Keyword α] (h : k.resolve isFile ps = .ok v)
    (hd : k.default ≠ .null) (hk : k.kind = .choice (Keyword.words α)) :
    ∃ a : α, Keyword.ofText? (ps.trimmed k) = some a ∧ v = .string (Keyword.word a) := by
  have hr := (Key.read_trimmed h hd).1
  rw [hk] at hr
  simp only [Kind.read, Keyword.find?_words] at hr
  have htr : Text.trim ((ps.text? k).getD "") = ps.trimmed k := rfl
  rw [htr] at hr
  cases ha : (Keyword.ofText? (ps.trimmed k) : Option α) with
  | none => rw [ha] at hr; cases hr
  | some a =>
    rw [ha] at hr
    cases hr
    exact ⟨a, rfl, rfl⟩

theorem Properties.keyword_resolved {α : Type} [Keyword α] (h : k.resolve isFile ps = .ok v)
    (hd : k.default ≠ .null) (hk : k.kind = .choice (Keyword.words α))
    (hw : ∀ a : α, Keyword.ofText? (Keyword.word a) = some a) (standIn : α) :
    (ps.resolved isFile).keyword k standIn = pure (ps.keyword k standIn) := by
  obtain ⟨a, ha, rfl⟩ := Key.keyword_of_resolve (α := α) h hd hk
  have ht : (ps.resolved isFile).text k = pure (Keyword.word a) := by
    rw [Resolved.text, Resolved.optionalText, Properties.get?_resolved_of_ok h]
    rfl
  rw [Resolved.keyword, ht, pure_bind, hw a, Properties.keyword, ha]
  rfl

/-! ## All look-ups -/

/-- Where no setting is at fault every setting resolves. -/
theorem Key.resolve_of_faults_eq_nil (h : ps.faults isFile = []) (k : Key) :
    ∃ v, k.resolve isFile ps = .ok v := by
  cases hr : k.resolve isFile ps with
  | ok v => exact ⟨v, rfl⟩
  | error f =>
    have hm : f ∈ ps.faults isFile :=
      List.mem_filterMap.mpr ⟨k, Key.mem_all k, by rw [hr]⟩
    rw [h] at hm
    cases hm

/-- An integer of 32 bits is not changed by being stored as one. -/
theorem Properties.toInt_int32 (h : ps.faults isFile = []) (hd : k.default ≠ .null)
    (hk : k.kind = .integer .int) : (Int32.ofInt (ps.number k)).toInt = ps.number k := by
  obtain ⟨v, hv⟩ := Key.resolve_of_faults_eq_nil h k
  have hf : -2 ^ 31 ≤ ps.number k ∧ ps.number k < 2 ^ 31 := (Key.integer_of_resolve hv hd hk).2
  exact Int32.toInt_ofInt_of_le hf.1 hf.2

theorem Properties.toInt_int64 (h : ps.faults isFile = []) (hd : k.default ≠ .null)
    (hk : k.kind = .integer .long) : (Int64.ofInt (ps.number k)).toInt = ps.number k := by
  obtain ⟨v, hv⟩ := Key.resolve_of_faults_eq_nil h k
  exact Width.toInt_ofInt (Key.integer_of_resolve hv hd hk).2

/-- **The assembly never complains** of values that were resolved without fault, and makes the settings
of the texts. -/
theorem Settings.lookUp_resolved (h : ps.faults isFile = []) :
    Settings.lookUp (ps.resolved isFile) ps = pure ps.settings := by
  have hv := fun k => (Key.resolve_of_faults_eq_nil h k).choose_spec
  -- one look-up for each setting, by the lemma of its kind
  have list := fun k => Properties.list_resolved (hv k)
  have long := fun k {w} => Properties.long_resolved (w := w) (hv k)
  have int := fun k => Properties.int_resolved (hv k)
  have boolean := fun k => Properties.boolean_resolved (hv k)
  have text := fun k => Properties.text_resolved (hv k)
  have optional := fun k => Properties.optionalText_resolved (hv k)
  have secret := fun k => Properties.optionalText_resolved_of_secret (hv k)
  simp only [Settings.lookUp, pure_bind, Properties.port_resolved (hv .proxyPort) (by decide) rfl rfl,
    list .connectionUrl (by decide) rfl, optional .connectionUsername rfl, secret .connectionPassword rfl,
    int .batchSize (by decide) rfl, int .maxInFlightRequests (by decide) rfl, int .maxBufferedRecords (by decide) rfl,
    long .lingerMs (by decide) rfl, long .flushTimeoutMs (by decide) rfl, int .maxRetries (by decide) rfl,
    long .retryBackoffMs (by decide) rfl, int .connectionTimeoutMs (by decide) rfl,
    int .readTimeoutMs (by decide) rfl, boolean .ignoreKey (by decide) rfl, boolean .ignoreSchema (by decide) rfl,
    list .ignoreKeyTopics (by decide) rfl, list .ignoreSchemaTopics (by decide) rfl,
    Properties.keyword_resolved (hv .writeMethod) (by decide) Key.kind_writeMethod
      WriteMethod.ofText?_word,
    Properties.keyword_resolved (hv .nullBehavior) (by decide) Key.kind_nullBehavior
      NullBehavior.ofText?_word,
    Properties.keyword_resolved (hv .dataStreamType) (by decide) Key.kind_dataStreamType
      DataStreamType.ofText?_word,
    text .dataStreamDataset rfl, list .dataStreamTimestampField (by decide) rfl, text .proxyHost rfl,
    text .proxyUsername rfl, secret .proxyPassword rfl,
    Properties.keyword_resolved (hv .securityProtocol) (by decide) Key.kind_securityProtocol
      SecurityProtocol.ofText?_word,
    optional .kerberosPrincipal rfl, optional .kerberosKeytabPath rfl]
  rfl

/-- **Settings come out of a configuration** exactly if none is at fault, and they are those of its
texts. -/
theorem Settings.parse_eq (isFile : String → Bool) (ps : Properties) :
    Settings.parse isFile ps =
      if ps.faults isFile = [] then .ok ps.settings else .error (ps.faults isFile) := by
  by_cases h : ps.faults isFile = []
  · rw [Settings.parse, if_pos (List.isEmpty_iff.mpr h), if_pos h, Settings.assemble,
      Settings.lookUp_resolved h]
    rfl
  · rw [Settings.parse_eq_error_of_faults h, if_neg h]

theorem Settings.parse_eq_ok_iff {s : Settings} :
    Settings.parse isFile ps = .ok s ↔ ps.faults isFile = [] ∧ s = ps.settings := by
  rw [Settings.parse_eq]
  split
  · next h => simp [h, eq_comm]
  · next h => simp [h]

theorem Settings.parse_eq_error_iff {fs : List SyntaxFault} :
    Settings.parse isFile ps = .error fs ↔ ps.faults isFile ≠ [] ∧ fs = ps.faults isFile := by
  rw [Settings.parse_eq]
  split
  · next h => simp [h]
  · next h => simp [h, eq_comm]

/-- What is asked of the settings, if they can be made, is asked of one value. -/
theorem Settings.exists_parse_eq_ok_and_iff {p : Settings → Prop} :
    (∃ s, Settings.parse isFile ps = .ok s ∧ p s) ↔ ps.faults isFile = [] ∧ p ps.settings := by
  constructor
  · rintro ⟨s, hs, hp⟩
    obtain ⟨hf, rfl⟩ := Settings.parse_eq_ok_iff.mp hs
    exact ⟨hf, hp⟩
  · rintro ⟨hf, hp⟩
    exact ⟨ps.settings, Settings.parse_eq_ok_iff.mpr ⟨hf, rfl⟩, hp⟩

theorem Settings.exists_parse_eq_error_iff :
    (∃ fs, Settings.parse isFile ps = .error fs) ↔ ps.faults isFile ≠ [] := by
  constructor
  · rintro ⟨fs, hfs⟩
    exact (Settings.parse_eq_error_iff.mp hfs).1
  · intro hf
    exact ⟨ps.faults isFile, Settings.parse_eq_error_iff.mpr ⟨hf, rfl⟩⟩

end SinkCheck
