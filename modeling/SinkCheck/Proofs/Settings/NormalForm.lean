import SinkCheck.Proofs.Report.History
import SinkCheck.Proofs.Report.Values
/-
  The normal form of a configuration.

  The report of a configuration can be read as a configuration: each setting has the text that is shown
  for it, defaults included, and the settings of the encrypted connection stay as they are, as do the
  passwords, of which nothing is shown.  If the configuration made settings, the normal form makes the
  same settings, and its report is the same, so it is its own normal form.

  The two configurations have different texts and must be compared by what the texts resolve to.  A
  value that was shown is read again from the text as which it was shown (`Definition.read_display`), and a
  setting of which nothing was shown was not given.  Both making settings and reporting depend on
  nothing but the values of the settings and the properties of the encrypted connection.

  Main statements: `get?_normalForm`, `resolve_normalForm`, and `normalForm_is_fixed`.
-/

namespace SinkCheck

/-! ## The normal form -/

namespace Properties

/-- The properties with another text for a name, if there is one. -/
def set (ps : Properties) (name : String) (text? : Option String) : Properties :=
  text?.elim ps (ps.insert name)

/-- The text of a setting in the normal form: the one that the report shows or, for a secret, the given
one. -/
def written? (isFile : String → Bool) (ps : Properties) (k : Key) : Option String :=
  if k.kind = .secret then ps.get? k.name
  else ((Report.ofProperties isFile ps).find? k.name).bind Report.Entry.value

/-- The normal form: the settings as they are shown, and the properties of the encrypted connection. -/
def normalForm (isFile : String → Bool) (ps : Properties) : Properties :=
  Key.all.foldl (fun qs k => qs.set k.name (ps.written? isFile k))
    (ps.filter (Text.beginsWith Https.head))

/-! ## Its texts -/

theorem get?_set (ps : Properties) (name other : String) (text? : Option String) :
    (ps.set name text?).get? other =
      if name = other then text?.or (ps.get? other) else ps.get? other := by
  cases text? with
  | none => simp [set]
  | some t => exact get?_insert ps name other t

/-- Setting texts leaves other names alone. -/
theorem get?_foldl_set_of_not_mem (g : Key → Option String) {name : String} {ks : List Key}
    (h : name ∉ ks.map Key.name) (ps : Properties) :
    (ks.foldl (fun qs k => qs.set k.name (g k)) ps).get? name = ps.get? name := by
  induction ks generalizing ps with
  | nil => rfl
  | cons k ks ih =>
    rw [List.map_cons, List.mem_cons, not_or] at h
    rw [List.foldl_cons, ih h.2, get?_set, if_neg (Ne.symm h.1)]

/-- Setting texts for distinct settings gives each its own. -/
theorem get?_foldl_set (g : Key → Option String) {k : Key} {ks : List Key} (hn : ks.Nodup) (hk : k ∈ ks)
    (ps : Properties) :
    (ks.foldl (fun qs k => qs.set k.name (g k)) ps).get? k.name = (g k).or (ps.get? k.name) := by
  induction ks generalizing ps with
  | nil => cases hk
  | cons l ks ih =>
    obtain ⟨hl, hks⟩ := List.nodup_cons.mp hn
    rcases List.mem_cons.mp hk with rfl | hk
    · have hname : k.name ∉ ks.map Key.name := by simpa using hl
      rw [List.foldl_cons, get?_foldl_set_of_not_mem g hname, get?_set, if_pos rfl]
    · have hname : l.name ≠ k.name := fun h => hl (Key.name_injective h ▸ hk)
      rw [List.foldl_cons, ih hks hk, get?_set, if_neg hname]

variable (isFile : String → Bool) (ps : Properties)

/-- No recognised setting has the name of one of the encrypted connection. -/
theorem beginsWith_name (k : Key) : Text.beginsWith Https.head k.name = false := by
  cases k <;> decide +kernel

theorem get?_normalForm (k : Key) : (ps.normalForm isFile).get? k.name = ps.written? isFile k := by
  rw [normalForm, get?_foldl_set _ Key.nodup_all (Key.mem_all k), get?_filter, beginsWith_name]
  exact Option.or_none

/-- **The properties of the encrypted connection** are those that were given. -/
theorem filter_normalForm :
    (ps.normalForm isFile).filter (Text.beginsWith Https.head) =
      ps.filter (Text.beginsWith Https.head) := by
  refine ext_get? fun name => ?_
  rw [get?_filter, get?_filter]
  cases hhead : Text.beginsWith Https.head name with
  | false => rfl
  | true =>
    have hname : name ∉ Key.all.map Key.name := by
      rintro hm
      obtain ⟨k, -, rfl⟩ := List.mem_map.mp hm
      cases hhead.symm.trans (beginsWith_name k)
    rw [normalForm, get?_foldl_set_of_not_mem _ hname, get?_filter, hhead]
    rfl

end Properties

variable {isFile : String → Bool} {ps qs : Properties} {k : Key} {v : Value}

/-! ## Its values -/

/-- The report shows for a setting that resolves what is shown of its value. -/
theorem Report.value_find?_of_resolve (h : k.resolve isFile ps = .ok v) :
    ((Report.ofProperties isFile ps).find? k.name).bind Entry.value = v.shown? := by
  have hn : (Report.ofProperties isFile ps).names.Nodup := by
    rw [Report.names_ofProperties]
    exact Key.nodup_names
  have hmem : k.entry isFile ps ∈ (Report.ofProperties isFile ps).entries := by
    rw [Report.entries_ofProperties]
    exact List.mem_map_of_mem (Key.mem_all k)
  have hfound := Report.find?_of_mem hn hmem
  rw [Key.name_entry] at hfound
  rw [hfound, Key.entry_of_resolve h]
  rfl

theorem Value.shown?_eq_some_display (h : v.isNull = false) : v.shown? = some v.display := by
  cases v with
  | null => cases h
  | string | secret | int | boolean | list => rfl

/-- **Each setting resolves to the same value** in the normal form. -/
theorem Properties.resolve_normalForm (h : k.resolve isFile ps = .ok v) :
    k.resolve isFile (ps.normalForm isFile) = .ok v := by
  by_cases hk : k.kind = .secret
  · rw [Key.resolve, get?_normalForm, written?, if_pos hk]
    exact h
  · have hget : (ps.normalForm isFile).get? k.name = v.shown? := by
      rw [get?_normalForm, written?, if_neg hk, Report.value_find?_of_resolve h]
    cases ht : ps.text? k with
    | none =>
      -- nothing is shown, and nothing was given
      have hv := Key.eq_null_of_resolve h ht
      subst hv
      rw [Key.resolve, hget, ← h, Key.resolve, Key.get?_of_resolve_null h]
      rfl
    | some t =>
      have hread : k.definition.read isFile t = .ok v := by
        rw [Key.resolve_eq, ht] at h
        exact h
      have hshown := Value.shown?_eq_some_display
        (Kind.isNull_of_read (Definition.read_eq_ok_iff.mp hread).1)
      rw [Key.resolve, hget, hshown, Definition.resolve_some]
      exact Definition.read_display hk hread

/-! ## Equal values, equal outcomes -/

/-- Settings depend on nothing but the values and the properties of the encrypted connection. -/
theorem Settings.parse_congr (h : ∀ k : Key, k.resolve isFile qs = k.resolve isFile ps)
    (hhttps : qs.filter (Text.beginsWith Https.head) = ps.filter (Text.beginsWith Https.head)) :
    Settings.parse isFile qs = Settings.parse isFile ps := by
  have hfaults : qs.faults isFile = ps.faults isFile := by
    rw [Properties.faults, Properties.faults, funext h]
  have hresolved : qs.resolved isFile = ps.resolved isFile := by
    rw [Properties.resolved_eq, Properties.resolved_eq, funext h]
  unfold Settings.parse Settings.assemble Settings.lookUp
  rw [hfaults, hresolved, hhttps]

/-- Where all settings resolve the report depends on nothing but their values. -/
theorem Report.ofProperties_congr {value : Key → Value}
    (hps : ∀ k : Key, k.resolve isFile ps = .ok (value k))
    (hqs : ∀ k : Key, k.resolve isFile qs = .ok (value k)) :
    Report.ofProperties isFile qs = Report.ofProperties isFile ps := by
  refine congrArg Report.mk (?_ : (Report.ofProperties isFile qs).entries =
    (Report.ofProperties isFile ps).entries)
  rw [Report.entries_ofProperties, Report.entries_ofProperties]
  refine List.map_congr_left fun k _ => ?_
  rw [Key.entry_of_resolve (hps k), Key.entry_of_resolve (hqs k)]

/-- **The normal form is fixed.**  If a configuration makes settings, then its normal form makes the same
settings and has the same report. -/
theorem normalForm_is_fixed {s : Settings} (h : Settings.parse isFile ps = .ok s) :
    Settings.parse isFile (ps.normalForm isFile) = .ok s ∧
    Report.ofProperties isFile (ps.normalForm isFile) = Report.ofProperties isFile ps := by
  obtain ⟨hf, -⟩ := Settings.parse_eq_ok_iff.mp h
  have hvalue := fun k => (Key.resolve_of_faults_eq_nil hf k).choose_spec
  have hsame := fun k => Properties.resolve_normalForm (hvalue k)
  refine ⟨?_, Report.ofProperties_congr hvalue hsame⟩
  rw [Settings.parse_congr (fun k => (hsame k).trans (hvalue k).symm)
    (Properties.filter_normalForm isFile ps)]
  exact h

/-- A configuration that is nowhere in its normal form. -/
def crooked : Properties := .ofList
  [("connection.url", " https://[::1]:9200 ,, http://[::1] "), ("connection.username", "\tsink "),
   ("connection.password", " secret "), ("elastic.https.verify", " no "), ("topics", "orders"),
   ("batch.size", " +0300 "), ("linger.ms", "-0"), ("key.ignore", "True"),
   ("topic.schema.ignore", ",a b,"), ("behavior.on.null.values", " ignore"), ("proxy.port", "08081"),
   ("kerberos.keytab.path", " sink.keytab")]

theorem normalForm_is_fixed_crooked :
    let isFile := fun path => path == "sink.keytab"
    Settings.parse isFile (crooked.normalForm isFile) = .ok crooked.settings ∧
    Report.ofProperties isFile (crooked.normalForm isFile) = Report.ofProperties isFile crooked ∧
    (crooked.normalForm isFile).entries =
      [("batch.size", "300"), ("behavior.on.null.values", "IGNORE"), ("connection.password", " secret "),
       ("connection.timeout.ms", "1000"), ("connection.url", "https://[::1]:9200,http://[::1]"),
       ("connection.username", "sink"), ("data.stream.dataset", ""), ("data.stream.timestamp.field", ""),
       ("data.stream.type", "NONE"), ("elastic.https.verify", " no "),
       ("elastic.security.protocol", "PLAINTEXT"), ("flush.timeout.ms", "180000"),
       ("kerberos.keytab.path", "sink.keytab"), ("key.ignore", "true"), ("linger.ms", "0"),
       ("max.buffered.records", "20000"), ("max.in.flight.requests", "5"), ("max.retries", "5"),
       ("proxy.host", ""), ("proxy.port", "8081"), ("proxy.username", ""), ("read.timeout.ms", "3000"),
       ("retry.backoff.ms", "100"), ("schema.ignore", "false"), ("topic.key.ignore", ""),
       ("topic.schema.ignore", "a b"), ("write.method", "INSERT")] := by
  intro isFile
  have hclean : crooked.faults isFile = [] := by decide +kernel
  have h := normalForm_is_fixed (Settings.parse_eq_ok_iff.mpr ⟨hclean, rfl⟩)
  exact ⟨h.1, h.2, by decide +kernel⟩

end SinkCheck
