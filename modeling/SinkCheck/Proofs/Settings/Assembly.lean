import SinkCheck.Settings.Resolution
/-
  What an assembly makes of the values that it is given.

  The values need not come from the standard definitions: they may be of any type and any size, missing
  or given twice.  The assembly looks each setting up once, and what a look-up complains of is all that
  can keep the settings from being made.  So the question is what the look-ups let pass.  Most let pass
  what the settings can hold and nothing else, and then the getter is the value.  Two kinds of values
  slip through: a number of 32 bits that is no port becomes the port 0, and where a text is looked for
  every other value counts as left out.

  Main statements: what each look-up lets pass (`passes_list` and so on), `complaints_eq_nil_iff`,
  `keeps_lookUp`, and `assembly_keeps_values` for the assembly.
-/

namespace SinkCheck

/-! ## Values against settings -/

/-- Is the value a text, or null in place of one? -/
def Value.isTextual (v : Value) : Bool := v.isNull || v.text?.isSome

/-- Can the integer be held for a setting whose values have the given type? -/
def Key.canHold (k : Key) (w : Width) (n : Int) : Bool :=
  if k = .proxyPort then 0 ≤ n && n < 2 ^ 16 else w.Fits n

/-- Is the value of the kind of a setting, and in the range of what can be held for it? -/
def Value.suits (v : Value) (k : Key) : Bool :=
  match k.kind with
  | .string | .secret => v.isTextual
  | .integer w => v.int?.any fun n => k.canHold w n.toInt
  | .boolean => v.boolean?.isSome
  | .list => v.list?.isSome
  | .choice words => v.text?.any fun t => words.any fun w => Text.eqFolded t w

/-- Does the value go unnoticed although it does not suit? -/
def Value.slips (v : Value) (k : Key) : Bool :=
  match k.kind with
  | .string | .secret => !v.isTextual
  | .integer w => v.int?.any fun n => decide (w.Fits n.toInt) && !k.canHold w n.toInt
  | .boolean | .list | .choice _ => false

example : Value.slips (.int 65536) .proxyPort = true := by decide

example : Value.slips (.int 2147483648) .proxyPort = false := by decide

/-- The value that is held in place of one that slipped through. -/
def Key.standIn : Key → Value
  | .proxyPort => .int 0
  | _ => .null

/-- Do the settings hold this value for a setting, unaltered?  A keyword is held whatever the case of its
word; the text of null is none or, where none cannot be held, the empty one. -/
def Settings.Keeps (s : Settings) (v : Value) : Key → Prop
  | .connectionUrl => v.list? = some s.connectionUrls
  | .connectionUsername => v.isTextual = true ∧ v.text? = s.username
  | .connectionPassword => v.isTextual = true ∧ v.text? = s.password
  | .batchSize => v.int?.map Int64.toInt = some s.batchSize.toInt
  | .maxInFlightRequests => v.int?.map Int64.toInt = some s.maxInFlightRequests.toInt
  | .maxBufferedRecords => v.int?.map Int64.toInt = some s.maxBufferedRecords.toInt
  | .lingerMs => v.int?.map Int64.toInt = some s.lingerMs.toInt
  | .flushTimeoutMs => v.int?.map Int64.toInt = some s.flushTimeoutMs.toInt
  | .maxRetries => v.int?.map Int64.toInt = some s.maxRetries.toInt
  | .retryBackoffMs => v.int?.map Int64.toInt = some s.retryBackoffMs.toInt
  | .connectionTimeoutMs => v.int?.map Int64.toInt = some s.connectionTimeoutMs.toInt
  | .readTimeoutMs => v.int?.map Int64.toInt = some s.readTimeoutMs.toInt
  | .ignoreKey => v.boolean? = some s.ignoreKey
  | .ignoreSchema => v.boolean? = some s.ignoreSchema
  | .ignoreKeyTopics => v.list? = some s.ignoreKeyTopics
  | .ignoreSchemaTopics => v.list? = some s.ignoreSchemaTopics
  | .writeMethod => v.text?.any (Text.eqFolded · (Keyword.word s.writeMethod)) = true
  | .nullBehavior => v.text?.any (Text.eqFolded · (Keyword.word s.nullBehavior)) = true
  | .dataStreamType => v.text?.any (Text.eqFolded · (Keyword.word s.dataStreamType)) = true
  | .dataStreamDataset => v.isTextual = true ∧ v.text?.getD "" = s.dataset
  | .dataStreamTimestampField => v.list? = some s.timestampFields
  | .proxyHost => v.isTextual = true ∧ v.text?.getD "" = s.proxyHost
  | .proxyPort => v.int?.map Int64.toInt = some (s.proxyPort.toNat : Int)
  | .proxyUsername => v.isTextual = true ∧ v.text?.getD "" = s.proxyUsername
  | .proxyPassword => v.isTextual = true ∧ v.text? = s.proxyPassword
  | .securityProtocol => v.text?.any (Text.eqFolded · (Keyword.word s.securityProtocol)) = true
  | .kerberosPrincipal => v.isTextual = true ∧ v.text? = s.kerberosPrincipal
  | .kerberosKeytabPath => v.isTextual = true ∧ v.text? = s.keytabPath

variable {r : Resolved} {ps : Properties} {k : Key} {v : Value}

/-! ## Suiting and slipping, kind by kind -/

/-- Cutting an integer of 32 bits to 32 bits takes nothing away. -/
theorem Width.toInt_toInt32 {n : Int64} (h : Width.int.Fits n.toInt) : n.toInt32.toInt = n.toInt := by
  have hrange : -2 ^ 31 ≤ n.toInt ∧ n.toInt < 2 ^ 31 := h
  rw [Int64.toInt_toInt32, Int.bmod_eq_of_le] <;> omega

theorem Width.fits_long (n : Int64) : Width.long.Fits n.toInt := ⟨n.le_toInt, n.toInt_lt⟩

/-- Every port is an integer of 32 bits, so an integer suits or slips if it fits its type. -/
theorem Value.suits_or_slips_integer {w : Width} (hk : k.kind = .integer w) :
    v.suits k = true ∨ v.slips k = true ↔ ∃ n, v.int? = some n ∧ w.Fits n.toInt := by
  have hfits : ∀ n : Int, k.canHold w n = true → w.Fits n := by
    intro n hn
    unfold Key.canHold at hn
    split at hn
    · next hport =>
      subst hport
      cases hk
      have hrange : 0 ≤ n ∧ n < 2 ^ 16 := by simpa using hn
      exact ⟨by show -2 ^ 31 ≤ n; omega, by show n < 2 ^ 31; omega⟩
    · exact of_decide_eq_true hn
  simp only [suits, slips, hk, Option.any_eq_true_iff_get]
  cases v.int? with
  | none => simp
  | some n =>
    simp only [Option.isSome_some, Option.get_some, exists_true_left, Bool.and_eq_true,
      decide_eq_true_eq, Bool.not_eq_true', Option.some_inj, exists_eq_left']
    constructor
    · rintro (h | h)
      · exact hfits _ h
      · exact h.1
    · intro h
      cases hc : k.canHold w n.toInt with
      | true => exact Or.inl rfl
      | false => exact Or.inr ⟨h, rfl⟩

/-- A value suits or slips where a text is looked for. -/
theorem Value.suits_or_slips_text (hk : k.kind = .string ∨ k.kind = .secret) (v : Value) :
    v.suits k = true ∨ v.slips k = true := by
  rcases hk with hk | hk <;> simp only [suits, slips, hk] <;> cases v.isTextual <;> simp

theorem Keyword.isSome_ofText? {α : Type} [Keyword α] (t : String) :
    (Keyword.ofText? t : Option α).isSome =
      (Keyword.words α).any fun w => Text.eqFolded t w := by
  rw [Keyword.ofText?, Keyword.words, List.isSome_find?, List.any_map]
  rfl

/-- A value of a setting that takes keywords suits if it is the word of one; no other slips. -/
theorem Value.suits_or_slips_keyword {α : Type} [Keyword α] (hk : k.kind = .choice (Keyword.words α))
    (v : Value) : v.suits k = true ∨ v.slips k = true ↔
      ∃ a : α, v.text?.bind Keyword.ofText? = some a := by
  simp only [suits, slips, hk, Bool.false_eq_true, or_false, ← Keyword.isSome_ofText?]
  cases v.text? with
  | none => simp
  | some t => simp [Option.isSome_iff_exists]

/-! ## What a look-up lets pass -/

namespace Resolved

/-- A look-up of a setting lets pass what is related to its first value, and complains if there is no
such thing. -/
def Passes {α : Type} (r : Resolved) (k : Key) (lookUp : Logged SyntaxFault α) (p : Value → α → Prop) :
    Prop :=
  ∀ a, lookUp = pure a ↔ ∃ v, r.get? k = some v ∧ p v a

namespace Passes

variable {α : Type} {lookUp : Logged SyntaxFault α} {p : Value → α → Prop}

theorem log_eq_nil_iff (h : Passes r k lookUp p) :
    lookUp.log = [] ↔ ∃ v, r.get? k = some v ∧ ∃ a, p v a := by
  constructor
  · intro hlog
    obtain ⟨v, hv, hp⟩ := (h lookUp.value).mp (Logged.eq_pure_value hlog)
    exact ⟨v, hv, lookUp.value, hp⟩
  · rintro ⟨v, hv, a, hp⟩
    rw [(h a).mpr ⟨v, hv, hp⟩, Logged.log_pure]

theorem of_log_eq_nil (h : Passes r k lookUp p) (hlog : lookUp.log = []) (hv : r.get? k = some v) :
    p v lookUp.value := by
  obtain ⟨w, hw, hp⟩ := (h lookUp.value).mp (Logged.eq_pure_value hlog)
  cases hv.symm.trans hw
  exact hp

end Passes

/-- A look-up that finds nothing wrong gives what was there. -/
theorem orUnresolved_eq_pure_iff {α : Type} {standIn a : α} {found : Option α} :
    orUnresolved k standIn found = pure a ↔ found = some a := by
  cases found with
  | none =>
    refine ⟨fun h => ?_, fun h => by cases h⟩
    have hlog := congrArg Logged.log h
    cases hlog
  | some b =>
    constructor
    · intro h
      exact congrArg some (congrArg Logged.value h)
    · intro h
      cases h
      rfl

variable (r k)

theorem passes_list : Passes r k (r.list k) fun v l => v.list? = some l :=
  fun _ => orUnresolved_eq_pure_iff.trans Option.bind_eq_some_iff

theorem passes_boolean : Passes r k (r.boolean k) fun v b => v.boolean? = some b :=
  fun _ => orUnresolved_eq_pure_iff.trans Option.bind_eq_some_iff

theorem passes_long : Passes r k (r.long k) fun v n => v.int? = some n :=
  fun _ => orUnresolved_eq_pure_iff.trans Option.bind_eq_some_iff

/-- Where a text is looked for, any value passes. -/
theorem passes_optionalText : Passes r k (r.optionalText k) fun v t => v.text? = t :=
  fun _ => orUnresolved_eq_pure_iff.trans Option.map_eq_some_iff

theorem passes_text : Passes r k (r.text k) fun v t => v.text?.getD "" = t := by
  intro t
  simp only [text, Logged.bind_eq_pure_iff, passes_optionalText r k _, Logged.pure_inj]
  constructor
  · rintro ⟨_, ⟨v, hv, rfl⟩, ht⟩
    exact ⟨v, hv, ht⟩
  · rintro ⟨v, hv, ht⟩
    exact ⟨v.text?, ⟨v, hv, rfl⟩, ht⟩

/-- An integer passes if it has no more than 32 bits. -/
theorem passes_int : Passes r k (r.int k) fun v m => v.int?.map Int64.toInt = some m.toInt := by
  intro m
  simp only [int, Logged.bind_eq_pure_iff, passes_long r k _, Option.map_eq_some_iff]
  constructor
  · rintro ⟨n, ⟨v, hv, hn⟩, hm⟩
    refine ⟨v, hv, n, hn, ?_⟩
    split at hm
    · next hfits => rw [← Logged.pure_inj.mp hm, Width.toInt_toInt32 hfits]
    · have hlog := congrArg Logged.log hm
      cases hlog
  · rintro ⟨v, hv, n, hn, hm⟩
    have hfits : Width.int.Fits n.toInt := hm ▸ ⟨m.le_toInt, m.toInt_lt⟩
    refine ⟨n, ⟨v, hv, hn⟩, ?_⟩
    rw [if_pos hfits, Logged.pure_inj, ← Int32.toInt_inj, Width.toInt_toInt32 hfits, hm]

/-- As a port, too, an integer passes if it has no more than 32 bits; it need not be a port. -/
theorem passes_port : Passes r k (r.port k) fun v p => ∃ n, v.int? = some n ∧
    Width.int.Fits n.toInt ∧
    (if 0 ≤ n.toInt ∧ n.toInt < 2 ^ 16 then UInt16.ofNat n.toInt.toNat else 0) = p := by
  intro p
  simp only [port, Logged.bind_eq_pure_iff, passes_int r k _, Logged.pure_inj, Option.map_eq_some_iff]
  constructor
  · rintro ⟨m, ⟨v, hv, n, hn, hm⟩, hp⟩
    rw [← hm] at hp
    exact ⟨v, hv, n, hn, hm ▸ ⟨m.le_toInt, m.toInt_lt⟩, hp⟩
  · rintro ⟨v, hv, n, hn, hfits, hp⟩
    rw [← Width.toInt_toInt32 hfits] at hp
    exact ⟨n.toInt32, ⟨v, hv, n, hn, (Width.toInt_toInt32 hfits).symm⟩, hp⟩

/-- A word passes if it is that of a keyword.  What is no text is looked up as the empty word, and no
keyword has that. -/
theorem passes_keyword {α : Type} [Keyword α] (hempty : (Keyword.ofText? "" : Option α) = none)
    (standIn : α) : Passes r k (r.keyword k standIn) fun v a =>
      v.text?.bind Keyword.ofText? = some a := by
  intro a
  simp only [keyword, Logged.bind_eq_pure_iff, passes_text r k _]
  constructor
  · rintro ⟨t, ⟨v, hv, ht⟩, ha⟩
    refine ⟨v, hv, ?_⟩
    split at ha
    · next b hb =>
      rw [← Logged.pure_inj.mp ha, ← hb, ← ht]
      cases htext : v.text? with
      | none => rw [← ht, htext] at hb; cases hempty.symm.trans hb
      | some u => rfl
    · have hlog := congrArg Logged.log ha
      cases hlog
  · rintro ⟨v, hv, ha⟩
    obtain ⟨t, ht, hword⟩ := Option.bind_eq_some_iff.mp ha
    exact ⟨t, ⟨v, hv, by rw [ht]; rfl⟩, by rw [hword]⟩

/-! ## The complaints of an assembly -/

/-- What the look-up of a setting complains of. -/
def complaints (r : Resolved) (k : Key) : List SyntaxFault :=
  match k with
  | .connectionUrl | .ignoreKeyTopics | .ignoreSchemaTopics | .dataStreamTimestampField =>
    (r.list k).log
  | .connectionUsername | .connectionPassword | .proxyPassword | .kerberosPrincipal
  | .kerberosKeytabPath => (r.optionalText k).log
  | .dataStreamDataset | .proxyHost | .proxyUsername => (r.text k).log
  | .batchSize | .maxInFlightRequests | .maxBufferedRecords | .maxRetries | .connectionTimeoutMs
  | .readTimeoutMs => (r.int k).log
  | .lingerMs | .flushTimeoutMs | .retryBackoffMs => (r.long k).log
  | .proxyPort => (r.port k).log
  | .ignoreKey | .ignoreSchema => (r.boolean k).log
  | .writeMethod => (r.keyword k WriteMethod.insert).log
  | .nullBehavior => (r.keyword k NullBehavior.fail).log
  | .dataStreamType => (r.keyword k DataStreamType.none).log
  | .securityProtocol => (r.keyword k SecurityProtocol.plaintext).log

/-- **No complaint** is made of a setting exactly if its first value suits it or slips through. -/
theorem complaints_eq_nil_iff :
    r.complaints k = [] ↔ ∃ v, r.get? k = some v ∧ (v.suits k = true ∨ v.slips k = true) := by
  -- a look-up passes if its relation holds of some result; what is left is a question on the value
  have passing {α : Type} {lookUp : Logged SyntaxFault α} {p : Value → α → Prop}
      (h : Passes r k lookUp p) (hvalue : ∀ v, (∃ a, p v a) ↔ v.suits k = true ∨ v.slips k = true) :
      lookUp.log = [] ↔ ∃ v, r.get? k = some v ∧ (v.suits k = true ∨ v.slips k = true) :=
    h.log_eq_nil_iff.trans (exists_congr fun v => and_congr_right fun _ => hvalue v)
  cases k with
  | connectionUrl | ignoreKeyTopics | ignoreSchemaTopics | dataStreamTimestampField =>
    refine passing (passes_list r _) fun v => ?_
    simp [Value.suits, Value.slips, Key.kind, Option.isSome_iff_exists]
  | ignoreKey | ignoreSchema =>
    refine passing (passes_boolean r _) fun v => ?_
    simp [Value.suits, Value.slips, Key.kind, Option.isSome_iff_exists]
  | connectionUsername | connectionPassword | proxyPassword | kerberosPrincipal | kerberosKeytabPath =>
    refine passing (passes_optionalText r _) fun v => ?_
    exact iff_of_true ⟨_, rfl⟩ (Value.suits_or_slips_text (by decide) v)
  | dataStreamDataset | proxyHost | proxyUsername =>
    refine passing (passes_text r _) fun v => ?_
    exact iff_of_true ⟨_, rfl⟩ (Value.suits_or_slips_text (by decide) v)
  | lingerMs | flushTimeoutMs | retryBackoffMs =>
    refine passing (passes_long r _) fun v => ?_
    rw [Value.suits_or_slips_integer (w := .long) rfl]
    simp [Width.fits_long]
  | batchSize | maxInFlightRequests | maxBufferedRecords | maxRetries | connectionTimeoutMs
  | readTimeoutMs =>
    refine passing (passes_int r _) fun v => ?_
    rw [Value.suits_or_slips_integer (w := .int) rfl]
    simp only [Option.map_eq_some_iff]
    constructor
    · rintro ⟨m, n, hn, hm⟩
      exact ⟨n, hn, hm ▸ ⟨m.le_toInt, m.toInt_lt⟩⟩
    · rintro ⟨n, hn, hfits⟩
      exact ⟨n.toInt32, n, hn, (Width.toInt_toInt32 hfits).symm⟩
  | proxyPort =>
    refine passing (passes_port r _) fun v => ?_
    rw [Value.suits_or_slips_integer (w := .int) rfl]
    constructor
    · rintro ⟨p, n, hn, hfits, -⟩
      exact ⟨n, hn, hfits⟩
    · rintro ⟨n, hn, hfits⟩
      exact ⟨_, n, hn, hfits, rfl⟩
  | writeMethod =>
    refine passing (passes_keyword r _ (by decide +kernel) _) fun v => ?_
    exact (Value.suits_or_slips_keyword Key.kind_writeMethod v).symm
  | nullBehavior =>
    refine passing (passes_keyword r _ (by decide +kernel) _) fun v => ?_
    exact (Value.suits_or_slips_keyword Key.kind_nullBehavior v).symm
  | dataStreamType =>
    refine passing (passes_keyword r _ (by decide +kernel) _) fun v => ?_
    exact (Value.suits_or_slips_keyword Key.kind_dataStreamType v).symm
  | securityProtocol =>
    refine passing (passes_keyword r _ (by decide +kernel) _) fun v => ?_
    exact (Value.suits_or_slips_keyword Key.kind_securityProtocol v).symm

end Resolved

/-- **An assembly complains** of what its look-ups complain of, the port of the proxy first. -/
theorem Settings.log_lookUp (r : Resolved) (ps : Properties) :
    (lookUp r ps).log =
      (Key.proxyPort :: Key.all.erase .proxyPort).flatMap r.complaints := by
  simp only [lookUp, Logged.log_bind, Logged.log_pure]
  rfl

/-! ## What the settings hold -/

/-- Where a text is looked for, the text of a value is held; of a value that is none and not null, nothing
is. -/
theorem Value.keeps_text {α : Type} (f : Option String → α) {t : α}
    (hk : k.kind = .string ∨ k.kind = .secret) (ht : f v.text? = t) :
    (v.isTextual = true ∧ f v.text? = t ↔ v.slips k = false) ∧
    (v.slips k = true → Value.null.isTextual = true ∧ f Value.null.text? = t) := by
  have hslips : v.slips k = !v.isTextual := by
    rcases hk with hk | hk <;> simp only [slips, hk]
  subst ht
  rw [hslips]
  cases v <;> simp [isTextual, isNull, text?]

/-- Of the integers of 32 bits the ports are held as they are, and the rest as 0. -/
theorem Value.keeps_port {n : Int64} {p : UInt16} (hn : v.int? = some n) (hfits : Width.int.Fits n.toInt)
    (hp : (if 0 ≤ n.toInt ∧ n.toInt < 2 ^ 16 then UInt16.ofNat n.toInt.toNat else 0) = p) :
    (v.int?.map Int64.toInt = some (p.toNat : Int) ↔ v.slips .proxyPort = false) ∧
    (v.slips .proxyPort = true → (Value.int 0).int?.map Int64.toInt = some (p.toNat : Int)) := by
  have hslips : v.slips .proxyPort = !decide (0 ≤ n.toInt ∧ n.toInt < 2 ^ 16) := by
    simp [slips, Key.kind, hn, hfits, Key.canHold]
  rw [hslips, hn, ← hp]
  split
  · next hport =>
    rw [decide_eq_true hport, Resolved.toNat_ofNat_of_isPort hport]
    exact ⟨iff_of_true rfl rfl, fun h => by cases h⟩
  · next hport =>
    have hne : n.toInt ≠ 0 := fun h => hport (by omega)
    rw [decide_eq_false hport]
    exact ⟨iff_of_false (fun h => hne (Option.some.inj h)) (by decide), fun _ => rfl⟩

/-- A keyword is held whatever the case of its word. -/
theorem Keyword.eqFolded_word {α : Type} [Keyword α] {o : Option String} {a : α}
    (h : o.bind Keyword.ofText? = some a) : o.any (Text.eqFolded · (Keyword.word a)) = true := by
  obtain ⟨t, rfl, ha⟩ := Option.bind_eq_some_iff.mp h
  exact (List.find?_eq_some_iff_append.mp ha).1

/-- **A value of which nothing is complained** is held as it is, unless it slips. -/
theorem Settings.keeps_lookUp (ps : Properties) (hv : r.get? k = some v) (h : r.complaints k = []) :
    ((lookUp r ps).value.Keeps v k ↔ v.slips k = false) ∧
    (v.slips k = true → (lookUp r ps).value.Keeps k.standIn k) := by
  have kept (hk : (lookUp r ps).value.Keeps v k) (hs : v.slips k = false) :
      ((lookUp r ps).value.Keeps v k ↔ v.slips k = false) ∧
      (v.slips k = true → (lookUp r ps).value.Keeps k.standIn k) :=
    ⟨iff_of_true hk hs, fun ht => by rw [hs] at ht; cases ht⟩
  cases k with
  | connectionUrl | ignoreKeyTopics | ignoreSchemaTopics | dataStreamTimestampField =>
    exact kept ((Resolved.passes_list r _).of_log_eq_nil h hv) rfl
  | ignoreKey | ignoreSchema =>
    exact kept ((Resolved.passes_boolean r _).of_log_eq_nil h hv) rfl
  | connectionUsername | connectionPassword | proxyPassword | kerberosPrincipal | kerberosKeytabPath =>
    exact Value.keeps_text id (by decide) ((Resolved.passes_optionalText r _).of_log_eq_nil h hv)
  | dataStreamDataset | proxyHost | proxyUsername =>
    exact Value.keeps_text (·.getD "") (by decide) ((Resolved.passes_text r _).of_log_eq_nil h hv)
  | lingerMs | flushTimeoutMs | retryBackoffMs =>
    have hn := (Resolved.passes_long r _).of_log_eq_nil h hv
    refine kept (congrArg (Option.map Int64.toInt) hn) ?_
    simp [Value.slips, Key.kind, hn, Width.fits_long, Key.canHold]
  | batchSize | maxInFlightRequests | maxBufferedRecords | maxRetries | connectionTimeoutMs
  | readTimeoutMs =>
    have hm := (Resolved.passes_int r _).of_log_eq_nil h hv
    refine kept hm ?_
    simp [Value.slips, Key.kind, Key.canHold]
  | proxyPort =>
    obtain ⟨n, hn, hfits, hp⟩ := (Resolved.passes_port r _).of_log_eq_nil h hv
    exact Value.keeps_port hn hfits hp
  | writeMethod =>
    have ha := (Resolved.passes_keyword r _ (by decide +kernel) _).of_log_eq_nil h hv
    exact kept (Keyword.eqFolded_word ha) rfl
  | nullBehavior =>
    have ha := (Resolved.passes_keyword r _ (by decide +kernel) _).of_log_eq_nil h hv
    exact kept (Keyword.eqFolded_word ha) rfl
  | dataStreamType =>
    have ha := (Resolved.passes_keyword r _ (by decide +kernel) _).of_log_eq_nil h hv
    exact kept (Keyword.eqFolded_word ha) rfl
  | securityProtocol =>
    have ha := (Resolved.passes_keyword r _ (by decide +kernel) _).of_log_eq_nil h hv
    exact kept (Keyword.eqFolded_word ha) rfl

/-! ## The whole assembly -/

/-- **An assembly keeps the values** that it is given, with two exceptions.  Settings come out exactly if
every setting has a first value that suits it or slips through.  They then hold the first value of each
setting as it is, unless it slipped: a number of 32 bits that is no port gives way to the port 0, and a
value that is neither null nor a text gives way to null where a text is looked for.  The settings of the
encrypted connection are those of the properties. -/
theorem assembly_keeps_values (r : Resolved) (ps : Properties) :
    ((∃ s, Settings.assemble r ps = .ok s) ↔
      ∀ k, ∃ v, r.get? k = some v ∧ (v.suits k = true ∨ v.slips k = true)) ∧
    ∀ s, Settings.assemble r ps = .ok s →
      s.httpsSettings = (ps.filter (Text.beginsWith Https.head)).entries ∧
      ∀ k v, r.get? k = some v →
        (s.Keeps v k ↔ v.slips k = false) ∧ (v.slips k = true → s.Keeps k.standIn k) := by
  have hlog : (Settings.lookUp r ps).log = [] ↔ ∀ k, r.complaints k = [] := by
    rw [Settings.log_lookUp, List.flatMap_eq_nil_iff]
    have hmem : ∀ k, k ∈ Key.proxyPort :: Key.all.erase .proxyPort := by
      intro k
      cases k <;> decide
    exact ⟨fun h k => h k (hmem k), fun h k _ => h k⟩
  refine ⟨?_, fun s hs => ?_⟩
  · simp only [Settings.assemble_eq_ok_iff, exists_and_left, exists_eq', and_true, hlog,
      Resolved.complaints_eq_nil_iff]
  · obtain ⟨hnil, rfl⟩ := Settings.assemble_eq_ok_iff.mp hs
    exact ⟨rfl, fun k v hv => Settings.keeps_lookUp ps hv (hlog.mp hnil k)⟩

/-- A number that is no port and a number in place of a text are lost without a word. -/
theorem assembly_loses_values :
    let ps : Properties := .ofList [("connection.url", "http://[::1]:9200")]
    let r : Resolved := ("proxy.port", .int 70000) :: ("connection.username", .int 5) ::
      ps.resolved fun _ => false
    ∃ s, Settings.assemble r ps = .ok s ∧
      (r.get? .proxyPort = some (.int 70000) ∧ s.proxyPort = 0 ∧ ¬ s.Keeps (.int 70000) .proxyPort) ∧
      (r.get? .connectionUsername = some (.int 5) ∧ s.username = none ∧
        ¬ s.Keeps (.int 5) .connectionUsername) := by
  intro ps r
  have hlog : (Settings.lookUp r ps).log = [] := by decide +kernel
  refine ⟨(Settings.lookUp r ps).value, Settings.assemble_eq_ok_iff.mpr ⟨hlog, rfl⟩,
    ⟨rfl, by decide +kernel, fun h => ?_⟩, rfl, by decide +kernel, fun h => ?_⟩
  · exact absurd (Option.some.inj h) (by decide +kernel)
  · exact absurd h.1 (by decide)

end SinkCheck
