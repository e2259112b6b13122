import SinkCheck.Json.Record
/-
  What written strings and records say.

  A written string is a row of bytes and of units.  Its text is said here from the outside: the parts
  give bytes, one part after the other, and these are the bytes of the text (`Spells`).  So a string
  whose bytes are no UTF-8, or in which a surrogate stands alone, says nothing.

  An object is a row of members, and a key may be written in more than one way.  A record asks for few
  keys and skips the other members, but all keys must be strings that say something, and none of those
  it asks for may come twice.  What is found under a key is then the value of the only member that
  spells the key (`Once`), or nothing (`Absent`).

  Main statements: `text?_eq_some_iff`, `exists_fields?_iff` and `field?_iff`.
-/

namespace SinkCheck.Json

/-! ## Strings -/

/-- The bytes that the parts of a string give: units that are no surrogates give those of their
character, and so do two surrogates in a row, a high one and a low one. -/
inductive Gives : List Part → List UInt8 → Prop where
  | nil : Gives [] []
  | byte {b : UInt8} {ps : List Part} {bs : List UInt8} (h : Gives ps bs) :
    Gives (.byte b :: ps) (b :: bs)
  | unit {n : Nat} {ps : List Part} {bs : List UInt8} (hn : ¬(0xD800 ≤ n ∧ n < 0xE000))
    (h : Gives ps bs) : Gives (.unit n :: ps) (String.utf8EncodeChar (Char.ofNat n) ++ bs)
  | pair {high low : Nat} {ps : List Part} {bs : List UInt8} (hhigh : 0xD800 ≤ high ∧ high < 0xDC00)
    (hlow : 0xDC00 ≤ low ∧ low < 0xE000) (h : Gives ps bs) :
    Gives (.unit high :: .unit low :: ps) (String.utf8EncodeChar
      (Char.ofNat (0x10000 + (high - 0xD800) * 0x400 + (low - 0xDC00))) ++ bs)

/-- Do the parts of a string say the text?  They give its bytes. -/
def Spells (parts : List Part) (s : String) : Prop := Gives parts s.toUTF8.data.toList

theorem bytes?_unit {n : Nat} (hn : ¬(0xD800 ≤ n ∧ n < 0xE000)) (ps : List Part) :
    bytes? (.unit n :: ps) = (bytes? ps).map (String.utf8EncodeChar (Char.ofNat n) ++ ·) := by
  cases ps with
  | nil => exact if_neg hn
  | cons p ps =>
    cases p with
    | byte b => exact if_neg hn
    | unit m => rw [bytes?, if_neg (by omega), if_neg (by omega)]

/-- **The reader of strings** finds exactly the bytes that the parts give. -/
theorem bytes?_eq_some_iff {parts : List Part} {bytes : List UInt8} :
    bytes? parts = some bytes ↔ Gives parts bytes := by
  constructor
  · intro h
    fun_induction bytes? parts generalizing bytes with
    | case1 => cases h; exact .nil
    | case2 b ps ih =>
      obtain ⟨bs, hbs, rfl⟩ := Option.map_eq_some_iff.mp h
      exact .byte (ih hbs)
    | case3 high low ps hhigh hlow ih =>
      obtain ⟨bs, hbs, rfl⟩ := Option.map_eq_some_iff.mp h
      exact .pair hhigh hlow (ih hbs)
    | case4 | case5 | case7 => cases h
    | case6 high low ps hhigh hlow ih =>
      obtain ⟨bs, hbs, rfl⟩ := Option.map_eq_some_iff.mp h
      exact .unit (by omega) (ih hbs)
    | case8 n ps _ hn ih =>
      obtain ⟨bs, hbs, rfl⟩ := Option.map_eq_some_iff.mp h
      exact .unit hn (ih hbs)
  · intro h
    induction h with
    | nil => rfl
    | byte _ ih => rw [bytes?, ih]; rfl
    | unit hn _ ih => rw [bytes?_unit hn, ih]; rfl
    | pair hhigh hlow _ ih => rw [bytes?, if_pos hhigh, if_pos hlow, ih]; rfl

/-- A row of bytes is the text whose bytes they are. -/
theorem fromUTF8?_eq_some_iff {bytes : List UInt8} {s : String} :
    String.fromUTF8? ⟨bytes.toArray⟩ = some s ↔ bytes = s.toUTF8.data.toList := by
  unfold String.fromUTF8?
  constructor
  · intro h
    split at h
    · cases h
      rfl
    · cases h
  · rintro rfl
    exact dif_pos s.isValidUTF8

/-- **The text of a string** is the one whose bytes its parts give. -/
theorem text?_eq_some_iff {parts : List Part} {s : String} : text? parts = some s ↔ Spells parts s := by
  simp only [text?, Option.bind_eq_some_iff, fromUTF8?_eq_some_iff, bytes?_eq_some_iff]
  exact exists_eq_right

/-- A string says one text at most. -/
theorem Spells.eq {parts : List Part} {s t : String} (hs : Spells parts s) (ht : Spells parts t) :
    s = t := by
  rw [← text?_eq_some_iff] at hs ht
  exact Option.some.inj (hs.symm.trans ht)

/-- Is the value a string with this text? -/
def Written.IsText (w : Written) (s : String) : Prop := ∃ parts, w = .string parts ∧ Spells parts s

/-- Is the value null or a string that says something? -/
def Written.IsOptionalText (w : Written) : Prop := w = .null ∨ ∃ s, w.IsText s

theorem Written.string?_eq_some_iff {w : Written} {s : String} :
    w.string? = some s ↔ w.IsText s := by
  cases w with
  | string parts => simp [string?, IsText, text?_eq_some_iff]
  | null | bool | number | array | object => simp [string?, IsText]

theorem Written.exists_optionalString?_iff {w : Written} :
    (∃ o, w.optionalString? = some o) ↔ w.IsOptionalText := by
  unfold optionalString? IsOptionalText
  split
  · simp
  · next hw =>
    have hnull : w ≠ .null := hw
    simp only [Option.map_eq_some_iff, string?_eq_some_iff, hnull, false_or]
    constructor
    · rintro ⟨_, s, hs, -⟩
      exact ⟨s, hs⟩
    · rintro ⟨s, hs⟩
      exact ⟨some s, s, hs, rfl⟩

/-! ## Members -/

/-- The members of an object as they are written. -/
abbrev Members := List (List Part × Written)

/-- No member has the key. -/
def Absent (key : String) (members : Members) : Prop := ∀ m ∈ members, ¬Spells m.1 key

/-- One member has the key, and its value is `w`; no other member has it. -/
inductive Once (key : String) : Members → Written → Prop where
  | head {parts : List Part} {w : Written} {members : Members} (hkey : Spells parts key)
    (hrest : Absent key members) : Once key ((parts, w) :: members) w
  | tail {m : List Part × Written} {w : Written} {members : Members} (hkey : ¬Spells m.1 key)
    (h : Once key members w) : Once key (m :: members) w

/-- Do the members make a record?  All keys are proper, and none of those asked for comes twice. -/
structure IsRecord (wanted : List String) (members : Members) : Prop where
  proper : ∀ m ∈ members, ∃ key, Spells m.1 key
  single : ∀ key ∈ wanted, Absent key members ∨ ∃ w, Once key members w

variable {key : String} {wanted : List String} {parts : List Part} {w : Written} {members : Members}
  {found : List (String × Written)}

theorem absent_cons {m : List Part × Written} :
    Absent key (m :: members) ↔ ¬Spells m.1 key ∧ Absent key members :=
  List.forall_mem_cons

theorem Once.not_absent (h : Once key members w) : ¬Absent key members := by
  induction h with
  | head hkey hrest => exact fun hall => (absent_cons.mp hall).1 hkey
  | tail hkey _ ih => exact fun hall => ih (absent_cons.mp hall).2

theorem once_cons_of_spells (h : Spells parts key) {v : Written} :
    Once key ((parts, w) :: members) v ↔ Absent key members ∧ w = v := by
  constructor
  · intro hv
    cases hv with
    | head _ hrest => exact ⟨hrest, rfl⟩
    | tail hkey _ => exact absurd h hkey
  · rintro ⟨hrest, rfl⟩
    exact .head h hrest

theorem once_cons_of_not_spells {m : List Part × Written} (h : ¬Spells m.1 key) :
    Once key (m :: members) w ↔ Once key members w := by
  constructor
  · intro hw
    cases hw with
    | head hkey _ => exact absurd hkey h
    | tail _ hw => exact hw
  · exact .tail h

/-- What the fields of a record say of a key that the record asks for. -/
structure Tells (key : String) (members : Members) (found : List (String × Written)) : Prop where
  absent_iff : field? key found = none ↔ Absent key members
  once_iff : ∀ w, field? key found = some w ↔ Once key members w

/-- **The fields of a record** are found under its keys, once or not at all. -/
theorem field?_iff (h : fields? wanted members = some found) (hkey : key ∈ wanted) :
    Tells key members found := by
  induction members generalizing found with
  | nil =>
    cases h
    refine ⟨iff_of_true rfl (List.forall_mem_nil _), fun w => iff_of_false (by simp [field?]) ?_⟩
    intro hw
    cases hw
  | cons m members ih =>
    obtain ⟨parts, v⟩ := m
    obtain ⟨k, hk, h⟩ := Option.bind_eq_some_iff.mp h
    obtain ⟨rest, hrest, h⟩ := Option.bind_eq_some_iff.mp h
    have hspells := text?_eq_some_iff.mp hk
    obtain ⟨habsent, honce⟩ := ih hrest
    by_cases hsame : k = key
    · -- the key of this member, so it was not found behind it
      subst hsame
      rw [if_pos hkey] at h
      cases hbehind : Keyed.find? k rest with
      | some w => simp [hbehind] at h
      | none =>
        simp only [hbehind, Option.isSome_none, Bool.false_eq_true, if_false] at h
        cases h
        have hnone := habsent.mp hbehind
        refine ⟨iff_of_false (by simp [field?]) fun hall => (absent_cons.mp hall).1 hspells, fun w => ?_⟩
        rw [once_cons_of_spells hspells, and_iff_right hnone]
        simp [field?]
    · have hother : ¬Spells parts key := fun hs => hsame (hspells.eq hs)
      have hfield : field? key found = field? key rest := by
        split at h
        · split at h
          · cases h
          · cases h
            simp [field?, hsame]
        · cases h
          rfl
      refine ⟨?_, fun w => ?_⟩
      · rw [hfield, habsent, absent_cons, and_iff_right hother]
      · rw [hfield, honce, once_cons_of_not_spells hother]

/-- **There are fields** exactly if the members make a record. -/
theorem exists_fields?_iff : (∃ found, fields? wanted members = some found) ↔ IsRecord wanted members := by
  constructor
  · rintro ⟨found, h⟩
    refine ⟨?_, fun key hkey => ?_⟩
    · induction members generalizing found with
      | nil => exact List.forall_mem_nil _
      | cons m members ih =>
        obtain ⟨k, hk, h⟩ := Option.bind_eq_some_iff.mp h
        obtain ⟨rest, hrest, -⟩ := Option.bind_eq_some_iff.mp h
        exact List.forall_mem_cons.mpr ⟨⟨k, text?_eq_some_iff.mp hk⟩, ih rest hrest⟩
    · obtain ⟨habsent, honce⟩ := field?_iff h hkey
      cases hfield : field? key found with
      | none => exact Or.inl (habsent.mp hfield)
      | some w => exact Or.inr ⟨w, (honce w).mp hfield⟩
  · intro h
    induction members with
    | nil => exact ⟨[], rfl⟩
    | cons m members ih =>
      obtain ⟨parts, v⟩ := m
      obtain ⟨⟨k, hk⟩, hproper⟩ := List.forall_mem_cons.mp h.proper
      have hbehind : IsRecord wanted members := by
        refine ⟨hproper, fun key hkey => ?_⟩
        rcases h.single key hkey with habsent | ⟨w, hw⟩
        · exact Or.inl (absent_cons.mp habsent).2
        · cases hw with
          | head _ hrest => exact Or.inl hrest
          | tail _ hw => exact Or.inr ⟨w, hw⟩
      obtain ⟨rest, hrest⟩ := ih hbehind
      have hkey := text?_eq_some_iff.mpr hk
      by_cases hwanted : k ∈ wanted
      · -- a wanted key is not found again behind its member
        have hnone : Keyed.find? k rest = none := by
          refine (field?_iff hrest hwanted).absent_iff.mpr ?_
          rcases h.single k hwanted with habsent | ⟨w, hw⟩
          · exact (absent_cons.mp habsent).2
          · exact ((once_cons_of_spells hk).mp hw).1
        exact ⟨(k, v) :: rest, by simp [fields?, hkey, hrest, hwanted, hnone]⟩
      · exact ⟨rest, by simp [fields?, hkey, hrest, hwanted]⟩

end SinkCheck.Json
