import SinkCheck.Proofs.Json.Tokens
/-
  The grammar of JSON.

  A value is a word, a number, a string, or an array or object of further values; between two tokens there
  may be a gap.  The grammar says this phrase by phrase and knows nothing of reading (`Derives`).

  That the reader keeps to it is shown in two directions.  Whatever is read is derived: by induction on the
  length of the row, for a value is read from the row that its items are read from, but what comes behind
  its first character is shorter.  Whatever is derived is read: by induction on the derivation, with what
  is to be read of a phrase said for each of its forms (`ReadAs`).  A value is read with any gap before it
  and with anything behind it that no number goes on with; so the gap behind a value is left to whoever
  reads on.

  Main statements: `all_sound`, `readAs_of_derives` and, for whole texts, `ofBytes?_eq_some_iff`.
-/

namespace SinkCheck.Json

open SinkCheck.Text (isDigit)

/-! ## The grammar -/

/-- Is the row a gap, of any of the four characters that may stand between tokens? -/
def IsGap (s : List Char) : Prop := ∀ c ∈ s, c = ' ' ∨ c = '\t' ∨ c = '\n' ∨ c = '\r'

/-- What the grammar derives: a value; a value between gaps; the items between the brackets of an array;
a member, and the members between the braces of an object.  Empty arrays and objects have no such part. -/
inductive Phrase where
  | value (w : Written)
  | padded (w : Written)
  | items (ws : List Written)
  | member (key : List Part) (w : Written)
  | members (ms : List (List Part × Written))

/-- The grammar derives the row from the phrase. -/
inductive Derives : Phrase → List Char → Prop where
  | null : Derives (.value .null) "null".toList
  | true : Derives (.value (.bool true)) "true".toList
  | false : Derives (.value (.bool false)) "false".toList
  | number {n : Spelling} {s : List Char} (h : NumberWritten n s) : Derives (.value (.number n)) s
  | string {ps : List Part} {s : List Char} (h : PartsWritten ps s) :
    Derives (.value (.string ps)) ('"' :: s)
  | noItems {g : List Char} (hg : IsGap g) : Derives (.value (.array [])) ('[' :: (g ++ [']']))
  | array {ws : List Written} {s : List Char} (h : Derives (.items ws) s) :
    Derives (.value (.array ws)) ('[' :: (s ++ [']']))
  | noMembers {g : List Char} (hg : IsGap g) :
    Derives (.value (.object [])) ('\x7b' :: (g ++ ['\x7d']))
  | object {ms : List (List Part × Written)} {s : List Char} (h : Derives (.members ms) s) :
    Derives (.value (.object ms)) ('\x7b' :: (s ++ ['\x7d']))
  | padded {w : Written} {g s g' : List Char} (hg : IsGap g) (h : Derives (.value w) s)
    (hg' : IsGap g') : Derives (.padded w) (g ++ (s ++ g'))
  | item {w : Written} {s : List Char} (h : Derives (.padded w) s) : Derives (.items [w]) s
  | moreItems {w : Written} {ws : List Written} {s t : List Char} (h : Derives (.padded w) s)
    (hs : Derives (.items ws) t) : Derives (.items (w :: ws)) (s ++ ',' :: t)
  | member {key : List Part} {w : Written} {g k g' s : List Char} (hg : IsGap g)
    (hkey : PartsWritten key k) (hg' : IsGap g') (h : Derives (.padded w) s) :
    Derives (.member key w) (g ++ '"' :: (k ++ (g' ++ ':' :: s)))
  | lastMember {key : List Part} {w : Written} {s : List Char} (h : Derives (.member key w) s) :
    Derives (.members [(key, w)]) s
  | moreMembers {key : List Part} {w : Written} {ms : List (List Part × Written)} {s t : List Char}
    (h : Derives (.member key w) s) (hs : Derives (.members ms) t) :
    Derives (.members ((key, w) :: ms)) (s ++ ',' :: t)

namespace Written

variable {s t r g : List Char} {c : Char} {w : Written}

/-! ## Gaps -/

theorem isGap_iff {c : Char} : isGap c = true ↔ c = ' ' ∨ c = '\t' ∨ c = '\n' ∨ c = '\r' := by
  simp [isGap, or_assoc]

theorem skipGap_spec (s : List Char) :
    ∃ g, IsGap g ∧ s = g ++ (skipGap s).1 ∧ ∀ c ∈ (skipGap s).1.head?, isGap c = false := by
  induction s with
  | nil => exact ⟨[], by simp [IsGap], rfl, by simp [skipGap]⟩
  | cons c s ih =>
    by_cases hc : isGap c = true
    · obtain ⟨g, hg, hs, hends⟩ := ih
      refine ⟨c :: g, List.forall_mem_cons.mpr ⟨isGap_iff.mp hc, hg⟩, ?_, ?_⟩
      · simp only [skipGap, hc, if_true]
        exact congrArg (c :: ·) hs
      · simpa only [skipGap, hc, if_true] using hends
    · exact ⟨[], by simp [IsGap], by simp [skipGap, hc], by simp [skipGap, hc]⟩

/-- A gap is skipped as a whole. -/
theorem skipGap_append (hg : IsGap g) (hr : ∀ c ∈ r.head?, isGap c = false) :
    (skipGap (g ++ r)).1 = r := by
  induction g with
  | nil =>
    cases r with
    | nil => rfl
    | cons c r => simp [skipGap, hr c rfl]
  | cons c g ih =>
    obtain ⟨hc, hg⟩ := List.forall_mem_cons.mp hg
    simpa only [List.cons_append, skipGap, isGap_iff.mpr hc, if_true] using ih hg

theorem of_next?_eq_some {t : Rest s} (h : next? s = some (c, t)) :
    ∃ g, IsGap g ∧ s = g ++ c :: t.1 := by
  obtain ⟨g, hg, hs, -⟩ := skipGap_spec s
  unfold next? at h
  split at h
  · cases h
  · next c t ht heq =>
    cases h
    rw [heq] at hs
    exact ⟨g, hg, hs⟩

theorem takes_next? (hg : IsGap g) (hc : isGap c = false) : Takes next? (g ++ c :: t) c t := by
  have hskip : (skipGap (g ++ c :: t)).1 = c :: t := skipGap_append hg (by simpa using hc)
  unfold Takes next?
  generalize skipGap (g ++ c :: t) = left at hskip ⊢
  obtain ⟨left, h⟩ := left
  cases hskip
  exact ⟨h, rfl⟩

theorem skipWord_append (word r : List Char) : ∃ h, skipWord word (word ++ r) = some ⟨r, h⟩ := by
  induction word with
  | nil => exact ⟨Nat.le_refl _, by cases r <;> rfl⟩
  | cons w word ih =>
    obtain ⟨h, hread⟩ := ih
    exact ⟨Nat.le_succ_of_le h, by simp [skipWord, hread]⟩

theorem of_skipWord_eq_some {word : List Char} {r : Left s} (h : skipWord word s = some r) :
    s = word ++ r.1 := by
  induction word generalizing s with
  | nil =>
    cases s <;> cases h <;> rfl
  | cons w word ih =>
    cases s with
    | nil => cases h
    | cons c s =>
      rw [skipWord] at h
      split at h
      · next hc =>
        obtain ⟨r', hread, heq⟩ := Option.map_eq_some_iff.mp h
        cases heq
        rw [hc]
        exact congrArg (c :: ·) (ih hread)
      · cases h

/-! ## What is read is derived -/

/-- Whatever is read as a value is derived as one. -/
def ValueSound (s : List Char) : Prop :=
  ∀ w (r : Rest s), value? s = some (w, r) →
    ∃ g p, IsGap g ∧ Derives (.value w) p ∧ s = g ++ (p ++ r.1)

/-- Whatever is read as the items of an array is derived as such. -/
def ItemsSound (s : List Char) : Prop :=
  ∀ ws (r : Rest s), items? s = some (ws, r) → ∃ p, Derives (.items ws) p ∧ s = p ++ ']' :: r.1

/-- Whatever is read as the members of an object is derived as such. -/
def MembersSound (s : List Char) : Prop :=
  ∀ ms (r : Rest s), members? s = some (ms, r) → ∃ p, Derives (.members ms) p ∧ s = p ++ '\x7d' :: r.1

theorem value_sound (hitems : ∀ t, t.length < s.length → ItemsSound t)
    (hmembers : ∀ t, t.length < s.length → MembersSound t) : ValueSound s := by
  intro w r h
  rw [value?] at h
  split at h
  · cases h
  · next c t ht hnext =>
    obtain ⟨g, hg, hs⟩ := of_next?_eq_some hnext
    -- what follows the gap is derived, and then comes the rest
    have hderived : ∀ {w : Written} {p r : List Char}, Derives (.value w) p → c :: t = p ++ r →
        ∃ g p, IsGap g ∧ Derives (.value w) p ∧ s = g ++ (p ++ r) :=
      fun hp hrow => ⟨g, _, hg, hp, hs.trans (congrArg (g ++ ·) hrow)⟩
    split at h
    · obtain ⟨⟨ps, r'⟩, hread, heq⟩ := Option.map_eq_some_iff.mp h
      cases heq
      obtain ⟨p, hp, ht⟩ := written_of_parts? hread
      exact hderived (.string hp) (congrArg ('"' :: ·) ht)
    · split at h
      · next u hu hclose =>
        cases h
        obtain ⟨g', hg', ht⟩ := of_next?_eq_some hclose
        exact hderived (.noItems hg') (by simp [ht])
      · obtain ⟨⟨ws, r'⟩, hread, heq⟩ := Option.map_eq_some_iff.mp h
        cases heq
        obtain ⟨p, hp, ht⟩ := hitems t ht ws r' hread
        exact hderived (.array hp) (by simp [ht])
    · split at h
      · next u hu hclose =>
        cases h
        obtain ⟨g', hg', ht⟩ := of_next?_eq_some hclose
        exact hderived (.noMembers hg') (by simp [ht])
      · obtain ⟨⟨ms, r'⟩, hread, heq⟩ := Option.map_eq_some_iff.mp h
        cases heq
        obtain ⟨p, hp, ht⟩ := hmembers t ht ms r' hread
        exact hderived (.object hp) (by simp [ht])
    · obtain ⟨r', hread, heq⟩ := Option.map_eq_some_iff.mp h
      cases heq
      exact hderived .null (congrArg ('n' :: ·) (of_skipWord_eq_some hread))
    · obtain ⟨r', hread, heq⟩ := Option.map_eq_some_iff.mp h
      cases heq
      exact hderived .true (congrArg ('t' :: ·) (of_skipWord_eq_some hread))
    · obtain ⟨r', hread, heq⟩ := Option.map_eq_some_iff.mp h
      cases heq
      exact hderived .false (congrArg ('f' :: ·) (of_skipWord_eq_some hread))
    · obtain ⟨⟨n, r'⟩, hread, heq⟩ := Option.map_eq_some_iff.mp h
      cases heq
      obtain ⟨p, hp, hrow⟩ := written_of_number? hread
      exact hderived (.number hp) hrow

/-- A value and the gap behind it make a value between gaps. -/
theorem padded_of_value {p g' u : List Char} {r : Rest s} (hg : IsGap g) (hp : Derives (.value w) p)
    (hs : s = g ++ (p ++ r.1)) (hg' : IsGap g') (hr : r.1 = g' ++ u) :
    ∃ q, Derives (.padded w) q ∧ s = q ++ u :=
  ⟨_, .padded hg hp hg', by rw [hs, hr]; simp⟩

theorem items_sound (hvalue : ValueSound s) (hitems : ∀ t, t.length < s.length → ItemsSound t) :
    ItemsSound s := by
  intro ws r h
  rw [items?] at h
  split at h
  · cases h
  · next v r₁ h₁ hread =>
    obtain ⟨g, p, hg, hp, hs⟩ := hvalue v _ hread
    split at h
    · next t ht hnext =>
      obtain ⟨g', hg', hr⟩ := of_next?_eq_some hnext
      obtain ⟨q, hq, hrow⟩ := padded_of_value hg hp hs hg' hr
      obtain ⟨⟨vs, r'⟩, hmore, heq⟩ := Option.map_eq_some_iff.mp h
      cases heq
      obtain ⟨p', hp', ht'⟩ := hitems t (by omega) vs r' hmore
      exact ⟨_, .moreItems hq hp', by simp [hrow, ht']⟩
    · next t ht hnext =>
      cases h
      obtain ⟨g', hg', hr⟩ := of_next?_eq_some hnext
      obtain ⟨q, hq, hrow⟩ := padded_of_value hg hp hs hg' hr
      exact ⟨q, .item hq, hrow⟩
    · cases h

theorem members_sound (hvalue : ∀ t, t.length < s.length → ValueSound t)
    (hmembers : ∀ t, t.length < s.length → MembersSound t) : MembersSound s := by
  intro ms r h
  rw [members?] at h
  split at h
  · next t ht hquote =>
    obtain ⟨g, hg, hs⟩ := of_next?_eq_some hquote
    split at h
    · cases h
    · next key u hu hkey =>
      obtain ⟨k, hk, hkeyRow⟩ := written_of_parts? hkey
      split at h
      · next x hx hcolon =>
        obtain ⟨g', hg', hcolonRow⟩ := of_next?_eq_some hcolon
        split at h
        · cases h
        · next v y hy hread =>
          obtain ⟨g₁, p, hg₁, hp, hvalueRow⟩ := hvalue x (by omega) v _ hread
          -- the member ends where the value between gaps ends
          have hmember : ∀ {g₂ rest : List Char}, IsGap g₂ → y = g₂ ++ rest →
              ∃ q, Derives (.member key v) q ∧ s = q ++ rest := by
            intro g₂ rest hg₂ hy
            obtain ⟨q, hq, hrow⟩ := padded_of_value hg₁ hp hvalueRow hg₂ hy
            exact ⟨_, .member hg hk hg' hq, by simp [hs, hkeyRow, hcolonRow, hrow]⟩
          split at h
          · next z hz hcomma =>
            obtain ⟨g₂, hg₂, hcommaRow⟩ := of_next?_eq_some hcomma
            obtain ⟨q, hq, hrow⟩ := hmember hg₂ hcommaRow
            obtain ⟨⟨vs, r'⟩, hmore, heq⟩ := Option.map_eq_some_iff.mp h
            cases heq
            obtain ⟨p', hp', hz'⟩ := hmembers z (by omega) vs r' hmore
            exact ⟨_, .moreMembers hq hp', by simp [hrow, hz']⟩
          · next z hz hclose =>
            cases h
            obtain ⟨g₂, hg₂, hcloseRow⟩ := of_next?_eq_some hclose
            obtain ⟨q, hq, hrow⟩ := hmember hg₂ hcloseRow
            exact ⟨q, .lastMember hq, hrow⟩
          · cases h
      · cases h
  · cases h

theorem all_sound (s : List Char) : ValueSound s ∧ ItemsSound s ∧ MembersSound s := by
  induction hn : s.length using Nat.strongRecOn generalizing s with
  | ind n ih =>
    subst hn
    have hvalue := value_sound (fun t ht => (ih _ ht t rfl).2.1) fun t ht => (ih _ ht t rfl).2.2
    exact ⟨hvalue, items_sound hvalue fun t ht => (ih _ ht t rfl).2.1,
      members_sound (fun t ht => (ih _ ht t rfl).1) fun t ht => (ih _ ht t rfl).2.2⟩

/-! ## What is derived is read -/

/-- No number goes on with a gap. -/
theorem ends_append {g : List Char} (hg : IsGap g) (hr : Ends r) : Ends (g ++ r) := by
  cases g with
  | nil => exact hr
  | cons c g =>
    intro d hd
    cases hd
    rcases (List.forall_mem_cons.mp hg).1 with rfl | rfl | rfl | rfl <;> decide

/-- No number goes on with a comma or a closing bracket. -/
theorem ends_cons (hc : c = ',' ∨ c = ']' ∨ c = '\x7d') : Ends (c :: r) := by
  intro d hd
  cases hd
  rcases hc with rfl | rfl | rfl <;> decide

/-- A value does not begin with a closing bracket, so an array with items is not taken for an empty one. -/
theorem next?_ne_of_takes_items? {ws : List Written} (h : Takes items? t ws r) (u : Rest t) :
    next? t ≠ some (']', u) := by
  intro hnext
  obtain ⟨hlt, hread⟩ := h
  have hvalue : value? t = none := by
    rw [value?, hnext]
    rfl
  rw [items?, hvalue] at hread
  cases hread

theorem next?_ne_of_takes_members? {ms : List (List Part × Written)} (h : Takes members? t ms r)
    (u : Rest t) : next? t ≠ some ('\x7d', u) := by
  intro hnext
  obtain ⟨hlt, hread⟩ := h
  rw [members?, hnext] at hread
  cases hread

/-- Is a value between gaps read from the row, and its gap at the end left over? -/
def ReadPadded (w : Written) (s : List Char) : Prop :=
  ∀ r, Ends r → ∃ g, IsGap g ∧ Takes value? (s ++ r) w (g ++ r)

/-- What it means that a phrase is read from a row. -/
def ReadAs : Phrase → List Char → Prop
  | .value w, s => ∀ g r, IsGap g → Ends r → Takes value? (g ++ (s ++ r)) w r
  | .padded w, s => ReadPadded w s
  | .items ws, s => ∀ r, Takes items? (s ++ ']' :: r) ws r
  | .member key w, s => ∃ g k g' t, IsGap g ∧ PartsWritten key k ∧ IsGap g' ∧ ReadPadded w t ∧
      s = g ++ '"' :: (k ++ (g' ++ ':' :: t))
  | .members ms, s => ∀ r, Takes members? (s ++ '\x7d' :: r) ms r

/-- One of the three words is read as its value. -/
theorem read_word {word : List Char}
    (hword : c = 'n' ∧ word = "ull".toList ∧ w = .null ∨ c = 't' ∧ word = "rue".toList ∧ w = .bool true ∨
      c = 'f' ∧ word = "alse".toList ∧ w = .bool false) (hg : IsGap g) :
    Takes value? (g ++ (c :: word ++ r)) w r := by
  have hgap : isGap c = false := by
    rcases hword with ⟨rfl, -⟩ | ⟨rfl, -⟩ | ⟨rfl, -⟩ <;> rfl
  obtain ⟨h₁, hnext⟩ := takes_next? (t := word ++ r) hg hgap
  obtain ⟨h₂, hskip⟩ := skipWord_append word r
  show Takes value? (g ++ c :: (word ++ r)) _ r
  refine ⟨by simp at h₂ ⊢; omega, ?_⟩
  rw [value?, hnext]
  rcases hword with ⟨rfl, rfl, rfl⟩ | ⟨rfl, rfl, rfl⟩ | ⟨rfl, rfl, rfl⟩
  · simp only [hskip, Option.map_some]
  · simp only [hskip, Option.map_some]
  · simp only [hskip, Option.map_some]

theorem read_string {ps : List Part} (hg : IsGap g) (h : PartsWritten ps s) :
    Takes value? (g ++ ('"' :: s ++ r)) (.string ps) r := by
  obtain ⟨h₁, hnext⟩ := takes_next? (c := '"') (t := s ++ r) hg rfl
  obtain ⟨h₂, hparts⟩ := parts?_of_written (r := r) h
  show Takes value? (g ++ '"' :: (s ++ r)) _ r
  refine ⟨by simp at h₂ ⊢; omega, ?_⟩
  rw [value?, hnext]
  simp only [hparts, Option.map_some]

theorem read_number {n : Spelling} (hg : IsGap g) (h : NumberWritten n s) (hr : Ends r) :
    Takes value? (g ++ (s ++ r)) (.number n) r := by
  obtain ⟨h₂, hnumber⟩ := number?_of_written h hr
  obtain ⟨c, u, rfl, hc⟩ := exists_head_of_numberWritten h
  have hgap : isGap c = false := by
    rcases hc with hc | rfl
    · rw [← Bool.not_eq_true, isGap_iff]
      rintro (rfl | rfl | rfl | rfl) <;> cases hc
    · rfl
  obtain ⟨h₁, hnext⟩ := takes_next? (t := u ++ r) hg hgap
  show Takes value? (g ++ c :: (u ++ r)) _ r
  refine ⟨by simp at h₂ ⊢; omega, ?_⟩
  rw [value?, hnext]
  simp only
  split
  -- a digit or a minus sign is none of the other beginnings
  case h_7 =>
    show Option.map _ (number? (c :: u ++ r)) = _
    rw [hnumber]
    rfl
  all_goals rcases hc with hc | hc <;> cases hc

theorem read_noItems {g' : List Char} (hg : IsGap g) (hg' : IsGap g') :
    Takes value? (g ++ ('[' :: (g' ++ [']']) ++ r)) (.array []) r := by
  have hrow : g ++ ('[' :: (g' ++ [']']) ++ r) = g ++ '[' :: (g' ++ ']' :: r) := by simp
  obtain ⟨h₁, hnext⟩ := takes_next? (c := '[') (t := g' ++ ']' :: r) hg rfl
  obtain ⟨h₂, hclose⟩ := takes_next? (c := ']') (t := r) hg' rfl
  rw [hrow]
  refine ⟨by simp; omega, ?_⟩
  rw [value?, hnext]
  simp only [hclose]

theorem read_array {ws : List Written} (hg : IsGap g) (h : Takes items? (s ++ ']' :: r) ws r) :
    Takes value? (g ++ ('[' :: (s ++ [']']) ++ r)) (.array ws) r := by
  have hrow : g ++ ('[' :: (s ++ [']']) ++ r) = g ++ '[' :: (s ++ ']' :: r) := by simp
  have hne := next?_ne_of_takes_items? h
  obtain ⟨h₁, hnext⟩ := takes_next? (c := '[') (t := s ++ ']' :: r) hg rfl
  obtain ⟨h₂, hitems⟩ := h
  rw [hrow]
  refine ⟨by simp; omega, ?_⟩
  rw [value?, hnext]
  simp only [hitems, Option.map_some]
  split
  · next hclose => exact absurd hclose (hne _)
  · rfl

theorem read_noMembers {g' : List Char} (hg : IsGap g) (hg' : IsGap g') :
    Takes value? (g ++ ('\x7b' :: (g' ++ ['\x7d']) ++ r)) (.object []) r := by
  have hrow : g ++ ('\x7b' :: (g' ++ ['\x7d']) ++ r) = g ++ '\x7b' :: (g' ++ '\x7d' :: r) := by simp
  obtain ⟨h₁, hnext⟩ := takes_next? (c := '\x7b') (t := g' ++ '\x7d' :: r) hg rfl
  obtain ⟨h₂, hclose⟩ := takes_next? (c := '\x7d') (t := r) hg' rfl
  rw [hrow]
  refine ⟨by simp; omega, ?_⟩
  rw [value?, hnext]
  simp only [hclose]

theorem read_object {ms : List (List Part × Written)} (hg : IsGap g)
    (h : Takes members? (s ++ '\x7d' :: r) ms r) :
    Takes value? (g ++ ('\x7b' :: (s ++ ['\x7d']) ++ r)) (.object ms) r := by
  have hrow : g ++ ('\x7b' :: (s ++ ['\x7d']) ++ r) = g ++ '\x7b' :: (s ++ '\x7d' :: r) := by simp
  have hne := next?_ne_of_takes_members? h
  obtain ⟨h₁, hnext⟩ := takes_next? (c := '\x7b') (t := s ++ '\x7d' :: r) hg rfl
  obtain ⟨h₂, hmembers⟩ := h
  rw [hrow]
  refine ⟨by simp; omega, ?_⟩
  rw [value?, hnext]
  simp only [hmembers, Option.map_some]
  split
  · next hclose => exact absurd hclose (hne _)
  · rfl

theorem read_item (h : ReadPadded w s) : Takes items? (s ++ ']' :: r) [w] r := by
  obtain ⟨g, hg, h₁, hvalue⟩ := h (']' :: r) (ends_cons (.inr (.inl rfl)))
  obtain ⟨h₂, hnext⟩ := takes_next? (c := ']') (t := r) hg rfl
  refine ⟨by simp; omega, ?_⟩
  rw [items?, hvalue]
  simp only [hnext]

theorem read_moreItems {ws : List Written} (h : ReadPadded w s)
    (hs : Takes items? (t ++ ']' :: r) ws r) :
    Takes items? (s ++ ',' :: t ++ ']' :: r) (w :: ws) r := by
  have hrow : s ++ ',' :: t ++ ']' :: r = s ++ ',' :: (t ++ ']' :: r) := by simp
  obtain ⟨g, hg, h₁, hvalue⟩ := h (',' :: (t ++ ']' :: r)) (ends_cons (.inl rfl))
  obtain ⟨h₂, hnext⟩ := takes_next? (c := ',') (t := t ++ ']' :: r) hg rfl
  obtain ⟨h₃, hitems⟩ := hs
  rw [hrow]
  refine ⟨by simp; omega, ?_⟩
  rw [items?, hvalue]
  simp only [hnext, hitems, Option.map_some]

/-- The four steps in which a member is read. -/
theorem read_member {key : List Part} {k g' : List Char} (hg : IsGap g) (hkey : PartsWritten key k)
    (hg' : IsGap g') (h : ReadPadded w s) (hr : Ends r) : ∃ g₂ t u, IsGap g₂ ∧
      Takes next? (g ++ '"' :: (k ++ (g' ++ ':' :: s)) ++ r) '"' t ∧ Takes parts? t key u ∧
      Takes next? u ':' (s ++ r) ∧ Takes value? (s ++ r) w (g₂ ++ r) := by
  obtain ⟨g₂, hg₂, hvalue⟩ := h r hr
  have hrow : g ++ '"' :: (k ++ (g' ++ ':' :: s)) ++ r = g ++ '"' :: (k ++ (g' ++ ':' :: (s ++ r))) := by
    simp
  rw [hrow]
  exact ⟨g₂, _, _, hg₂, takes_next? hg rfl, parts?_of_written hkey, takes_next? hg' rfl, hvalue⟩

theorem read_lastMember {key : List Part} (h : ReadAs (.member key w) s) :
    Takes members? (s ++ '\x7d' :: r) [(key, w)] r := by
  obtain ⟨g, k, g', v, hg, hkey, hg', hv, rfl⟩ := h
  obtain ⟨g₂, t, u, hg₂, ⟨h₁, hquote⟩, ⟨h₂, hparts⟩, ⟨h₃, hcolon⟩, h₄, hvalue⟩ :=
    read_member (r := '\x7d' :: r) hg hkey hg' hv (ends_cons (.inr (.inr rfl)))
  obtain ⟨h₅, hclose⟩ := takes_next? (c := '\x7d') (t := r) hg₂ rfl
  refine ⟨by simp; omega, ?_⟩
  rw [members?, hquote]
  simp only [hparts, hcolon, hvalue, hclose]

theorem read_moreMembers {key : List Part} {ms : List (List Part × Written)}
    (h : ReadAs (.member key w) s) (hs : Takes members? (t ++ '\x7d' :: r) ms r) :
    Takes members? (s ++ ',' :: t ++ '\x7d' :: r) ((key, w) :: ms) r := by
  obtain ⟨g, k, g', v, hg, hkey, hg', hv, rfl⟩ := h
  have hrow : g ++ '"' :: (k ++ (g' ++ ':' :: v)) ++ ',' :: t ++ '\x7d' :: r =
      g ++ '"' :: (k ++ (g' ++ ':' :: v)) ++ (',' :: (t ++ '\x7d' :: r)) := by simp
  rw [hrow]
  obtain ⟨g₂, x, u, hg₂, ⟨h₁, hquote⟩, ⟨h₂, hparts⟩, ⟨h₃, hcolon⟩, h₄, hvalue⟩ :=
    read_member (r := ',' :: (t ++ '\x7d' :: r)) hg hkey hg' hv (ends_cons (.inl rfl))
  obtain ⟨h₅, hcomma⟩ := takes_next? (c := ',') (t := t ++ '\x7d' :: r) hg₂ rfl
  obtain ⟨h₆, hmembers⟩ := hs
  refine ⟨by simp; omega, ?_⟩
  rw [members?, hquote]
  simp only [hparts, hcolon, hvalue, hcomma, hmembers, Option.map_some]

/-- **Whatever is derived** is read. -/
theorem readAs_of_derives {p : Phrase} (h : Derives p s) : ReadAs p s := by
  induction h with
  | null => exact fun _ _ hg _ => read_word (.inl ⟨rfl, rfl, rfl⟩) hg
  | true => exact fun _ _ hg _ => read_word (.inr (.inl ⟨rfl, rfl, rfl⟩)) hg
  | false => exact fun _ _ hg _ => read_word (.inr (.inr ⟨rfl, rfl, rfl⟩)) hg
  | number h => exact fun _ _ hg hr => read_number hg h hr
  | string h => exact fun _ _ hg _ => read_string hg h
  | noItems hg' => exact fun _ _ hg _ => read_noItems hg hg'
  | array _ ih => exact fun _ r hg _ => read_array hg (ih r)
  | noMembers hg' => exact fun _ _ hg _ => read_noMembers hg hg'
  | object _ ih => exact fun _ r hg _ => read_object hg (ih r)
  | @padded w g s g' hg _ hg' ih =>
    intro r hr
    have hrow : g ++ (s ++ g') ++ r = g ++ (s ++ (g' ++ r)) := by simp
    rw [hrow]
    exact ⟨g', hg', ih g _ hg (ends_append hg' hr)⟩
  | item _ ih => exact fun _ => read_item ih
  | moreItems _ _ ih ihs => exact fun r => read_moreItems ih (ihs r)
  | member hg hkey hg' _ ih => exact ⟨_, _, _, _, hg, hkey, hg', ih, rfl⟩
  | lastMember _ ih => exact fun _ => read_lastMember ih
  | moreMembers _ _ ih ihs => exact fun r => read_moreMembers ih (ihs r)

/-! ## Whole texts -/

/-- Is the row of bytes the value as it is written, with nothing but gaps around it?  Each byte is the
character of its number. -/
def SpelledBy (w : Written) (bytes : List UInt8) : Prop :=
  Derives (.padded w) (bytes.map fun b => Char.ofNat b.toNat)

/-- **A row of bytes is read** as the value that it spells. -/
theorem ofBytes?_eq_some_iff {bytes : List UInt8} : ofBytes? bytes = some w ↔ w.SpelledBy bytes := by
  constructor
  · intro h
    unfold ofBytes? at h
    split at h
    · cases h
    · next v r hread =>
      obtain ⟨g, p, hg, hp, hs⟩ := (all_sound _).1 v r hread
      obtain ⟨g', hg', hr, -⟩ := skipGap_spec r.1
      split at h
      · next hempty =>
        cases h
        rw [List.isEmpty_iff.mp hempty, List.append_nil] at hr
        rw [SpelledBy, hs, hr]
        exact .padded hg hp hg'
      · cases h
  · intro h
    obtain ⟨g, hg, htakes⟩ := readAs_of_derives h [] (by simp [Ends])
    have hskip : (skipGap (g ++ [])).1 = [] := skipGap_append hg (by simp)
    rw [List.append_nil] at hskip
    rw [List.append_nil, List.append_nil] at htakes
    obtain ⟨h₁, hread⟩ := htakes
    rw [ofBytes?, hread]
    simp [hskip]

end Written

end SinkCheck.Json
