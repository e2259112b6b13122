/-
  Lists of pairs in key order.

  A list of pairs is *keyed* when its keys are strictly increasing, code point by code point.  Then a
  key has at most one value, and two keyed lists that give every key the same value are the same list.
  Members of JSON objects and the properties of a configuration are kept this way.

  Main statements: `find?_put` says what putting a pair does to a look-up, `ordered_put` that the order
  is kept, `ofList_of_ordered` that pairs in order are kept as they are, and `eq_of_find?_eq` that the
  look-ups determine the list.
-/

namespace SinkCheck.Keyed

variable {α : Type}

/-- The keys are strictly increasing. -/
def Ordered (l : List (String × α)) : Prop := l.Pairwise fun a b => a.1 < b.1

/-- The value of a key. -/
def find? (key : String) : List (String × α) → Option α
  | [] => none
  | (k, v) :: l => if k = key then some v else find? key l

/-- Give a key a value, at its place in the order, instead of the one it had. -/
def put (key : String) (value : α) : List (String × α) → List (String × α)
  | [] => [(key, value)]
  | (k, v) :: l =>
    if key < k then (key, value) :: (k, v) :: l
    else if k = key then (key, value) :: l
    else (k, v) :: put key value l

/-- Put the pairs one after the other, so that the last value of a key stays. -/
def ofList (l : List (String × α)) : List (String × α) := l.foldl (fun m p => put p.1 p.2 m) []

@[simp] theorem find?_nil (key : String) : find? key ([] : List (String × α)) = none := rfl

@[simp] theorem find?_cons (key k : String) (v : α) (l : List (String × α)) :
    find? key ((k, v) :: l) = if k = key then some v else find? key l := rfl

/-- The keys with a value are the keys of the pairs. -/
theorem isSome_find?_iff {key : String} {l : List (String × α)} :
    (find? key l).isSome = true ↔ key ∈ l.map Prod.fst := by
  induction l with
  | nil => simp
  | cons p l ih =>
    obtain ⟨k, v⟩ := p
    rw [find?_cons, List.map_cons, List.mem_cons]
    split
    · next h => simp [h]
    · next h => rw [ih]; exact ⟨Or.inr, fun hm => hm.resolve_left (Ne.symm h)⟩

/-- A put value is found, and every other key keeps its value. -/
theorem find?_put (key other : String) (value : α) (l : List (String × α)) :
    find? other (put key value l) = if key = other then some value else find? other l := by
  induction l with
  | nil => rfl
  | cons p l ih =>
    obtain ⟨k, v⟩ := p
    simp only [put]
    split
    · rfl
    · split
      · next h => subst h; simp only [find?_cons]; split <;> rfl
      · next h =>
        simp only [find?_cons, ih]
        by_cases hk : k = other
        · have : key ≠ other := fun e => h (hk.trans e.symm)
          simp [hk, this]
        · simp [hk]

/-- What is in the list after a put was put or was there before. -/
theorem mem_put {p : String × α} {key : String} {value : α} {l : List (String × α)}
    (h : p ∈ put key value l) : p = (key, value) ∨ p ∈ l := by
  induction l with
  | nil => simp_all [put]
  | cons q l ih =>
    obtain ⟨k, v⟩ := q
    simp only [put] at h
    split at h
    · rcases List.mem_cons.1 h with h | h
      · exact Or.inl h
      · exact Or.inr h
    · split at h
      · rcases List.mem_cons.1 h with h | h
        · exact Or.inl h
        · exact Or.inr (List.mem_cons_of_mem _ h)
      · rcases List.mem_cons.1 h with h | h
        · exact Or.inr (h ▸ List.mem_cons_self)
        · exact (ih h).imp id (List.mem_cons_of_mem _)

/-- Putting keeps the order. -/
theorem ordered_put (key : String) (value : α) {l : List (String × α)} (h : Ordered l) :
    Ordered (put key value l) := by
  induction l with
  | nil => simp [put, Ordered]
  | cons q l ih =>
    obtain ⟨k, v⟩ := q
    have hl : Ordered l := (List.pairwise_cons.1 h).2
    have hk := (List.pairwise_cons.1 h).1
    simp only [put]
    split
    · next hlt =>
      refine List.pairwise_cons.2 ⟨fun p hp => ?_, h⟩
      rcases List.mem_cons.1 hp with rfl | hp
      · exact hlt
      · exact String.lt_trans hlt (hk p hp)
    · next hlt =>
      split
      · next heq => subst heq; exact List.pairwise_cons.2 ⟨hk, hl⟩
      · next hne =>
        refine List.pairwise_cons.2 ⟨fun p hp => ?_, ih hl⟩
        rcases mem_put hp with rfl | hp
        · exact Decidable.byContradiction fun hk =>
            hne (String.le_antisymm (String.not_lt.1 hlt) (String.not_lt.1 hk))
        · exact hk p hp

/-- A list built by putting is ordered. -/
theorem ordered_ofList (l : List (String × α)) : Ordered (ofList l) := by
  suffices h : ∀ m : List (String × α), Ordered m →
      Ordered (l.foldl (fun m p => put p.1 p.2 m) m) from h [] List.Pairwise.nil
  induction l with
  | nil => exact fun m h => h
  | cons p l ih => exact fun m h => ih _ (ordered_put _ _ h)

/-- A key that comes behind all others is put at the end. -/
theorem put_of_forall_lt {key : String} {l : List (String × α)} (value : α)
    (h : ∀ e ∈ l, e.1 < key) : put key value l = l ++ [(key, value)] := by
  induction l with
  | nil => rfl
  | cons e l ih =>
    obtain ⟨k, v⟩ := e
    have hk : k < key := h (k, v) List.mem_cons_self
    have hne : k ≠ key := fun he => String.lt_irrefl key (he ▸ hk)
    rw [put, if_neg (String.lt_asymm hk), if_neg hne, ih fun e he => h e (List.mem_cons_of_mem _ he)]
    rfl

/-- **Pairs in key order** are kept as they are. -/
theorem ofList_of_ordered {l : List (String × α)} (h : Ordered l) : ofList l = l := by
  suffices hfold : ∀ m : List (String × α), Ordered (m ++ l) →
      l.foldl (fun m p => put p.1 p.2 m) m = m ++ l from hfold [] h
  clear h
  induction l with
  | nil => exact fun m _ => (List.append_nil m).symm
  | cons p l ih =>
    intro m h
    have hlt : ∀ e ∈ m, e.1 < p.1 :=
      fun e he => (List.pairwise_append.1 h).2.2 e he p List.mem_cons_self
    have happ : m ++ p :: l = m ++ [p] ++ l := by rw [List.append_assoc, List.singleton_append]
    rw [List.foldl_cons, put_of_forall_lt p.2 hlt, happ]
    exact ih _ (happ ▸ h)

/-- What stays of a list when keys are thrown out. -/
theorem find?_filter (p : String → Bool) (key : String) (l : List (String × α)) :
    find? key (l.filter fun e => p e.1) = if p key then find? key l else none := by
  induction l with
  | nil => simp
  | cons e l ih =>
    obtain ⟨k, v⟩ := e
    by_cases hk : k = key
    · subst hk
      cases hp : p k with
      | true => simp [hp]
      | false =>
        rw [List.filter_cons_of_neg (by simp [hp]), ih, hp]
        rfl
    · rw [find?_cons, if_neg hk, ← ih]
      cases hp : p k with
      | true => rw [List.filter_cons_of_pos (by simpa using hp), find?_cons, if_neg hk]
      | false => rw [List.filter_cons_of_neg (by simp [hp])]

/-- A key of an ordered list has the value of its only pair. -/
theorem find?_eq_some_iff {l : List (String × α)} (h : Ordered l) {key : String} {value : α} :
    find? key l = some value ↔ (key, value) ∈ l := by
  induction l with
  | nil => simp
  | cons e l ih =>
    obtain ⟨k, v⟩ := e
    obtain ⟨hk, hl⟩ := List.pairwise_cons.1 h
    rw [find?_cons, List.mem_cons, Prod.mk.injEq]
    by_cases hkey : k = key
    · subst hkey
      have hnone : (k, value) ∉ l := fun hm => String.lt_irrefl k (hk _ hm)
      simp [hnone, eq_comm]
    · rw [if_neg hkey, ih hl]
      exact ⟨Or.inr, fun hm => hm.resolve_left fun he => hkey he.1.symm⟩

/-- A key of an ordered list stands in one pair. -/
theorem eq_of_mem {l : List (String × α)} (h : Ordered l) {d e : String × α} (hd : d ∈ l) (he : e ∈ l)
    (hkey : d.1 = e.1) : d = e := by
  have hvalue : some d.2 = some e.2 := by
    rw [← (find?_eq_some_iff h).2 hd, ← (find?_eq_some_iff h).2 he, hkey]
  exact Prod.ext hkey (Option.some.inj hvalue)

/-- **The look-ups determine an ordered list.** -/
theorem eq_of_find?_eq {l m : List (String × α)} (hl : Ordered l) (hm : Ordered m)
    (h : ∀ key, find? key l = find? key m) : l = m := by
  have hmem : ∀ e, e ∈ l ↔ e ∈ m := by
    rintro ⟨key, value⟩
    rw [← find?_eq_some_iff hl, h, find?_eq_some_iff hm]
  have nodup {l : List (String × α)} (h : Ordered l) : l.Nodup := by
    refine List.Pairwise.imp (fun {a b} hlt hab => ?_) h
    subst hab
    exact String.lt_irrefl a.1 hlt
  have hperm : l.Perm m := (List.perm_ext_iff_of_nodup (nodup hl) (nodup hm)).2 hmem
  exact hperm.eq_of_pairwise (fun _ _ _ _ hab hba => absurd hba (String.lt_asymm hab)) hl hm

end SinkCheck.Keyed
