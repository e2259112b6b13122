import SinkCheck.Version
/-
  The order of versions.

  Numbers of segments are asked for one after the other, and only until two of them differ, so a version
  with a segment that has no number can be compared with some versions and not with others.  Where the
  comparison gives an answer at all it is an order nevertheless.  The reason is that a comparison ends in
  one of six ways (`Compares`), each of which says which segments had numbers: turned round, it ends in
  the way that mirrors it; and of two comparisons with a version in the middle the one that ends first
  also ends the comparison of the outer versions, at a segment where both of these have numbers.

  Main statements: `compare_eq_ok_iff`, when two versions compare and how; `Compares.symm` and
  `Compares.trans`; `compare_isOrder` for versions.
-/

namespace SinkCheck.Version

/-! ## How a comparison ends -/

/-- The rows of segments compare as the given ordering says.  Either one row runs out, or a segment of
each has a number and these differ, or they are the same and the rest decides. -/
inductive Compares : List (List Char) → List (List Char) → Ordering → Prop
  | level : Compares [] [] .eq
  | shorter (r : List Char) (rs : List (List Char)) : Compares [] (r :: rs) .lt
  | longer (l : List Char) (ls : List (List Char)) : Compares (l :: ls) [] .gt
  | older {l r : List Char} {ls rs : List (List Char)} {m n : Nat} (hl : segmentNumber? l = some m)
      (hr : segmentNumber? r = some n) (h : m < n) : Compares (l :: ls) (r :: rs) .lt
  | newer {l r : List Char} {ls rs : List (List Char)} {m n : Nat} (hl : segmentNumber? l = some m)
      (hr : segmentNumber? r = some n) (h : n < m) : Compares (l :: ls) (r :: rs) .gt
  | same {l r : List Char} {ls rs : List (List Char)} {n : Nat} {o : Ordering}
      (hl : segmentNumber? l = some n) (hr : segmentNumber? r = some n) (h : Compares ls rs o) :
      Compares (l :: ls) (r :: rs) o

theorem segmentNumber_eq_ok_iff {version : String} {segment : List Char} {n : Nat} :
    segmentNumber version segment = .ok n ↔ segmentNumber? segment = some n := by
  unfold segmentNumber
  cases segmentNumber? segment with
  | none => simp
  | some m => simp

section Segments

variable {a b : String} {l r : List Char} {ls rs : List (List Char)} {o : Ordering}

/-- Two segments at the front compare if both have numbers. -/
theorem exists_numbers_of_compareSegments (h : compareSegments a b (l :: ls) (r :: rs) = .ok o) :
    ∃ m n, segmentNumber? l = some m ∧ segmentNumber? r = some n := by
  rw [compareSegments] at h
  cases hl : segmentNumber a l with
  | error e => rw [hl] at h; cases h
  | ok m =>
    cases hr : segmentNumber b r with
    | error e => rw [hl, hr] at h; cases h
    | ok n => exact ⟨m, n, segmentNumber_eq_ok_iff.mp hl, segmentNumber_eq_ok_iff.mp hr⟩

/-- Two segments with numbers compare as the numbers do, or as the rest does if these are the same. -/
theorem compareSegments_cons {m n : Nat} (hl : segmentNumber? l = some m)
    (hr : segmentNumber? r = some n) :
    compareSegments a b (l :: ls) (r :: rs) =
      if m < n then .ok .lt else if n < m then .ok .gt else compareSegments a b ls rs := by
  rw [compareSegments, segmentNumber_eq_ok_iff.mpr hl, segmentNumber_eq_ok_iff.mpr hr]
  rcases Nat.lt_trichotomy m n with h | h | h
  · rw [if_pos h]
    dsimp only
    rw [Nat.compare_eq_lt.mpr h]
  · subst h
    rw [if_neg (Nat.lt_irrefl m), if_neg (Nat.lt_irrefl m)]
    dsimp only
    rw [Nat.compare_eq_eq.mpr rfl]
  · rw [if_neg (Nat.lt_asymm h), if_pos h]
    dsimp only
    rw [Nat.compare_eq_gt.mpr h]

/-- **The comparison of two rows** gives an answer exactly where they compare, whatever the versions in
which they stand. -/
theorem compareSegments_eq_ok_iff : compareSegments a b ls rs = .ok o ↔ Compares ls rs o := by
  constructor
  · intro h
    induction ls generalizing rs with
    | nil =>
      cases rs with
      | nil => cases h; exact .level
      | cons r rs => cases h; exact .shorter r rs
    | cons l ls ih =>
      cases rs with
      | nil => cases h; exact .longer l ls
      | cons r rs =>
        obtain ⟨m, n, hl, hr⟩ := exists_numbers_of_compareSegments h
        rw [compareSegments_cons hl hr] at h
        split at h
        · next hlt => cases h; exact .older hl hr hlt
        · next hge =>
          split at h
          · next hgt => cases h; exact .newer hl hr hgt
          · next hle =>
            have heq : m = n := by omega
            subst heq
            exact .same hl hr (ih h)
  · intro h
    induction h with
    | level => rfl
    | shorter r rs => rfl
    | longer l ls => rfl
    | older hl hr h => rw [compareSegments_cons hl hr, if_pos h]
    | newer hl hr h => rw [compareSegments_cons hl hr, if_neg (Nat.lt_asymm h), if_pos h]
    | same hl hr _ ih =>
      rw [compareSegments_cons hl hr, if_neg (Nat.lt_irrefl _), if_neg (Nat.lt_irrefl _), ih]

end Segments

/-- **Two versions compare** exactly if their segments do. -/
theorem compare_eq_ok_iff {a b : String} {o : Ordering} :
    compare a b = .ok o ↔ Compares (segments a) (segments b) o :=
  compareSegments_eq_ok_iff

/-! ## The laws of an order -/

namespace Compares

variable {ls ms rs : List (List Char)} {o x y : Ordering}

/-- **Turned round**, a comparison ends the other way. -/
theorem symm (h : Compares ls rs o) : Compares rs ls o.swap := by
  induction h with
  | level => exact .level
  | shorter r rs => exact .longer r rs
  | longer l ls => exact .shorter l ls
  | older hl hr h => exact .newer hr hl h
  | newer hl hr h => exact .older hr hl h
  | same hl hr _ ih => exact .same hr hl ih

/-- **Two comparisons, neither ending with the newer row,** make a third: it is level if both were, and ends
with the older row if either did. -/
theorem trans (h : Compares ls ms x) (h' : Compares ms rs y) (hx : x ≠ .gt) (hy : y ≠ .gt) :
    Compares ls rs (x.then y) := by
  -- along the first comparison; where it ends, the second one has not ended before
  induction h generalizing rs with
  | level => exact h'
  | shorter m ms =>
    cases h' with
    | longer => exact absurd rfl hy
    | older => exact .shorter _ _
    | newer => exact absurd rfl hy
    | same => exact .shorter _ _
  | longer => exact absurd rfl hx
  | older hl hm hlt =>
    cases h' with
    | longer => exact absurd rfl hy
    | older hm' hr hlt' =>
      cases hm.symm.trans hm'
      exact .older hl hr (Nat.lt_trans hlt hlt')
    | newer => exact absurd rfl hy
    | same hm' hr _ =>
      cases hm.symm.trans hm'
      exact .older hl hr hlt
  | newer => exact absurd rfl hx
  | same hl hm _ ih =>
    cases h' with
    | longer => exact absurd rfl hy
    | older hm' hr hlt =>
      cases hm.symm.trans hm'
      -- the rest of the first comparison does not matter any more, as long as it was not `gt`
      have hthen : ∀ z : Ordering, z ≠ .gt → z.then .lt = .lt := by decide
      rw [hthen _ hx]
      exact .older hl hr hlt
    | newer => exact absurd rfl hy
    | same hm' hr h' =>
      cases hm.symm.trans hm'
      exact .same hl hr (ih h' hx)

end Compares

/-- **The comparison of versions is an order**, whether or not they are well formed.  Of two versions
either both comparisons give an answer or neither, and the answers are the reverse of each other.  If a
version is not newer than a second one, and this not newer than a third, then the first and the third
compare; they are level if both pairs are, and the first is older if one pair is not level. -/
theorem compare_isOrder (a b c : String) :
    ((∃ o, compare a b = .ok o) ↔ ∃ o, compare b a = .ok o) ∧
    (∀ o, compare a b = .ok o → compare b a = .ok o.swap) ∧
    (∀ x y, compare a b = .ok x → compare b c = .ok y → x ≠ .gt → y ≠ .gt →
      ∃ z, compare a c = .ok z ∧ (x = .eq → y = .eq → z = .eq) ∧ (x = .lt ∨ y = .lt → z = .lt)) := by
  have hswap : ∀ (v w : String) (o : Ordering), compare v w = .ok o → compare w v = .ok o.swap :=
    fun v w o h => compare_eq_ok_iff.mpr (compare_eq_ok_iff.mp h).symm
  refine ⟨⟨?_, ?_⟩, hswap a b, ?_⟩
  · rintro ⟨o, h⟩
    exact ⟨o.swap, hswap a b o h⟩
  · rintro ⟨o, h⟩
    exact ⟨o.swap, hswap b a o h⟩
  · intro x y hab hbc hx hy
    have hac := (compare_eq_ok_iff.mp hab).trans (compare_eq_ok_iff.mp hbc) hx hy
    refine ⟨x.then y, compare_eq_ok_iff.mpr hac, ?_, ?_⟩
    · rintro rfl rfl
      rfl
    · rintro (rfl | rfl)
      · rfl
      · revert hx
        cases x <;> simp

/-- A segment without a number that no comparison reaches does no harm. -/
theorem compare_isOrder_malformed :
    compare "2.3." "+2.03-rc" = .ok .eq ∧ compare "+2.03-rc" "2.3.q" = .ok .lt ∧
    compare "2.3." "2.3.q" = .ok .lt := by
  have hab : compare "2.3." "+2.03-rc" = .ok .eq := by rfl
  have hbc : compare "+2.03-rc" "2.3.q" = .ok .lt := by rfl
  obtain ⟨z, hac, -, hlt⟩ := (compare_isOrder "2.3." "+2.03-rc" "2.3.q").2.2 .eq .lt hab hbc
    (by decide) (by decide)
  rw [hlt (Or.inr rfl)] at hac
  exact ⟨hab, hbc, hac⟩

end SinkCheck.Version
