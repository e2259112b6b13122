import SinkCheck.Proofs.Version.Order
import SinkCheck.Proofs.Version.Segments
/-
  Where the comparison of two versions is decided.

  Side by side, two rows of segments agree for a while: at each place both segments have a number and the
  numbers are the same.  The first place where this fails decides everything, by the two segments that
  stand there and nothing else; where it fails nowhere, the counts of the segments decide.  So a
  comparison is a matter of at most two segments (`meet`), and of what is written behind these nothing
  is seen.  Only a fault tells more than the two segments do, for it names the version that was given.

  Main statements: `compareSegments_of_level`, `compareSegments_of_firstDifference`,
  `exists_outcome_of_take_eq`, and `compare_exact` for versions.
-/

namespace SinkCheck.Version

/-! ## Agreeing and differing -/

/-- Both segments have a number, and the same one. -/
def Level (l r : List Char) : Prop := ∃ n, HasNumber l n ∧ HasNumber r n

/-- At the place `i` stand the segments `l` and `r`, and it is the first place of both rows where the
segments are not level. -/
structure FirstDifference (ls rs : List (List Char)) (i : Nat) (l r : List Char) : Prop where
  left : ls[i]? = some l
  right : rs[i]? = some r
  differ : ¬ Level l r
  before : ∀ j < i, ∀ l' r', ls[j]? = some l' → rs[j]? = some r' → Level l' r'

/-- What a comparison comes to, whatever the versions are called: an ordering, or a segment of the left or
of the right version that has no number. -/
inductive Outcome where
  | order (o : Ordering)
  | leftFault (segment : List Char)
  | rightFault (segment : List Char)

/-- The result for the versions `a` and `b`. -/
def Outcome.result (a b : String) : Outcome → Except InvalidSegment Ordering
  | order o => .ok o
  | leftFault segment => .error ⟨a, String.ofList segment⟩
  | rightFault segment => .error ⟨b, String.ofList segment⟩

/-- What two segments that are not level come to.  The left one is asked first. -/
def meet (l r : List Char) : Outcome :=
  match segmentNumber? l, segmentNumber? r with
  | none, _ => .leftFault l
  | some _, none => .rightFault r
  | some m, some n => .order (Ord.compare m n)

theorem segmentNumber?_eq_none_iff {segment : List Char} :
    segmentNumber? segment = none ↔ ∀ n, ¬ HasNumber segment n := by
  simp only [Option.eq_none_iff_forall_ne_some, ne_eq, segmentNumber?_eq_some_iff]

section Meet

variable {l r : List Char} {m n : Nat}

theorem meet_of_numbers (hl : HasNumber l m) (hr : HasNumber r n) :
    meet l r = .order (Ord.compare m n) := by
  rw [meet, segmentNumber?_eq_some_iff.mpr hl, segmentNumber?_eq_some_iff.mpr hr]

theorem meet_of_left (hl : ∀ m, ¬ HasNumber l m) : meet l r = .leftFault l := by
  rw [meet, segmentNumber?_eq_none_iff.mpr hl]

theorem meet_of_right (hl : HasNumber l m) (hr : ∀ n, ¬ HasNumber r n) : meet l r = .rightFault r := by
  rw [meet, segmentNumber?_eq_some_iff.mpr hl, segmentNumber?_eq_none_iff.mpr hr]

end Meet

/-! ## Rows of segments -/

section Rows

variable {a b : String} {l r : List Char} {ls rs ls' rs' : List (List Char)} {i k : Nat}

/-- Level segments at the front do not matter. -/
theorem compareSegments_cons_of_level (h : Level l r) :
    compareSegments a b (l :: ls) (r :: rs) = compareSegments a b ls rs := by
  obtain ⟨n, hl, hr⟩ := h
  rw [compareSegments_cons (segmentNumber?_eq_some_iff.mpr hl) (segmentNumber?_eq_some_iff.mpr hr),
    if_neg (Nat.lt_irrefl n), if_neg (Nat.lt_irrefl n)]

/-- Segments at the front that are not level decide. -/
theorem compareSegments_cons_of_not_level (h : ¬ Level l r) :
    compareSegments a b (l :: ls) (r :: rs) = (meet l r).result a b := by
  rw [compareSegments, meet]
  cases hl : segmentNumber? l with
  | none => simp only [segmentNumber, hl, Outcome.result]
  | some m =>
    cases hr : segmentNumber? r with
    | none => simp only [segmentNumber, hl, hr, Outcome.result]
    | some n =>
      have hne : m ≠ n := by
        rintro rfl
        exact h ⟨m, segmentNumber?_eq_some_iff.mp hl, segmentNumber?_eq_some_iff.mp hr⟩
      simp only [segmentNumber, hl, hr, Outcome.result]
      cases ho : Ord.compare m n with
      | eq => exact absurd (Nat.compare_eq_eq.mp ho) hne
      | lt => rfl
      | gt => rfl

/-- **Rows without a difference** compare as their lengths do. -/
theorem compareSegments_of_level
    (h : ∀ (i : Nat) (l r : List Char), ls[i]? = some l → rs[i]? = some r → Level l r) :
    compareSegments a b ls rs = .ok (Ord.compare ls.length rs.length) := by
  induction ls generalizing rs with
  | nil =>
    cases rs with
    | nil => rfl
    | cons r rs => exact congrArg Except.ok (Nat.compare_eq_lt.mpr (Nat.zero_lt_succ _)).symm
  | cons l ls ih =>
    cases rs with
    | nil => exact congrArg Except.ok (Nat.compare_eq_gt.mpr (Nat.zero_lt_succ _)).symm
    | cons r rs =>
      rw [compareSegments_cons_of_level (h 0 l r rfl rfl), ih fun i => h (i + 1)]
      simp only [Nat.compare_eq_ite_lt, List.length_cons, Nat.add_lt_add_iff_right]

/-- **Rows with a difference** compare as the first one does. -/
theorem compareSegments_of_firstDifference (h : FirstDifference ls rs i l r) :
    compareSegments a b ls rs = (meet l r).result a b := by
  induction i generalizing ls rs with
  | zero =>
    obtain ⟨ls, rfl⟩ := List.head?_eq_some_iff.mp (List.head?_eq_getElem?.trans h.left)
    obtain ⟨rs, rfl⟩ := List.head?_eq_some_iff.mp (List.head?_eq_getElem?.trans h.right)
    exact compareSegments_cons_of_not_level h.differ
  | succ i ih =>
    cases ls with
    | nil => cases h.left
    | cons l' ls =>
      cases rs with
      | nil => cases h.right
      | cons r' rs =>
        rw [compareSegments_cons_of_level (h.before 0 (Nat.zero_lt_succ i) l' r' rfl rfl)]
        exact ih ⟨h.left, h.right, h.differ, fun j hj => h.before (j + 1) (Nat.succ_lt_succ hj)⟩

/-- Where no place is the first to differ, none differs. -/
theorem level_of_no_firstDifference (h : ∀ i l r, ¬ FirstDifference ls rs i l r) (i : Nat)
    (l r : List Char) (hl : ls[i]? = some l) (hr : rs[i]? = some r) : Level l r := by
  induction i using Nat.strongRecOn generalizing l r with
  | ind i ih => exact Classical.byContradiction fun hne => h i l r ⟨hl, hr, hne, ih⟩

theorem getElem?_eq_of_take_eq (h : ls'.take k = ls.take k) (hi : i < k) : ls'[i]? = ls[i]? := by
  rw [← List.getElem?_take_of_lt hi, h, List.getElem?_take_of_lt hi]

/-- A place of both rows is among the first `k` if one of the rows has no more. -/
theorem lt_of_getElem?_eq_some (hk : ls.length ≤ k ∨ rs.length ≤ k) (hl : ls[i]? = some l)
    (hr : rs[i]? = some r) : i < k := by
  obtain ⟨hil, -⟩ := List.getElem?_eq_some_iff.mp hl
  obtain ⟨hir, -⟩ := List.getElem?_eq_some_iff.mp hr
  omega

/-- The first difference is the same for rows that are the same so far. -/
theorem FirstDifference.of_take_eq (h : FirstDifference ls rs i l r) (hi : i < k)
    (hls : ls'.take k = ls.take k) (hrs : rs'.take k = rs.take k) :
    FirstDifference ls' rs' i l r := by
  refine ⟨?_, ?_, h.differ, fun j hj l' r' hl hr => ?_⟩
  · rw [getElem?_eq_of_take_eq hls hi, h.left]
  · rw [getElem?_eq_of_take_eq hrs hi, h.right]
  · rw [getElem?_eq_of_take_eq hls (Nat.lt_trans hj hi)] at hl
    rw [getElem?_eq_of_take_eq hrs (Nat.lt_trans hj hi)] at hr
    exact h.before j hj l' r' hl hr

/-- **What is not reached does not matter.**  Rows whose first `k` segments are the same come to the same,
if the first difference is among these segments, or else if one of the rows has no more of them and the
lengths are kept. -/
theorem exists_outcome_of_take_eq (hls : ls'.take k = ls.take k) (hrs : rs'.take k = rs.take k)
    (hreach : (∃ i < k, ∃ l r, FirstDifference ls rs i l r) ∨
      ((ls.length ≤ k ∨ rs.length ≤ k) ∧ ls'.length = ls.length ∧ rs'.length = rs.length)) :
    ∃ o : Outcome, ∀ a b,
      compareSegments a b ls rs = o.result a b ∧ compareSegments a b ls' rs' = o.result a b := by
  by_cases hdiff : ∃ i < k, ∃ l r, FirstDifference ls rs i l r
  · obtain ⟨i, hi, l, r, h⟩ := hdiff
    have h' : FirstDifference ls' rs' i l r := h.of_take_eq hi hls hrs
    exact ⟨meet l r, fun a b =>
      ⟨compareSegments_of_firstDifference h, compareSegments_of_firstDifference h'⟩⟩
  · obtain ⟨hk, hl, hr⟩ := hreach.resolve_left hdiff
    -- a difference behind the first `k` segments would be behind the end of a row
    have hlevel := level_of_no_firstDifference fun i l r h =>
      hdiff ⟨i, lt_of_getElem?_eq_some hk h.left h.right, l, r, h⟩
    have hlevel' : ∀ (i : Nat) (l r : List Char), ls'[i]? = some l → rs'[i]? = some r → Level l r := by
      intro i l r hli hri
      have hi : i < k := lt_of_getElem?_eq_some (by rw [hl, hr]; exact hk) hli hri
      rw [getElem?_eq_of_take_eq hls hi] at hli
      rw [getElem?_eq_of_take_eq hrs hi] at hri
      exact hlevel i l r hli hri
    refine ⟨.order (Ord.compare ls.length rs.length), fun a b => ⟨?_, ?_⟩⟩
    · exact compareSegments_of_level hlevel
    · rw [compareSegments_of_level hlevel', hl, hr, Outcome.result]

end Rows

/-! ## Versions -/

/-- **The exact result of a comparison.**  The versions are cut into segments as their texts say.  If the
segments are level wherever both versions have one, the counts of the segments decide.  Otherwise the
first place where they are not level decides: by the numbers, if both segments have one, and else with
the fault of the left segment or, if this has a number, of the right one; the fault names the version
as it was given.  Versions with the same segments up to that place have the same result, and if there is
no such place, versions with the same segments as far as both go, and as many of them. -/
theorem compare_exact (a b : String) :
    IsCut a (segments a) ∧ IsCut b (segments b) ∧
    ((∀ i l r, ¬ FirstDifference (segments a) (segments b) i l r) →
      compare a b = .ok (Ord.compare (segments a).length (segments b).length)) ∧
    (∀ i l r, FirstDifference (segments a) (segments b) i l r →
      (∀ m n, HasNumber l m → HasNumber r n → compare a b = .ok (Ord.compare m n)) ∧
      ((∀ m, ¬ HasNumber l m) → compare a b = .error ⟨a, String.ofList l⟩) ∧
      (∀ m, HasNumber l m → (∀ n, ¬ HasNumber r n) → compare a b = .error ⟨b, String.ofList r⟩)) ∧
    ∀ a' b' k, (segments a').take k = (segments a).take k → (segments b').take k = (segments b).take k →
      (∃ i < k, ∃ l r, FirstDifference (segments a) (segments b) i l r) ∨
        (((segments a).length ≤ k ∨ (segments b).length ≤ k) ∧
          (segments a').length = (segments a).length ∧ (segments b').length = (segments b).length) →
      ∃ o : Outcome, compare a b = o.result a b ∧ compare a' b' = o.result a' b' := by
  refine ⟨isCut_iff.mpr rfl, isCut_iff.mpr rfl, fun h => ?_, fun i l r h => ?_, ?_⟩
  · exact compareSegments_of_level (level_of_no_firstDifference h)
  · have hmeet : compare a b = (meet l r).result a b := compareSegments_of_firstDifference h
    rw [hmeet]
    refine ⟨fun m n hl hr => ?_, fun hl => ?_, fun m hl hr => ?_⟩
    · rw [meet_of_numbers hl hr, Outcome.result]
    · rw [meet_of_left hl, Outcome.result]
    · rw [meet_of_right hl hr, Outcome.result]
  · intro a' b' k ha hb hreach
    obtain ⟨o, ho⟩ := exists_outcome_of_take_eq ha hb hreach
    exact ⟨o, (ho a b).1, (ho a' b').2⟩

example : compare "1.+02-x.9" "1.2.18446744073709551616" =
    .error ⟨"1.2.18446744073709551616", "18446744073709551616"⟩ := by cbv

end SinkCheck.Version
