import SinkCheck.Proofs.Version.Difference
/-
  Suffixes.

  A hyphen sets off a suffix, and a suffix is no part of the number.  But a version is cut at its dots
  first, hyphens or no hyphens, so that a suffix is one of a segment and ends with it: what a suffix of
  a version holds behind a dot makes segments like any others.  Up to there it is not seen at all, since
  of a segment only the number counts (`Compares.of_numbers`); and behind there it is seen only by
  versions that match all the segments in front (`compareSegments_append`).

  Main statements: `Compares.of_numbers`, `compareSegments_append`, and `suffix_ends_at_dot` for versions.
-/

namespace SinkCheck.Version

/-! ## Rows of segments -/

/-- What a hyphen sets off is no part of the number. -/
theorem segmentNumber?_append_hyphen (segment suffix : List Char) :
    segmentNumber? (segment ++ '-' :: suffix) = segmentNumber? segment := by
  have htake : (segment ++ '-' :: suffix).takeWhile (· ≠ '-') = segment.takeWhile (· ≠ '-') := by
    induction segment with
    | nil => rfl
    | cons c segment ih => rw [List.cons_append, List.takeWhile_cons, List.takeWhile_cons, ih]
  rw [segmentNumber?, htake, segmentNumber?]

section Rows

variable {a b : String} {ls ls' rs : List (List Char)} {o : Ordering}

/-- **Of a segment only the number counts**, or that it has none. -/
theorem Compares.of_numbers (h : Compares ls rs o)
    (hls : ls'.map segmentNumber? = ls.map segmentNumber?) : Compares ls' rs o := by
  induction h generalizing ls' with
  | level =>
    rw [List.map_eq_nil_iff.mp hls]
    exact .level
  | shorter r rs =>
    rw [List.map_eq_nil_iff.mp hls]
    exact .shorter r rs
  | longer l ls =>
    obtain ⟨l', ls', rfl, -, -⟩ := List.map_eq_cons_iff.mp hls
    exact .longer l' ls'
  | older hl hr hlt =>
    obtain ⟨l', ls', rfl, hl', -⟩ := List.map_eq_cons_iff.mp hls
    exact .older (hl'.trans hl) hr hlt
  | newer hl hr hlt =>
    obtain ⟨l', ls', rfl, hl', -⟩ := List.map_eq_cons_iff.mp hls
    exact .newer (hl'.trans hl) hr hlt
  | same hl hr _ ih =>
    obtain ⟨l', ls', rfl, hl', hrest⟩ := List.map_eq_cons_iff.mp hls
    exact .same (hl'.trans hl) hr (ih hrest)

/-- The right row does not match all segments of the left one: it has no segment in the place of one of
them, or one that is not level with it. -/
def Unmatched (ls rs : List (List Char)) : Prop :=
  ∃ (i : Nat) (l : List Char), ls[i]? = some l ∧ ∀ r, rs[i]? = some r → ¬ Level l r

/-- **Segments behind an unmatched row** are not reached. -/
theorem compareSegments_append (h : Unmatched ls rs) (more : List (List Char)) :
    compareSegments a b (ls ++ more) rs = compareSegments a b ls rs := by
  induction ls generalizing rs with
  | nil =>
    obtain ⟨i, l, hl, -⟩ := h
    cases hl
  | cons l ls ih =>
    cases rs with
    | nil => rfl
    | cons r rs =>
      rw [List.cons_append]
      by_cases hlevel : Level l r
      · rw [compareSegments_cons_of_level hlevel, compareSegments_cons_of_level hlevel]
        -- the unmatched segment is another one, and stands in the rest
        obtain ⟨i, l', hl', hdiffer⟩ := h
        cases i with
        | zero =>
          cases hl'
          exact absurd hlevel (hdiffer r rfl)
        | succ i => exact ih ⟨i, l', hl', hdiffer⟩
      · rw [compareSegments_cons_of_not_level hlevel, compareSegments_cons_of_not_level hlevel]

end Rows

/-! ## Versions -/

/-- Two versions compare alike with a third, on whichever side it stands: both comparisons give the same
ordering, or neither gives one. -/
def AlikeFor (q a b : String) : Prop :=
  (∀ o, compare a q = .ok o ↔ compare b q = .ok o) ∧ ∀ o, compare q a = .ok o ↔ compare q b = .ok o

section Versions

variable {a b c p q : String}

theorem AlikeFor.trans (h : AlikeFor q a b) (h' : AlikeFor q b c) : AlikeFor q a c :=
  ⟨fun o => (h.1 o).trans (h'.1 o), fun o => (h.2 o).trans (h'.2 o)⟩

/-- It is enough to look at one side, for the other mirrors it. -/
theorem alikeFor_of_compares
    (h : ∀ o, Compares (segments a) (segments q) o ↔ Compares (segments b) (segments q) o) :
    AlikeFor q a b := by
  refine ⟨fun o => ?_, fun o => ?_⟩
  · rw [compare_eq_ok_iff, compare_eq_ok_iff]
    exact h o
  · rw [compare_eq_ok_iff, compare_eq_ok_iff]
    constructor
    · intro ha
      have hb := ((h o.swap).mp ha.symm).symm
      rwa [Ordering.swap_swap] at hb
    · intro hb
      have ha := ((h o.swap).mpr hb.symm).symm
      rwa [Ordering.swap_swap] at ha

theorem alikeFor_of_numbers
    (h : (segments a).map segmentNumber? = (segments b).map segmentNumber?) : AlikeFor q a b :=
  alikeFor_of_compares fun _ => ⟨fun hc => hc.of_numbers h.symm, fun hc => hc.of_numbers h⟩

theorem alikeFor_of_unmatched {more : List (List Char)} (ha : segments a = segments b ++ more)
    (h : Unmatched (segments b) (segments q)) : AlikeFor q a b := by
  refine alikeFor_of_compares fun o => ?_
  rw [ha, ← compareSegments_eq_ok_iff (a := a) (b := q), compareSegments_append h more,
    compareSegments_eq_ok_iff]

/-- A suffix without a dot goes to the last segment. -/
theorem exists_segments_append_suffix (hp : p.toList.getLast? ≠ some '.') {suffix : List Char}
    (h : '.' ∉ suffix) :
    ∃ ls l, segments p = ls ++ [l] ∧
      segments (p ++ String.ofList ('-' :: suffix)) = ls ++ [l ++ '-' :: suffix] ∧
      (p ++ String.ofList ('-' :: suffix)).toList.getLast? ≠ some '.' := by
  have hnone : '.' ∉ '-' :: suffix := by simpa using h
  have hlast : (p ++ String.ofList ('-' :: suffix)).toList.getLast? ≠ some '.' := by
    rw [String.toList_append, String.toList_ofList, List.getLast?_append, List.getLast?_cons,
      Option.some_or]
    intro hdot
    exact hnone (List.mem_of_getLast? (List.getLast?_cons.trans hdot))
  obtain ⟨ls, l, hl, hsuffixed⟩ := Text.exists_pieces_append hnone p.toList
  refine ⟨ls, l, ?_, ?_, hlast⟩
  · rw [segments_eq_pieces hp, hl]
  · rw [segments_eq_pieces hlast, String.toList_append, String.toList_ofList, hsuffixed]

/-- **A suffix ends at the next dot.**  A version that does not end in a dot may be followed by a hyphen
and any text: it compares with every version, on either side, as if all were left out from the hyphen to
the first dot of the text or, if there is none, to the end.  So it compares as the version alone does if the
text has no dots but at its end; and be the text what it may, if the other version does not match all
segments of this one. -/
theorem suffix_ends_at_dot (p s q : String) (hp : p.toList.getLast? ≠ some '.') :
    AlikeFor q (p ++ "-" ++ s) (p ++ String.ofList (s.toList.dropWhile (· ≠ '.'))) ∧
    ((∀ c ∈ s.toList.dropWhile (· ≠ '.'), c = '.') ∨ Unmatched (segments p) (segments q) →
      AlikeFor q (p ++ "-" ++ s) p) := by
  have hfront : '.' ∉ s.toList.takeWhile (· ≠ '.') := fun h =>
    of_decide_eq_true (List.all_eq_true.mp List.all_takeWhile '.' h) rfl
  have hbehind : ∀ c ∈ (s.toList.dropWhile (· ≠ '.')).head?, c = '.' := by
    intro c hc
    have hhead := List.head?_dropWhile_not (fun c => decide (c ≠ '.')) s.toList
    rw [hc] at hhead
    exact Decidable.of_not_not (of_decide_eq_false hhead)
  have htext : p ++ "-" ++ s = p ++ String.ofList ('-' :: s.toList.takeWhile (· ≠ '.')) ++
      String.ofList (s.toList.dropWhile (· ≠ '.')) := by
    refine String.toList_injective ?_
    simp only [String.toList_append, String.toList_ofList, List.append_assoc, List.cons_append,
      List.takeWhile_append_dropWhile]
    rfl
  -- the same segments stand behind the version with the suffix as behind the version alone
  obtain ⟨more, hmore⟩ := exists_segments_append hbehind
  obtain ⟨ls, l, hplain, hsuffixed, hlast⟩ := exists_segments_append_suffix hp hfront
  have halike : AlikeFor q (p ++ "-" ++ s) (p ++ String.ofList (s.toList.dropWhile (· ≠ '.'))) := by
    refine alikeFor_of_numbers ?_
    rw [htext, hmore _ hlast, hmore p hp, hsuffixed, hplain]
    simp only [List.map_append, List.map_cons, List.map_nil, segmentNumber?_append_hyphen]
  refine ⟨halike, fun h => halike.trans ?_⟩
  rcases h with hdots | hunmatched
  · exact alikeFor_of_numbers (congrArg _ (segments_append_dots hp hdots))
  · exact alikeFor_of_unmatched (hmore p hp) hunmatched

/-- A suffix with a dot is not seen by a version that differs in front of it. -/
theorem suffix_ends_at_dot_candidate :
    compare "7.9-rc.1" "7.10.0" = .ok .lt ∧ compare "7.10.0" "7.9-rc.1" = .ok .gt := by
  have hunmatched : Unmatched (segments "7.9") (segments "7.10.0") := by
    refine ⟨1, ['9'], rfl, fun r hr => ?_⟩
    have hten : (segments "7.10.0")[1]? = some ['1', '0'] := by rfl
    cases hten.symm.trans hr
    rintro ⟨n, hnine, hten⟩
    cases segmentNumber?_eq_some_iff.mpr hnine
    cases segmentNumber?_eq_some_iff.mpr hten
  have halike : AlikeFor "7.10.0" "7.9-rc.1" "7.9" :=
    (suffix_ends_at_dot "7.9" "rc.1" "7.10.0" (by decide)).2 (Or.inr hunmatched)
  exact ⟨(halike.1 .lt).mpr rfl, (halike.2 .gt).mpr rfl⟩

/-- A suffix with a dot counts for a version that has no more segments. -/
theorem suffix_counts_behind_dot :
    ¬ ∀ p s q : String, p ≠ "" → '-' ∉ p.toList → p.toList.getLast? ≠ some '.' →
      (∀ o, compare (p ++ "-" ++ s) q = .ok o ↔ compare p q = .ok o) ∧
      ∀ o, compare q (p ++ "-" ++ s) = .ok o ↔ compare q p = .ok o := by
  intro h
  have hsuffixed : compare "1.2-rc.1" "1.2" = .ok .gt := by rfl
  have hplain : compare "1.2" "1.2" = .ok .eq := by rfl
  have heq := ((h "1.2" "rc.1" "1.2" (by decide) (by decide) (by decide)).1 .gt).mp hsuffixed
  cases hplain.symm.trans heq

end Versions

end SinkCheck.Version
