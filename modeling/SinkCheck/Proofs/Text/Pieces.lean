import SinkCheck.Text.Pieces
/-
  Cutting a text at separators, and joining what was cut.

  Where a separator stands, a text falls into two that are cut on their own, so pieces without a
  separator that are joined are cut into the same pieces again.  The only row that cannot come back is
  the empty one, for a text has always at least one piece.  So the pieces of a text need not be looked
  for: they are the one row that has no separator in it and makes the text when it is joined.

  Main statements: `pieces_append`, `pieces_joinPieces`, `getLast?_joinPieces_ne_iff`, when joined
  pieces end in a separator, and `isSplit_iff`, which row the pieces of a text are.
-/

namespace SinkCheck.Text

variable {sep c : Char}

/-! ## Cutting -/

/-- **A separator** stands between two texts that are cut on their own. -/
theorem pieces_append (sep : Char) (s t : List Char) :
    pieces sep (s ++ sep :: t) = pieces sep s ++ pieces sep t := by
  induction s with
  | nil => simp [pieces]
  | cons c s ih =>
    by_cases hc : c = sep
    · simp only [List.cons_append, pieces, if_pos hc, ih]
    · obtain ⟨p, ps, hp⟩ := List.exists_cons_of_ne_nil (pieces_ne_nil sep s)
      simp only [List.cons_append, pieces, if_neg hc, ih, hp]

theorem pieces_of_not_mem {s : List Char} (h : sep ∉ s) : pieces sep s = [s] := by
  induction s with
  | nil => rfl
  | cons c s ih =>
    rw [List.mem_cons, not_or] at h
    rw [pieces, if_neg (Ne.symm h.1), ih h.2]

/-- Another character at the front belongs to the first piece. -/
theorem exists_pieces_cons (h : c ≠ sep) (s : List Char) :
    ∃ p ps, pieces sep s = p :: ps ∧ pieces sep (c :: s) = (c :: p) :: ps := by
  obtain ⟨p, ps, hp⟩ := List.exists_cons_of_ne_nil (pieces_ne_nil sep s)
  refine ⟨p, ps, hp, ?_⟩
  rw [pieces, if_neg h, hp]

/-- A text without separators that stands behind another one belongs to its last piece. -/
theorem exists_pieces_append {t : List Char} (h : sep ∉ t) (s : List Char) :
    ∃ ps p, pieces sep s = ps ++ [p] ∧ pieces sep (s ++ t) = ps ++ [p ++ t] := by
  induction s with
  | nil => exact ⟨[], [], rfl, pieces_of_not_mem h⟩
  | cons d s ih =>
    obtain ⟨ps, p, hs, hst⟩ := ih
    by_cases hd : d = sep
    · refine ⟨[] :: ps, p, ?_, ?_⟩
      · rw [pieces, if_pos hd, hs]; rfl
      · rw [List.cons_append, pieces, if_pos hd, hst]; rfl
    · cases ps with
      | nil =>
        refine ⟨[], d :: p, ?_, ?_⟩
        · rw [pieces, if_neg hd, hs]; rfl
        · rw [List.cons_append, pieces, if_neg hd, hst]; rfl
      | cons q ps =>
        refine ⟨(d :: q) :: ps, p, ?_, ?_⟩
        · rw [pieces, if_neg hd, hs]; rfl
        · rw [List.cons_append, pieces, if_neg hd, hst]; rfl

/-- So does another character at the end. -/
theorem exists_pieces_concat (h : c ≠ sep) (s : List Char) :
    ∃ ps p, pieces sep s = ps ++ [p] ∧ pieces sep (s ++ [c]) = ps ++ [p ++ [c]] :=
  exists_pieces_append (by simpa using Ne.symm h) s

/-! ## Joining -/

theorem joinPieces_cons (p : List Char) {ps : List (List Char)} (h : ps ≠ []) :
    joinPieces sep (p :: ps) = p ++ sep :: joinPieces sep ps := by
  obtain ⟨q, ps, rfl⟩ := List.exists_cons_of_ne_nil h
  rfl

theorem joinPieces_concat {ps : List (List Char)} (h : ps ≠ []) (p : List Char) :
    joinPieces sep (ps ++ [p]) = joinPieces sep ps ++ sep :: p := by
  induction ps with
  | nil => exact absurd rfl h
  | cons q ps ih =>
    cases ps with
    | nil => rfl
    | cons q' ps =>
      rw [List.cons_append, joinPieces_cons q (by simp), ih (by simp),
        joinPieces_cons q (List.cons_ne_nil q' ps), List.append_assoc, List.cons_append]

/-- **Joined pieces** are cut into the same pieces again. -/
theorem pieces_joinPieces {ps : List (List Char)} (hne : ps ≠ []) (h : ∀ p ∈ ps, sep ∉ p) :
    pieces sep (joinPieces sep ps) = ps := by
  induction ps with
  | nil => exact absurd rfl hne
  | cons p ps ih =>
    have hp := pieces_of_not_mem (h p List.mem_cons_self)
    cases ps with
    | nil => exact hp
    | cons q ps =>
      rw [joinPieces_cons p (List.cons_ne_nil q ps), pieces_append, hp,
        ih (List.cons_ne_nil q ps) fun r hr => h r (List.mem_cons_of_mem p hr), List.singleton_append]

/-- **Joined pieces end in a separator** exactly if there are several and the last one is empty. -/
theorem getLast?_joinPieces_ne_iff {ps : List (List Char)} (hne : ps ≠ []) (h : ∀ p ∈ ps, sep ∉ p) :
    (joinPieces sep ps).getLast? ≠ some sep ↔ ps = [[]] ∨ ps.getLast? ≠ some [] := by
  obtain ⟨qs, p, rfl⟩ : ∃ qs p, ps = qs ++ [p] :=
    ⟨ps.dropLast, ps.getLast hne, (List.dropLast_concat_getLast hne).symm⟩
  have hp : p.getLast? ≠ some sep := fun hlast =>
    h p (List.mem_append_right qs List.mem_cons_self) (List.mem_of_getLast? hlast)
  rw [List.getLast?_concat]
  cases qs with
  | nil =>
    refine iff_of_true hp ?_
    cases p with
    | nil => exact Or.inl rfl
    | cons c p => exact Or.inr (by simp)
  | cons q qs =>
    rw [joinPieces_concat (List.cons_ne_nil q qs), List.getLast?_append]
    cases p with
    | nil => simp
    | cons c p =>
      refine iff_of_true ?_ (Or.inr (by simp))
      rw [List.getLast?_cons_cons]
      rw [List.getLast?_cons] at hp ⊢
      exact hp

theorem joinPieces_eq_intercalate (sep : Char) (ps : List (List Char)) :
    joinPieces sep ps = [sep].intercalate ps := by
  induction ps with
  | nil => rfl
  | cons p ps ih =>
    cases ps with
    | nil => simp [joinPieces]
    | cons q ps =>
      rw [joinPieces, ih, List.intercalate_cons_cons, List.append_assoc, List.singleton_append]

/-! ## The pieces of a text -/

/-- The text is cut into these pieces at the separator: joined by it they make the text, and it stands in
none of them. -/
structure IsSplit (sep : Char) (text : String) (ps : List String) : Prop where
  join : (String.singleton sep).intercalate ps = text
  ne_nil : ps ≠ []
  no_sep : ∀ p ∈ ps, sep ∉ p.toList

/-- **The pieces of a text** are what it is cut into, and nothing else. -/
theorem isSplit_iff {text : String} {ps : List String} : IsSplit sep text ps ↔ split sep text = ps := by
  have htoList : ((String.singleton sep).intercalate ps).toList =
      joinPieces sep (ps.map String.toList) := by
    rw [String.toList_intercalate, String.toList_singleton, joinPieces_eq_intercalate]
  constructor
  · intro h
    have hne : ps.map String.toList ≠ [] := fun hnil => h.ne_nil (List.map_eq_nil_iff.mp hnil)
    have hsep : ∀ p ∈ ps.map String.toList, sep ∉ p := by
      intro p hp
      obtain ⟨q, hq, rfl⟩ := List.mem_map.mp hp
      exact h.no_sep q hq
    rw [split, ← h.join, htoList, pieces_joinPieces hne hsep, List.map_map]
    simp [Function.comp_def]
  · intro h
    have hpieces : ps.map String.toList = pieces sep text.toList := by
      rw [← h, split, List.map_map]
      simp [Function.comp_def]
    refine ⟨?_, ?_, fun p hp => ?_⟩
    · rw [← String.toList_inj, htoList, hpieces, joinPieces_pieces]
    · rintro rfl
      exact pieces_ne_nil sep text.toList hpieces.symm
    · refine not_mem_of_mem_pieces (s := text.toList) ?_
      rw [← hpieces]
      exact List.mem_map_of_mem hp

end SinkCheck.Text
