import SinkCheck.Proofs.Text.Numerals
import SinkCheck.Proofs.Text.Pieces
import SinkCheck.Version
/-
  What the text of a version says.

  Dots at the end do not count, and the text in front of them is cut at its dots.  So a version is its
  segments joined by dots, and some dots behind them; no segment has a dot in it, and the last one is not
  empty unless it is the only one.  There is one such row of segments for every text, be it a version or
  not.

  Main statements: `isCut_iff`, the segments of a version, and `segmentNumber?_eq_some_iff`, the number
  of a segment.
-/

namespace SinkCheck.Version

/-! ## Segments -/

/-- The version is cut into these segments: joined by dots they make its text, but for dots at its end. -/
structure IsCut (version : String) (ps : List (List Char)) : Prop where
  text : ∃ dots, version.toList = Text.joinPieces '.' ps ++ List.replicate dots '.'
  ne_nil : ps ≠ []
  no_dot : ∀ p ∈ ps, '.' ∉ p
  last : ps = [[]] ∨ ps.getLast? ≠ some []

/-- The dots at the end are all that is dropped. -/
theorem exists_eq_withoutTrailingDots_append (s : List Char) :
    ∃ dots, s = withoutTrailingDots s ++ List.replicate dots '.' := by
  have hdot : ∀ c ∈ s.reverse.takeWhile (· = '.'), c = '.' := fun c hc =>
    of_decide_eq_true (List.all_eq_true.mp List.all_takeWhile c hc)
  have hdots : s.reverse.takeWhile (· = '.') =
      List.replicate (s.reverse.takeWhile (· = '.')).length '.' :=
    List.eq_replicate_iff.mpr ⟨rfl, hdot⟩
  refine ⟨(s.reverse.takeWhile (· = '.')).length, ?_⟩
  calc
    s = (s.reverse.takeWhile (· = '.') ++ s.reverse.dropWhile (· = '.')).reverse := by
      rw [List.takeWhile_append_dropWhile, List.reverse_reverse]
    _ = withoutTrailingDots s ++ (s.reverse.takeWhile (· = '.')).reverse := List.reverse_append
    _ = withoutTrailingDots s ++ List.replicate (s.reverse.takeWhile (· = '.')).length '.' := by
      rw [hdots, List.reverse_replicate, List.length_replicate]

theorem getLast?_withoutTrailingDots (s : List Char) : (withoutTrailingDots s).getLast? ≠ some '.' := by
  rw [withoutTrailingDots, List.getLast?_reverse]
  intro h
  have hhead := List.head?_dropWhile_not (fun c => decide (c = '.')) s.reverse
  rw [h] at hhead
  cases hhead

/-- No dot is dropped from a text that does not end in one, however many stand behind it. -/
theorem withoutTrailingDots_append {s : List Char} (h : s.getLast? ≠ some '.') (dots : Nat) :
    withoutTrailingDots (s ++ List.replicate dots '.') = s := by
  have hdots : ∀ c ∈ List.replicate dots '.', decide (c = '.') = true := fun c hc =>
    decide_eq_true (List.eq_of_mem_replicate hc)
  rw [withoutTrailingDots, List.reverse_append, List.reverse_replicate,
    List.dropWhile_append_of_pos hdots]
  cases hs : s.reverse with
  | nil => rw [List.reverse_eq_nil_iff.mp hs]; rfl
  | cons c t =>
    have hlast : s.getLast? = some c := by rw [← List.head?_reverse, hs]; rfl
    have hdrop : (c :: t).dropWhile (· = '.') = c :: t :=
      List.dropWhile_cons_of_neg fun hc => h (of_decide_eq_true hc ▸ hlast)
    rw [hdrop, ← hs, List.reverse_reverse]

/-- What stands behind such a text loses the dots at its own end. -/
theorem withoutTrailingDots_append_text {s : List Char} (h : s.getLast? ≠ some '.') (t : List Char) :
    withoutTrailingDots (s ++ t) = s ++ withoutTrailingDots t := by
  obtain ⟨dots, ht⟩ := exists_eq_withoutTrailingDots_append t
  have hlast : (s ++ withoutTrailingDots t).getLast? ≠ some '.' := by
    have hkept := getLast?_withoutTrailingDots t
    rw [List.getLast?_append]
    cases hw : (withoutTrailingDots t).getLast? with
    | none => exact h
    | some c => rwa [hw] at hkept
  calc
    withoutTrailingDots (s ++ t)
      = withoutTrailingDots (s ++ withoutTrailingDots t ++ List.replicate dots '.') := by
        rw [List.append_assoc, ← ht]
    _ = s ++ withoutTrailingDots t := withoutTrailingDots_append hlast dots

/-- **The segments of a version** are what it is cut into, and nothing else. -/
theorem isCut_iff {version : String} {ps : List (List Char)} :
    IsCut version ps ↔ segments version = ps := by
  constructor
  · intro h
    obtain ⟨dots, htext⟩ := h.text
    have hlast := (Text.getLast?_joinPieces_ne_iff h.ne_nil h.no_dot).mpr h.last
    rw [segments, htext, withoutTrailingDots_append hlast, Text.pieces_joinPieces h.ne_nil h.no_dot]
  · rintro rfl
    have hne : segments version ≠ [] := Text.pieces_ne_nil _ _
    have hdot : ∀ p ∈ segments version, '.' ∉ p := fun p hp => Text.not_mem_of_mem_pieces hp
    have hjoin : Text.joinPieces '.' (segments version) = withoutTrailingDots version.toList :=
      Text.joinPieces_pieces _ _
    refine ⟨?_, hne, hdot, (Text.getLast?_joinPieces_ne_iff hne hdot).mp ?_⟩
    · rw [hjoin]
      exact exists_eq_withoutTrailingDots_append _
    · rw [hjoin]
      exact getLast?_withoutTrailingDots _

section Appending

variable {version : String}

/-- The segments of a version that does not end in a dot are all its pieces. -/
theorem segments_eq_pieces (h : version.toList.getLast? ≠ some '.') :
    segments version = Text.pieces '.' version.toList := by
  have hkeep : withoutTrailingDots (version.toList ++ List.replicate 0 '.') = version.toList :=
    withoutTrailingDots_append h 0
  rw [List.replicate_zero, List.append_nil] at hkeep
  rw [segments, hkeep]

/-- Dots alone add no segment. -/
theorem segments_append_dots (h : version.toList.getLast? ≠ some '.') {dots : List Char}
    (hdots : ∀ c ∈ dots, c = '.') : segments (version ++ String.ofList dots) = segments version := by
  rw [List.eq_replicate_iff.mpr ⟨rfl, hdots⟩, segments, String.toList_append, String.toList_ofList,
    withoutTrailingDots_append h, segments_eq_pieces h]

/-- **What begins with a dot** adds the same segments to every version that does not end in one. -/
theorem exists_segments_append {behind : List Char} (h : ∀ c ∈ behind.head?, c = '.') :
    ∃ more, ∀ version : String, version.toList.getLast? ≠ some '.' →
      segments (version ++ String.ofList behind) = segments version ++ more := by
  obtain ⟨dots, hdots⟩ := exists_eq_withoutTrailingDots_append behind
  have hsegments : ∀ version : String, version.toList.getLast? ≠ some '.' →
      segments (version ++ String.ofList behind) =
        Text.pieces '.' (version.toList ++ withoutTrailingDots behind) := by
    intro version hlast
    rw [segments, String.toList_append, String.toList_ofList, withoutTrailingDots_append_text hlast]
  cases hkept : withoutTrailingDots behind with
  | nil =>
    refine ⟨[], fun version hlast => ?_⟩
    rw [hsegments version hlast, hkept, List.append_nil, List.append_nil, segments_eq_pieces hlast]
  | cons c kept =>
    have hc : c = '.' := h c (by rw [hdots, hkept]; rfl)
    subst hc
    refine ⟨Text.pieces '.' kept, fun version hlast => ?_⟩
    rw [hsegments version hlast, hkept, Text.pieces_append, segments_eq_pieces hlast]

end Appending

/-! ## Numbers -/

/-- The segment has the number `n`: behind a plus sign or none stand digits that denote it by their
positions, and behind these nothing, or a suffix that a hyphen sets off.  The number fits 64 bits. -/
def HasNumber (segment : List Char) (n : Nat) : Prop :=
  ∃ sign digits suffix, segment = sign ++ digits ++ suffix ∧ (sign = [] ∨ sign = ['+']) ∧
    digits ≠ [] ∧ (∀ c ∈ digits, Text.isDigit c = true) ∧ (suffix = [] ∨ suffix.head? = some '-') ∧
    Text.positional digits = n ∧ n < 2 ^ 64

/-- **The number of a segment** is found exactly if it has one. -/
theorem segmentNumber?_eq_some_iff {segment : List Char} {n : Nat} :
    segmentNumber? segment = some n ↔ HasNumber segment n := by
  simp only [segmentNumber?, Option.filter_eq_some_iff, Text.unsigned?_eq_some_iff, decide_eq_true_eq]
  constructor
  · rintro ⟨⟨sign, digits, hs, hsign, hnat⟩, hlt⟩
    obtain ⟨hne, hdigits, hvalue⟩ := Text.natural?_eq_some_iff.mp hnat
    rw [Text.digitsValue_eq_positional] at hvalue
    refine ⟨sign, digits, segment.dropWhile (· ≠ '-'), ?_, hsign, hne, hdigits, ?_, hvalue, hlt⟩
    · rw [← hs, List.takeWhile_append_dropWhile]
    · have hhead := List.head?_dropWhile_not (fun c => decide (c ≠ '-')) segment
      cases hsuffix : segment.dropWhile (· ≠ '-') with
      | nil => exact Or.inl rfl
      | cons c t =>
        rw [hsuffix] at hhead
        exact Or.inr (congrArg some (Decidable.of_not_not (of_decide_eq_false hhead)))
  · rintro ⟨sign, digits, suffix, rfl, hsign, hne, hdigits, hsuffix, hvalue, hlt⟩
    rw [← Text.digitsValue_eq_positional] at hvalue
    refine ⟨⟨sign, digits, ?_, hsign, Text.natural?_eq_some_iff.mpr ⟨hne, hdigits, hvalue⟩⟩, hlt⟩
    -- neither a plus sign nor a digit is a hyphen, so the suffix is where the first one stands
    have hfront : ∀ c ∈ sign ++ digits, decide (c ≠ '-') = true := by
      intro c hc
      refine decide_eq_true ?_
      rintro rfl
      rcases List.mem_append.mp hc with hc | hc
      · rcases hsign with rfl | rfl
        · cases hc
        · cases List.mem_singleton.mp hc
      · cases hdigits '-' hc
    have hback : suffix.takeWhile (· ≠ '-') = [] := by
      cases suffix with
      | nil => rfl
      | cons c t =>
        have hc : c = '-' := by simpa using hsuffix
        subst hc
        rfl
    rw [List.takeWhile_append_of_pos hfront, hback, List.append_nil]

example : segments "1..2-a.b." = [['1'], [], ['2', '-', 'a'], ['b']] := by decide +kernel

end SinkCheck.Version
