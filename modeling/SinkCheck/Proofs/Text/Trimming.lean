import SinkCheck.Text.AsciiCase
import SinkCheck.Text.Blank
/-
  What trimming does to a text.

  Trimming drops the blanks at the front, turns the text round, and does it again.  What is left neither
  begins nor ends with a blank, so a second trimming finds nothing to drop; and whatever blanks were put
  at the ends of a text, the same is left of it.  The case of the ASCII letters has no part in this, for
  no blank is a letter.

  Main statements: `eq_of_blank_ends`, what one blank at either end does not change no row of blanks
  changes; `trim_trim`; `trimChars_eq_self_iff`, the texts that trimming leaves alone;
  `trim_eq_self_of_eqFolded`, which are the same up to the case of letters.
-/

namespace SinkCheck.Text

/-! ## Blanks at the ends -/

/-- What does not see one blank at either end of a text sees no row of blanks there. -/
theorem eq_of_blank_ends {α : Type} {f : List Char → α}
    (hcons : ∀ c s, isBlank c = true → f (c :: s) = f s)
    (hconcat : ∀ c s, isBlank c = true → f (s ++ [c]) = f s) {front back : List Char}
    (hf : ∀ c ∈ front, isBlank c = true) (hb : ∀ c ∈ back, isBlank c = true) (s : List Char) :
    f (front ++ s ++ back) = f s := by
  induction front with
  | cons c front ih =>
    rw [List.cons_append, List.cons_append, hcons c _ (hf c List.mem_cons_self)]
    exact ih fun d hd => hf d (List.mem_cons_of_mem c hd)
  | nil =>
    rw [List.nil_append]
    clear hf
    induction back generalizing s with
    | nil => rw [List.append_nil]
    | cons c back ih =>
      have hback : ∀ d ∈ back, isBlank d = true := fun d hd => hb d (List.mem_cons_of_mem c hd)
      have happ : s ++ c :: back = s ++ [c] ++ back := by rw [List.append_assoc]; rfl
      rw [happ, ih hback, hconcat c s (hb c List.mem_cons_self)]

theorem trimChars_cons {c : Char} (s : List Char) (h : isBlank c = true) :
    trimChars (c :: s) = trimChars s := by
  have hfront : trimFront (c :: s) = trimFront s := List.dropWhile_cons_of_pos h
  rw [trimChars, hfront, trimChars]

theorem trimChars_concat {c : Char} (s : List Char) (h : isBlank c = true) :
    trimChars (s ++ [c]) = trimChars s := by
  simp only [trimChars, trimFront, List.dropWhile_append]
  split
  · next hs => rw [List.isEmpty_iff.mp hs, List.dropWhile_cons_of_pos h]; rfl
  · rw [List.reverse_append, List.reverse_singleton, List.singleton_append,
      List.dropWhile_cons_of_pos h]

/-! ## What is left -/

/-- Behind the blanks at the front stands what trimming leaves, and then blanks. -/
theorem exists_trimFront_eq_append (s : List Char) :
    ∃ back, (∀ c ∈ back, isBlank c = true) ∧ trimFront s = trimChars s ++ back := by
  refine ⟨((trimFront s).reverse.takeWhile isBlank).reverse, fun c hc => ?_, ?_⟩
  · exact List.all_eq_true.mp List.all_takeWhile c (List.mem_reverse.mp hc)
  · have hsplit : (trimFront s).reverse.takeWhile isBlank ++ trimFront (trimFront s).reverse =
        (trimFront s).reverse := List.takeWhile_append_dropWhile
    rw [trimChars, ← List.reverse_append, hsplit, List.reverse_reverse]

/-- A text is what trimming leaves of it, between blanks. -/
theorem exists_eq_append_trimChars_append (s : List Char) :
    ∃ front back, (∀ c ∈ front, isBlank c = true) ∧ (∀ c ∈ back, isBlank c = true) ∧
      s = front ++ trimChars s ++ back := by
  obtain ⟨back, hback, htrim⟩ := exists_trimFront_eq_append s
  refine ⟨s.takeWhile isBlank, back, List.all_eq_true.mp List.all_takeWhile, hback, ?_⟩
  rw [List.append_assoc, ← htrim]
  exact List.takeWhile_append_dropWhile.symm

/-- Trimming takes characters away and puts none in. -/
theorem mem_of_mem_trimChars {s : List Char} {c : Char} (h : c ∈ trimChars s) : c ∈ s := by
  obtain ⟨front, back, -, -, hs⟩ := exists_eq_append_trimChars_append s
  rw [hs, List.mem_append, List.mem_append]
  exact Or.inl (Or.inr h)

theorem isBlank_of_mem_head?_trimFront {s : List Char} {c : Char} (h : c ∈ (trimFront s).head?) :
    isBlank c = false := by
  have hnot := List.head?_dropWhile_not isBlank s
  rw [← trimFront, Option.mem_def.mp h] at hnot
  exact hnot

/-- What trimming leaves does not begin with a blank. -/
theorem isBlank_of_mem_head?_trimChars {s : List Char} {c : Char} (h : c ∈ (trimChars s).head?) :
    isBlank c = false := by
  obtain ⟨back, -, htrim⟩ := exists_trimFront_eq_append s
  refine isBlank_of_mem_head?_trimFront (s := s) ?_
  rw [htrim, List.head?_append]
  rw [Option.mem_def.mp h]
  rfl

/-- What trimming leaves does not end with a blank. -/
theorem isBlank_of_mem_getLast?_trimChars {s : List Char} {c : Char}
    (h : c ∈ (trimChars s).getLast?) : isBlank c = false := by
  rw [trimChars, List.getLast?_reverse] at h
  exact isBlank_of_mem_head?_trimFront h

theorem trimFront_eq_self {s : List Char} (h : ∀ c ∈ s.head?, isBlank c = false) :
    trimFront s = s := by
  cases s with
  | nil => rfl
  | cons c s => exact List.dropWhile_cons_of_neg (Bool.eq_false_iff.mp (h c rfl))

/-- **The texts that trimming leaves alone** are those that neither begin nor end with a blank. -/
theorem trimChars_eq_self_iff {s : List Char} :
    trimChars s = s ↔
      (∀ c ∈ s.head?, isBlank c = false) ∧ (∀ c ∈ s.getLast?, isBlank c = false) := by
  constructor
  · intro h
    rw [← h]
    exact ⟨fun c hc => isBlank_of_mem_head?_trimChars hc,
      fun c hc => isBlank_of_mem_getLast?_trimChars hc⟩
  · rintro ⟨hfirst, hlast⟩
    rw [← List.head?_reverse] at hlast
    rw [trimChars, trimFront_eq_self hfirst, trimFront_eq_self hlast, List.reverse_reverse]

theorem trimChars_trimChars (s : List Char) : trimChars (trimChars s) = trimChars s :=
  trimChars_eq_self_iff.mpr
    ⟨fun _ hc => isBlank_of_mem_head?_trimChars hc, fun _ hc => isBlank_of_mem_getLast?_trimChars hc⟩

/-- **Trimming a second time** drops nothing. -/
@[simp] theorem trim_trim (s : String) : trim (trim s) = trim s := by
  rw [trim, toList_trim, trimChars_trimChars, trim]

theorem trim_eq_self_iff {s : String} : trim s = s ↔ trimChars s.toList = s.toList := by
  rw [← toList_trim, String.toList_inj]

/-! ## Trimming and letter case -/

/-- Of the characters of ASCII, those between the space and the last control character are not blank:
letters, digits and signs. -/
theorem isBlank_of_visible {c : Char} (hlo : 0x21 ≤ c.toNat) (hhi : c.toNat ≤ 0x7E) :
    isBlank c = false := by
  simp only [isBlank, Bool.or_eq_false_iff, Bool.and_eq_false_iff, decide_eq_false_iff_not,
    beq_eq_false_iff_ne]
  omega

theorem toNat_toLower_of_capital {c : Char} (h : 65 ≤ c.toNat ∧ c.toNat ≤ 90) :
    c.toLower.toNat = c.toNat + 32 := by
  have hcond : c.val ≥ 'A'.val ∧ c.val ≤ 'Z'.val := h
  have hval : c.toLower.val = c.val + 32 := congrArg Char.val (dif_pos hcond)
  show c.toLower.val.toNat = c.toNat + 32
  rw [hval, UInt32.toNat_add]
  show (c.toNat + 32) % 4294967296 = c.toNat + 32
  omega

theorem toLower_of_not_capital {c : Char} (h : ¬(65 ≤ c.toNat ∧ c.toNat ≤ 90)) : c.toLower = c := by
  have hcond : ¬(c.val ≥ 'A'.val ∧ c.val ≤ 'Z'.val) := h
  exact dif_neg hcond

/-- A small letter stays as it is. -/
theorem toLower_toLower (c : Char) : c.toLower.toLower = c.toLower := by
  by_cases h : 65 ≤ c.toNat ∧ c.toNat ≤ 90
  · have hsmall := toNat_toLower_of_capital h
    exact toLower_of_not_capital (by omega)
  · rw [toLower_of_not_capital h, toLower_of_not_capital h]

/-- Making a letter small neither makes a blank nor takes one away. -/
theorem isBlank_toLower (c : Char) : isBlank c.toLower = isBlank c := by
  by_cases h : 65 ≤ c.toNat ∧ c.toNat ≤ 90
  · have hsmall := toNat_toLower_of_capital h
    rw [isBlank_of_visible (c := c) (by omega) (by omega), isBlank_of_visible (by omega) (by omega)]
  · rw [toLower_of_not_capital h]

theorem trimChars_map_toLower (s : List Char) :
    trimChars (s.map Char.toLower) = (trimChars s).map Char.toLower := by
  have hblank : isBlank ∘ Char.toLower = isBlank := funext isBlank_toLower
  simp only [trimChars, trimFront, List.dropWhile_map, hblank, ← List.map_reverse]

/-- Trimming and making letters small go in either order. -/
theorem folded_trim (s : String) : folded (trim s) = trimChars (folded s) := by
  rw [folded, toList_trim, ← trimChars_map_toLower, folded]

/-- A text that is the same as a trimmed one, up to the case of letters, is trimmed as well. -/
theorem trim_eq_self_of_eqFolded {s t : String} (h : eqFolded s (trim t) = true) : trim s = s := by
  have hfold : trimChars (folded s) = folded s := by
    rw [(eqFolded_iff _ _).mp h, ← folded_trim, trim_trim]
  obtain ⟨hfirst, hlast⟩ := trimChars_eq_self_iff.mp hfold
  rw [trim_eq_self_iff, trimChars_eq_self_iff]
  refine ⟨fun c hc => ?_, fun c hc => ?_⟩
  · rw [← isBlank_toLower]
    refine hfirst _ ?_
    rw [folded, List.head?_map]
    exact Option.mem_map_of_mem _ hc
  · rw [← isBlank_toLower]
    refine hlast _ ?_
    rw [folded, List.getLast?_map]
    exact Option.mem_map_of_mem _ hc

end SinkCheck.Text
