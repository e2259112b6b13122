import Mathlib.Logic.Relation
import SinkCheck.Proofs.Setting.Items
/-
  Spellings of a text.

  There are differences between texts that mean nothing: blanks at the ends, except in a secret; blanks
  beside the commas of a list; the case of ASCII letters where a truth value or a word of a few is wanted.
  Two texts are spelled alike if single changes of these kinds, made or undone in any number and order,
  turn one into the other.  What no single change alters, they have in common, and so they are read alike.

  Each text has a plainest spelling, without any of those blanks and in small letters.  The changes lead to
  it and none of them alters it, so texts are spelled alike exactly if their plainest spellings are the
  same, which can be decided.

  Main statements: `Kind.read_of_respelling`, for one change; `Kind.SpelledAlike.read_eq`, for any number of
  them; `Kind.spelledAlike_iff`, by the plainest spellings; `Definition.resolve_eq_ok_of_spelledAlike`.
-/

namespace SinkCheck

namespace Kind

/-! ## Changes of the spelling -/

/-- Does the case of letters mean nothing? -/
def ignoresCase : Kind → Bool
  | .boolean | .choice _ => true
  | .string | .secret | .integer _ | .list => false

/-- A single change of the spelling: a blank is added at an end or beside a comma, or a letter is written
in another case. -/
inductive Respelling (k : Kind) : List Char → List Char → Prop
  | front {c : Char} (s : List Char) (hk : k ≠ .secret) (hc : Text.isBlank c = true) :
    Respelling k s (c :: s)
  | back {c : Char} (s : List Char) (hk : k ≠ .secret) (hc : Text.isBlank c = true) :
    Respelling k s (s ++ [c])
  | beforeComma {c : Char} (s t : List Char) (hk : k = .list) (hc : Text.isBlank c = true) :
    Respelling k (s ++ ',' :: t) (s ++ c :: ',' :: t)
  | afterComma {c : Char} (s t : List Char) (hk : k = .list) (hc : Text.isBlank c = true) :
    Respelling k (s ++ ',' :: t) (s ++ ',' :: c :: t)
  | letter {c d : Char} (s t : List Char) (hk : k.ignoresCase = true) (hcd : c.toLower = d.toLower) :
    Respelling k (s ++ c :: t) (s ++ d :: t)

/-- Do changes of the spelling, made or undone, turn one text into the other? -/
def SpelledAlike (k : Kind) (s t : String) : Prop := Relation.EqvGen k.Respelling s.toList t.toList

variable {k : Kind} {s t : List Char}

/-! ## Reading -/

/-- What is no secret is read without the blanks at its ends. -/
theorem read_congr_trim {x y : String} (hk : k ≠ .secret) (h : Text.trim x = Text.trim y) :
    k.read x = k.read y := by
  cases k with
  | secret => exact absurd rfl hk
  | string | integer | boolean | list | choice => simp only [read, h]

theorem read_congr_folded {x y : String} (hk : k.ignoresCase = true)
    (h : Text.folded x = Text.folded y) : k.read x = k.read y := by
  have htrim : Text.folded (Text.trim x) = Text.folded (Text.trim y) := by
    rw [Text.folded_trim, h, ← Text.folded_trim]
  cases k with
  | boolean =>
    have hread : readBoolean? (Text.trim x) = readBoolean? (Text.trim y) := by
      rw [readBoolean?, Text.eqFolded, Text.eqFolded, htrim, readBoolean?, Text.eqFolded, Text.eqFolded]
    simp only [read, hread]
  | choice words => simp only [read, Text.eqFolded, htrim]
  | string | secret | integer | list => cases hk

theorem read_list (x : String) : Kind.list.read x = .ok (.list (listItems x)) := by
  rw [read, listItems_trim]

/-- **A single change** of the spelling does not alter what a text is read as. -/
theorem read_of_respelling (h : k.Respelling s t) :
    k.read (String.ofList s) = k.read (String.ofList t) := by
  cases h with
  | front s hk hc =>
    refine read_congr_trim hk ?_
    rw [Text.trim, Text.trim, String.toList_ofList, String.toList_ofList, Text.trimChars_cons s hc]
  | back s hk hc =>
    refine read_congr_trim hk ?_
    rw [Text.trim, Text.trim, String.toList_ofList, String.toList_ofList, Text.trimChars_concat s hc]
  | @beforeComma c s t hk hc =>
    have hitems : Text.items (s ++ c :: ',' :: t) = Text.items (s ++ ',' :: t) := by
      rw [List.append_cons s c, Text.items_append, Text.items_concat s hc, Text.items_append]
    rw [hk, read_list, read_list, listItems_eq, listItems_eq, String.toList_ofList,
      String.toList_ofList, hitems]
  | @afterComma c s t hk hc =>
    have hitems : Text.items (s ++ ',' :: c :: t) = Text.items (s ++ ',' :: t) := by
      rw [Text.items_append, Text.items_cons t hc, Text.items_append]
    rw [hk, read_list, read_list, listItems_eq, listItems_eq, String.toList_ofList,
      String.toList_ofList, hitems]
  | letter s t hk hcd =>
    refine read_congr_folded hk ?_
    rw [Text.folded, Text.folded, String.toList_ofList, String.toList_ofList, List.map_append,
      List.map_append, List.map_cons, List.map_cons, hcd]

/-- **What no single change alters** is the same for all texts that are spelled alike. -/
theorem SpelledAlike.apply_eq {α : Type} {f : List Char → α} {x y : String}
    (hf : ∀ s t, k.Respelling s t → f s = f t) (h : k.SpelledAlike x y) : f x.toList = f y.toList :=
  congrArg (Quot.lift f hf) (Quot.eqvGen_sound h)

/-- **Texts that are spelled alike** are read alike. -/
theorem SpelledAlike.read_eq {x y : String} (h : k.SpelledAlike x y) : k.read x = k.read y := by
  have hread := h.apply_eq (f := fun s => k.read (String.ofList s)) fun _ _ => read_of_respelling
  simpa only [String.ofList_toList] using hread

theorem SpelledAlike.symm {x y : String} (h : k.SpelledAlike x y) : k.SpelledAlike y x :=
  Relation.EqvGen.symm _ _ h

/-! ## The plainest spelling -/

/-- The plainest spelling of a text: without the blanks that mean nothing, and in small letters where
their case means nothing. -/
def plain : Kind → List Char → List Char
  | .secret, s => s
  | .list, s => Text.joinPieces ',' ((Text.pieces ',' s).map Text.trimChars)
  | .boolean, s | .choice _, s => Text.trimChars (s.map Char.toLower)
  | .string, s | .integer _, s => Text.trimChars s

theorem plain_cons {c : Char} (hk : k ≠ .secret) (hc : Text.isBlank c = true) (s : List Char) :
    k.plain (c :: s) = k.plain s := by
  have hlower : Text.isBlank c.toLower = true := (Text.isBlank_toLower c).trans hc
  cases k with
  | secret => exact absurd rfl hk
  | list => rw [plain, Text.map_trimChars_pieces_cons s hc, plain]
  | boolean | choice => rw [plain, List.map_cons, Text.trimChars_cons _ hlower, plain]
  | string | integer => rw [plain, Text.trimChars_cons s hc, plain]

theorem plain_concat {c : Char} (hk : k ≠ .secret) (hc : Text.isBlank c = true) (s : List Char) :
    k.plain (s ++ [c]) = k.plain s := by
  have hlower : Text.isBlank c.toLower = true := (Text.isBlank_toLower c).trans hc
  cases k with
  | secret => exact absurd rfl hk
  | list => rw [plain, Text.map_trimChars_pieces_concat s hc, plain]
  | boolean | choice =>
    rw [plain, List.map_append, List.map_singleton, Text.trimChars_concat _ hlower, plain]
  | string | integer => rw [plain, Text.trimChars_concat s hc, plain]

/-- No change of the spelling alters the plainest one. -/
theorem plain_of_respelling (h : k.Respelling s t) : k.plain s = k.plain t := by
  cases h with
  | front s hk hc => exact (plain_cons hk hc s).symm
  | back s hk hc => exact (plain_concat hk hc s).symm
  | @beforeComma c s t hk hc =>
    subst hk
    rw [plain, plain, List.append_cons s c, Text.pieces_append, Text.pieces_append,
      List.map_append, List.map_append, Text.map_trimChars_pieces_concat s hc]
  | @afterComma c s t hk hc =>
    subst hk
    rw [plain, plain, Text.pieces_append, Text.pieces_append, List.map_append, List.map_append,
      Text.map_trimChars_pieces_cons t hc]
  | letter s t hk hcd =>
    cases k with
    | boolean | choice =>
      rw [plain, plain, List.map_append, List.map_append, List.map_cons, List.map_cons, hcd]
    | string | secret | integer | list => cases hk

/-! ## The way to the plainest spelling

  Texts that are spelled alike make one class of spellings, and equations between classes can be rewritten
  with. -/

/-- A class of texts that are spelled alike. -/
def spelling (k : Kind) (s : List Char) : Quot k.Respelling := Quot.mk k.Respelling s

/-- Blanks can be trimmed off a part of the text that lies between ends of the text or, in a list, between
commas. -/
theorem spelling_trimChars_part {a b : List Char} (hk : k ≠ .secret)
    (ha : a = [] ∨ k = .list ∧ ∃ a', a = a' ++ [','])
    (hb : b = [] ∨ k = .list ∧ ∃ b', b = ',' :: b') (s : List Char) :
    k.spelling (a ++ Text.trimChars s ++ b) = k.spelling (a ++ s ++ b) := by
  have hfront : ∀ c s, Text.isBlank c = true →
      k.spelling (a ++ c :: s ++ b) = k.spelling (a ++ s ++ b) := by
    intro c s hc
    rcases ha with rfl | ⟨hlist, a', rfl⟩
    · exact (Quot.sound (.front (s ++ b) hk hc)).symm
    · have hadd := Quot.sound (Respelling.afterComma a' (s ++ b) hlist hc)
      simpa [spelling] using hadd.symm
  have hback : ∀ c s, Text.isBlank c = true →
      k.spelling (a ++ (s ++ [c]) ++ b) = k.spelling (a ++ s ++ b) := by
    intro c s hc
    rcases hb with rfl | ⟨hlist, b', rfl⟩
    · have hadd := Quot.sound (Respelling.back (a ++ s) hk hc)
      simpa [spelling] using hadd.symm
    · have hadd := Quot.sound (Respelling.beforeComma (a ++ s) b' hlist hc)
      simpa [spelling] using hadd.symm
  obtain ⟨front, back, hf, hb, hs⟩ := Text.exists_eq_append_trimChars_append s
  have hends := Text.eq_of_blank_ends (f := fun s => k.spelling (a ++ s ++ b)) hfront hback hf hb
    (Text.trimChars s)
  rw [← hends, ← hs]

theorem spelling_trimChars (hk : k ≠ .secret) (s : List Char) :
    k.spelling (Text.trimChars s) = k.spelling s := by
  simpa using spelling_trimChars_part hk (Or.inl rfl) (Or.inl rfl) s

/-- The pieces of a list can be trimmed one after the other; `a` is what lies in front of them. -/
theorem spelling_joinPieces (rows : List (List Char)) {a : List Char}
    (ha : a = [] ∨ ∃ a', a = a' ++ [',']) :
    Kind.list.spelling (a ++ Text.joinPieces ',' (rows.map Text.trimChars)) =
      Kind.list.spelling (a ++ Text.joinPieces ',' rows) := by
  induction rows generalizing a with
  | nil => rfl
  | cons p rows ih =>
    have hfront : a = [] ∨ Kind.list = .list ∧ ∃ a', a = a' ++ [','] :=
      ha.imp_right fun h => ⟨rfl, h⟩
    cases rows with
    | nil =>
      simpa [Text.joinPieces] using spelling_trimChars_part (by decide) hfront (Or.inl rfl) p
    | cons q rows =>
      have hpart := spelling_trimChars_part (by decide) hfront (Or.inr ⟨rfl, _, rfl⟩) p
        (b := ',' :: Text.joinPieces ',' ((q :: rows).map Text.trimChars))
      have hrest := ih (a := a ++ p ++ [',']) (Or.inr ⟨_, rfl⟩)
      simp only [List.append_assoc, List.singleton_append] at hpart hrest
      exact hpart.trans hrest

/-- The letters can be made small one after the other; `a` is what lies in front of them. -/
theorem spelling_map_toLower (hk : k.ignoresCase = true) (a s : List Char) :
    k.spelling (a ++ s.map Char.toLower) = k.spelling (a ++ s) := by
  induction s generalizing a with
  | nil => rfl
  | cons c s ih =>
    have hrest := ih (a ++ [c.toLower])
    rw [List.append_assoc, List.append_assoc] at hrest
    exact hrest.trans (Quot.sound (.letter a s hk (Text.toLower_toLower c)))

/-- **Changes of the spelling lead to the plainest one.** -/
theorem spelling_plain (k : Kind) (s : List Char) : k.spelling (k.plain s) = k.spelling s := by
  cases k with
  | secret => rfl
  | list =>
    rw [plain]
    have hpieces := spelling_joinPieces (Text.pieces ',' s) (a := []) (Or.inl rfl)
    rwa [List.nil_append, List.nil_append, Text.joinPieces_pieces] at hpieces
  | boolean | choice =>
    rw [plain, spelling_trimChars (by simp)]
    exact spelling_map_toLower rfl [] s
  | string | integer => exact spelling_trimChars (by simp) s

/-- **Texts are spelled alike** exactly if their plainest spellings are the same. -/
theorem spelledAlike_iff {x y : String} : k.SpelledAlike x y ↔ k.plain x.toList = k.plain y.toList := by
  constructor
  · exact SpelledAlike.apply_eq fun _ _ => plain_of_respelling
  · intro h
    refine Quot.eqvGen_exact (?_ : k.spelling x.toList = k.spelling y.toList)
    rw [← spelling_plain k x.toList, h, spelling_plain]

instance (k : Kind) (x y : String) : Decidable (k.SpelledAlike x y) :=
  decidable_of_iff _ spelledAlike_iff.symm

example : Kind.list.SpelledAlike "a ,b\u3000c,, " "\ta,b\u3000c ,," := by decide +kernel

example : ¬ Kind.string.SpelledAlike "INSERT" " insert" := by decide +kernel

/-! ## Texts that may be absent -/

instance (k : Kind) (given other : Option String) : Decidable (Option.Rel k.SpelledAlike given other) :=
  match given, other with
  | some x, some y => decidable_of_iff (k.SpelledAlike x y) ⟨.some, fun h => by cases h; assumption⟩
  | some _, none => isFalse fun h => by cases h
  | none, some _ => isFalse fun h => by cases h
  | none, none => isTrue .none

theorem rel_spelledAlike_symm {given other : Option String}
    (h : Option.Rel k.SpelledAlike given other) : Option.Rel k.SpelledAlike other given := by
  cases h with
  | some hxy => exact .some hxy.symm
  | none => exact .none

end Kind

/-- **A setting that resolves** resolves to the same value from a text that is spelled alike.  No such thing
holds of its faults, which quote the text. -/
theorem Definition.resolve_eq_ok_of_spelledAlike {isFile : String → Bool} {d : Definition}
    {given other : Option String} {v : Value} (h : Option.Rel d.kind.SpelledAlike given other)
    (hv : d.resolve isFile given = .ok v) : d.resolve isFile other = .ok v := by
  cases h with
  | some hxy =>
    obtain ⟨hread, hobjection⟩ := Definition.read_eq_ok_iff.mp hv
    rw [hxy.read_eq] at hread
    exact Definition.read_eq_ok_iff.mpr ⟨hread, hobjection⟩
  | none => exact hv

end SinkCheck
