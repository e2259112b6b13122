import SinkCheck.Proofs.Text.Pieces
import SinkCheck.Proofs.Text.Trimming
import SinkCheck.Setting.Definition
/-
  The items of a list, and lists joined by commas.

  A text is cut at its commas, the pieces are trimmed, and those of which nothing is left are dropped.
  The pieces on the two sides of a comma have nothing to do with each other, so the items of texts that
  are joined by commas are the items of the texts, one behind the other; and since every piece is trimmed
  anyway, it makes no difference whether the text was trimmed before.  An item has no comma in it and
  is itself its only item, so items that are joined by commas are read back as they were.

  Main statements: `listItems_intercalate`, `listItems_trim`, and `listItems_intercalate_of_isItem` for
  the two together.
-/

namespace SinkCheck

namespace Text

variable {c : Char}

/-! ## Items as rows of characters -/

/-- The trimmed pieces between commas, without the empty ones. -/
def items (s : List Char) : List (List Char) :=
  ((pieces ',' s).map trimChars).filter fun p => !p.isEmpty

theorem items_append (s t : List Char) : items (s ++ ',' :: t) = items s ++ items t := by
  rw [items, pieces_append, List.map_append, List.filter_append, items, items]

/-- Rows that are joined by commas have the items of each. -/
theorem items_intercalate (rows : List (List Char)) :
    items ([','].intercalate rows) = rows.flatMap items := by
  induction rows with
  | nil => rfl
  | cons s rows ih =>
    cases rows with
    | nil => simp
    | cons t rows =>
      rw [List.intercalate_cons_cons, List.append_assoc, List.singleton_append, items_append, ih]
      rfl

theorem ne_comma_of_isBlank (h : isBlank c = true) : c ≠ ',' := by
  rintro rfl
  exact absurd h (by decide)

/-- A blank at the front is trimmed off the first piece. -/
theorem map_trimChars_pieces_cons (s : List Char) (h : isBlank c = true) :
    (pieces ',' (c :: s)).map trimChars = (pieces ',' s).map trimChars := by
  obtain ⟨p, ps, hs, hcs⟩ := exists_pieces_cons (ne_comma_of_isBlank h) s
  rw [hcs, hs, List.map_cons, trimChars_cons p h, List.map_cons]

/-- A blank at the end is trimmed off the last piece. -/
theorem map_trimChars_pieces_concat (s : List Char) (h : isBlank c = true) :
    (pieces ',' (s ++ [c])).map trimChars = (pieces ',' s).map trimChars := by
  obtain ⟨ps, p, hs, hsc⟩ := exists_pieces_concat (ne_comma_of_isBlank h) s
  rw [hsc, hs, List.map_append, List.map_singleton, trimChars_concat p h, List.map_append,
    List.map_singleton]

theorem items_cons (s : List Char) (h : isBlank c = true) : items (c :: s) = items s := by
  rw [items, map_trimChars_pieces_cons s h, items]

theorem items_concat (s : List Char) (h : isBlank c = true) : items (s ++ [c]) = items s := by
  rw [items, map_trimChars_pieces_concat s h, items]

/-- Blanks at the ends of a row are no part of its items. -/
theorem items_trimChars (s : List Char) : items (trimChars s) = items s := by
  obtain ⟨front, back, hf, hb, hs⟩ := exists_eq_append_trimChars_append s
  have hends := eq_of_blank_ends (f := items) (fun _ => items_cons) (fun _ => items_concat) hf hb
    (trimChars s)
  rw [← hends, ← hs]

/-- A row without commas and without blanks at its ends is its only item. -/
theorem items_eq_singleton {s : List Char} (hne : s ≠ []) (htrim : trimChars s = s) (h : ',' ∉ s) :
    items s = [s] := by
  rw [items, pieces_of_not_mem h, List.map_singleton, htrim]
  simp [hne]

end Text

/-! ## Items as texts -/

theorem listItems_eq (s : String) : listItems s = (Text.items s.toList).map String.ofList := by
  have hempty : ∀ p : List Char, (String.ofList p).isEmpty = p.isEmpty := by
    intro p
    rw [Bool.eq_iff_iff, String.isEmpty_iff, List.isEmpty_iff, ← String.toList_eq_nil_iff,
      String.toList_ofList]
  simp only [listItems, Text.split, Text.items, List.map_map, List.filter_map, Function.comp_def,
    Text.trim, String.toList_ofList, hempty]

/-- **Trimming a text** does not change its items. -/
theorem listItems_trim (s : String) : listItems (Text.trim s) = listItems s := by
  rw [listItems_eq, listItems_eq, Text.toList_trim, Text.items_trimChars]

/-- **Texts joined by commas** have the items of each, one behind the other. -/
theorem listItems_intercalate (texts : List String) :
    listItems (",".intercalate texts) = texts.flatMap listItems := by
  have hcomma : ",".toList = [','] := rfl
  rw [listItems_eq, String.toList_intercalate, hcomma, Text.items_intercalate, List.flatMap_map,
    List.map_flatMap]
  exact (congrArg (texts.flatMap ·) (funext listItems_eq)).symm

/-- Can the text stand in a list as it is? -/
structure IsItem (s : String) : Prop where
  ne_empty : s ≠ ""
  trimmed : Text.trim s = s
  no_comma : ',' ∉ s.toList

theorem isItem_of_mem_listItems {s p : String} (h : p ∈ listItems s) : IsItem p := by
  refine ⟨ne_empty_of_mem_listItems h, ?_, ?_⟩
  · obtain ⟨q, -, rfl⟩ := List.mem_map.mp (List.mem_filter.mp h).1
    exact Text.trim_trim q
  · obtain ⟨q, hq, rfl⟩ := List.mem_map.mp (List.mem_filter.mp h).1
    obtain ⟨row, hrow, rfl⟩ := List.mem_map.mp hq
    rw [Text.toList_trim, String.toList_ofList]
    exact fun hc => Text.not_mem_of_mem_pieces hrow (Text.mem_of_mem_trimChars hc)

theorem listItems_of_isItem {s : String} (h : IsItem s) : listItems s = [s] := by
  have hne : s.toList ≠ [] := fun hnil => h.ne_empty (String.toList_eq_nil_iff.mp hnil)
  rw [listItems_eq, Text.items_eq_singleton hne (Text.trim_eq_self_iff.mp h.trimmed) h.no_comma,
    List.map_singleton, String.ofList_toList]

/-- **Items joined by commas** are read back as they were. -/
theorem listItems_intercalate_of_isItem {texts : List String} (h : ∀ s ∈ texts, IsItem s) :
    listItems (",".intercalate texts) = texts := by
  rw [listItems_intercalate]
  induction texts with
  | nil => rfl
  | cons s texts ih =>
    rw [List.flatMap_cons, listItems_of_isItem (h s List.mem_cons_self),
      ih fun t ht => h t (List.mem_cons_of_mem s ht), List.singleton_append]

end SinkCheck
