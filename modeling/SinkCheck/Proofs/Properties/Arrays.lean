import Mathlib.Data.List.Forall2
import SinkCheck.Proofs.Properties.Flattening
import SinkCheck.Proofs.Setting.Constraints
import SinkCheck.Proofs.Setting.Spelling
/-
  Lists that are written as arrays.

  A setting that takes a list takes it as one text, with commas between the items.  An array of texts is
  joined to such a text first, and reading the text cuts it apart again, so a comma in the array's own
  texts cannot be told from one that joined them.  What is read does not depend on it: at a comma of
  either kind the pieces on its two sides part, and what is blank or empty beside it is dropped.  So each
  text of the array comes to the pieces that it would have come to alone, and these stand in the order of
  the array.

  Main statements: `get?_of_array`, the text that an array is joined to;
  `listItems_intercalate_of_isSplit`, the items of such a text; and `arrays_resolve_by_item`.
-/

namespace SinkCheck

/-! ## From the array to the text -/

theorem Json.isFlat_ofTexts (texts : List String) : (Json.ofTexts texts).isFlat = true := by
  rw [Json.ofTexts, Json.isFlat, List.all_map]
  exact List.all_eq_true.mpr fun _ _ => rfl

theorem Json.flatText_ofTexts (texts : List String) :
    (Json.ofTexts texts).flatText = ",".intercalate texts := by
  have hplain : Json.plainText ∘ Json.string = id := rfl
  rw [Json.ofTexts, Json.flatText, List.map_map, hplain, List.map_id]

/-- **An array of texts** gives its key these texts with commas between them; an empty one gives it the
empty text, and not none. -/
theorem Properties.get?_of_array {members : List (String × Json)} {ps : Properties} {key : String}
    {texts : List String} (hkeys : Keyed.Ordered members) (h : ofJson (.object members) = .ok ps)
    (hmem : (key, Json.ofTexts texts) ∈ members) : ps.get? key = some (",".intercalate texts) := by
  rw [get?_of_ofJson hkeys h hmem, ← Json.flatText_ofTexts]
  rfl

/-! ## From the text to the items -/

/-- What is left of pieces that are trimmed, when the empty ones are dropped. -/
def trimmedPieces (pieces : List String) : List String :=
  (pieces.map Text.trim).filter fun p => !p.isEmpty

/-- The items of a text are what is left of its pieces between commas. -/
theorem listItems_of_isSplit {s : String} {pieces : List String} (h : Text.IsSplit ',' s pieces) :
    listItems s = trimmedPieces pieces := by
  rw [listItems, Text.isSplit_iff.mp h, trimmedPieces]

/-- A row of texts is cut at the commas in one way. -/
theorem Text.forall₂_isSplit_iff {texts : List String} {rows : List (List String)} :
    List.Forall₂ (Text.IsSplit ',') texts rows ↔ rows = texts.map (Text.split ',') := by
  have hsplit : Text.IsSplit ',' = fun s ps => Text.split ',' s = ps :=
    funext fun s => funext fun ps => propext Text.isSplit_iff
  rw [hsplit, ← List.forall₂_map_left_iff, List.forall₂_eq_eq_eq, eq_comm]

/-- Texts with commas between them have the items that each of them is cut into. -/
theorem listItems_intercalate_of_isSplit {texts : List String} {rows : List (List String)}
    (h : List.Forall₂ (Text.IsSplit ',') texts rows) :
    listItems (",".intercalate texts) = rows.flatMap trimmedPieces := by
  rw [listItems_intercalate]
  induction h with
  | nil => rfl
  | cons hsplit _ ih => rw [List.flatMap_cons, listItems_of_isSplit hsplit, ih, List.flatMap_cons]

variable {isFile : String → Bool} {d : Definition}

/-- A list that nothing more is asked of consists of the items of its text. -/
theorem Definition.read_list_of_free (hk : d.kind = .list) (hc : d.constraint = .free) (t : String) :
    d.read isFile t = .ok (.list (listItems t)) := by
  rw [Definition.read_of_free hc, hk, Kind.read_list]
  rfl

/-! ## Both together -/

/-- **An array resolves text by text.**  The object with one array of texts makes properties, and under the
definition of a list these resolve to the pieces between the commas of each text, trimmed and without
the empty ones, one text after the other.  So an array of items resolves to itself. -/
theorem arrays_resolve_by_item (isFile : String → Bool) (hk : d.kind = .list)
    (hc : d.constraint = .free) (key : String) (texts : List String) :
    ∃ ps cuts, Properties.ofJson (.object [(key, Json.ofTexts texts)]) = .ok ps ∧
      (∀ rows, List.Forall₂ (Text.IsSplit ',') texts rows ↔ rows = cuts) ∧
      d.resolve isFile (ps.get? key) = .ok (.list (cuts.flatMap trimmedPieces)) ∧
      ((∀ s ∈ texts, IsItem s) → d.resolve isFile (ps.get? key) = .ok (.list texts)) := by
  have hflat : ∀ e ∈ [(key, Json.ofTexts texts)], e.2.isFlat = true := by
    intro e he
    rw [List.mem_singleton.mp he]
    exact Json.isFlat_ofTexts texts
  have hps := Properties.ofJson_object_eq_ok_iff.mpr ⟨hflat, rfl⟩
  have htext := Properties.get?_of_array (List.pairwise_singleton _ _) hps List.mem_cons_self
  have hcuts : List.Forall₂ (Text.IsSplit ',') texts (texts.map (Text.split ',')) :=
    Text.forall₂_isSplit_iff.mpr rfl
  refine ⟨_, _, hps, fun rows => Text.forall₂_isSplit_iff, ?_, fun h => ?_⟩
  · rw [htext, Definition.resolve_some, Definition.read_list_of_free hk hc,
      listItems_intercalate_of_isSplit hcuts]
  · rw [htext, Definition.resolve_some, Definition.read_list_of_free hk hc,
      listItems_intercalate_of_isItem h]

/-- An array with blanks, commas and nothing in its texts, one of items, and one without texts. -/
theorem arrays_resolve_by_item_ragged :
    let d := Key.ignoreKeyTopics.definition
    let resolvesTo := fun texts items =>
      ∃ ps, Properties.ofJson (.object [("topics", Json.ofTexts texts)]) = .ok ps ∧
        d.resolve (fun _ => false) (ps.get? "topics") = .ok (.list items)
    d.kind = .list ∧ d.constraint = .free ∧
    resolvesTo [" a, b\t,", "", ",\u3000", "c d ", "a"] ["a", "b", "c d", "a"] ∧
    resolvesTo ["x y", "x"] ["x y", "x"] ∧ resolvesTo [] [] := by
  intro d resolvesTo
  have resolves := arrays_resolve_by_item (d := d) (fun _ => false) rfl rfl "topics"
  refine ⟨rfl, rfl, ?_, ?_, ?_⟩
  · obtain ⟨ps, cuts, hps, hcuts, hresolve, -⟩ := resolves [" a, b\t,", "", ",\u3000", "c d ", "a"]
    have hcut : [[" a", " b\t", ""], [""], ["", "\u3000"], ["c d "], ["a"]] = cuts :=
      (hcuts _).mp (Text.forall₂_isSplit_iff.mpr (by decide +kernel))
    rw [← hcut] at hresolve
    refine ⟨ps, hps, hresolve.trans (congrArg (fun items => Except.ok (Value.list items)) ?_)⟩
    decide +kernel
  · obtain ⟨ps, -, hps, -, -, hitems⟩ := resolves ["x y", "x"]
    have hitem : ∀ s ∈ ["x y", "x"], IsItem s := by
      simp only [List.forall_mem_cons, List.not_mem_nil, false_imp_iff, implies_true, and_true]
      refine ⟨⟨?_, ?_, ?_⟩, ⟨?_, ?_, ?_⟩⟩ <;> decide +kernel
    exact ⟨ps, hps, hitems hitem⟩
  · obtain ⟨ps, -, hps, -, -, hitems⟩ := resolves []
    exact ⟨ps, hps, hitems fun s hs => absurd hs List.not_mem_nil⟩

end SinkCheck
