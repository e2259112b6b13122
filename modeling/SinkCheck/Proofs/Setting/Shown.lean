import SinkCheck.Proofs.Setting.Items
import SinkCheck.Proofs.Settings.Texts
import SinkCheck.Proofs.Text.Numerals
/-
  Reading what is shown.

  A value is shown as a text, and the text is one that could have been given for the setting: it is read
  as the same value again, whatever text the value came from.  For each kind the reason is another one.
  A trimmed text has nothing left to trim; the decimal text of an integer denotes it; the items of a
  list have no commas of their own; and a word of a choice is among the words, in front of every other
  one that could be taken for it.  Secrets are left out, for what is shown of them is not a value.

  Main statements: `Kind.read_display`, and `Definition.read_display` with the constraint.
-/

namespace SinkCheck

/-- A text is never read as no value. -/
theorem Kind.isNull_of_read {k : Kind} {t : String} {v : Value} (h : k.read t = .ok v) :
    v.isNull = false := by
  cases k with
  | string => cases h; rfl
  | secret => cases h; rfl
  | integer w =>
    simp only [read] at h
    split at h <;> cases h
    rfl
  | boolean =>
    simp only [read] at h
    split at h <;> cases h
    rfl
  | list => cases h; rfl
  | choice words =>
    simp only [read] at h
    split at h <;> cases h
    rfl

/-! ## Kind by kind -/

/-- An integer that was read fits its type, and is read from its own text. -/
theorem Width.read?_integerText {w : Width} {s : String} {n : Int64} (h : w.read? s = some n) :
    w.read? (Text.integerText n.toInt) = some n := by
  unfold read? at h ⊢
  split at h
  · next m hm =>
    split at h
    · next hfits =>
      cases h
      rw [Text.integer?_integerText, Width.toInt_ofInt hfits]
      exact if_pos hfits
    · cases h
  · cases h

/-- A truth value is read from its own word. -/
theorem readBoolean?_display (b : Bool) :
    readBoolean? (Text.trim (Value.boolean b).display) = some b := by
  cases b <;> decide +kernel

theorem eqFolded_of_find? {words : List String} {t w : String}
    (h : words.find? (fun x => Text.eqFolded x t) = some w) : Text.eqFolded w t = true := by
  have hw := List.find?_some h
  exact hw

/-- The first word that a text is taken for is also the first one that this word is taken for. -/
theorem find?_eqFolded_of_find? {words : List String} {t w : String}
    (h : words.find? (fun x => Text.eqFolded x t) = some w) :
    words.find? (fun x => Text.eqFolded x w) = some w := by
  have hfold : Text.folded w = Text.folded t := (Text.eqFolded_iff _ _).mp (eqFolded_of_find? h)
  simpa only [Text.eqFolded, hfold] using h

/-! ## Values -/

/-- **A value that was read** from a text is read again from the text as which it is shown. -/
theorem Kind.read_display {k : Kind} {t : String} {v : Value} (hk : k ≠ .secret)
    (h : k.read t = .ok v) : k.read v.display = .ok v := by
  cases k with
  | string =>
    cases h
    rw [Value.display, read, Text.trim_trim]
  | secret => exact absurd rfl hk
  | integer w =>
    simp only [read] at h
    split at h
    · next n hn =>
      cases h
      rw [Value.display, read, Text.trim_integerText, Width.read?_integerText hn]
    · cases h
  | boolean =>
    simp only [read] at h
    split at h
    · next b hb =>
      cases h
      rw [read, readBoolean?_display]
    · cases h
  | list =>
    cases h
    rw [Value.display, read, listItems_trim,
      listItems_intercalate_of_isItem fun s hs => isItem_of_mem_listItems hs]
  | choice words =>
    simp only [read] at h
    split at h
    · next w hw =>
      cases h
      have htrim : Text.trim w = w := Text.trim_eq_self_of_eqFolded (eqFolded_of_find? hw)
      rw [Value.display, read, htrim, find?_eqFolded_of_find? hw]
    · cases h

/-- **A value under a definition** is read again from the text as which it is shown, for a constraint
asks nothing of the text. -/
theorem Definition.read_display {isFile : String → Bool} {d : Definition} {t : String} {v : Value}
    (hd : d.kind ≠ .secret) (h : d.read isFile t = .ok v) : d.read isFile v.display = .ok v := by
  obtain ⟨hread, hfree⟩ := Definition.read_eq_ok_iff.mp h
  exact Definition.read_eq_ok_iff.mpr ⟨Kind.read_display hd hread, hfree⟩

end SinkCheck
