import Mathlib.Data.List.Forall2
import SinkCheck.Proofs.Setting.Constraints
import SinkCheck.Proofs.Setting.Shown
/-
  Which texts a choice takes.

  A choice has a row of words, and a text is taken for the first word that it is the same as, but for
  blanks at its ends and the case of ASCII letters.  The reader compares the two in small letters; here
  they are compared letter by letter, so that a character that only looks like a letter, or that another
  alphabet has as its small form, is seen to be none.

  Some choices stand for a type of keywords, and then there are two rows of words, one in the definition
  and one in the type, each with a search of its own.  As the rows are the same, both searches find the
  same word or none.

  Main statements: `Text.sameButCase_iff`, small letters against letter by letter;
  `Definition.read_choice_eq_ok_iff` and `read_choice_eq_error_iff`, a text under a choice; and
  `choice_settings_take_words`.
-/

namespace SinkCheck

/-! ## Letter by letter -/

namespace Text

/-- The characters are the same, or the capital and the small form of an ASCII letter. -/
inductive SameLetter : Char → Char → Prop
  | same (c : Char) : SameLetter c c
  | small {c d : Char} (hc : 'A'.toNat ≤ c.toNat ∧ c.toNat ≤ 'Z'.toNat)
    (hd : d.toNat = c.toNat + 32) : SameLetter c d
  | capital {c d : Char} (hd : 'A'.toNat ≤ d.toNat ∧ d.toNat ≤ 'Z'.toNat)
    (hc : c.toNat = d.toNat + 32) : SameLetter c d

/-- The texts are the same but for the case of ASCII letters. -/
def SameButCase (s t : String) : Prop := List.Forall₂ SameLetter s.toList t.toList

/-- A small form is the small form of its capital and of itself. -/
theorem toLower_of_small {c d : Char} (hc : 65 ≤ c.toNat ∧ c.toNat ≤ 90)
    (hd : d.toNat = c.toNat + 32) : c.toLower = d.toLower := by
  have hsmall : d.toLower = d := toLower_of_not_capital (by omega)
  rw [hsmall, ← Char.toNat_inj, toNat_toLower_of_capital hc, hd]

/-- **Characters with the same small form** are the same letter. -/
theorem sameLetter_iff {c d : Char} : SameLetter c d ↔ c.toLower = d.toLower := by
  constructor
  · intro h
    cases h with
    | same => rfl
    | small hc hd => exact toLower_of_small hc hd
    | capital hd hc => exact (toLower_of_small hd hc).symm
  · intro h
    have hnat : c.toLower.toNat = d.toLower.toNat := congrArg Char.toNat h
    by_cases hc : 65 ≤ c.toNat ∧ c.toNat ≤ 90
    · rw [toNat_toLower_of_capital hc] at hnat
      by_cases hd : 65 ≤ d.toNat ∧ d.toNat ≤ 90
      · rw [toNat_toLower_of_capital hd] at hnat
        rw [Char.toNat_inj.mp (Nat.add_right_cancel hnat)]
        exact .same d
      · rw [toLower_of_not_capital hd] at hnat
        exact .small hc hnat.symm
    · rw [toLower_of_not_capital hc] at hnat h
      by_cases hd : 65 ≤ d.toNat ∧ d.toNat ≤ 90
      · rw [toNat_toLower_of_capital hd] at hnat
        exact .capital hd hnat
      · rw [h, toLower_of_not_capital hd]
        exact .same d

/-- **Texts with the same small letters** are the same letter by letter. -/
theorem sameButCase_iff {s t : String} : SameButCase s t ↔ eqFolded s t = true := by
  have hletter : SameLetter = fun c d => c.toLower = d.toLower :=
    funext fun c => funext fun d => propext sameLetter_iff
  rw [eqFolded_iff, folded, folded, ← List.forall₂_eq_eq_eq, List.forall₂_map_left_iff,
    List.forall₂_map_right_iff, SameButCase, hletter]

instance (s t : String) : Decidable (SameButCase s t) := decidable_of_iff _ sameButCase_iff.symm

example : SameButCase "uPsErT" "UpSeRt" := by decide +kernel

example : ¬SameButCase "mask" "mas\u212a" := by decide +kernel

end Text

/-! ## The first word -/

/-- Of all words in the row, this is the first that is the same as the text but for the case of letters. -/
structure FirstAlike (words : List String) (text word : String) : Prop where
  alike : Text.SameButCase word text
  first : ∃ before after, words = before ++ word :: after ∧
    ∀ w ∈ before, ¬Text.SameButCase w text

section Words

variable {words : List String} {t w : String}

/-- **The search of a choice** finds the first word that is the same as the text. -/
theorem find?_eqFolded_eq_some_iff :
    words.find? (fun x => Text.eqFolded x t) = some w ↔ FirstAlike words t w := by
  rw [List.find?_eq_some_iff_append]
  simp only [Bool.not_eq_true', ← Bool.not_eq_true, ← Text.sameButCase_iff]
  exact ⟨fun h => ⟨h.1, h.2⟩, fun h => ⟨h.alike, h.first⟩⟩

theorem find?_eqFolded_eq_none_iff :
    words.find? (fun x => Text.eqFolded x t) = none ↔ ∀ x ∈ words, ¬Text.SameButCase x t := by
  simp only [List.find?_eq_none, ← Text.sameButCase_iff]

/-- There is a first such word if there is one at all. -/
theorem exists_firstAlike_iff :
    (∃ w, FirstAlike words t w) ↔ ∃ w ∈ words, Text.SameButCase w t := by
  simp only [← find?_eqFolded_eq_some_iff, ← Option.isSome_iff_exists, List.find?_isSome,
    Text.sameButCase_iff]

end Words

/-! ## Choices -/

section Choices

variable {isFile : String → Bool} {d : Definition} {words : List String} {t : String}

/-- **A text under a choice** is read as the first word that it is the same as. -/
theorem Definition.read_choice_eq_ok_iff (hk : d.kind = .choice words) (hc : d.constraint = .free)
    {v : Value} :
    d.read isFile t = .ok v ↔ ∃ w, FirstAlike words (Text.trim t) w ∧ v = .string w := by
  simp only [Definition.read_of_free hc, hk, Kind.read, ← find?_eqFolded_eq_some_iff]
  cases words.find? fun x => Text.eqFolded x (Text.trim t) with
  | none => simp [Except.mapError]
  | some w => simp [Except.mapError, eq_comm]

/-- A text that is the same as none of the words is quoted as it was given, with all the words. -/
theorem Definition.read_choice_eq_error_iff (hk : d.kind = .choice words) (hc : d.constraint = .free)
    {f : SyntaxFault} :
    d.read isFile t = .error f ↔
      (∀ w ∈ words, ¬Text.SameButCase w (Text.trim t)) ∧ f = .invalid d.name t (.notAmong words) := by
  simp only [Definition.read_of_free hc, hk, Kind.read, ← find?_eqFolded_eq_none_iff]
  cases words.find? fun x => Text.eqFolded x (Text.trim t) with
  | none => simp [Except.mapError, eq_comm]
  | some w => simp [Except.mapError]

end Choices

/-! ## Keywords -/

section Keywords

variable {α : Type} [Keyword α] {isFile : String → Bool} {k : Key} {t w : String}

/-- The word of the keyword that a text says is the first word that the text is the same as. -/
theorem Keyword.firstAlike_words_iff :
    FirstAlike (Keyword.words α) t w ↔ ∃ a : α, Keyword.ofText? t = some a ∧ Keyword.word a = w := by
  rw [← find?_eqFolded_eq_some_iff, Keyword.find?_words, Option.map_eq_some_iff]

theorem Keyword.ofText?_eq_none_iff :
    (Keyword.ofText? t : Option α) = none ↔ ∀ w ∈ Keyword.words α, ¬Text.SameButCase w t := by
  rw [← find?_eqFolded_eq_none_iff, Keyword.find?_words, Option.map_eq_none_iff]

/-- The setting and the type of keywords recognise the same texts, and the same words in them. -/
structure Key.AgreesWith (k : Key) (α : Type) [Keyword α] (isFile : String → Bool) : Prop where
  accepts : ∀ t v, k.definition.resolve isFile (some t) = .ok v ↔
    ∃ a : α, Keyword.ofText? (Text.trim t) = some a ∧ v = .string (Keyword.word a)
  refuses : ∀ t f, k.definition.resolve isFile (some t) = .error f ↔
    (Keyword.ofText? (Text.trim t) : Option α) = none ∧
      f = .invalid k.name t (.notAmong (Keyword.words α))

/-- **A setting agrees** with the keywords whose words it has. -/
theorem Key.agreesWith_of_words (hk : k.kind = .choice (Keyword.words α)) (hc : k.constraint = .free) :
    k.AgreesWith α isFile where
  accepts t v := by
    rw [Definition.resolve_some, Definition.read_choice_eq_ok_iff (d := k.definition) hk hc]
    simp only [Keyword.firstAlike_words_iff]
    constructor
    · rintro ⟨_, ⟨a, ha, rfl⟩, hv⟩
      exact ⟨a, ha, hv⟩
    · rintro ⟨a, ha, hv⟩
      exact ⟨Keyword.word a, ⟨a, ha, rfl⟩, hv⟩
  refuses t f := by
    rw [Definition.resolve_some, Definition.read_choice_eq_error_iff (d := k.definition) hk hc,
      Keyword.ofText?_eq_none_iff, Key.name_definition]

end Keywords

/-! ## All together -/

/-- **Choices take their words.**  Each of the four settings that stand for keywords resolves a text to the
word of the keyword that the type recognises in it, and refuses the texts in which it recognises none.
Under any choice a text resolves exactly if it is the same as one of the words, blanks at its ends and
the case of ASCII letters apart.  It resolves to the first such word, and this word to itself. -/
theorem choice_settings_take_words (isFile : String → Bool) :
    (Key.writeMethod.AgreesWith WriteMethod isFile ∧
      Key.nullBehavior.AgreesWith NullBehavior isFile ∧
      Key.dataStreamType.AgreesWith DataStreamType isFile ∧
      Key.securityProtocol.AgreesWith SecurityProtocol isFile) ∧
    ∀ (d : Definition) (words : List String), d.kind = .choice words → d.constraint = .free → ∀ t,
      ((∃ v, d.resolve isFile (some t) = .ok v) ↔ ∃ w ∈ words, Text.SameButCase w (Text.trim t)) ∧
      (∀ v, d.resolve isFile (some t) = .ok v ↔
        ∃ w, FirstAlike words (Text.trim t) w ∧ v = .string w) ∧
      ∀ w, d.resolve isFile (some t) = .ok (.string w) →
        d.resolve isFile (some w) = .ok (.string w) := by
  refine ⟨⟨Key.agreesWith_of_words Key.kind_writeMethod rfl,
    Key.agreesWith_of_words Key.kind_nullBehavior rfl,
    Key.agreesWith_of_words Key.kind_dataStreamType rfl,
    Key.agreesWith_of_words Key.kind_securityProtocol rfl⟩, fun d words hk hc t => ?_⟩
  have hread : ∀ v, d.resolve isFile (some t) = .ok v ↔
      ∃ w, FirstAlike words (Text.trim t) w ∧ v = .string w :=
    fun v => Definition.read_choice_eq_ok_iff hk hc
  refine ⟨?_, hread, fun w h => ?_⟩
  · rw [← exists_firstAlike_iff]
    constructor
    · rintro ⟨v, hv⟩
      obtain ⟨w, hw, -⟩ := (hread v).mp hv
      exact ⟨w, hw⟩
    · rintro ⟨w, hw⟩
      exact ⟨.string w, (hread _).mpr ⟨w, hw, rfl⟩⟩
  · -- a word is shown as it is
    have hshown : d.kind ≠ .secret := fun hsecret => by rw [hk] at hsecret; cases hsecret
    exact Definition.read_display (v := .string w) hshown h

/-- A row in which two words are alike, and another one has blanks that no trimmed text has. -/
theorem choice_settings_take_words_alike :
    let words := ["Slow", "FAST", "fast", " x "]
    let d : Definition := ⟨"pace", .choice words, .required, .free, ""⟩
    let resolve := fun t => d.resolve (fun _ => false) (some t)
    d.kind = .choice words ∧ d.constraint = .free ∧
    resolve "\tfast " = .ok (.string "FAST") ∧ resolve "FAST" = .ok (.string "FAST") ∧
    (¬∃ v, resolve " x " = .ok v) ∧ (¬∃ v, resolve "\u017flow" = .ok v) ∧
    Key.writeMethod.definition.resolve (fun _ => false) (some "\u00a0upSert") =
      .ok (.string "UPSERT") := by
  intro words d resolve
  obtain ⟨⟨hwrite, -⟩, hchoice⟩ := choice_settings_take_words fun _ => false
  have takes := hchoice d words rfl rfl
  have hfirst : FirstAlike words (Text.trim "\tfast ") "FAST" :=
    ⟨by decide +kernel, ["Slow"], ["fast", " x "], rfl, by decide +kernel⟩
  have hfast : resolve "\tfast " = .ok (.string "FAST") := ((takes _).2.1 _).mpr ⟨_, hfirst, rfl⟩
  refine ⟨rfl, rfl, hfast, (takes _).2.2 _ hfast, ?_, ?_, ?_⟩
  · rw [(takes _).1]
    decide +kernel
  · rw [(takes _).1]
    decide +kernel
  · exact (hwrite.accepts _ _).mpr ⟨.upsert, by decide +kernel, rfl⟩

end SinkCheck
