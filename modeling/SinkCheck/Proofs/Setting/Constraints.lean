import SinkCheck.Setting.Definition
/-
  What the constraints ask of values.

  A constraint is checked by looking for an objection, and the objection comes with a text to quote and a
  reason.  Here each constraint is stated as a property of values, without the search: bounds are bounds of
  integers, addresses must be of the web and there must be one, the name of a dataset is empty or short and
  plain, and the path of a keytab leads to a file.  An objection is found exactly where the property fails.

  The rules for the name of a dataset overlap: a long name may hold anything, and a capital may stand beside
  a hyphen.  So it is also stated which of them is told (`FirstBroken`).

  Main statements: one equivalence for each kind of objection, `datasetObjection?_eq_some_iff`, and
  `Constraint.objection?_eq_none_iff`.
-/

namespace SinkCheck

/-! ## The properties -/

/-- Is the text an address of the web to a reader of addresses? -/
def IsWebAddress (parse : String → Except Url.Fault Url) (s : String) : Prop :=
  ∃ u, parse s = .ok u ∧ (u.scheme = "http" ∨ u.scheme = "https")

/-- Is the character no blank and none of the twelve signs that the name of a dataset may not hold? -/
def IsPlain (c : Char) : Prop :=
  Text.isBlank c = false ∧ c ∉ ['\\', '/', '*', '?', '"', '<', '>', '|', ',', '#', '-', ':']

/-- Is the text short enough for the name of a dataset, and made of the characters that one may have? -/
structure IsDatasetName (s : String) : Prop where
  length_le : s.length ≤ 100
  plain : ∀ c ∈ s.toList, IsPlain c
  small : ∀ c ∈ s.toList, Text.isUppercase c = false

/-- The first rule that the name of a dataset breaks, as the reason that is told. -/
inductive FirstBroken (name : String) : Reason → Prop where
  | length (hlong : 100 < name.length) : FirstBroken name .datasetLength
  | character (hshort : name.length ≤ 100)
      (hbad : ∃ c ∈ name.toList, ¬IsPlain c) :
      FirstBroken name .datasetCharacter
  | capital (hshort : name.length ≤ 100)
      (hplain : ∀ c ∈ name.toList, IsPlain c)
      (hbad : ∃ c ∈ name.toList, Text.isUppercase c = true) : FirstBroken name .datasetCase

/-- Is the text the path of a keytab that exists? -/
structure IsKeytab (isFile : String → Bool) (s : String) : Prop where
  endsWith : ".keytab".toList <:+ s.toList
  isFile : isFile s = true

/-- What a constraint asks of a value.  Values of another kind are not its business, but a value that is
no list has no addresses. -/
def Constraint.Holds (isFile : String → Bool) (c : Constraint) (v : Value) : Prop :=
  match c with
  | .free => True
  | .range min max => ∀ n, v.int? = some n → min.toInt ≤ n.toInt ∧ n.toInt ≤ max.toInt
  | .atLeast min => ∀ n, v.int? = some n → min.toInt ≤ n.toInt
  | .urls => ∃ urls, v.list? = some urls ∧ urls ≠ [] ∧ ∀ s ∈ urls, IsWebAddress Url.parse s
  | .dataset => ∀ s, v.text? = some s → s = "" ∨ IsDatasetName s
  | .keytab => ∀ s, v.text? = some s → IsKeytab isFile s

/-! ## One objection after the other -/

section Addresses

variable {parse : String → Except Url.Fault Url}

theorem urlObjection?_eq_none_iff {s : String} :
    urlObjection? parse s = none ↔ IsWebAddress parse s := by
  unfold urlObjection? IsWebAddress
  cases parse s with
  | error f => simp
  | ok u =>
    have hweb : u.isWeb = true ↔ u.scheme = "http" ∨ u.scheme = "https" := by
      rw [Url.isWeb, Bool.or_eq_true, beq_iff_eq, beq_iff_eq]
    simp only [Except.ok.injEq, exists_eq_left', ← hweb]
    cases u.isWeb <;> simp

/-- **Addresses** are free of objections if there is one at least and all are of the web, whatever the
reader of addresses makes of a text. -/
theorem urlsObjection?_eq_none_iff {urls : List String} :
    urlsObjection? parse urls = none ↔ urls ≠ [] ∧ ∀ s ∈ urls, IsWebAddress parse s := by
  unfold urlsObjection?
  split
  · next h => simp [List.isEmpty_iff.mp h]
  · next h =>
    rw [and_iff_right fun hnil => h (List.isEmpty_iff.mpr hnil), List.findSome?_eq_none_iff]
    simp only [Option.map_eq_none_iff, urlObjection?_eq_none_iff]

end Addresses

theorem isPlain_iff {c : Char} :
    IsPlain c ↔ (Text.isBlank c || datasetForbidden.contains c) = false := by
  rw [Bool.or_eq_false_iff, ← Bool.not_eq_true (datasetForbidden.contains c), List.contains_iff_mem]
  rfl

theorem any_bad_iff {s : String} :
    (s.toList.any fun c => Text.isBlank c || datasetForbidden.contains c) = true ↔
      ∃ c ∈ s.toList, ¬IsPlain c := by
  simp only [List.any_eq_true, isPlain_iff, Bool.not_eq_false]

theorem not_bad_iff {s : String} :
    ¬(∃ c ∈ s.toList, ¬IsPlain c) ↔ ∀ c ∈ s.toList, IsPlain c := by
  simp only [not_exists, not_and, Classical.not_not]

/-- **The objection to a name** is the first rule that it breaks. -/
theorem datasetObjection?_eq_some_iff {s : String} {r : Reason} :
    datasetObjection? s = some r ↔ FirstBroken s r := by
  constructor
  · intro h
    unfold datasetObjection? at h
    split at h
    · cases h
    · split at h
      · next hlong =>
        cases h
        exact .length hlong
      · next hshort =>
        have hshort := Nat.le_of_not_lt hshort
        split at h
        · next hbad =>
          cases h
          exact .character hshort (any_bad_iff.mp hbad)
        · next hplain =>
          split at h
          · next hcapital =>
            cases h
            exact .capital hshort (not_bad_iff.mp fun hbad => hplain (any_bad_iff.mpr hbad))
              (List.any_eq_true.mp hcapital)
          · cases h
  · intro h
    -- a name that breaks a rule is not empty, for there is something in it
    have hne : ¬s.isEmpty = true := by
      intro hempty
      rw [String.isEmpty_iff.mp hempty] at h
      cases h with
      | length hlong => exact absurd hlong (by decide)
      | character _ hbad => obtain ⟨c, hc, -⟩ := hbad; cases hc
      | capital _ _ hbad => obtain ⟨c, hc, -⟩ := hbad; cases hc
    rw [datasetObjection?, if_neg hne]
    cases h with
    | length hlong => exact if_pos hlong
    | character hshort hbad =>
      have hcount : ¬Reason.maxDatasetLength < s.length := Nat.not_lt.mpr hshort
      rw [if_neg hcount, if_pos (any_bad_iff.mpr hbad)]
    | capital hshort hplain hbad =>
      have hcount : ¬Reason.maxDatasetLength < s.length := Nat.not_lt.mpr hshort
      have hnot : ¬(s.toList.any fun c => Text.isBlank c || datasetForbidden.contains c) = true :=
        fun hany => not_bad_iff.mpr hplain (any_bad_iff.mp hany)
      rw [if_neg hcount, if_neg hnot, if_pos (List.any_eq_true.mpr hbad)]

/-- **The name of a dataset** is free of objections if it is empty, or short and plain. -/
theorem datasetObjection?_eq_none_iff {s : String} :
    datasetObjection? s = none ↔ s = "" ∨ IsDatasetName s := by
  have hunbroken : datasetObjection? s = none ↔ ∀ r, ¬FirstBroken s r := by
    simp only [← datasetObjection?_eq_some_iff, Option.eq_none_iff_forall_ne_some, ne_eq]
  rw [hunbroken]
  constructor
  · intro h
    have hshort : s.length ≤ 100 := Nat.le_of_not_lt fun hlong => h _ (.length hlong)
    have hplain := not_bad_iff.mp fun hbad => h _ (.character hshort hbad)
    refine Or.inr ⟨hshort, hplain, fun c hc => Bool.eq_false_iff.mpr fun hcapital => ?_⟩
    exact h _ (.capital hshort hplain ⟨c, hc, hcapital⟩)
  · intro h r hbroken
    -- the empty name keeps all rules, as it has no characters
    have hname : IsDatasetName s := by
      rcases h with rfl | hname
      · refine ⟨Nat.zero_le _, fun c hc => ?_, fun c hc => ?_⟩ <;> exact absurd hc List.not_mem_nil
      · exact hname
    cases hbroken with
    | length hlong => exact Nat.not_le_of_lt hlong hname.length_le
    | character _ hbad => exact not_bad_iff.mpr hname.plain hbad
    | capital _ _ hbad =>
      obtain ⟨c, hc, hcapital⟩ := hbad
      cases (hname.small c hc).symm.trans hcapital

theorem keytabObjection?_eq_none_iff {isFile : String → Bool} {s : String} :
    keytabObjection? isFile s = none ↔ IsKeytab isFile s := by
  unfold keytabObjection?
  cases hend : Text.endsWith ".keytab" s with
  | false =>
    simpa using fun h : IsKeytab isFile s => hend.symm.trans ((Text.endsWith_iff _ _).mpr h.endsWith)
  | true =>
    cases hfile : isFile s with
    | false => simpa using fun h : IsKeytab isFile s => hfile.symm.trans h.isFile
    | true => simpa using IsKeytab.mk ((Text.endsWith_iff _ _).mp hend) hfile

/-! ## Constraints -/

/-- **A value breaks no constraint** exactly if the constraint holds of it. -/
theorem Constraint.objection?_eq_none_iff {isFile : String → Bool} {c : Constraint} {v : Value} :
    c.objection? isFile v = none ↔ c.Holds isFile v := by
  cases c with
  | free => exact iff_of_true rfl trivial
  | range min max =>
    simp only [objection?, Holds, Option.bind_eq_none_iff, Int64.lt_iff_toInt_lt]
    refine forall_congr' fun n => imp_congr_right fun _ => ?_
    split
    · simp only [reduceCtorEq, false_iff]; omega
    · split
      · simp only [reduceCtorEq, false_iff]; omega
      · simp only [true_iff]; omega
  | atLeast min =>
    simp only [objection?, Holds, Option.bind_eq_none_iff, Int64.lt_iff_toInt_lt]
    refine forall_congr' fun n => imp_congr_right fun _ => ?_
    split
    · simp only [reduceCtorEq, false_iff]; omega
    · simp only [true_iff]; omega
  | urls =>
    simp only [objection?, Holds, urlsObjection?_eq_none_iff]
    cases v.list? with
    | none => simp
    | some urls => simp
  | dataset =>
    simp only [objection?, Holds, Option.bind_eq_none_iff, Option.map_eq_none_iff,
      datasetObjection?_eq_none_iff]
  | keytab =>
    simp only [objection?, Holds, Option.bind_eq_none_iff, Option.map_eq_none_iff,
      keytabObjection?_eq_none_iff]

/-- **Without a constraint** a text means what its kind reads, and is quoted as it was given if its kind
cannot read it. -/
theorem Definition.read_of_free {isFile : String → Bool} {d : Definition} (hc : d.constraint = .free)
    (t : String) : d.read isFile t = (d.kind.read t).mapError (SyntaxFault.invalid d.name t) := by
  rw [Definition.read, hc]
  cases d.kind.read t <;> rfl

end SinkCheck
