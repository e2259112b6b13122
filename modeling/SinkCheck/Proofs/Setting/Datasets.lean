import SinkCheck.Proofs.Setting.Constraints
import SinkCheck.Proofs.Settings.Texts
/-
  Which texts name a dataset.

  A dataset has no name at all, and then nothing is asked, or a name that is short, plain and small: three
  rules that are asked in this order, and the first that is broken is the one that is told.  So what a
  fault says of a name includes that the rules before it are kept.  Characters are counted as they are,
  whatever number of bytes each takes, and only after the blanks at the ends are gone.

  A name is one half of a data stream; the other is a type, which is set unless it says `NONE`.

  Main statements: `Definition.read_dataset_eq_ok_iff` and `read_dataset_eq_error_iff`, a text under the
  constraint on datasets; `Settings.isDataStream_eq_true_iff`; and `dataset_names`, all of it together.
-/

namespace SinkCheck

/-! ## One name -/

section Texts

variable {isFile : String → Bool} {d : Definition} {t : String}

theorem Constraint.objection?_dataset (isFile : String → Bool) (s : String) :
    Constraint.dataset.objection? isFile (.string s) = (datasetObjection? s).map fun r => (s, r) :=
  rfl

theorem Kind.read_string (hk : d.kind = .string) (t : String) :
    d.kind.read t = .ok (.string (Text.trim t)) := by
  rw [hk, Kind.read]

/-- A text names a dataset by what is left of it without the blanks at its ends. -/
theorem Definition.read_dataset_eq_ok_iff (hk : d.kind = .string) (hc : d.constraint = .dataset)
    {v : Value} : d.read isFile t = .ok v ↔
      (Text.trim t = "" ∨ IsDatasetName (Text.trim t)) ∧ v = .string (Text.trim t) := by
  have hholds : d.constraint.objection? isFile (.string (Text.trim t)) = none ↔
      Text.trim t = "" ∨ IsDatasetName (Text.trim t) := by
    rw [hc, Constraint.objection?_dataset, Option.map_eq_none_iff, datasetObjection?_eq_none_iff]
  rw [Definition.read_eq_ok_iff, Kind.read_string hk, Except.ok.injEq]
  constructor
  · rintro ⟨rfl, hobjection⟩
    exact ⟨hholds.mp hobjection, rfl⟩
  · rintro ⟨hname, rfl⟩
    exact ⟨rfl, hholds.mpr hname⟩

/-- The fault of a name quotes it without those blanks. -/
theorem Definition.read_dataset_eq_error_iff (hk : d.kind = .string) (hc : d.constraint = .dataset)
    {f : SyntaxFault} : d.read isFile t = .error f ↔
      ∃ r, FirstBroken (Text.trim t) r ∧ f = .invalid d.name (Text.trim t) r := by
  have hread := Kind.read_string hk t
  have hobjection := Constraint.objection?_dataset isFile (Text.trim t)
  rw [← hc] at hobjection
  cases hname : datasetObjection? (Text.trim t) with
  | none =>
    rw [hname, Option.map_none] at hobjection
    have hok := Definition.read_eq_ok_iff.mpr ⟨hread, hobjection⟩
    constructor
    · intro h
      cases hok.symm.trans h
    · rintro ⟨r, hbroken, -⟩
      cases hname.symm.trans (datasetObjection?_eq_some_iff.mpr hbroken)
  | some reason =>
    rw [hname, Option.map_some] at hobjection
    have herror := Definition.read_of_objection hread hobjection
    constructor
    · intro h
      exact ⟨reason, datasetObjection?_eq_some_iff.mp hname, Except.error.inj (h.symm.trans herror)⟩
    · rintro ⟨r, hbroken, rfl⟩
      cases hname.symm.trans (datasetObjection?_eq_some_iff.mpr hbroken)
      exact herror

end Texts

/-! ## Data streams -/

theorem DataStreamType.word_eq_none_iff {a : DataStreamType} :
    Keyword.word a = "NONE" ↔ a = .none := by
  cases a <;> decide +kernel

/-- A configuration writes to a data stream if its type is one and its dataset has a name. -/
theorem Settings.isDataStream_eq_true_iff {s : Settings} :
    s.isDataStream = true ↔ Keyword.word s.dataStreamType ≠ "NONE" ∧ s.dataset ≠ "" := by
  rw [isDataStream, Bool.and_eq_true, bne_iff_ne, Bool.not_eq_true', ← Bool.not_eq_true,
    String.isEmpty_iff, ne_eq, ne_eq, DataStreamType.word_eq_none_iff]

/-- The two settings behind a data stream are held as they were resolved. -/
theorem Properties.resolve_dataStream {isFile : String → Bool} {ps : Properties}
    (hf : ps.faults isFile = []) :
    Key.dataStreamType.resolve isFile ps = .ok (.string (Keyword.word ps.settings.dataStreamType)) ∧
    Key.dataStreamDataset.resolve isFile ps = .ok (.string ps.settings.dataset) := by
  obtain ⟨v, hv⟩ := Key.resolve_of_faults_eq_nil hf .dataStreamType
  obtain ⟨w, hw⟩ := Key.resolve_of_faults_eq_nil hf .dataStreamDataset
  constructor
  · obtain ⟨a, ha, rfl⟩ :=
      Key.keyword_of_resolve (α := DataStreamType) hv (by decide) Key.kind_dataStreamType
    have hkept : ps.settings.dataStreamType = ps.keyword .dataStreamType .none := by rw [settings]
    rw [hkept, keyword, ha, Option.getD_some, hv]
  · have hkept : ps.settings.dataset = ps.trimmed .dataStreamDataset := by rw [settings]
    rw [hkept, hw, Key.text_of_resolve hw (by decide) rfl]

/-! ## Both together -/

/-- **The names of datasets.**  A text is taken if nothing but blanks is in it, or if what stands between
the blanks at its ends is short, plain and small; this is then the value.  Every other text is refused,
with this part of it quoted and the first rule that it breaks.  A configuration writes to a data stream
exactly if its type is not `NONE` and its dataset has a name. -/
theorem dataset_names (isFile : String → Bool) :
    (∀ t v, Key.dataStreamDataset.definition.resolve isFile (some t) = .ok v ↔
      (Text.trim t = "" ∨ IsDatasetName (Text.trim t)) ∧ v = .string (Text.trim t)) ∧
    (∀ t f, Key.dataStreamDataset.definition.resolve isFile (some t) = .error f ↔
      ∃ r, FirstBroken (Text.trim t) r ∧ f = .invalid "data.stream.dataset" (Text.trim t) r) ∧
    ∀ ps s, Settings.parse isFile ps = .ok s → ∃ word name,
      Key.dataStreamType.resolve isFile ps = .ok (.string word) ∧
      Key.dataStreamDataset.resolve isFile ps = .ok (.string name) ∧
      (s.isDataStream = true ↔ word ≠ "NONE" ∧ name ≠ "") := by
  refine ⟨fun t v => ?_, fun t f => ?_, fun ps s h => ?_⟩
  · rw [Definition.resolve_some]
    exact Definition.read_dataset_eq_ok_iff rfl rfl
  · rw [Definition.resolve_some]
    exact Definition.read_dataset_eq_error_iff rfl rfl
  · obtain ⟨hf, rfl⟩ := Settings.parse_eq_ok_iff.mp h
    obtain ⟨htype, hdataset⟩ := Properties.resolve_dataStream hf
    exact ⟨_, _, htype, hdataset, Settings.isDataStream_eq_true_iff⟩

/-- Names that break more than one rule, each of the signs that no name may hold, and a data stream with
a name that breaks no rule. -/
theorem dataset_names_overlapping :
    let isFile := fun _ : String => false
    let resolve := fun t => Key.dataStreamDataset.definition.resolve isFile (some t)
    let long := String.ofList ('A' :: List.replicate 100 '-')
    let ps := Properties.ofList
      [("connection.url", "http://[::1]:9200"), ("data.stream.type", " Traces"),
       ("data.stream.dataset", "\u3000é.1 ")]
    resolve "A-b" = .error (.invalid "data.stream.dataset" "A-b" .datasetCharacter) ∧
    resolve "\tⅧ" = .error (.invalid "data.stream.dataset" "Ⅷ" .datasetCase) ∧
    resolve long = .error (.invalid "data.stream.dataset" long .datasetLength) ∧
    (∀ c ∈ "\\/*?\"<>|,#-:".toList, resolve (String.ofList ['a', c]) =
      .error (.invalid "data.stream.dataset" (String.ofList ['a', c]) .datasetCharacter)) ∧
    resolve "\u3000é.1 " = .ok (.string "é.1") ∧
    Settings.parse isFile ps = .ok ps.settings ∧ ps.settings.isDataStream = true := by
  intro isFile resolve long ps
  obtain ⟨haccepted, hrefused, hstream⟩ := dataset_names isFile
  have broken : ∀ {s : String} {r : Reason}, datasetObjection? s = some r → FirstBroken s r :=
    datasetObjection?_eq_some_iff.mp
  have htrim : "é.1" = Text.trim "\u3000é.1 " := by decide +kernel
  have hname : Text.trim "\u3000é.1 " = "" ∨ IsDatasetName (Text.trim "\u3000é.1 ") :=
    datasetObjection?_eq_none_iff.mp (by decide +kernel)
  have hlong : Text.trim long = long := by decide +kernel
  have hall : ("\\/*?\"<>|,#-:".toList.all fun c =>
      decide (datasetObjection? (Text.trim (String.ofList ['a', c])) = some .datasetCharacter) &&
      decide (Text.trim (String.ofList ['a', c]) = String.ofList ['a', c])) = true := by decide +kernel
  have hsigns : ∀ c ∈ "\\/*?\"<>|,#-:".toList,
      datasetObjection? (Text.trim (String.ofList ['a', c])) = some .datasetCharacter ∧
      Text.trim (String.ofList ['a', c]) = String.ofList ['a', c] := by
    intro c hc
    have hsign := List.all_eq_true.mp hall c hc
    rwa [Bool.and_eq_true, decide_eq_true_eq, decide_eq_true_eq] at hsign
  have hclean : ps.faults isFile = [] := by decide +kernel
  have hparse := Settings.parse_eq_ok_iff.mpr ⟨hclean, rfl⟩
  refine ⟨(hrefused _ _).mpr ⟨.datasetCharacter, broken (by decide +kernel), by decide +kernel⟩,
    (hrefused _ _).mpr ⟨.datasetCase, broken (by decide +kernel), by decide +kernel⟩,
    (hrefused _ _).mpr ⟨.datasetLength, .length ?_, by rw [hlong]⟩,
    fun c hc => (hrefused _ _).mpr ⟨.datasetCharacter, broken (hsigns c hc).1, by rw [(hsigns c hc).2]⟩,
    (haccepted _ _).mpr ⟨hname, by rw [← htrim]⟩, hparse, ?_⟩
  · rw [hlong]
    decide +kernel
  · obtain ⟨word, name, hword, hdataset, hiff⟩ := hstream ps ps.settings hparse
    have hword' : (Key.dataStreamType.resolve isFile ps).toOption = some (.string "TRACES") := by
      decide +kernel
    have hdataset' : (Key.dataStreamDataset.resolve isFile ps).toOption = some (.string "é.1") := by
      decide +kernel
    rw [hword] at hword'
    rw [hdataset] at hdataset'
    cases hword'
    cases hdataset'
    exact hiff.mpr ⟨by decide, by decide⟩

end SinkCheck
