import SinkCheck.Http.Body
import SinkCheck.Proofs.Json.Records
/-
  The record that tells a version.

  What a service tells of itself is a record with a version record in it, and either may be written as an
  object or as an array.  As an object it may hold other members too, and leave out all fields but the
  version and the number in it; as an array it holds its two fields in their order and nothing else.  The
  name of the cluster and the distribution may be null instead of a text, the number may not.

  Main statement: `exists_serverInfo?_iff`, a version is found exactly in the records that tell it.
-/

namespace SinkCheck.Http

open Json (Written Members Absent Once IsRecord Tells)

/-- Is there no value under the key, or one that is null or a text? -/
def HasOptionalText (key : String) (members : Members) : Prop :=
  Absent key members ∨ ∃ w, Once key members w ∧ w.IsOptionalText

/-- Is the value a version record with this number? -/
inductive IsVersionRecord (number : String) : Written → Prop where
  | object {members : Members} (hrecord : IsRecord ["number", "distribution"] members)
    (hnumber : ∃ w, Once "number" members w ∧ w.IsText number)
    (hdistribution : HasOptionalText "distribution" members) :
    IsVersionRecord number (.object members)
  | array {w distribution : Written} (hnumber : w.IsText number)
    (hdistribution : distribution.IsOptionalText) : IsVersionRecord number (.array [w, distribution])

/-- Is the value a record that tells this version? -/
inductive TellsVersion (version : String) : Written → Prop where
  | object {members : Members} (hrecord : IsRecord ["cluster_name", "version"] members)
    (hversion : ∃ w, Once "version" members w ∧ IsVersionRecord version w)
    (hclusterName : HasOptionalText "cluster_name" members) : TellsVersion version (.object members)
  | array {clusterName w : Written} (hclusterName : clusterName.IsOptionalText)
    (hversion : IsVersionRecord version w) : TellsVersion version (.array [clusterName, w])

variable {key v : String} {members : Members} {found : List (String × Written)} {w : Written}

theorem exists_missingOrString?_iff (h : Tells key members found) :
    (∃ o, Json.missingOrString? (Json.field? key found) = some o) ↔ HasOptionalText key members := by
  unfold HasOptionalText
  cases hfield : Json.field? key found with
  | none =>
    have habsent := h.absent_iff.mp hfield
    exact iff_of_true ⟨none, rfl⟩ (Or.inl habsent)
  | some w =>
    have honce := (h.once_iff w).mp hfield
    rw [Json.missingOrString?, Written.exists_optionalString?_iff]
    constructor
    · exact fun hw => Or.inr ⟨w, honce, hw⟩
    · rintro (habsent | ⟨u, hu, htext⟩)
      · exact absurd habsent honce.not_absent
      · cases hfield.symm.trans ((h.once_iff u).mpr hu)
        exact htext

/-- **A version record** is read exactly if it is one. -/
theorem exists_versionInfo?_iff :
    (∃ distribution, versionInfo? w = some (v, distribution)) ↔ IsVersionRecord v w := by
  constructor
  · rintro ⟨distribution, h⟩
    unfold versionInfo? at h
    split at h
    · next members =>
      simp only [Option.bind_eq_bind, Option.bind_eq_some_iff] at h
      obtain ⟨found, hfound, w, hw, number, hnumber, o, ho, h⟩ := h
      cases h
      have hrecord := Json.exists_fields?_iff.mp ⟨found, hfound⟩
      refine .object hrecord ⟨w, ?_, Written.string?_eq_some_iff.mp hnumber⟩ ?_
      · exact ((Json.field?_iff hfound (by decide)).once_iff w).mp hw
      · exact (exists_missingOrString?_iff (Json.field?_iff hfound (by decide))).mp ⟨_, ho⟩
    · simp only [Option.bind_eq_bind, Option.bind_eq_some_iff] at h
      obtain ⟨number, hnumber, o, ho, h⟩ := h
      cases h
      exact .array (Written.string?_eq_some_iff.mp hnumber)
        (Written.exists_optionalString?_iff.mp ⟨_, ho⟩)
    · cases h
  · intro h
    cases h with
    | object hrecord hnumber hdistribution =>
      obtain ⟨found, hfound⟩ := Json.exists_fields?_iff.mpr hrecord
      obtain ⟨w, honce, htext⟩ := hnumber
      have hw := ((Json.field?_iff hfound (by decide)).once_iff w).mpr honce
      obtain ⟨o, ho⟩ :=
        (exists_missingOrString?_iff (Json.field?_iff hfound (by decide))).mpr hdistribution
      have hread := Written.string?_eq_some_iff.mpr htext
      exact ⟨o, by simp [versionInfo?, hfound, hw, hread, ho]⟩
    | array hnumber hdistribution =>
      have hread := Written.string?_eq_some_iff.mpr hnumber
      obtain ⟨o, ho⟩ := Written.exists_optionalString?_iff.mpr hdistribution
      exact ⟨o, by simp [versionInfo?, hread, ho]⟩

/-- **A version is found** exactly in the records that tell it. -/
theorem exists_serverInfo?_iff :
    (∃ told, serverInfo? w = some told ∧ told.version = v) ↔ TellsVersion v w := by
  constructor
  · rintro ⟨told, h, rfl⟩
    unfold serverInfo? at h
    split at h
    · next members =>
      simp only [Option.bind_eq_bind, Option.bind_eq_some_iff] at h
      obtain ⟨found, hfound, o, ho, w, hw, ⟨version, distribution⟩, hversion, h⟩ := h
      cases h
      have hrecord := Json.exists_fields?_iff.mp ⟨found, hfound⟩
      refine .object hrecord ⟨w, ?_, exists_versionInfo?_iff.mp ⟨_, hversion⟩⟩ ?_
      · exact ((Json.field?_iff hfound (by decide)).once_iff w).mp hw
      · exact (exists_missingOrString?_iff (Json.field?_iff hfound (by decide))).mp ⟨_, ho⟩
    · simp only [Option.bind_eq_bind, Option.bind_eq_some_iff] at h
      obtain ⟨o, ho, ⟨version, distribution⟩, hversion, h⟩ := h
      cases h
      exact .array (Written.exists_optionalString?_iff.mp ⟨_, ho⟩)
        (exists_versionInfo?_iff.mp ⟨_, hversion⟩)
    · cases h
  · intro h
    cases h with
    | object hrecord hversion hclusterName =>
      obtain ⟨found, hfound⟩ := Json.exists_fields?_iff.mpr hrecord
      obtain ⟨w, honce, hversion⟩ := hversion
      have hw := ((Json.field?_iff hfound (by decide)).once_iff w).mpr honce
      obtain ⟨o, ho⟩ :=
        (exists_missingOrString?_iff (Json.field?_iff hfound (by decide))).mpr hclusterName
      obtain ⟨distribution, hread⟩ := exists_versionInfo?_iff.mpr hversion
      exact ⟨⟨v, o, distribution⟩, by simp [serverInfo?, hfound, hw, hread, ho], rfl⟩
    | array hclusterName hversion =>
      obtain ⟨o, ho⟩ := Written.exists_optionalString?_iff.mpr hclusterName
      obtain ⟨distribution, hread⟩ := exists_versionInfo?_iff.mpr hversion
      exact ⟨⟨v, o, distribution⟩, by simp [serverInfo?, hread, ho], rfl⟩

end SinkCheck.Http
