import SinkCheck.Setting.Definition
/-
  Secrets in faults.

  The text of a secret is kept as it is and never shown as a value.  A fault, though, quotes the text to
  which a constraint objects, and it does so for a secret as for any other text.  Constraints on numbers
  are not concerned with texts and find nothing, and addresses are looked for in a list, so that every
  secret fails alike, with nothing to quote.  What is left are the name of a dataset and the path of a
  keytab: their faults tell the secret.

  Main statements: `resolve_secret`, what becomes of a secret, and `secret_faults`, which faults of two
  secrets are the same.
-/

namespace SinkCheck

/-- Does the constraint object to texts by quoting them? -/
def Constraint.quotesTexts : Constraint → Bool
  | .dataset | .keytab => true
  | .free | .range .. | .atLeast _ | .urls => false

/-- What a constraint on texts has to say against one. -/
def Constraint.textObjection? (isFile : String → Bool) : Constraint → String → Option Reason
  | .dataset, s => datasetObjection? s
  | .keytab, s => keytabObjection? isFile s
  | .free, _ | .range .., _ | .atLeast _, _ | .urls, _ => none

variable {isFile : String → Bool} {d : Definition}

/-- **A constraint objects to a secret** by its text alone, which it then quotes, or to all of them. -/
theorem Constraint.objection?_secret (isFile : String → Bool) (c : Constraint) (s : String) :
    c.objection? isFile (.secret s) =
      if c = .urls then some ("", .noUrl) else (c.textObjection? isFile s).map fun q => (s, q) := by
  cases c <;> rfl

/-- **What becomes of a secret**: it is kept, or one of two faults comes of it. -/
theorem Definition.resolve_secret (isFile : String → Bool) (hk : d.kind = .secret) (s : String) :
    d.resolve isFile (some s) =
      if d.constraint = .urls then .error (.invalid d.name "" .noUrl)
      else match d.constraint.textObjection? isFile s with
        | some q => .error (.invalid d.name s q)
        | none => .ok (.secret s) := by
  have hread : d.kind.read s = .ok (.secret s) := by rw [hk, Kind.read]
  rw [resolve_some, read, hread]
  dsimp only
  rw [Constraint.objection?_secret]
  by_cases hu : d.constraint = .urls
  · rw [if_pos hu, if_pos hu]
  · rw [if_neg hu, if_neg hu]
    cases d.constraint.textObjection? isFile s <;> rfl

/-- The fault of a secret quotes nothing or the secret, as the constraint has it. -/
theorem Definition.resolve_secret_eq_error (hk : d.kind = .secret) {s : String} {f : SyntaxFault}
    (h : d.resolve isFile (some s) = .error f) :
    d.constraint.quotesTexts = false ∧ f = .invalid d.name "" .noUrl ∨
      d.constraint.quotesTexts = true ∧ ∃ q, f = .invalid d.name s q := by
  rw [resolve_secret isFile hk] at h
  split at h
  · next hu =>
    cases h
    exact Or.inl ⟨by rw [hu]; rfl, rfl⟩
  · split at h
    · next q hq =>
      cases h
      refine Or.inr ⟨?_, q, rfl⟩
      -- only a constraint on texts has something to say against one
      revert hq
      cases d.constraint <;> simp [Constraint.textObjection?, Constraint.quotesTexts]
    · cases h

theorem Definition.resolve_secret_eq_ok (hk : d.kind = .secret) {s : String} {v : Value}
    (h : d.resolve isFile (some s) = .ok v) : v = .secret s := by
  rw [resolve_secret isFile hk] at h
  split at h
  · cases h
  · split at h
    · cases h
    · exact (Except.ok.inj h).symm

/-- **The faults of two secrets** under one definition, be they for the same reason or not, are the same
exactly if the secrets are the same or if the constraint does not quote texts.  Of secrets that are kept
the same is shown, whatever the constraint, and that is nothing of them. -/
theorem secret_faults (hk : d.kind = .secret) (s t : String) :
    (∀ f g, d.resolve isFile (some s) = .error f → d.resolve isFile (some t) = .error g →
      (f = g ↔ s = t ∨ d.constraint.quotesTexts = false)) ∧
    ∀ v w, d.resolve isFile (some s) = .ok v → d.resolve isFile (some t) = .ok w →
      v.shown? = some "[hidden]" ∧ w.shown? = v.shown? := by
  refine ⟨fun f g hf hg => ?_, fun v w hv hw => ?_⟩
  · rcases Definition.resolve_secret_eq_error hk hf with ⟨hquotes, rfl⟩ | ⟨hquotes, q, rfl⟩
    · rcases Definition.resolve_secret_eq_error hk hg with ⟨-, rfl⟩ | ⟨hquotes', -⟩
      · exact iff_of_true rfl (Or.inr hquotes)
      · cases hquotes.symm.trans hquotes'
    · rcases Definition.resolve_secret_eq_error hk hg with ⟨hquotes', -⟩ | ⟨-, q', rfl⟩
      · cases hquotes.symm.trans hquotes'
      · constructor
        · intro h
          exact Or.inl (SyntaxFault.invalid.inj h).2.1
        · rintro (rfl | hquotes')
          · exact Except.error.inj (hf.symm.trans hg)
          · cases hquotes.symm.trans hquotes'
  · rw [Definition.resolve_secret_eq_ok hk hv, Definition.resolve_secret_eq_ok hk hw]
    exact ⟨rfl, rfl⟩

/-- Two secrets that are no names of datasets for the same reason have different faults. -/
theorem secret_faults_dataset :
    let d : Definition := ⟨"token", .secret, .null, .dataset, ""⟩
    d.kind = .secret ∧
    d.resolve (fun _ => false) (some "Hunter2") = .error (.invalid "token" "Hunter2" .datasetCase) ∧
    d.resolve (fun _ => false) (some "hunTer2") = .error (.invalid "token" "hunTer2" .datasetCase) ∧
    SyntaxFault.invalid "token" "Hunter2" .datasetCase ≠ .invalid "token" "hunTer2" .datasetCase := by
  intro d
  have hf : d.resolve (fun _ => false) (some "Hunter2") =
      .error (.invalid "token" "Hunter2" .datasetCase) := by rfl
  have hg : d.resolve (fun _ => false) (some "hunTer2") =
      .error (.invalid "token" "hunTer2" .datasetCase) := by rfl
  refine ⟨rfl, hf, hg, fun heq => ?_⟩
  rcases ((secret_faults rfl "Hunter2" "hunTer2").1 _ _ hf hg).mp heq with h | h
  · exact absurd h (by decide)
  · cases h

/-- The constraint on keytabs tells every secret that does not look like a path of one. -/
theorem secret_told :
    let d : Definition := ⟨"token", .secret, .null, .keytab, ""⟩
    d.resolve (fun _ => false) (some "hunter2") = .error (.invalid "token" "hunter2" .keytabName) ∧
    d.resolve (fun _ => false) (some "12345") = .error (.invalid "token" "12345" .keytabName) ∧
    SyntaxFault.invalid "token" "hunter2" .keytabName ≠ .invalid "token" "12345" .keytabName :=
  ⟨rfl, rfl, by decide⟩

end SinkCheck
