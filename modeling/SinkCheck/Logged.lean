/-
  Values with a log.

  A value of `Logged ε α` is a value of `α` together with the entries that were logged on the way to
  it, oldest first.  Computations run one after the other put their logs one behind the other.

  Main statements: `value_bind` and `log_bind` say what running two computations in a row gives,
  `value_mapM` and `log_mapM` what running any number of them gives.
-/

namespace SinkCheck

/-- A value and what was logged on the way to it. -/
structure Logged (ε α : Type) where
  value : α
  log : List ε
  deriving Repr, DecidableEq

namespace Logged

variable {ε α β : Type}

instance : Monad (Logged ε) where
  pure a := ⟨a, []⟩
  bind x f := ⟨(f x.value).value, x.log ++ (f x.value).log⟩

@[simp] theorem value_pure (a : α) : (pure a : Logged ε α).value = a := rfl

@[simp] theorem log_pure (a : α) : (pure a : Logged ε α).log = [] := rfl

@[simp] theorem value_bind (x : Logged ε α) (f : α → Logged ε β) :
    (x >>= f).value = (f x.value).value := rfl

@[simp] theorem log_bind (x : Logged ε α) (f : α → Logged ε β) :
    (x >>= f).log = x.log ++ (f x.value).log := rfl

@[simp] theorem value_map (f : α → β) (x : Logged ε α) : (f <$> x).value = f x.value := rfl

@[simp] theorem log_map (f : α → β) (x : Logged ε α) : (f <$> x).log = x.log :=
  List.append_nil x.log

@[ext] theorem ext {x y : Logged ε α} (hv : x.value = y.value) (hl : x.log = y.log) : x = y := by
  cases x; cases y; simp_all

instance : LawfulMonad (Logged ε) := LawfulMonad.mk' (Logged ε)
  (fun x => by ext <;> simp [Functor.map])
  (fun a f => by ext <;> simp)
  (fun x f g => by ext <;> simp)

theorem pure_inj {a b : α} : (pure a : Logged ε α) = pure b ↔ a = b :=
  ⟨congrArg Logged.value, congrArg pure⟩

/-- Two computations in a row log nothing exactly if neither does. -/
theorem bind_eq_pure_iff {x : Logged ε α} {f : α → Logged ε β} {b : β} :
    x >>= f = pure b ↔ ∃ a, x = pure a ∧ f a = pure b := by
  constructor
  · intro h
    obtain ⟨hx, hf⟩ := List.append_eq_nil_iff.mp (congrArg Logged.log h)
    have hvalue : (f x.value).value = b := congrArg Logged.value h
    exact ⟨x.value, Logged.ext rfl hx, Logged.ext hvalue hf⟩
  · rintro ⟨a, rfl, h⟩
    rw [pure_bind, h]

theorem eq_pure_value {x : Logged ε α} (h : x.log = []) : x = pure x.value := Logged.ext rfl h

/-- Computations in a row give the values of each. -/
theorem value_mapM (f : α → Logged ε β) (xs : List α) :
    (xs.mapM f).value = xs.map fun x => (f x).value := by
  induction xs with
  | nil => rfl
  | cons x xs ih => simp only [List.mapM_cons, value_bind, value_pure, ih, List.map_cons]

/-- Computations in a row log what each of them logs. -/
theorem log_mapM (f : α → Logged ε β) (xs : List α) :
    (xs.mapM f).log = (xs.map fun x => (f x).log).flatten := by
  induction xs with
  | nil => rfl
  | cons x xs ih =>
    simp only [List.mapM_cons, log_bind, log_pure, List.append_nil, ih, List.map_cons,
      List.flatten_cons]

/-- The value, unless something was logged. -/
def result (x : Logged ε α) : Except (List ε) α :=
  if x.log.isEmpty then .ok x.value else .error x.log

theorem result_eq_ok_iff {x : Logged ε α} {a : α} : x.result = .ok a ↔ x.log = [] ∧ x.value = a := by
  simp only [result, List.isEmpty_iff]
  split <;> simp_all

theorem result_eq_error_iff {x : Logged ε α} {l : List ε} :
    x.result = .error l ↔ x.log ≠ [] ∧ x.log = l := by
  simp only [result, List.isEmpty_iff]
  split <;> simp_all

end Logged

end SinkCheck
