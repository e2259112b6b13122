import SinkCheck.Proofs.Setting.Constraints
import SinkCheck.Proofs.Text.Numerals
/-
  Which texts an integer setting takes.

  What a numeral denotes has no bounds, so a numeral of any length has its number before the type of the
  setting is asked whether the number fits, and the constraint after that.  So a text fails at one of three
  places, and each of them quotes something else: a text that is no numeral of the type is quoted as it was
  given, a number out of bounds as a numeral of its own.

  Main statement: `integer_settings_take_numerals`, what becomes of a text under an integer setting.
-/

namespace SinkCheck

variable {isFile : String → Bool} {d : Definition} {w : Width} {t : String} {n : Int}

/-! ## Integers of a type -/

theorem Width.read?_of_fits (h : Text.Denotes t.toList n) (hfits : w.Fits n) :
    w.read? t = some (Int64.ofInt n) := by
  rw [Width.read?, Text.integer?_eq_some_iff.mpr h]
  exact if_pos hfits

/-- Nothing is read of a text that is a numeral of no integer of the type. -/
theorem Width.read?_of_not_fits (h : ∀ n, Text.Denotes t.toList n → ¬w.Fits n) : w.read? t = none := by
  rw [Width.read?]
  cases hn : Text.integer? t.toList with
  | none => rfl
  | some n => exact if_neg (h n (Text.integer?_eq_some_iff.mp hn))

/-! ## Integer settings -/

theorem Kind.read_of_fits (hk : d.kind = .integer w) (h : Text.Denotes (Text.trim t).toList n)
    (hfits : w.Fits n) : d.kind.read t = .ok (.int (Int64.ofInt n)) := by
  simp only [hk, Kind.read, Width.read?_of_fits h hfits]

/-- **A text that is no numeral of the type** is quoted as it was given. -/
theorem Definition.read_of_not_fits (hk : d.kind = .integer w)
    (h : ∀ n, Text.Denotes (Text.trim t).toList n → ¬w.Fits n) :
    d.read isFile t = .error (.invalid d.name t (.notNumber w)) := by
  refine Definition.read_of_unread ?_
  simp only [hk, Kind.read, Width.read?_of_not_fits h]

/-- A bound is held against the number itself, and the lower one comes first. -/
theorem Constraint.objection?_range (hfits : w.Fits n) (isFile : String → Bool) (min max : Int64) :
    (Constraint.range min max).objection? isFile (.int (Int64.ofInt n)) =
      if n < min.toInt then some (Text.integerText n, .below min)
      else if max.toInt < n then some (Text.integerText n, .above max) else none := by
  simp only [objection?, Value.int?, Option.bind_some, Int64.lt_iff_toInt_lt, Width.toInt_ofInt hfits]

theorem Constraint.objection?_atLeast (hfits : w.Fits n) (isFile : String → Bool) (min : Int64) :
    (Constraint.atLeast min).objection? isFile (.int (Int64.ofInt n)) =
      if n < min.toInt then some (Text.integerText n, .below min) else none := by
  simp only [objection?, Value.int?, Option.bind_some, Int64.lt_iff_toInt_lt, Width.toInt_ofInt hfits]

/-- **The values of an integer setting** are the numbers of its numerals, within its type and with what
its constraint asks. -/
theorem Definition.read_integer_eq_ok_iff (hk : d.kind = .integer w) {v : Value} :
    d.read isFile t = .ok v ↔ ∃ n, Text.Denotes (Text.trim t).toList n ∧ w.Fits n ∧
      v = .int (Int64.ofInt n) ∧ d.constraint.Holds isFile v := by
  rw [Definition.read_eq_ok_iff, Constraint.objection?_eq_none_iff]
  constructor
  · rintro ⟨hread, hholds⟩
    by_cases hex : ∃ n, Text.Denotes (Text.trim t).toList n ∧ w.Fits n
    · obtain ⟨n, hn, hfits⟩ := hex
      rw [Kind.read_of_fits hk hn hfits] at hread
      exact ⟨n, hn, hfits, (Except.ok.inj hread).symm, hholds⟩
    · have hnone : w.read? (Text.trim t) = none :=
        Width.read?_of_not_fits fun n hn hfits => hex ⟨n, hn, hfits⟩
      simp only [hk, Kind.read, hnone] at hread
      cases hread
  · rintro ⟨n, hn, hfits, rfl, hholds⟩
    exact ⟨Kind.read_of_fits hk hn hfits, hholds⟩

/-- **Integer settings take exactly their numerals.**  A text is accepted if, but for blanks at its ends,
it is a numeral of an integer that the type holds and of which the constraint holds, and this integer is
the value.  A text that is no numeral, or one of an integer that the type does not hold, is quoted as it
was given; an integer out of bounds is quoted by a numeral of its own, with the bound that it breaks, the
lower one first. -/
theorem integer_settings_take_numerals (isFile : String → Bool) (hk : d.kind = .integer w)
    (t : String) :
    let numeral := (Text.trim t).toList
    let rejected := fun quoted reason =>
      d.resolve isFile (some t) = .error (.invalid d.name quoted reason)
    (∀ v, d.resolve isFile (some t) = .ok v ↔ ∃ n, Text.Denotes numeral n ∧ w.Fits n ∧
      d.constraint.Holds isFile v ∧ ∃ m, v = .int m ∧ m.toInt = n) ∧
    ((∀ n, ¬Text.Denotes numeral n) → rejected t (.notNumber w)) ∧
    ∀ n, Text.Denotes numeral n →
      (¬w.Fits n → rejected t (.notNumber w)) ∧
      (w.Fits n → ∀ min max, d.constraint = .range min max →
        (n < min.toInt → rejected (Text.integerText n) (.below min)) ∧
        (min.toInt ≤ n → max.toInt < n → rejected (Text.integerText n) (.above max))) ∧
      (w.Fits n → ∀ min, d.constraint = .atLeast min →
        n < min.toInt → rejected (Text.integerText n) (.below min)) := by
  intro numeral rejected
  refine ⟨fun v => ?_, fun hnone => ?_, fun n hn => ⟨fun hfits => ?_, ?_, ?_⟩⟩
  · rw [Definition.resolve_some, Definition.read_integer_eq_ok_iff hk]
    refine exists_congr fun n => and_congr_right fun _ => and_congr_right fun hfits => ?_
    constructor
    · rintro ⟨rfl, hholds⟩
      exact ⟨hholds, _, rfl, Width.toInt_ofInt hfits⟩
    · rintro ⟨hholds, m, rfl, rfl⟩
      exact ⟨by rw [Int64.ofInt_toInt], hholds⟩
  · exact Definition.read_of_not_fits hk fun n hn => absurd hn (hnone n)
  · exact Definition.read_of_not_fits hk fun m hm => hm.eq hn ▸ hfits
  · intro hfits min max hc
    have hread := Kind.read_of_fits hk hn hfits
    have hobjection := Constraint.objection?_range hfits isFile min max
    rw [← hc] at hobjection
    constructor
    · intro hlow
      exact Definition.read_of_objection hread (hobjection.trans (if_pos hlow))
    · intro hlow hhigh
      rw [if_neg (Int.not_lt.mpr hlow), if_pos hhigh] at hobjection
      exact Definition.read_of_objection hread hobjection
  · intro hfits min hc hlow
    have hobjection := Constraint.objection?_atLeast hfits isFile min
    rw [← hc, if_pos hlow] at hobjection
    exact Definition.read_of_objection (Kind.read_of_fits hk hn hfits) hobjection

/-- A port in four spellings: of the last one nothing but the bits beyond the thirty-second are wrong. -/
theorem integer_settings_take_numerals_port :
    let d : Definition := ⟨"port", .integer .int, .required, .range 1 65535, ""⟩
    let resolve := fun t => d.resolve (fun _ => false) (some t)
    d.kind = .integer .int ∧
    resolve "\u00a0+0080\t" = .ok (.int 80) ∧
    resolve " -007" = .error (.invalid "port" "-7" (.below 1)) ∧
    resolve "65536" = .error (.invalid "port" "65536" (.above 65535)) ∧
    resolve " 4294967376" = .error (.invalid "port" " 4294967376" (.notNumber .int)) := by
  intro d resolve
  have takes := fun t => integer_settings_take_numerals (d := d) (fun _ => false) rfl t
  have denotes : ∀ {s : List Char} {n : Int}, Text.integer? s = some n → Text.Denotes s n :=
    Text.integer?_eq_some_iff.mp
  have h80 : Text.Denotes (Text.trim "\u00a0+0080\t").toList 80 := denotes (by decide +kernel)
  have h7 : Text.Denotes (Text.trim " -007").toList (-7) := denotes (by decide +kernel)
  have h65536 : Text.Denotes (Text.trim "65536").toList 65536 := denotes (by decide +kernel)
  have hlong : Text.Denotes (Text.trim " 4294967376").toList 4294967376 := denotes (by decide +kernel)
  refine ⟨rfl, ((takes _).1 _).mpr ⟨80, h80, by decide, ?_, 80, rfl, by decide⟩, ?_, ?_, ?_⟩
  · intro m hm
    cases hm
    decide
  · exact (((takes _).2.2 _ h7).2.1 (by decide) 1 65535 rfl).1 (by decide)
  · exact (((takes _).2.2 _ h65536).2.1 (by decide) 1 65535 rfl).2 (by decide) (by decide)
  · exact ((takes _).2.2 _ hlong).1 (by decide)

end SinkCheck
