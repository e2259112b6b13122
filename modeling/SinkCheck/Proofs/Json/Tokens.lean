import SinkCheck.Json.Written
/-
  How numbers and strings are written in JSON.

  Numbers and strings are given here by what they are made of, part after part, with nothing said of how
  they are read.  The readers take such a row of characters off the front of a longer one.  A string ends
  with its quote, whatever follows.  A number has no such end; it is read as a whole only where nothing
  follows that could go on with it (`Ends`).

  Main statements: what a reader takes is written that way (`written_of_number?`, `written_of_parts?`), and
  whatever is written that way is taken (`number?_of_written`, `parts?_of_written`).
-/

namespace SinkCheck.Json

open SinkCheck.Text (isDigit)

/-! ## Numbers -/

/-- Is the row one or more digits? -/
def IsDigits (s : List Char) : Prop := s ≠ [] ∧ ∀ c ∈ s, isDigit c = true

/-- The digits before the point: a zero, or a row of digits that begins with another one. -/
inductive IsWhole : List Char → Prop where
  | zero : IsWhole ['0']
  | row {c : Char} {ds : List Char} (hzero : c ≠ '0') (h : IsDigits (c :: ds)) : IsWhole (c :: ds)

/-- How a fraction is written, if there is one. -/
inductive FractionWritten : Option (List Char) → List Char → Prop where
  | none : FractionWritten none []
  | some {ds : List Char} (h : IsDigits ds) : FractionWritten (some ds) ('.' :: ds)

/-- How the sign of an exponent is written: only a minus sign is needed. -/
def SignWritten (negative : Bool) (s : List Char) : Prop :=
  negative = false ∧ (s = [] ∨ s = ['+']) ∨ negative = true ∧ s = ['-']

/-- How an exponent is written, if there is one. -/
inductive ExponentWritten : Option (Bool × List Char) → List Char → Prop where
  | none : ExponentWritten none []
  | some {mark : Char} {negative : Bool} {sign ds : List Char} (hmark : mark = 'e' ∨ mark = 'E')
    (hsign : SignWritten negative sign) (h : IsDigits ds) :
    ExponentWritten (some (negative, ds)) (mark :: (sign ++ ds))

/-- How a number is written. -/
structure NumberWritten (n : Spelling) (s : List Char) : Prop where
  whole : IsWhole n.whole
  parts : ∃ fraction exponent, FractionWritten n.fraction fraction ∧
    ExponentWritten n.exponent exponent ∧
    s = (if n.negative then ['-'] else []) ++ (n.whole ++ (fraction ++ exponent))

/-- Can no number go on with this row?  No digit, point or mark of an exponent comes first. -/
def Ends (s : List Char) : Prop :=
  ∀ c ∈ s.head?, isDigit c = false ∧ c ≠ '.' ∧ c ≠ 'e' ∧ c ≠ 'E'

namespace Written

variable {s t r : List Char}

/-- The reader takes `a` off the front of `s` and leaves `r`. -/
def Takes {α : Type} {P : List Char → List Char → Prop}
    (read : (s : List Char) → Option (α × { r : List Char // P s r })) (s : List Char) (a : α)
    (r : List Char) : Prop := ∃ h, read s = some (a, ⟨r, h⟩)

theorem digits_spec (s : List Char) :
    s = (digits s).1 ++ (digits s).2.1 ∧ (∀ c ∈ (digits s).1, isDigit c = true) ∧
      ∀ c ∈ (digits s).2.1.head?, isDigit c = false := by
  induction s with
  | nil => exact ⟨rfl, by simp [digits], by simp [digits]⟩
  | cons c s ih =>
    obtain ⟨hs, hdigits, hends⟩ := ih
    by_cases hc : isDigit c = true
    · simp only [digits, hc, if_true, List.cons_append]
      exact ⟨congrArg (c :: ·) hs, List.forall_mem_cons.mpr ⟨hc, hdigits⟩, hends⟩
    · simp [digits, hc]

/-- **A row of digits** is taken as a whole if no digit follows. -/
theorem digits_append {ds : List Char} (hds : ∀ c ∈ ds, isDigit c = true)
    (hr : ∀ c ∈ r.head?, isDigit c = false) : ∃ h, digits (ds ++ r) = (ds, ⟨r, h⟩) := by
  induction ds with
  | nil =>
    refine ⟨Nat.le_refl _, ?_⟩
    cases r with
    | nil => rfl
    | cons c r => simp [digits, hr c rfl]
  | cons c ds ih =>
    obtain ⟨hc, hds⟩ := List.forall_mem_cons.mp hds
    obtain ⟨h, htaken⟩ := ih hds
    refine ⟨Nat.le_succ_of_le h, ?_⟩
    simp only [List.cons_append, digits, hc, if_true, htaken]

theorem written_of_fraction? {f : Option (List Char)} {r : Left s} (h : fraction? s = some (f, r)) :
    ∃ t, FractionWritten f t ∧ s = t ++ r.1 := by
  unfold fraction? at h
  split at h
  · next t =>
    obtain ⟨ht, hdigits, -⟩ := digits_spec t
    split at h
    · cases h
    · next ds rest hne heq =>
      cases h
      rw [heq] at ht hdigits
      exact ⟨_, .some ⟨hne, hdigits⟩, congrArg ('.' :: ·) ht⟩
  · cases h
    exact ⟨[], .none, rfl⟩

theorem fraction?_of_written {f : Option (List Char)} (h : FractionWritten f t)
    (hr : ∀ c ∈ r.head?, isDigit c = false ∧ c ≠ '.') :
    Takes fraction? (t ++ r) f r := by
  cases h with
  | none =>
    refine ⟨Nat.le_refl _, ?_⟩
    cases r with
    | nil => rfl
    | cons c r =>
      have hc := (hr c rfl).2
      simp [fraction?, hc]
  | @some ds hds =>
    obtain ⟨h, htaken⟩ := digits_append hds.2 fun c hc => (hr c hc).1
    cases ds with
    | nil => exact absurd rfl hds.1
    | cons d ds =>
      refine ⟨Nat.le_succ_of_le h, ?_⟩
      show fraction? ('.' :: (d :: ds ++ r)) = _
      simp only [fraction?, htaken]

theorem written_of_exponentDigits? {negative : Bool} {e : Option (Bool × List Char)} {r : Left s}
    (h : exponentDigits? negative s = some (e, r)) :
    ∃ ds, IsDigits ds ∧ e = some (negative, ds) ∧ s = ds ++ r.1 := by
  unfold exponentDigits? at h
  obtain ⟨hs, hdigits, -⟩ := digits_spec s
  split at h
  · cases h
  · next ds rest hne heq =>
    cases h
    rw [heq] at hs hdigits
    exact ⟨ds, ⟨hne, hdigits⟩, rfl, hs⟩

theorem exponentDigits?_of_written {ds : List Char} (hds : IsDigits ds)
    (hr : ∀ c ∈ r.head?, isDigit c = false) (negative : Bool) :
    Takes (exponentDigits? negative) (ds ++ r) (some (negative, ds)) r := by
  obtain ⟨h, htaken⟩ := digits_append hds.2 hr
  cases ds with
  | nil => exact absurd rfl hds.1
  | cons d ds => exact ⟨h, by simp only [exponentDigits?, htaken]⟩

theorem written_of_exponent? {e : Option (Bool × List Char)} {r : Left s}
    (h : exponent? s = some (e, r)) : ∃ t, ExponentWritten e t ∧ s = t ++ r.1 := by
  unfold exponent? at h
  split at h
  · cases h
    exact ⟨[], .none, rfl⟩
  · next c t =>
    split at h
    · next hmark =>
      have hsigned : ∀ {negative : Bool} {sign u : List Char} {e : Option (Bool × List Char)}
          {r : Left u}, exponentDigits? negative u = some (e, r) → SignWritten negative sign →
          t = sign ++ u → ∃ t', ExponentWritten e t' ∧ c :: t = t' ++ r.1 := by
        intro negative sign u e r hread hsign ht
        obtain ⟨ds, hds, rfl, hu⟩ := written_of_exponentDigits? hread
        exact ⟨c :: (sign ++ ds), .some hmark hsign hds, by simp [ht, hu]⟩
      split at h
      · obtain ⟨⟨e', r'⟩, hread, heq⟩ := Option.map_eq_some_iff.mp h
        cases heq
        obtain ⟨t', ht, hrow⟩ := hsigned hread (Or.inl ⟨rfl, Or.inr rfl⟩) rfl
        exact ⟨t', ht, hrow⟩
      · obtain ⟨⟨e', r'⟩, hread, heq⟩ := Option.map_eq_some_iff.mp h
        cases heq
        obtain ⟨t', ht, hrow⟩ := hsigned hread (Or.inr ⟨rfl, rfl⟩) rfl
        exact ⟨t', ht, hrow⟩
      · obtain ⟨⟨e', r'⟩, hread, heq⟩ := Option.map_eq_some_iff.mp h
        cases heq
        obtain ⟨t', ht, hrow⟩ := hsigned hread (Or.inl ⟨rfl, Or.inl rfl⟩) rfl
        exact ⟨t', ht, hrow⟩
    · cases h
      exact ⟨[], .none, rfl⟩

theorem exponent?_of_written {e : Option (Bool × List Char)} (h : ExponentWritten e t) (hr : Ends r) :
    Takes exponent? (t ++ r) e r := by
  cases h with
  | none =>
    refine ⟨Nat.le_refl _, ?_⟩
    cases r with
    | nil => rfl
    | cons c r =>
      obtain ⟨-, -, he, hE⟩ := hr c rfl
      simp [exponent?, he, hE]
  | @some mark negative sign ds hmark hsign hds =>
    obtain ⟨h, hread⟩ := exponentDigits?_of_written hds (fun c hc => (hr c hc).1) negative
    rcases hsign with ⟨rfl, rfl | rfl⟩ | ⟨rfl, rfl⟩
    · refine ⟨Nat.le_succ_of_le h, ?_⟩
      cases ds with
      | nil => exact absurd rfl hds.1
      | cons d ds =>
        have hd : isDigit d = true := hds.2 d List.mem_cons_self
        have hplus : d ≠ '+' := fun heq => by rw [heq] at hd; cases hd
        have hminus : d ≠ '-' := fun heq => by rw [heq] at hd; cases hd
        show exponent? (mark :: (d :: (ds ++ r))) = _
        simp only [List.cons_append] at hread
        simp [exponent?, hmark, hplus, hminus, hread]
    · refine ⟨by simp at h ⊢; omega, ?_⟩
      show exponent? (mark :: ('+' :: (ds ++ r))) = _
      simp [exponent?, hmark, hread]
    · refine ⟨by simp at h ⊢; omega, ?_⟩
      show exponent? (mark :: ('-' :: (ds ++ r))) = _
      simp [exponent?, hmark, hread]

theorem written_of_unsigned? {negative : Bool} {n : Spelling} {r : Rest s}
    (h : unsigned? negative s = some (n, r)) :
    n.negative = negative ∧ IsWhole n.whole ∧ ∃ fraction exponent, FractionWritten n.fraction fraction ∧
      ExponentWritten n.exponent exponent ∧ s = n.whole ++ (fraction ++ (exponent ++ r.1)) := by
  unfold unsigned? at h
  split at h
  · cases h
  · next c t =>
    split at h
    · next hc =>
      split at h
      next more rest hmore =>
      have hwhole : IsWhole (c :: more) ∧ t = more ++ rest.1 := by
        split at hmore
        · next hzero =>
          cases hmore
          rw [hzero]
          exact ⟨.zero, rfl⟩
        · next hzero =>
          obtain ⟨ht, hdigits, -⟩ := digits_spec t
          rw [hmore] at ht hdigits
          exact ⟨.row hzero ⟨List.cons_ne_nil _ _, List.forall_mem_cons.mpr ⟨hc, hdigits⟩⟩, ht⟩
      simp only at h
      split at h
      · cases h
      · next f r₂ hfraction =>
        split at h
        · cases h
        · next e r₃ hexponent =>
          split at h
          · cases h
          · cases h
            obtain ⟨fs, hfs, hrest⟩ := written_of_fraction? hfraction
            obtain ⟨es, hes, hrest'⟩ := written_of_exponent? hexponent
            have ht : t = more ++ (fs ++ (es ++ r₃.1)) :=
              hwhole.2.trans (congrArg (more ++ ·) (hrest.trans (congrArg (fs ++ ·) hrest')))
            exact ⟨rfl, hwhole.1, fs, es, hfs, hes, congrArg (c :: ·) ht⟩
    · cases h

/-- Behind the digits before the point comes no other digit. -/
theorem head?_exponent {e : Option (Bool × List Char)} (h : ExponentWritten e t) (hr : Ends r) :
    ∀ c ∈ (t ++ r).head?, isDigit c = false ∧ c ≠ '.' := by
  cases h with
  | none => exact fun c hc => ⟨(hr c hc).1, (hr c hc).2.1⟩
  | some hmark =>
    intro c hc
    cases hc
    rcases hmark with rfl | rfl <;> decide

theorem head?_fraction {f : Option (List Char)} (h : FractionWritten f t)
    (hr : ∀ c ∈ r.head?, isDigit c = false) : ∀ c ∈ (t ++ r).head?, isDigit c = false := by
  cases h with
  | none => exact hr
  | some h =>
    intro c hc
    cases hc
    rfl

theorem unsigned?_of_written (negative : Bool) {n : Spelling} {fraction exponent : List Char}
    (hwhole : IsWhole n.whole) (hfraction : FractionWritten n.fraction fraction)
    (hexponent : ExponentWritten n.exponent exponent) (hr : Ends r) :
    Takes (unsigned? negative) (n.whole ++ (fraction ++ (exponent ++ r)))
      { n with negative := negative } r := by
  have hends := head?_exponent hexponent hr
  obtain ⟨h₃, hreadExponent⟩ := exponent?_of_written hexponent hr
  obtain ⟨h₂, hreadFraction⟩ := fraction?_of_written hfraction hends
  have hlast : (r.head?.any isDigit) = false := by
    cases r with
    | nil => rfl
    | cons c r => exact (hr c rfl).1
  obtain ⟨_, whole, _, _⟩ := n
  cases hwhole with
  | zero =>
    refine ⟨by simp at h₂ h₃ ⊢; omega, ?_⟩
    show unsigned? negative ('0' :: (fraction ++ (exponent ++ r))) = _
    simp [unsigned?, hreadFraction, hreadExponent, hlast, show isDigit '0' = true from rfl]
  | @row c ds hzero h =>
    obtain ⟨hc, hds⟩ := List.forall_mem_cons.mp h.2
    obtain ⟨h₁, htaken⟩ := digits_append hds (head?_fraction hfraction fun c hc => (hends c hc).1)
    refine ⟨by simp at h₁ h₂ h₃ ⊢; omega, ?_⟩
    show unsigned? negative (c :: (ds ++ (fraction ++ (exponent ++ r)))) = _
    rw [unsigned?, if_pos hc, if_neg hzero, htaken]
    simp [hreadFraction, hreadExponent, hlast]

/-- **What is read as a number** is written as one. -/
theorem written_of_number? {n : Spelling} {r : Rest s} (h : number? s = some (n, r)) :
    ∃ t, NumberWritten n t ∧ s = t ++ r.1 := by
  unfold number? at h
  split at h
  · next t =>
    obtain ⟨⟨m, r'⟩, hread, heq⟩ := Option.map_eq_some_iff.mp h
    cases heq
    obtain ⟨hnegative, hwhole, fs, es, hfs, hes, ht⟩ := written_of_unsigned? hread
    refine ⟨'-' :: (n.whole ++ (fs ++ es)), ⟨hwhole, fs, es, hfs, hes, by rw [hnegative]; rfl⟩, ?_⟩
    simpa using ht
  · obtain ⟨hnegative, hwhole, fs, es, hfs, hes, ht⟩ := written_of_unsigned? h
    refine ⟨n.whole ++ (fs ++ es), ⟨hwhole, fs, es, hfs, hes, by rw [hnegative]; rfl⟩, ?_⟩
    simpa using ht

/-- A number begins with a digit or a minus sign. -/
theorem exists_head_of_numberWritten {n : Spelling} (h : NumberWritten n t) :
    ∃ c u, t = c :: u ∧ (isDigit c = true ∨ c = '-') := by
  obtain ⟨hwhole, fs, es, -, -, rfl⟩ := h
  cases n.negative with
  | true => exact ⟨'-', _, rfl, Or.inr rfl⟩
  | false =>
    obtain ⟨_, whole, _, _⟩ := n
    cases hwhole with
    | zero => exact ⟨'0', _, rfl, Or.inl rfl⟩
    | row hzero h => exact ⟨_, _, rfl, Or.inl (h.2 _ List.mem_cons_self)⟩

/-- **What is written as a number** is read as this number, if nothing follows that goes on with it. -/
theorem number?_of_written {n : Spelling} (h : NumberWritten n t) (hr : Ends r) :
    Takes number? (t ++ r) n r := by
  obtain ⟨hwhole, fs, es, hfs, hes, rfl⟩ := h
  obtain ⟨h, hread⟩ := unsigned?_of_written n.negative hwhole hfs hes hr
  obtain ⟨negative, whole, fraction, exponent⟩ := n
  cases negative with
  | true =>
    have hrow : ['-'] ++ (whole ++ (fs ++ es)) ++ r = '-' :: (whole ++ (fs ++ (es ++ r))) := by simp
    show Takes number? (['-'] ++ (whole ++ (fs ++ es)) ++ r) _ r
    rw [hrow]
    exact ⟨Nat.lt_succ_of_lt h, by rw [number?, hread]; rfl⟩
  | false =>
    have hrow : [] ++ (whole ++ (fs ++ es)) ++ r = whole ++ (fs ++ (es ++ r)) := by simp
    show Takes number? ([] ++ (whole ++ (fs ++ es)) ++ r) _ r
    rw [hrow]
    refine ⟨h, ?_⟩
    -- no minus sign comes first
    cases hwhole with
    | zero => exact hread
    | @row c ds hzero hds =>
      have hc : isDigit c = true := hds.2 c List.mem_cons_self
      have hminus : c ≠ '-' := fun heq => by rw [heq] at hc; cases hc
      rw [← hread]
      show number? (c :: (ds ++ (fs ++ (es ++ r)))) = unsigned? false (c :: (ds ++ (fs ++ (es ++ r))))
      simp [number?, hminus]

/-! ## Strings -/

end Written

/-- The value of a hexadecimal digit, small or capital. -/
def HexDigit (c : Char) (n : Nat) : Prop :=
  "0123456789abcdef".toList[n]? = some c ∨ "0123456789ABCDEF".toList[n]? = some c

/-- The escapes of one letter, and the characters they stand for. -/
def escapes : List (Char × Char) :=
  [('"', '"'), ('\\', '\\'), ('/', '/'), ('b', '\x08'), ('f', '\x0c'), ('n', '\n'), ('r', '\r'),
    ('t', '\t')]

/-- How the parts of a string are written, its closing quote included.  All characters that are neither
quote nor backslash nor control stand for themselves. -/
inductive PartsWritten : List Part → List Char → Prop where
  | quote : PartsWritten [] ['"']
  | plain {c : Char} {ps : List Part} {s : List Char} (hcontrol : 32 ≤ c.toNat) (hquote : c ≠ '"')
    (hescape : c ≠ '\\') (h : PartsWritten ps s) : PartsWritten (.byte c.toUInt8 :: ps) (c :: s)
  | escape {e c : Char} {ps : List Part} {s : List Char} (hescape : (e, c) ∈ escapes)
    (h : PartsWritten ps s) : PartsWritten (.byte c.toUInt8 :: ps) ('\\' :: e :: s)
  | unit {a b c d : Char} {k l m n : Nat} {ps : List Part} {s : List Char} (ha : HexDigit a k)
    (hb : HexDigit b l) (hc : HexDigit c m) (hd : HexDigit d n) (h : PartsWritten ps s) :
    PartsWritten (.unit (((k * 16 + l) * 16 + m) * 16 + n) :: ps) ('\\' :: 'u' :: a :: b :: c :: d :: s)

namespace Written

theorem hex?_eq_some_iff {c : Char} {n : Nat} : hex? c = some n ↔ HexDigit c n := by
  constructor
  · intro h
    have hbounds : c.toNat < 128 ∧ n < 16 := by
      unfold hex? at h
      split at h
      · next hc =>
        have hhigh : c.toNat ≤ 57 := hc.2
        cases h
        omega
      · split at h
        · next hc =>
          have hhigh : c.toNat ≤ 102 := hc.2
          cases h
          omega
        · split at h
          · next hc =>
            have hhigh : c.toNat ≤ 70 := hc.2
            cases h
            omega
          · cases h
    have hall : ∀ k < 128, ∀ n < 16, hex? (Char.ofNat k) = some n →
        "0123456789abcdef".toList[n]? = some (Char.ofNat k) ∨
          "0123456789ABCDEF".toList[n]? = some (Char.ofNat k) := by
      decide +kernel
    have hchar : Char.ofNat c.toNat = c := Char.ofNat_toNat c
    have hdigit := hall _ hbounds.1 _ hbounds.2 (by rwa [hchar])
    rwa [hchar] at hdigit
  · have hsmall : ∀ n < 16, ("0123456789abcdef".toList[n]?).bind hex? = some n := by decide +kernel
    have hcapital : ∀ n < 16, ("0123456789ABCDEF".toList[n]?).bind hex? = some n := by decide +kernel
    rintro (h | h)
    · have hread := hsmall n (List.getElem?_eq_some_iff.mp h).1
      rwa [h] at hread
    · have hread := hcapital n (List.getElem?_eq_some_iff.mp h).1
      rwa [h] at hread

theorem escape?_eq_some_iff {e c : Char} : escape? e = some c ↔ (e, c) ∈ escapes := by
  constructor
  · intro h
    unfold escape? at h
    split at h <;> cases h <;> decide
  · intro h
    simp only [escapes, List.mem_cons, Prod.mk.injEq, List.not_mem_nil, or_false] at h
    rcases h with ⟨rfl, rfl⟩ | ⟨rfl, rfl⟩ | ⟨rfl, rfl⟩ | ⟨rfl, rfl⟩ | ⟨rfl, rfl⟩ | ⟨rfl, rfl⟩ |
      ⟨rfl, rfl⟩ | ⟨rfl, rfl⟩ <;> rfl

theorem unit?_eq_some_iff {a b c d : Char} {u : Nat} : unit? a b c d = some u ↔
    ∃ k l m n, HexDigit a k ∧ HexDigit b l ∧ HexDigit c m ∧ HexDigit d n ∧
      u = ((k * 16 + l) * 16 + m) * 16 + n := by
  simp only [unit?, Option.bind_eq_bind, Option.bind_eq_some_iff, Option.some.injEq, hex?_eq_some_iff]
  constructor
  · rintro ⟨k, hk, l, hl, m, hm, n, hn, rfl⟩
    exact ⟨k, l, m, n, hk, hl, hm, hn, rfl⟩
  · rintro ⟨k, l, m, n, hk, hl, hm, hn, rfl⟩
    exact ⟨k, hk, l, hl, m, hm, n, hn, rfl⟩

/-- **What is read as the parts of a string** is written that way. -/
theorem written_of_parts? {ps : List Part} {r : Rest s} (h : parts? s = some (ps, r)) :
    ∃ t, PartsWritten ps t ∧ s = t ++ r.1 := by
  fun_induction parts? s generalizing ps with
  | case1 | case3 | case5 | case7 => cases h
  | case2 s =>
    cases h
    exact ⟨['"'], .quote, rfl⟩
  | case4 a b c d s n hunit ih =>
    obtain ⟨⟨qs, r'⟩, hread, heq⟩ := Option.map_eq_some_iff.mp h
    cases heq
    obtain ⟨t, ht, hs⟩ := ih hread
    obtain ⟨k, l, m, n, hk, hl, hm, hn, rfl⟩ := unit?_eq_some_iff.mp hunit
    exact ⟨_, .unit hk hl hm hn ht, congrArg ('\\' :: 'u' :: a :: b :: c :: d :: ·) hs⟩
  | case6 e s _ c hescape ih =>
    obtain ⟨⟨qs, r'⟩, hread, heq⟩ := Option.map_eq_some_iff.mp h
    cases heq
    obtain ⟨t, ht, hs⟩ := ih hread
    exact ⟨_, .escape (escape?_eq_some_iff.mp hescape) ht, congrArg ('\\' :: e :: ·) hs⟩
  | case8 c s hquote _ _ hplain ih =>
    obtain ⟨⟨qs, r'⟩, hread, heq⟩ := Option.map_eq_some_iff.mp h
    cases heq
    obtain ⟨t, ht, hs⟩ := ih hread
    rw [not_or] at hplain
    exact ⟨_, .plain (Nat.le_of_not_lt hplain.1) hquote hplain.2 ht, congrArg (c :: ·) hs⟩

/-- **What is written as the parts of a string** is read as these parts. -/
theorem parts?_of_written {ps : List Part} (h : PartsWritten ps t) : Takes parts? (t ++ r) ps r := by
  induction h with
  | quote =>
    refine ⟨Nat.lt_succ_self _, ?_⟩
    show parts? ('"' :: r) = _
    simp [parts?]
  | @plain c ps s hcontrol hquote hescape _ ih =>
    obtain ⟨h, hread⟩ := ih
    refine ⟨Nat.lt_succ_of_lt h, ?_⟩
    show parts? (c :: (s ++ r)) = _
    simp [parts?, hescape, hread, Nat.not_lt.mpr hcontrol]
  | @escape e c ps s hescape _ ih =>
    obtain ⟨h, hread⟩ := ih
    have hletter : e ≠ 'u' := by
      rintro rfl
      revert hescape
      simp [escapes]
    refine ⟨by simp at h ⊢; omega, ?_⟩
    show parts? ('\\' :: e :: (s ++ r)) = _
    simp [parts?, hletter, escape?_eq_some_iff.mpr hescape, hread]
  | @unit a b c d k l m n ps s ha hb hc hd _ ih =>
    obtain ⟨h, hread⟩ := ih
    have hunit := unit?_eq_some_iff.mpr ⟨k, l, m, n, ha, hb, hc, hd, rfl⟩
    refine ⟨by simp at h ⊢; omega, ?_⟩
    show parts? ('\\' :: 'u' :: a :: b :: c :: d :: (s ++ r)) = _
    simp [parts?, hunit, hread]

end Written

end SinkCheck.Json
