import SinkCheck.Proofs.Validation.Stages
/-
  The capacity of the buffer.

  The buffer must hold what all requests in flight hold together, a product of two integers of 32 bits.
  The product may fit 32 bits or not, and where it does not, the rule asks no further and finds the
  buffer too small.  Above the 32 bits this is the exact verdict, for no buffer is as large.  Below them it
  is not: a batch size below zero makes a product that any buffer reaches.  Configurations without faults
  have no such batch size, but the values of an assembly may be any.

  Main statements: `Rule.bufferTooSmall_iff` and `capacity_violations`.
-/

namespace SinkCheck

/-- How many records the requests in flight hold together. -/
def Settings.neededCapacity (s : Settings) : Int := s.batchSize.toInt * s.maxInFlightRequests.toInt

/-- **The buffer is found too small** if it is smaller than what is needed, and if that is below all
integers of 32 bits. -/
theorem Rule.bufferTooSmall_iff (s : Settings) :
    bufferTooSmall s = true ↔
      s.maxBufferedRecords.toInt < s.neededCapacity ∨ s.neededCapacity < -2 ^ 31 := by
  have hbuffer : s.maxBufferedRecords.toInt < 2 ^ 31 := s.maxBufferedRecords.toInt_lt
  have hfits : Width.int.Fits s.neededCapacity ↔
      -2 ^ 31 ≤ s.neededCapacity ∧ s.neededCapacity < 2 ^ 31 := Iff.rfl
  show (decide (¬Width.int.Fits s.neededCapacity) ||
    decide (s.maxBufferedRecords.toInt < s.neededCapacity)) = true ↔ _
  rw [Bool.or_eq_true, decide_eq_true_eq, decide_eq_true_eq, hfits]
  omega

/-- No other rule finds the buffer too small. -/
theorem Rule.eq_bufferCapacity_of_kind {r : Rule} {s : Settings} {v : Violation}
    (hv : v ∈ r.violations s) (hkind : v.issue.kind = "buffer_too_small") : r = .bufferCapacity := by
  obtain ⟨k, keys, issue, rfl, hrule⟩ := r.exists_eq_on s v hv
  cases issue with
  | bufferTooSmall => exact (Option.some.inj hrule).symm
  | _ => simp [Violation.on, Issue.kind] at hkind

/-- What is found of the buffer is what its rule finds. -/
theorem filter_violations_kind (s : Settings) :
    s.violations.filter (·.issue.kind == "buffer_too_small") = Rule.bufferCapacity.violations s := by
  have hother : ∀ r : Rule, r ≠ .bufferCapacity →
      (r.violations s).filter (·.issue.kind == "buffer_too_small") = [] := by
    intro r hr
    refine List.filter_eq_nil_iff.mpr fun v hv hkind => hr ?_
    exact Rule.eq_bufferCapacity_of_kind hv (beq_iff_eq.mp hkind)
  have hown : (Rule.bufferCapacity.violations s).filter (·.issue.kind == "buffer_too_small") =
      Rule.bufferCapacity.violations s := by
    refine List.filter_eq_self.mpr fun v hv => ?_
    rw [Rule.eq_on_of_mem_violationIf hv]
    rfl
  simp only [Settings.violations, Rule.all, List.flatMap_cons, List.flatMap_nil, List.filter_append,
    hother, hown, ne_eq, reduceCtorEq, not_false_eq_true, List.nil_append, List.append_nil]

/-- **The verdict on the buffer.**  Among the violations of any settings, be their numbers what they may,
there is one that finds the buffer too small exactly if the buffer is smaller than the batch size times the
requests in flight, or if this product of integers is below -2^31.  There is no second one, and it is held
against the three settings and tells their numbers. -/
theorem capacity_violations (s : Settings) :
    ((∃ v ∈ s.violations, v.issue.kind = "buffer_too_small") ↔
      s.maxBufferedRecords.toInt < s.batchSize.toInt * s.maxInFlightRequests.toInt ∨
        s.batchSize.toInt * s.maxInFlightRequests.toInt < -2 ^ 31) ∧
    s.violations.filter (·.issue.kind == "buffer_too_small") =
      if s.maxBufferedRecords.toInt < s.batchSize.toInt * s.maxInFlightRequests.toInt ∨
          s.batchSize.toInt * s.maxInFlightRequests.toInt < -2 ^ 31 then
        [.on [.maxBufferedRecords, .batchSize, .maxInFlightRequests]
          (.bufferTooSmall s.maxBufferedRecords s.batchSize s.maxInFlightRequests)]
      else [] := by
  have hfilter : s.violations.filter (·.issue.kind == "buffer_too_small") =
      if s.maxBufferedRecords.toInt < s.neededCapacity ∨ s.neededCapacity < -2 ^ 31 then
        [.on [.maxBufferedRecords, .batchSize, .maxInFlightRequests]
          (.bufferTooSmall s.maxBufferedRecords s.batchSize s.maxInFlightRequests)]
      else [] := by
    rw [filter_violations_kind, Rule.violations, Rule.violationIf]
    simp only [Rule.bufferTooSmall_iff]
  refine ⟨?_, hfilter⟩
  have hexists : (∃ v ∈ s.violations, v.issue.kind = "buffer_too_small") ↔
      s.violations.filter (·.issue.kind == "buffer_too_small") ≠ [] := by
    constructor
    · rintro ⟨v, hv, hkind⟩
      exact List.ne_nil_of_mem (List.mem_filter.mpr ⟨hv, beq_iff_eq.mpr hkind⟩)
    · intro hne
      obtain ⟨v, hv⟩ := List.exists_mem_of_ne_nil _ hne
      obtain ⟨hmem, hkind⟩ := List.mem_filter.mp hv
      exact ⟨v, hmem, beq_iff_eq.mp hkind⟩
  rw [hexists, hfilter]
  split
  · next h => exact iff_of_true (List.cons_ne_nil _ _) h
  · next h => exact iff_of_false (fun hne => hne rfl) h

/-- A batch size below zero needs no room at all, and the buffer is found too small for it. -/
theorem capacity_misjudged_below_zero :
    let ps : Properties := .ofList [("connection.url", "http://[::1]:9200")]
    let r : Resolved := ("batch.size", .int (-2147483648)) :: ps.resolved fun _ => false
    ∃ s, Settings.assemble r ps = .ok s ∧
      ¬ s.maxBufferedRecords.toInt < s.batchSize.toInt * s.maxInFlightRequests.toInt ∧
      ∃ v ∈ s.violations, v.issue.kind = "buffer_too_small" := by
  intro ps r
  have hlog : (Settings.lookUp r ps).log = [] := by decide +kernel
  refine ⟨(Settings.lookUp r ps).value, Settings.assemble_eq_ok_iff.mpr ⟨hlog, rfl⟩,
    by decide +kernel, .on [.maxBufferedRecords, .batchSize, .maxInFlightRequests]
      (.bufferTooSmall 20000 (-2147483648) 5), by decide +kernel, by decide⟩

end SinkCheck
