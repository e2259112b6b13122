import Mathlib.Data.Finset.Card
import SinkCheck.Proofs.Settings.Assembly
import SinkCheck.Proofs.Settings.Texts
/-
  Values that are missing from an assembly.

  The values of a configuration without faults make settings.  Here some of them are taken away.  A look-up
  whose value is still there complains of nothing, for it sees no value but its own.  A look-up whose value
  is missing complains that the setting was not resolved, and goes on with a stand-in.  For most settings
  the stand-in is taken as it is.  For those that take keywords it is not: it is the empty word, which is
  looked up like any other and is no keyword, so that the setting is complained of a second time.

  Main statements: `complaints_of_missing`, `log_lookUp_without`, and `missing_settings` for the assembly.
-/

namespace SinkCheck

/-- The values without those of some settings. -/
def Resolved.without (r : Resolved) (missing : Finset Key) : Resolved :=
  r.filter fun e => decide (∀ k ∈ missing, k.name ≠ e.1)

namespace Key

/-- The type of the keywords that a setting takes. -/
def keywordType? : Key → Option String
  | writeMethod => some "WriteMethod"
  | nullBehavior => some "BehaviorOnNullValues"
  | dataStreamType => some "DataStreamType"
  | securityProtocol => some "SecurityProtocol"
  | _ => none

/-- Does a setting take keywords? -/
def takesKeyword (k : Key) : Bool := k.keywordType?.isSome

/-- The faults of a setting whose value is missing. -/
def missingFaults (k : Key) : List SyntaxFault :=
  .invalid k.name "" .unresolved ::
    (k.keywordType?.map fun t => SyntaxFault.invalid k.name "" (.unknownKeyword t "")).toList

/-- The settings in the order in which they are looked up. -/
def inLookUpOrder : List Key := proxyPort :: all.erase proxyPort

theorem mem_inLookUpOrder (k : Key) : k ∈ inLookUpOrder := by cases k <;> decide

theorem nodup_inLookUpOrder : inLookUpOrder.Nodup := by decide

theorem property_of_mem_missingFaults {k : Key} {f : SyntaxFault} (h : f ∈ k.missingFaults) :
    f.property = k.name := by
  rcases List.mem_cons.mp h with rfl | h
  · rfl
  · obtain ⟨t, -, rfl⟩ := Option.map_eq_some_iff.mp (Option.mem_toList.mp h)
    rfl

theorem length_missingFaults (k : Key) :
    k.missingFaults.length = 1 + if k.takesKeyword then 1 else 0 := by
  cases k <;> rfl

end Key

variable {r : Resolved} {ps : Properties} {isFile : String → Bool} {k : Key} {missing : Finset Key}

/-! ## What is complained of -/

theorem Resolved.get?_without : (r.without missing).get? k = if k ∈ missing then none else r.get? k := by
  have hkept : (∀ l ∈ missing, l.name ≠ k.name) ↔ k ∉ missing := by
    simp only [ne_eq, Key.name_inj]
    exact ⟨fun h hk => h k hk rfl, fun h l hl hlk => h (hlk ▸ hl)⟩
  rw [get?, without, Keyed.find?_filter fun name => decide (∀ l ∈ missing, l.name ≠ name)]
  simp only [hkept, decide_not, Bool.not_eq_true', decide_eq_false_iff_not, ite_not]
  rfl

/-- **A look-up without a value** complains of that, and one for a keyword also of the empty word. -/
theorem Resolved.complaints_of_missing (h : r.get? k = none) : r.complaints k = k.missingFaults := by
  cases k with
  | connectionUrl | ignoreKeyTopics | ignoreSchemaTopics | dataStreamTimestampField =>
    simp only [complaints, list, h]
    rfl
  | connectionUsername | connectionPassword | proxyPassword | kerberosPrincipal | kerberosKeytabPath =>
    simp only [complaints, optionalText, h]
    rfl
  | dataStreamDataset | proxyHost | proxyUsername =>
    simp only [complaints, text, optionalText, h]
    rfl
  | batchSize | maxInFlightRequests | maxBufferedRecords | maxRetries | connectionTimeoutMs
  | readTimeoutMs =>
    simp only [complaints, int, long, h]
    rfl
  | lingerMs | flushTimeoutMs | retryBackoffMs =>
    simp only [complaints, long, h]
    rfl
  | proxyPort =>
    simp only [complaints, port, int, long, h]
    rfl
  | ignoreKey | ignoreSchema =>
    simp only [complaints, boolean, h]
    rfl
  | writeMethod | nullBehavior | dataStreamType | securityProtocol =>
    simp only [complaints, keyword, text, optionalText, h]
    rfl

/-- Whether a value is there decides alone, if nothing was complained of before. -/
theorem Resolved.complaints_without (h : r.complaints k = []) :
    (r.without missing).complaints k = if k ∈ missing then k.missingFaults else [] := by
  split
  · next hk => exact complaints_of_missing (by rw [get?_without, if_pos hk])
  · next hk =>
    rw [complaints_eq_nil_iff, get?_without, if_neg hk]
    exact (complaints_eq_nil_iff r k).mp h

/-- **The assembly** complains of the settings whose values are missing, in the order of its look-ups. -/
theorem Settings.log_lookUp_without (h : ∀ k, r.complaints k = []) :
    (lookUp (r.without missing) ps).log =
      Key.inLookUpOrder.flatMap fun k => if k ∈ missing then k.missingFaults else [] := by
  rw [log_lookUp]
  exact congrArg (Key.inLookUpOrder.flatMap ·) (funext fun k => Resolved.complaints_without (h k))

theorem Resolved.complaints_resolved (h : ps.faults isFile = []) (k : Key) :
    (ps.resolved isFile).complaints k = [] := by
  have hlog : (Settings.lookUp (ps.resolved isFile) ps).log = [] := by
    rw [Settings.lookUp_resolved h, Logged.log_pure]
  rw [Settings.log_lookUp] at hlog
  exact List.flatMap_eq_nil_iff.mp hlog k (Key.mem_inLookUpOrder k)

/-! ## How many faults there are -/

/-- Of the faults of settings in a row, those of one setting are its own. -/
theorem filter_flatMap_property {faults : Key → List SyntaxFault}
    (h : ∀ k, ∀ f ∈ faults k, f.property = k.name) {ks : List Key} (hn : ks.Nodup) (k : Key) :
    (ks.flatMap faults).filter (·.property == k.name) = if k ∈ ks then faults k else [] := by
  have hof : ∀ l, (faults l).filter (·.property == k.name) = if l = k then faults l else [] := by
    intro l
    split
    · next hl => exact List.filter_eq_self.mpr fun f hf => beq_iff_eq.mpr (hl ▸ h l f hf)
    · next hl =>
      refine List.filter_eq_nil_iff.mpr fun f hf hname => hl ?_
      exact Key.name_injective ((h l f hf).symm.trans (beq_iff_eq.mp hname))
  induction ks with
  | nil => rfl
  | cons l ks ih =>
    obtain ⟨hl, hks⟩ := List.nodup_cons.mp hn
    rw [List.flatMap_cons, List.filter_append, hof, ih hks]
    by_cases hk : l = k
    · subst hk
      rw [if_pos rfl, if_neg hl, if_pos List.mem_cons_self, List.append_nil]
    · rw [if_neg hk, List.nil_append]
      simp only [List.mem_cons, Ne.symm hk, false_or]

/-- The settings of a row that are in a set are as many as the set has. -/
theorem length_filter_inLookUpOrder (ks : Finset Key) :
    (Key.inLookUpOrder.filter (· ∈ ks)).length = ks.card := by
  rw [← List.toFinset_card_of_nodup (Key.nodup_inLookUpOrder.filter _)]
  congr 1
  ext k
  simp [Key.mem_inLookUpOrder]

/-- Each missing value makes one fault, and that of a keyword another one. -/
theorem length_flatMap_missingFaults (missing : Finset Key) :
    (Key.inLookUpOrder.flatMap fun k => if k ∈ missing then k.missingFaults else []).length =
      missing.card + (missing.filter (·.takesKeyword)).card := by
  rw [← length_filter_inLookUpOrder, ← length_filter_inLookUpOrder]
  -- now a count over any row of settings
  induction Key.inLookUpOrder with
  | nil => rfl
  | cons k ks ih =>
    rw [List.flatMap_cons, List.length_append, ih]
    by_cases hk : k ∈ missing
    · rw [if_pos hk, Key.length_missingFaults]
      cases ht : k.takesKeyword <;> simp [hk, ht] <;> omega
    · simp [hk]

/-! ## The assembly -/

/-- **Missing values are each found missing.**  If values are taken away from those of a configuration
without faults, settings come out only if none was.  Otherwise each setting whose value is missing has one
fault, that it was not resolved, or two if it takes keywords, and no other setting has any; so the wording
counts each missing value once, and that of a keyword twice. -/
theorem missing_settings (h : ps.faults isFile = []) (missing : Finset Key) :
    ((∃ s, Settings.assemble ((ps.resolved isFile).without missing) ps = .ok s) ↔ missing = ∅) ∧
    (missing ≠ ∅ → ∃ fs, Settings.assemble ((ps.resolved isFile).without missing) ps = .error fs ∧
      (∀ k, fs.filter (·.property == k.name) = if k ∈ missing then k.missingFaults else []) ∧
      (∀ f ∈ fs, ∃ k ∈ missing, f.property = k.name) ∧
      fs.length = missing.card + (missing.filter (·.takesKeyword)).card ∧
      SyntaxFault.summary fs = "Configuration has " ++
        (missing.card + (missing.filter (·.takesKeyword)).card).repr ++ " invalid properties:" ++
        SyntaxFault.numbered 1 fs) := by
  have hlog : (Settings.lookUp ((ps.resolved isFile).without missing) ps).log =
      Key.inLookUpOrder.flatMap fun k => if k ∈ missing then k.missingFaults else [] :=
    Settings.log_lookUp_without (Resolved.complaints_resolved h)
  have hlength := length_flatMap_missingFaults missing
  have hnil : (Settings.lookUp ((ps.resolved isFile).without missing) ps).log = [] ↔ missing = ∅ := by
    rw [hlog]
    constructor
    · intro hnil
      rw [hnil, List.length_nil] at hlength
      exact Finset.card_eq_zero.mp (by omega)
    · rintro rfl
      exact List.eq_nil_of_length_eq_zero hlength
  refine ⟨?_, fun hne => ⟨_, Settings.assemble_eq_error_iff.mpr ⟨fun hl => hne (hnil.mp hl), hlog⟩, ?_⟩⟩
  · simp only [Settings.assemble_eq_ok_iff, exists_and_left, exists_eq', and_true, hnil]
  · have hown : ∀ k, ∀ f ∈ (if k ∈ missing then k.missingFaults else []), f.property = k.name := by
      intro k f hf
      split at hf
      · exact Key.property_of_mem_missingFaults hf
      · cases hf
    refine ⟨fun k => ?_, fun f hf => ?_, hlength, ?_⟩
    · rw [filter_flatMap_property hown Key.nodup_inLookUpOrder, if_pos (Key.mem_inLookUpOrder k)]
    · obtain ⟨k, -, hk⟩ := List.mem_flatMap.mp hf
      refine ⟨k, ?_, hown k f hk⟩
      split at hk
      · assumption
      · cases hk
    · unfold SyntaxFault.summary
      rw [hlength]

/-- A number, a port and two keywords are missing: six faults. -/
theorem missing_settings_mixed :
    let ps : Properties := .ofList
      [("connection.url", "http://[::1]:9200"), ("batch.size", " +007 "), ("write.method", "upsert")]
    ps.faults (fun _ => false) = [] ∧
    ∃ fs, Settings.assemble ((ps.resolved fun _ => false).without
        {.batchSize, .proxyPort, .writeMethod, .securityProtocol}) ps = .error fs ∧
      fs.length = 6 ∧
      fs.filter (·.property == "proxy.port") = [.invalid "proxy.port" "" .unresolved] ∧
      fs.filter (·.property == "write.method") =
        [.invalid "write.method" "" .unresolved,
         .invalid "write.method" "" (.unknownKeyword "WriteMethod" "")] := by
  intro ps
  have h : ps.faults (fun _ => false) = [] := by decide +kernel
  obtain ⟨fs, hfs, hown, -, hlength, -⟩ :=
    (missing_settings h {.batchSize, .proxyPort, .writeMethod, .securityProtocol}).2 (by decide)
  exact ⟨h, fs, hfs, hlength, hown .proxyPort, hown .writeMethod⟩

/-- One missing keyword makes two invalid properties. -/
theorem missing_keyword_told_twice :
    let ps : Properties := .ofList [("connection.url", "http://[::1]:9200")]
    ps.faults (fun _ => false) = [] ∧
    Settings.assemble ((ps.resolved fun _ => false).without {.writeMethod}) ps =
      .error [.invalid "write.method" "" .unresolved,
        .invalid "write.method" "" (.unknownKeyword "WriteMethod" "")] ∧
    SyntaxFault.summary [.invalid "write.method" "" .unresolved,
        .invalid "write.method" "" (.unknownKeyword "WriteMethod" "")] =
      "Configuration has 2 invalid properties:" ++ SyntaxFault.numbered 1
        [.invalid "write.method" "" .unresolved,
         .invalid "write.method" "" (.unknownKeyword "WriteMethod" "")] := by
  decide +kernel

end SinkCheck
