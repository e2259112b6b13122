import SinkCheck.Proofs.Decimal.Spelling
import SinkCheck.Proofs.Json.Numbers
import SinkCheck.Validator.Basic
/-
  Which JSON values make properties, and which properties they make.

  Reading the members of an object goes through three kinds of outcome: a text, no text, a fault.  Here
  the values are sorted beforehand, by their form alone.  A value is *flat* if it is null, a scalar or a
  row of scalars; a flat value other than null has a text, which is told by what JSON would write for it.
  An object makes properties exactly if all its values are flat, and then each member that is not null
  gives its text to its key; otherwise every member that is not flat is at fault, and no other.  Since
  the members of an object stand in key order, no member overrides another, and the faults are as many
  as the keys that are at fault.

  The text of a number is no matter of form.  That of an integer is its decimal notation.  That of a
  binary number denotes the shortest decimal that is read as this number, the closest one of several,
  provided that the number is proper; and every one that is read from a text is
  (`Spelling.isProper_of_number?`).

  Main statements: `denotes_plainText_integer` and `denotes_plainText_binary`, what the text of a number
  says; `ofMember_eq`, what one member gives; `memberFaults_eq` and `entries_of_ofJson`, what the members
  of an object give together; `flattening_is_exact`.
-/

namespace SinkCheck

/-! ## Flat values -/

namespace Json

/-- Do the members of the value, if it is an object, stand in key order? -/
def InKeyOrder : Json → Prop
  | .object members => Keyed.Ordered members
  | _ => True

/-- Is the value null? -/
def isNull : Json → Bool
  | .null => true
  | _ => false

/-- Is the value a string, a truth value or a number? -/
def isScalar : Json → Bool
  | .string _ | .bool _ | .number _ => true
  | .null | .array _ | .object _ => false

/-- Is the value null, a scalar or a row of scalars? -/
def isFlat : Json → Bool
  | .null => true
  | .array items => items.all isScalar
  | v => v.isScalar

/-- The text of a scalar: a string as it is, a truth value by its name, an integer in decimal notation,
and a binary number as its shortest decimal, plainly from 0.00001 up to `10 ^ 16` and otherwise with an
exponent. -/
def plainText : Json → String
  | .string s => s
  | .bool true => "true"
  | .bool false => "false"
  | .number (.integer n) => toString n
  | .number (.binary b) => Decimal.Layout.writeBinary ⟨-5, 15, "e", "+"⟩ b
  | .null | .array _ | .object _ => ""

/-- The text of a flat value: that of a scalar, or those of a row of scalars between commas. -/
def flatText : Json → String
  | .array items => ",".intercalate (items.map plainText)
  | v => v.plainText

/-- The fault of a key whose value is not flat. -/
def notFlat (key : String) (v : Json) : SyntaxFault :=
  .invalid key v.text (match v with
    | .array _ => .nestedList
    | _ => .nestedRecord)

/-- Whatever is read from a text is in key order. -/
theorem inKeyOrder_of_parse? {text : String} {json : Json} (h : parse? text = some json) :
    json.InKeyOrder := by
  obtain ⟨w, -, hread⟩ := Option.bind_eq_some_iff.mp h
  cases json with
  | object members =>
    cases w with
    | object written =>
      obtain ⟨ms, -, hms⟩ := Option.map_eq_some_iff.mp hread
      cases hms
      exact Keyed.ordered_ofList ms
    | null | bool => cases hread
    | number | string | array =>
      obtain ⟨x, -, hx⟩ := Option.map_eq_some_iff.mp hread
      cases hx
  | null | bool | number | string | array => trivial

theorem scalar?_eq (v : Json) : v.scalar? = if v.isScalar then some v.plainText else none := by
  cases v with
  | bool b => cases b <;> rfl
  | number n =>
    cases n with
    | integer n => exact congrArg some (Text.integerText_eq_toString n)
    | binary b => rfl
  | null | string | array | object => rfl

/-- **The text of an integer** denotes it. -/
theorem denotes_plainText_integer (n : Int) :
    Text.Denotes (plainText (.number (.integer n))).toList n := by
  rw [plainText, ← Text.integerText_eq_toString]
  exact Text.denotes_integerText n

/-- **The text of a binary number** denotes the shortest decimal that is read as this number. -/
theorem denotes_plainText_binary {b : Decimal.Binary64} (hb : b.magnitude.IsProper) :
    ∃ t : Decimal.Tenfold, Decimal.Denotes (plainText (.number (.binary b))).toList
      (Decimal.signed b.negative t.toRat) ∧ b.IsShortest t :=
  Decimal.Layout.exists_denotes_writeBinary rfl (Or.inr rfl) hb

/-- A row has texts if all its items are scalars. -/
theorem mapM_scalar? (items : List Json) :
    items.mapM scalar? = if items.all isScalar then some (items.map plainText) else none := by
  induction items with
  | nil => rfl
  | cons v items ih =>
    rw [List.mapM_cons, ih, scalar?_eq, List.all_cons, List.map_cons]
    cases v.isScalar with
    | false => rfl
    | true => cases items.all isScalar <;> rfl

end Json

namespace Properties

/-! ## One member -/

/-- **A member** is at fault if its value is not flat, and otherwise gives the text of its value unless
that is null. -/
theorem ofMember_eq (key : String) (v : Json) :
    ofMember key v =
      if v.isFlat then .ok (if v.isNull then none else some v.flatText)
      else .error (v.notFlat key) := by
  cases v with
  | array items =>
    rw [ofMember, Json.mapM_scalar?, Json.isFlat]
    cases items.all Json.isScalar <;> rfl
  | null | string | object => rfl
  | bool | number => exact congrArg Except.ok (Json.scalar?_eq _)

/-! ## All members -/

/-- **The faults of the members** are those of the values that are not flat, in order. -/
theorem memberFaults_eq (members : List (String × Json)) :
    memberFaults members =
      (members.filter fun e => !e.2.isFlat).map fun e => e.2.notFlat e.1 := by
  rw [memberFaults, ← List.filterMap_eq_map, List.filterMap_filter]
  refine congrArg (members.filterMap ·) (funext fun e => ?_)
  obtain ⟨key, v⟩ := e
  simp only [ofMember_eq]
  cases v.isFlat <;> rfl

theorem memberFaults_eq_nil_iff {members : List (String × Json)} :
    memberFaults members = [] ↔ ∀ e ∈ members, e.2.isFlat = true := by
  rw [memberFaults_eq, List.map_eq_nil_iff, List.filter_eq_nil_iff]
  simp only [Bool.not_eq_true', Bool.not_eq_false]

/-- The texts of the members are those of the flat values other than null, in order. -/
theorem memberTexts_eq (members : List (String × Json)) :
    memberTexts members =
      (members.filter fun e => e.2.isFlat && !e.2.isNull).map fun e => (e.1, e.2.flatText) := by
  rw [memberTexts, ← List.filterMap_eq_map, List.filterMap_filter]
  refine congrArg (members.filterMap ·) (funext fun e => ?_)
  obtain ⟨key, v⟩ := e
  simp only [ofMember_eq]
  cases v.isFlat with
  | false => rfl
  | true => cases v.isNull <;> rfl

theorem ofJson_object_eq_ok_iff {members : List (String × Json)} {ps : Properties} :
    ofJson (.object members) = .ok ps ↔
      (∀ e ∈ members, e.2.isFlat = true) ∧ ps = ofList (memberTexts members) := by
  rw [← memberFaults_eq_nil_iff]
  by_cases h : memberFaults members = []
  · rw [ofJson_of_no_fault h, and_iff_right h, Except.ok.injEq, eq_comm]
  · rw [ofJson_of_faults h]
    simp [h]

theorem ofJson_object_eq_error_iff {members : List (String × Json)} {fs : List SyntaxFault} :
    ofJson (.object members) = .error fs ↔
      (∃ e ∈ members, e.2.isFlat = false) ∧ fs = memberFaults members := by
  by_cases h : memberFaults members = []
  · rw [ofJson_of_no_fault h]
    have hflat := memberFaults_eq_nil_iff.mp h
    constructor
    · intro he
      cases he
    · rintro ⟨⟨e, he, hnot⟩, -⟩
      rw [hflat e he] at hnot
      cases hnot
  · rw [ofJson_of_faults h, Except.error.injEq, eq_comm, iff_and_self]
    rintro -
    rw [memberFaults_eq_nil_iff] at h
    simpa using h

/-- **The properties of an object** are the texts of its members, null ones left out. -/
theorem entries_of_ofJson {members : List (String × Json)} {ps : Properties}
    (hkeys : Keyed.Ordered members) (h : ofJson (.object members) = .ok ps) :
    ps.entries = (members.filter fun e => !e.2.isNull).map fun e => (e.1, e.2.flatText) := by
  obtain ⟨hflat, rfl⟩ := ofJson_object_eq_ok_iff.mp h
  have hordered : Keyed.Ordered (memberTexts members) := by
    rw [memberTexts_eq]
    exact List.pairwise_map.mpr (List.Pairwise.filter _ hkeys)
  show Keyed.ofList (memberTexts members) = _
  rw [Keyed.ofList_of_ordered hordered, memberTexts_eq]
  refine congrArg (List.map _) (List.filter_congr fun e he => ?_)
  rw [hflat e he, Bool.true_and]

/-- A member gives its key the text of its value, unless that is null. -/
theorem get?_of_ofJson {members : List (String × Json)} {ps : Properties} {e : String × Json}
    (hkeys : Keyed.Ordered members) (h : ofJson (.object members) = .ok ps) (he : e ∈ members) :
    ps.get? e.1 = if e.2.isNull then none else some e.2.flatText := by
  have hentries := entries_of_ofJson hkeys h
  cases hnull : e.2.isNull with
  | false =>
    refine (Keyed.find?_eq_some_iff ps.ordered).mpr ?_
    rw [hentries]
    exact List.mem_map.mpr ⟨e, List.mem_filter.mpr ⟨he, by rw [hnull]; rfl⟩, rfl⟩
  | true =>
    -- a text of this key would be the text of a second member with the key
    refine Option.not_isSome_iff_eq_none.mp fun hsome => ?_
    rw [← mem_names_iff, names, hentries, List.map_map] at hsome
    obtain ⟨d, hd, hkey⟩ := List.mem_map.mp hsome
    obtain ⟨hmem, hnot⟩ := List.mem_filter.mp hd
    cases Keyed.eq_of_mem hkeys hmem he hkey
    rw [hnull] at hnot
    cases hnot

/-- Properties are read from the object that has their texts as strings. -/
theorem ofJson_strings (ps : Properties) :
    ofJson (.object (ps.entries.map fun e => (e.1, .string e.2))) = .ok ps := by
  have hflat : ∀ e ∈ ps.entries.map fun e => (e.1, Json.string e.2), e.2.isFlat = true := by
    intro e he
    obtain ⟨p, -, rfl⟩ := List.mem_map.mp he
    rfl
  have htexts : memberTexts (ps.entries.map fun e => (e.1, .string e.2)) = ps.entries := by
    rw [memberTexts, List.filterMap_map]
    exact List.filterMap_some
  rw [ofJson_object_eq_ok_iff, htexts]
  refine ⟨hflat, ?_⟩
  obtain ⟨entries, ordered⟩ := ps
  simp only [ofList, Keyed.ofList_of_ordered ordered]

end Properties

/-! ## Validating a JSON value -/

namespace Validator

variable {ε : Type} {v : Validator ε} {json : Json}

theorem validateJson_of_error {fs : List SyntaxFault} (h : Properties.ofJson json = .error fs) :
    v.validateJson json = pure (.error (.configuration fs)) := by
  rw [validateJson, h]

theorem validateJson_of_ok {ps : Properties} (h : Properties.ofJson json = .ok ps) :
    v.validateJson json = Except.ok <$> v.validate ps := by
  rw [validateJson, h]
  rfl

end Validator

/-- **Flattening is exact.**  A JSON value makes properties exactly if it is an object of flat values.  The
keys of the properties are those of the members that are not null, and each has the text of its member;
so properties written as strings are read back as they were.  The text of an integer denotes it, and that
of a binary number denotes the shortest decimal that is read as this number.  A value that is no object has
one fault, at `$`; an object has one fault for each member that is not flat, at its key and in the order of the keys.
Validating the value fails exactly if it makes no properties, with the number of these faults in the
message, and otherwise is the validation of the properties. -/
theorem flattening_is_exact {ε : Type} (v : Validator ε) (json : Json) (hkeys : json.InKeyOrder) :
    ((∃ ps, Properties.ofJson json = .ok ps) ↔
      ∃ members, json = .object members ∧ ∀ e ∈ members, e.2.isFlat = true) ∧
    (∀ members ps, json = .object members → Properties.ofJson json = .ok ps →
      ps.names = (members.filter fun e => !e.2.isNull).map Prod.fst ∧
      ∀ e ∈ members, ps.get? e.1 = if e.2.isNull then none else some e.2.flatText) ∧
    (∀ ps : Properties,
      Properties.ofJson (.object (ps.entries.map fun e => (e.1, .string e.2))) = .ok ps) ∧
    (∀ n : Int, Text.Denotes (Json.plainText (.number (.integer n))).toList n) ∧
    (∀ b : Decimal.Binary64, b.magnitude.IsProper → ∃ t : Decimal.Tenfold,
      Decimal.Denotes (Json.plainText (.number (.binary b))).toList
        (Decimal.signed b.negative t.toRat) ∧ b.IsShortest t) ∧
    ((∀ members, json ≠ .object members) →
      Properties.ofJson json = .error [.invalid "$" json.text .notRecord]) ∧
    (∀ members fs, json = .object members → Properties.ofJson json = .error fs →
      fs = ((members.filter fun e => !e.2.isFlat).map fun e => e.2.notFlat e.1) ∧
      fs.map SyntaxFault.property = (members.filter fun e => !e.2.isFlat).map Prod.fst) ∧
    ((∃ e, (v.validateJson json).value = .error e) ↔ ∃ fs, Properties.ofJson json = .error fs) ∧
    (∀ fs, Properties.ofJson json = .error fs →
      v.validateJson json = pure (.error (.configuration fs)) ∧
      (Failure.configuration fs).message =
        "Configuration error: " ++ fs.length.repr ++ " invalid properties") ∧
    (∀ ps, Properties.ofJson json = .ok ps → v.validateJson json = Except.ok <$> v.validate ps) := by
  refine ⟨⟨?_, ?_⟩, ?_, Properties.ofJson_strings, Json.denotes_plainText_integer,
    fun b => Json.denotes_plainText_binary, ?_, ?_, ⟨?_, ?_⟩, ?_, ?_⟩
  · rintro ⟨ps, hps⟩
    cases json with
    | object members => exact ⟨members, rfl, (Properties.ofJson_object_eq_ok_iff.mp hps).1⟩
    | null | bool | number | string | array => cases hps
  · rintro ⟨members, rfl, hflat⟩
    exact ⟨_, Properties.ofJson_object_eq_ok_iff.mpr ⟨hflat, rfl⟩⟩
  · rintro members ps rfl hps
    refine ⟨?_, fun e he => Properties.get?_of_ofJson hkeys hps he⟩
    rw [Properties.names, Properties.entries_of_ofJson hkeys hps, List.map_map]
    rfl
  · intro hno
    cases json with
    | object members => exact absurd rfl (hno members)
    | null | bool | number | string | array => rfl
  · rintro members fs rfl hfs
    obtain ⟨-, rfl⟩ := Properties.ofJson_object_eq_error_iff.mp hfs
    refine ⟨Properties.memberFaults_eq members, ?_⟩
    rw [Properties.memberFaults_eq, List.map_map]
    rfl
  · rintro ⟨e, he⟩
    cases hjson : Properties.ofJson json with
    | error fs => exact ⟨fs, rfl⟩
    | ok ps =>
      rw [Validator.validateJson_of_ok hjson] at he
      cases he
  · rintro ⟨fs, hfs⟩
    exact ⟨.configuration fs, by rw [Validator.validateJson_of_error hfs]; rfl⟩
  · exact fun fs hfs => ⟨Validator.validateJson_of_error hfs, rfl⟩
  · exact fun ps hps => Validator.validateJson_of_ok hps

/-- One half, a number that is not whole. -/
def half : Decimal.Binary64 := ⟨false, 2 ^ 52, -53⟩

/-- The number `10 ^ 16`, the first that is written with an exponent. -/
def tenToSixteen : Decimal.Binary64 := ⟨false, 5000000000000000, 1⟩

/-- Numbers about the ends of what is written plainly: 0.000001, 0.00001, 9999999999999998 and
`-1.5 * 10 ^ 300`. -/
def variousNumbers : List Json :=
  [.number (.binary ⟨false, 4722366482869645, -72⟩), .number (.binary ⟨false, 5902958103587057, -69⟩),
   .number (.binary ⟨false, 4999999999999999, 1⟩), .number (.binary ⟨true, 5043654821435445, 945⟩)]

/-- A value with a text of every form. -/
def mixedJson : Json := .object
  [("batch.size", .number (.integer (-10))), ("connection.password", .null),
   ("connection.url", .array [.string "http://[::1]", .string "", .number (.integer 5), .bool false,
     .number (.binary ⟨true, .zero⟩)]),
   ("flush.timeout.ms", .array variousNumbers),
   ("key.ignore", .bool true), ("linger.ms", .number (.binary half)),
   ("max.buffered.records", .number (.binary tenToSixteen)), ("proxy.host", .string " null,"),
   ("topic.key.ignore", .array [])]

/-- A value with two faults and a text in between. -/
def nestedJson : Json := .object
  [("connection.url", .array [.string "http://[::1]", .null]), ("key.ignore", .bool true),
   ("proxy", .object [("host", .string "gate")])]

theorem flattening_is_exact_mixed :
    let v : Validator Unit :=
      ⟨.standard fun _ => false, fun _ => pure (.error (.other "unasked")), .offline⟩
    mixedJson.InKeyOrder ∧ nestedJson.InKeyOrder ∧
    half.magnitude.IsProper ∧ half.toRat = 1 / 2 ∧
    tenToSixteen.magnitude.IsProper ∧ tenToSixteen.toRat = 10 ^ 16 ∧
    (∃ ps, Properties.ofJson mixedJson = .ok ps ∧
      v.validateJson mixedJson = Except.ok <$> v.validate ps ∧
      ps.names = ["batch.size", "connection.url", "flush.timeout.ms", "key.ignore", "linger.ms",
        "max.buffered.records", "proxy.host", "topic.key.ignore"] ∧
      ps.get? "batch.size" = some "-10" ∧ ps.get? "connection.url" = some "http://[::1],,5,false,-0.0" ∧
      ps.get? "flush.timeout.ms" = some "1e-6,0.00001,9999999999999998.0,-1.5e+300" ∧
      ps.get? "key.ignore" = some "true" ∧ ps.get? "linger.ms" = some "0.5" ∧
      ps.get? "max.buffered.records" = some "1e+16" ∧ ps.get? "proxy.host" = some " null," ∧
      ps.get? "topic.key.ignore" = some "") ∧
    (∃ t, Decimal.Denotes "0.5".toList (Decimal.signed false t.toRat) ∧ half.IsShortest t) ∧
    (∃ t, Decimal.Denotes "1e+16".toList (Decimal.signed false t.toRat) ∧ tenToSixteen.IsShortest t) ∧
    ∃ fs, v.validateJson nestedJson = pure (.error (.configuration fs)) ∧
      fs.map SyntaxFault.property = ["connection.url", "proxy"] ∧
      (Failure.configuration fs).message = "Configuration error: 2 invalid properties" := by
  intro v
  have hmixed : mixedJson.InKeyOrder := by
    unfold mixedJson Json.InKeyOrder Keyed.Ordered
    decide +kernel
  have hnested : nestedJson.InKeyOrder := by
    unfold nestedJson Json.InKeyOrder Keyed.Ordered
    decide +kernel
  have hhalf : half.magnitude.IsProper := ⟨by decide, by decide, by decide, Or.inr (by decide)⟩
  have hten : tenToSixteen.magnitude.IsProper := ⟨by decide, by decide, by decide, Or.inr (by decide)⟩
  have hhalfText : (Json.plainText (.number (.binary half))) = "0.5" := by decide +kernel
  have htenText : (Json.plainText (.number (.binary tenToSixteen))) = "1e+16" := by decide +kernel
  obtain ⟨hok, hread, -, -, hbinary, -, -, -, -, hvalidate⟩ := flattening_is_exact v mixedJson hmixed
  refine ⟨hmixed, hnested, hhalf, ?_, hten, ?_, ?_, ?_, ?_, ?_⟩
  · norm_num [half, Decimal.Binary64.toRat, Decimal.Magnitude.toRat]
  · norm_num [tenToSixteen, Decimal.Binary64.toRat, Decimal.Magnitude.toRat]
  · obtain ⟨ps, hps⟩ := hok.mpr ⟨_, rfl, by decide +kernel⟩
    obtain ⟨hnames, htexts⟩ := hread _ ps rfl hps
    refine ⟨ps, hps, hvalidate ps hps, hnames.trans rfl, ?_, ?_, ?_, ?_, ?_, ?_, ?_, ?_⟩
    · exact (htexts ("batch.size", .number (.integer (-10))) (by simp)).trans (by decide +kernel)
    · exact (htexts ("connection.url", .array [.string "http://[::1]", .string "",
        .number (.integer 5), .bool false, .number (.binary ⟨true, .zero⟩)]) (by simp)).trans
        (by decide +kernel)
    · exact (htexts ("flush.timeout.ms", .array variousNumbers) (by simp)).trans (by decide +kernel)
    · exact (htexts ("key.ignore", .bool true) (by simp)).trans (by decide +kernel)
    · exact (htexts ("linger.ms", .number (.binary half)) (by simp)).trans (congrArg some hhalfText)
    · exact (htexts ("max.buffered.records", .number (.binary tenToSixteen)) (by simp)).trans
        (congrArg some htenText)
    · exact (htexts ("proxy.host", .string " null,") (by simp)).trans (by decide +kernel)
    · exact (htexts ("topic.key.ignore", .array []) (by simp)).trans (by decide +kernel)
  · rw [← hhalfText]
    exact hbinary half hhalf
  · rw [← htenText]
    exact hbinary tenToSixteen hten
  · obtain ⟨-, -, -, -, -, -, hfaults, -, hfails, -⟩ := flattening_is_exact v nestedJson hnested
    have herror : Properties.ofJson nestedJson = .error _ := Properties.ofJson_object_eq_error_iff.mpr
      ⟨⟨("proxy", .object [("host", .string "gate")]), by simp, rfl⟩, rfl⟩
    obtain ⟨hvalidate, hmessage⟩ := hfails _ herror
    obtain ⟨hfs, hproperties⟩ := hfaults _ _ rfl herror
    refine ⟨_, hvalidate, hproperties.trans rfl, ?_⟩
    rw [hmessage, hfs]
    decide +kernel

end SinkCheck
