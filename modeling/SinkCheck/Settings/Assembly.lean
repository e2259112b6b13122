import SinkCheck.Logged
import SinkCheck.Properties.Basic
import SinkCheck.Setting.Table
import SinkCheck.Settings.Basic
/-
  From values to settings.

  Every recognised setting is looked up by its name in a list of resolved values, where the first
  value of a name counts, and must be of the type that the settings want.  All lookups are made, and
  their faults logged in the order of the lookups; settings come out when nothing was logged.

  Main statement: `assemble_eq_error_iff`, the faults of an assembly are the faults of its lookups.
-/

namespace SinkCheck

/-- Resolved values with the names of their settings. -/
abbrev Resolved := List (String × Value)

namespace Resolved

/-- The value of a setting. -/
def get? (r : Resolved) (k : Key) : Option Value := Keyed.find? k.name r

/-- The fault of a setting that is missing or of another type. -/
def unresolved (k : Key) : SyntaxFault := .invalid k.name "" .unresolved

/-- A value that was there, or a stand-in and a fault. -/
def orUnresolved {α : Type} (k : Key) (standIn : α) : Option α → Logged SyntaxFault α
  | some a => ⟨a, []⟩
  | none => ⟨standIn, [unresolved k]⟩

/-! ## Typed lookups -/

/-- A text that may be left out.  Values that are no texts count as left out. -/
def optionalText (r : Resolved) (k : Key) : Logged SyntaxFault (Option String) :=
  orUnresolved k none ((r.get? k).map Value.text?)

/-- A text; one that is left out is empty. -/
def text (r : Resolved) (k : Key) : Logged SyntaxFault String := do
  let t ← r.optionalText k
  pure (t.getD "")

/-- An integer of 64 bits. -/
def long (r : Resolved) (k : Key) : Logged SyntaxFault Int64 :=
  orUnresolved k 0 ((r.get? k).bind Value.int?)

/-- An integer of 32 bits. -/
def int (r : Resolved) (k : Key) : Logged SyntaxFault Int32 := do
  let n ← r.long k
  if Width.int.Fits n.toInt then pure n.toInt32
  else ⟨0, [.invalid k.name (Text.integerText n.toInt) (.notNumber .int)]⟩

/-- A port; an integer that is none counts as 0. -/
def port (r : Resolved) (k : Key) : Logged SyntaxFault UInt16 := do
  let n ← r.int k
  pure (if 0 ≤ n.toInt ∧ n.toInt < 2 ^ 16 then UInt16.ofNat n.toInt.toNat else 0)

/-- A port holds the integers of 16 bits as they are. -/
theorem toNat_ofNat_of_isPort {n : Int} (h : 0 ≤ n ∧ n < 2 ^ 16) :
    ((UInt16.ofNat n.toNat).toNat : Int) = n := by
  rw [UInt16.toNat_ofNat_of_lt' (by show _ < 65536; omega)]
  omega

/-- A truth value. -/
def boolean (r : Resolved) (k : Key) : Logged SyntaxFault Bool :=
  orUnresolved k false ((r.get? k).bind Value.boolean?)

/-- A list. -/
def list (r : Resolved) (k : Key) : Logged SyntaxFault (List String) :=
  orUnresolved k [] ((r.get? k).bind Value.list?)

/-- A keyword; `standIn` holds the place of a word that is none.  A keyword that is missing is read as
the empty word, which is a fault of its own. -/
def keyword {α : Type} [Keyword α] (r : Resolved) (k : Key) (standIn : α) :
    Logged SyntaxFault α := do
  let t ← r.text k
  match Keyword.ofText? t with
  | some a => pure a
  | none => ⟨standIn, [.invalid k.name t (.unknownKeyword (Keyword.typeName α) t)]⟩

end Resolved

/-! ## Assembly -/

namespace Settings

/-- Look up every setting.  The port of the proxy comes first. -/
def lookUp (r : Resolved) (ps : Properties) : Logged SyntaxFault Settings := do
  let proxyPort ← r.port .proxyPort
  let connectionUrls ← r.list .connectionUrl
  let username ← r.optionalText .connectionUsername
  let password ← r.optionalText .connectionPassword
  let batchSize ← r.int .batchSize
  let maxInFlightRequests ← r.int .maxInFlightRequests
  let maxBufferedRecords ← r.int .maxBufferedRecords
  let lingerMs ← r.long .lingerMs
  let flushTimeoutMs ← r.long .flushTimeoutMs
  let maxRetries ← r.int .maxRetries
  let retryBackoffMs ← r.long .retryBackoffMs
  let connectionTimeoutMs ← r.int .connectionTimeoutMs
  let readTimeoutMs ← r.int .readTimeoutMs
  let ignoreKey ← r.boolean .ignoreKey
  let ignoreSchema ← r.boolean .ignoreSchema
  let ignoreKeyTopics ← r.list .ignoreKeyTopics
  let ignoreSchemaTopics ← r.list .ignoreSchemaTopics
  let writeMethod ← r.keyword .writeMethod WriteMethod.insert
  let nullBehavior ← r.keyword .nullBehavior NullBehavior.fail
  let dataStreamType ← r.keyword .dataStreamType DataStreamType.none
  let dataset ← r.text .dataStreamDataset
  let timestampFields ← r.list .dataStreamTimestampField
  let proxyHost ← r.text .proxyHost
  let proxyUsername ← r.text .proxyUsername
  let proxyPassword ← r.optionalText .proxyPassword
  let securityProtocol ← r.keyword .securityProtocol SecurityProtocol.plaintext
  let kerberosPrincipal ← r.optionalText .kerberosPrincipal
  let keytabPath ← r.optionalText .kerberosKeytabPath
  pure {
    connectionUrls, username, password, batchSize, maxInFlightRequests, maxBufferedRecords,
    lingerMs, flushTimeoutMs, maxRetries, retryBackoffMs, connectionTimeoutMs, readTimeoutMs,
    ignoreKey, ignoreSchema, ignoreKeyTopics, ignoreSchemaTopics, writeMethod, nullBehavior,
    dataStreamType, dataset, timestampFields, proxyHost, proxyPort, proxyUsername, proxyPassword,
    securityProtocol, kerberosPrincipal, keytabPath,
    httpsSettings := (ps.filter (Text.beginsWith Https.head)).entries }

/-- The settings that the values make, or every fault found on the way. -/
def assemble (r : Resolved) (ps : Properties) : Except (List SyntaxFault) Settings :=
  (lookUp r ps).result

theorem assemble_eq_ok_iff {r : Resolved} {ps : Properties} {s : Settings} :
    assemble r ps = .ok s ↔ (lookUp r ps).log = [] ∧ (lookUp r ps).value = s :=
  Logged.result_eq_ok_iff

theorem assemble_eq_error_iff {r : Resolved} {ps : Properties} {fs : List SyntaxFault} :
    assemble r ps = .error fs ↔ (lookUp r ps).log ≠ [] ∧ (lookUp r ps).log = fs :=
  Logged.result_eq_error_iff

end Settings

end SinkCheck
