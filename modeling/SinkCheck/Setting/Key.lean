/-
  The recognised settings.

  There are twenty-eight of them, in a fixed order.  Besides, every setting whose name begins with
  `elastic.https.` is handed on to the encrypted connection unread.

  Main statements: `name_injective` and `mem_all`.
-/

namespace SinkCheck

/-- The recognised settings. -/
inductive Key where
  | connectionUrl
  | connectionUsername
  | connectionPassword
  | batchSize
  | maxInFlightRequests
  | maxBufferedRecords
  | lingerMs
  | flushTimeoutMs
  | maxRetries
  | retryBackoffMs
  | connectionTimeoutMs
  | readTimeoutMs
  | ignoreKey
  | ignoreSchema
  | ignoreKeyTopics
  | ignoreSchemaTopics
  | writeMethod
  | nullBehavior
  | dataStreamType
  | dataStreamDataset
  | dataStreamTimestampField
  | proxyHost
  | proxyPort
  | proxyUsername
  | proxyPassword
  | securityProtocol
  | kerberosPrincipal
  | kerberosKeytabPath
  deriving Repr, DecidableEq

namespace Key

/-- The name of a setting. -/
def name : Key → String
  | connectionUrl => "connection.url"
  | connectionUsername => "connection.username"
  | connectionPassword => "connection.password"
  | batchSize => "batch.size"
  | maxInFlightRequests => "max.in.flight.requests"
  | maxBufferedRecords => "max.buffered.records"
  | lingerMs => "linger.ms"
  | flushTimeoutMs => "flush.timeout.ms"
  | maxRetries => "max.retries"
  | retryBackoffMs => "retry.backoff.ms"
  | connectionTimeoutMs => "connection.timeout.ms"
  | readTimeoutMs => "read.timeout.ms"
  | ignoreKey => "key.ignore"
  | ignoreSchema => "schema.ignore"
  | ignoreKeyTopics => "topic.key.ignore"
  | ignoreSchemaTopics => "topic.schema.ignore"
  | writeMethod => "write.method"
  | nullBehavior => "behavior.on.null.values"
  | dataStreamType => "data.stream.type"
  | dataStreamDataset => "data.stream.dataset"
  | dataStreamTimestampField => "data.stream.timestamp.field"
  | proxyHost => "proxy.host"
  | proxyPort => "proxy.port"
  | proxyUsername => "proxy.username"
  | proxyPassword => "proxy.password"
  | securityProtocol => "elastic.security.protocol"
  | kerberosPrincipal => "kerberos.user.principal"
  | kerberosKeytabPath => "kerberos.keytab.path"

/-- All settings, in the order in which they are shown. -/
def all : List Key :=
  [connectionUrl, connectionUsername, connectionPassword, batchSize, maxInFlightRequests,
   maxBufferedRecords, lingerMs, flushTimeoutMs, maxRetries, retryBackoffMs, connectionTimeoutMs,
   readTimeoutMs, ignoreKey, ignoreSchema, ignoreKeyTopics, ignoreSchemaTopics, writeMethod,
   nullBehavior, dataStreamType, dataStreamDataset, dataStreamTimestampField, proxyHost, proxyPort,
   proxyUsername, proxyPassword, securityProtocol, kerberosPrincipal, kerberosKeytabPath]

theorem mem_all (k : Key) : k ∈ all := by cases k <;> decide

theorem nodup_all : all.Nodup := by decide

theorem nodup_names : (all.map name).Nodup := by decide +kernel

/-- No two settings have the same name. -/
theorem name_injective {k l : Key} (h : k.name = l.name) : k = l := by
  have inj : ∀ ks : List Key, (ks.map name).Nodup → k ∈ ks → l ∈ ks → k = l := by
    intro ks
    induction ks with
    | nil => intro _ hk; cases hk
    | cons a ks ih =>
      intro hn hk hl
      rw [List.map_cons, List.nodup_cons] at hn
      rcases List.mem_cons.1 hk with hk | hk <;> rcases List.mem_cons.1 hl with hl | hl
      · rw [hk, hl]
      · exact absurd (hk ▸ h ▸ List.mem_map_of_mem hl) hn.1
      · exact absurd (hl ▸ h ▸ List.mem_map_of_mem hk) hn.1
      · exact ih hn.2 hk hl
  exact inj all nodup_names (mem_all k) (mem_all l)

@[simp] theorem name_inj {k l : Key} : k.name = l.name ↔ k = l :=
  ⟨name_injective, fun h => h ▸ rfl⟩

/-- The setting of a name. -/
def ofName? (s : String) : Option Key := all.find? fun k => k.name == s

example : all.length = 28 := rfl

end Key

/-! ## Settings of the encrypted connection -/

namespace Https

/-- How the names of these settings begin. -/
def head : String := "elastic.https."

/-- The settings that an encrypted connection cannot do without. -/
def required : List String :=
  ["elastic.https.ssl.keystore.location", "elastic.https.ssl.keystore.password",
   "elastic.https.ssl.truststore.location", "elastic.https.ssl.truststore.password"]

end Https

end SinkCheck
