import SinkCheck.Setting.Definition
import SinkCheck.Setting.Key
import SinkCheck.Setting.Keyword
/-
  The definitions of the recognised settings.
-/

namespace SinkCheck

/-- The words of a type of keywords. -/
def Keyword.words (α : Type) [Keyword α] : List String := (Keyword.all : List α).map Keyword.word

namespace Key

/-- The kind of a setting. -/
def kind : Key → Kind
  | connectionUrl => .list
  | connectionUsername => .string
  | connectionPassword => .secret
  | batchSize => .integer .int
  | maxInFlightRequests => .integer .int
  | maxBufferedRecords => .integer .int
  | lingerMs => .integer .long
  | flushTimeoutMs => .integer .long
  | maxRetries => .integer .int
  | retryBackoffMs => .integer .long
  | connectionTimeoutMs => .integer .int
  | readTimeoutMs => .integer .int
  | ignoreKey => .boolean
  | ignoreSchema => .boolean
  | ignoreKeyTopics => .list
  | ignoreSchemaTopics => .list
  | writeMethod => .choice ["INSERT", "UPSERT"]
  | nullBehavior => .choice ["IGNORE", "DELETE", "FAIL"]
  | dataStreamType => .choice ["LOGS", "METRICS", "SYNTHETICS", "TRACES", "NONE"]
  | dataStreamDataset => .string
  | dataStreamTimestampField => .list
  | proxyHost => .string
  | proxyPort => .integer .int
  | proxyUsername => .string
  | proxyPassword => .secret
  | securityProtocol => .choice ["PLAINTEXT", "SSL"]
  | kerberosPrincipal => .string
  | kerberosKeytabPath => .string

/-- What a setting means when it is absent. -/
def default : Key → Default
  | connectionUrl => .required
  | connectionUsername => .null
  | connectionPassword => .null
  | batchSize => .text "2000"
  | maxInFlightRequests => .text "5"
  | maxBufferedRecords => .text "20000"
  | lingerMs => .text "1"
  | flushTimeoutMs => .text "180000"
  | maxRetries => .text "5"
  | retryBackoffMs => .text "100"
  | connectionTimeoutMs => .text "1000"
  | readTimeoutMs => .text "3000"
  | ignoreKey => .text "false"
  | ignoreSchema => .text "false"
  | ignoreKeyTopics => .text ""
  | ignoreSchemaTopics => .text ""
  | writeMethod => .text "INSERT"
  | nullBehavior => .text "FAIL"
  | dataStreamType => .text "NONE"
  | dataStreamDataset => .text ""
  | dataStreamTimestampField => .text ""
  | proxyHost => .text ""
  | proxyPort => .text "8080"
  | proxyUsername => .text ""
  | proxyPassword => .null
  | securityProtocol => .text "PLAINTEXT"
  | kerberosPrincipal => .null
  | kerberosKeytabPath => .null

/-- The constraint on a setting. -/
def constraint : Key → Constraint
  | connectionUrl => .urls
  | batchSize => .range 1 1000000
  | maxInFlightRequests => .range 1 1000
  | maxBufferedRecords => .range 1 2147483647
  | lingerMs => .range 0 604800000
  | flushTimeoutMs => .atLeast 1000
  | maxRetries => .atLeast 0
  | retryBackoffMs => .atLeast 0
  | connectionTimeoutMs => .atLeast 0
  | readTimeoutMs => .atLeast 0
  | dataStreamDataset => .dataset
  | proxyPort => .range 1 65535
  | kerberosKeytabPath => .keytab
  | _ => .free

/-- What a setting is for. -/
def doc : Key → String
  | connectionUrl => "The comma-separated list of one or more search service URLs."
  | connectionUsername => "The username used to authenticate with the search service."
  | connectionPassword => "The password used to authenticate with the search service."
  | batchSize => "The number of records to process as a batch when writing."
  | maxInFlightRequests => "The maximum number of indexing requests that can be in-flight."
  | maxBufferedRecords =>
    "The maximum number of records each task will buffer before blocking."
  | lingerMs => "Linger time in milliseconds for batching."
  | flushTimeoutMs => "The timeout in milliseconds to use for periodic flushing."
  | maxRetries => "The maximum number of retries allowed in case of retriable errors."
  | retryBackoffMs =>
    "How long to wait in milliseconds before attempting the first retry."
  | connectionTimeoutMs =>
    "How long to wait in milliseconds when establishing a connection."
  | readTimeoutMs =>
    "How long to wait in milliseconds for the service to return a response."
  | ignoreKey => "Whether to ignore the record key for the document ID."
  | ignoreSchema => "Whether to ignore schemas during indexing."
  | ignoreKeyTopics => "Topics for which the record key is ignored."
  | ignoreSchemaTopics => "Topics for which the value schema is ignored."
  | writeMethod => "Method used for writing data: insert or upsert."
  | nullBehavior => "How to handle records with a non-null key and a null value."
  | dataStreamType =>
    "Generic type describing the data to be written to a data stream."
  | dataStreamDataset =>
    "Describes the data ingested and its structure for a data stream."
  | dataStreamTimestampField =>
    "Record fields used as the data stream's @timestamp field."
  | proxyHost => "The address of the proxy host to connect through."
  | proxyPort => "The port of the proxy host to connect through."
  | proxyUsername => "The username for the proxy host."
  | proxyPassword => "The password for the proxy host."
  | securityProtocol => "The security protocol to use when connecting to the service."
  | kerberosPrincipal =>
    "The Kerberos user principal the connector may use to authenticate."
  | kerberosKeytabPath =>
    "The path to the keytab file to use for authentication with Kerberos."

/-- The definition of a setting. -/
def definition (k : Key) : Definition := ⟨k.name, k.kind, k.default, k.constraint, k.doc⟩

@[simp] theorem name_definition (k : Key) : k.definition.name = k.name := rfl

/-- A setting that takes one of a few words takes the words of its keywords. -/
theorem kind_writeMethod : kind writeMethod = .choice (Keyword.words WriteMethod) := rfl

theorem kind_nullBehavior : kind nullBehavior = .choice (Keyword.words NullBehavior) := rfl

theorem kind_dataStreamType : kind dataStreamType = .choice (Keyword.words DataStreamType) := rfl

theorem kind_securityProtocol :
    kind securityProtocol = .choice (Keyword.words SecurityProtocol) := rfl

end Key

end SinkCheck
