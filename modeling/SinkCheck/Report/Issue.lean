import SinkCheck.Setting.Key
import SinkCheck.Text.Numeral
/-
  Issues: what is wrong with settings that are well-formed one by one.

  An issue says what is wrong; a violation is an issue together with the settings that it is held
  against.
-/

namespace SinkCheck

/-- What is wrong with a configuration as a whole. -/
inductive Issue where
  | credentialsIncomplete
  | dataStreamIncomplete
  | upsertWithDataStream
  | deleteWithDataStream
  | timestampWithoutDataStream
  | ignoreKeyConflict
  | ignoreSchemaConflict
  | kerberosIncomplete
  | kerberosWithCredentials
  | kerberosWithProxy
  | lingerExceedsFlushTimeout (lingerMs flushTimeoutMs : Int64)
  | bufferTooSmall (maxBufferedRecords batchSize maxInFlightRequests : Int32)
  | proxyHostRequired (property : String)
  | proxyCredentialsIncomplete
  | sslConfigsWithoutSsl
  | sslConfigsMissing (missing : List String)
  | connectionFailed (detail : String)
  | authenticationFailed (detail : String)
  | sslConnectionFailed (detail : String)
  | kerberosConnectionFailed (detail : String)
  | proxyConnectionFailed (detail : String)
  | clientCreationFailed (detail : String)
  | dataStreamVersionIncompatible (serverVersion minimumVersion : String)
  | connectorVersionIncompatible (connectorVersion serverVersion minimumVersion : String)
  deriving Repr, DecidableEq

namespace Issue

/-- The kind of an issue, in one word. -/
def kind : Issue → String
  | credentialsIncomplete => "credentials_incomplete"
  | dataStreamIncomplete => "data_stream_incomplete"
  | upsertWithDataStream => "upsert_with_data_stream"
  | deleteWithDataStream => "delete_with_data_stream"
  | timestampWithoutDataStream => "timestamp_without_data_stream"
  | ignoreKeyConflict => "ignore_key_conflict"
  | ignoreSchemaConflict => "ignore_schema_conflict"
  | kerberosIncomplete => "kerberos_incomplete"
  | kerberosWithCredentials => "kerberos_with_credentials"
  | kerberosWithProxy => "kerberos_with_proxy"
  | lingerExceedsFlushTimeout .. => "linger_exceeds_flush_timeout"
  | bufferTooSmall .. => "buffer_too_small"
  | proxyHostRequired .. => "proxy_host_required"
  | proxyCredentialsIncomplete => "proxy_credentials_incomplete"
  | sslConfigsWithoutSsl => "ssl_configs_without_ssl"
  | sslConfigsMissing .. => "ssl_configs_missing"
  | connectionFailed .. => "connection_failed"
  | authenticationFailed .. => "authentication_failed"
  | sslConnectionFailed .. => "ssl_connection_failed"
  | kerberosConnectionFailed .. => "kerberos_connection_failed"
  | proxyConnectionFailed .. => "proxy_connection_failed"
  | clientCreationFailed .. => "client_creation_failed"
  | dataStreamVersionIncompatible .. => "data_stream_version_incompatible"
  | connectorVersionIncompatible .. => "connector_version_incompatible"

/-! ## Wording -/

/-- A text between single quotes. -/
def inQuotes (s : String) : String := "'" ++ s ++ "'"

/-- The name of a setting between single quotes. -/
def named (k : Key) : String := inQuotes k.name

/-- The message of the other side, when it gave one. -/
def detailText (detail : String) : String :=
  if detail.isEmpty then "" else " Error message: " ++ detail

/-- The wording of an issue. -/
def message : Issue → String
  | credentialsIncomplete =>
    "Both " ++ named .connectionUsername ++ " and " ++ named .connectionPassword ++ " must be set."
  | dataStreamIncomplete =>
    "Either both or neither " ++ named .dataStreamDataset ++ " and " ++ named .dataStreamType ++
    " must be set."
  | upsertWithDataStream =>
    "Upserts are not supported with data streams. " ++ Key.writeMethod.name ++
    " must not be UPSERT if " ++ Key.dataStreamType.name ++ " and " ++ Key.dataStreamDataset.name ++
    " are set."
  | deleteWithDataStream =>
    "Deletes are not supported with data streams. " ++ Key.nullBehavior.name ++
    " must not be DELETE if " ++ Key.dataStreamType.name ++ " and " ++ Key.dataStreamDataset.name ++
    " are set."
  | timestampWithoutDataStream =>
    "Mapping a field to the '@timestamp' field is only necessary for data streams. " ++
    Key.dataStreamTimestampField.name ++ " must not be set if " ++ Key.dataStreamType.name ++
    " and " ++ Key.dataStreamDataset.name ++ " are not set."
  | ignoreKeyConflict =>
    named .ignoreKeyTopics ++ " can not be set if " ++ named .ignoreKey ++ " is true."
  | ignoreSchemaConflict =>
    named .ignoreSchemaTopics ++ " can not be set if " ++ named .ignoreSchema ++ " is true."
  | kerberosIncomplete =>
    "Either both or neither " ++ named .kerberosPrincipal ++ " and " ++
    named .kerberosKeytabPath ++ " must be set."
  | kerberosWithCredentials =>
    "Either only Kerberos (" ++ Key.kerberosPrincipal.name ++ ", " ++ Key.kerberosKeytabPath.name ++
    ") or connection credentials (" ++ Key.connectionUsername.name ++ ", " ++
    Key.connectionPassword.name ++ ") must be set."
  | kerberosWithProxy =>
    "Kerberos (" ++ Key.kerberosPrincipal.name ++ ", " ++ Key.kerberosKeytabPath.name ++
    ") is not supported with proxy settings (" ++ Key.proxyHost.name ++ ")."
  | lingerExceedsFlushTimeout linger flush =>
    named .lingerMs ++ " (" ++ Text.integerText linger.toInt ++ ") can not be larger than " ++
    named .flushTimeoutMs ++ " (" ++ Text.integerText flush.toInt ++ ")."
  | bufferTooSmall buffered batch inFlight =>
    named .maxBufferedRecords ++ " (" ++ Text.integerText buffered.toInt ++
    ") must be larger than or equal to " ++ named .batchSize ++ " (" ++
    Text.integerText batch.toInt ++ ") x " ++ named .maxInFlightRequests ++ " (" ++
    Text.integerText inFlight.toInt ++ ")."
  | proxyHostRequired property =>
    named .proxyHost ++ " must be set to use " ++ inQuotes property ++ "."
  | proxyCredentialsIncomplete =>
    "Either both or neither " ++ named .proxyUsername ++ " and " ++ named .proxyPassword ++
    " can be set."
  | sslConfigsWithoutSsl => named .securityProtocol ++ " must be set to 'SSL' to use SSL configs."
  | sslConfigsMissing missing =>
    "At least these SSL configs ('elastic.https.ssl.keystore.location', " ++
    "'elastic.https.ssl.keystore.password', 'elastic.https.ssl.truststore.location', and " ++
    "'elastic.https.ssl.truststore.password') must be present for SSL support. Otherwise set " ++
    named .securityProtocol ++ " to 'PLAINTEXT'." ++
    (if missing.isEmpty then "" else " Missing: " ++ ", ".intercalate missing ++ ".")
  | connectionFailed detail => "Could not connect to Elasticsearch." ++ detailText detail
  | authenticationFailed detail =>
    "Could not authenticate the user. Check the " ++ named .connectionUsername ++ " and " ++
    named .connectionPassword ++ "." ++ detailText detail
  | sslConnectionFailed detail =>
    "Could not connect to Elasticsearch. Check your SSL settings." ++ detailText detail
  | kerberosConnectionFailed detail =>
    "Could not connect to Elasticsearch. Check your Kerberos settings." ++ detailText detail
  | proxyConnectionFailed detail =>
    "Could not connect to Elasticsearch. Check your proxy settings." ++ detailText detail
  | clientCreationFailed detail => "Failed to create client to verify connection. " ++ detail
  | dataStreamVersionIncompatible server minimum =>
    "Elasticsearch version " ++ server ++
    " is not compatible with data streams. Elasticsearch version must be at least " ++ minimum ++ "."
  | connectorVersionIncompatible connector server minimum =>
    "Connector version " ++ connector ++ " is not compatible with Elasticsearch version " ++ server ++
    ". Elasticsearch version must be at least " ++ minimum ++ "."

end Issue

/-! ## Violations -/

/-- An issue and the names of the settings that it is held against. -/
structure Violation where
  fields : List String
  issue : Issue
  deriving Repr, DecidableEq

namespace Violation

/-- An issue held against recognised settings. -/
def on (keys : List Key) (issue : Issue) : Violation := ⟨keys.map Key.name, issue⟩

/-- Is the issue held against this setting? -/
def appliesTo (v : Violation) (property : String) : Bool := v.fields.contains property

/-- The wording of a violation. -/
def message (v : Violation) : String := "[" ++ ", ".intercalate v.fields ++ "] " ++ v.issue.message

end Violation

example : (Violation.on [.writeMethod] (.connectionFailed "gone")).message =
    "[write.method] Could not connect to Elasticsearch. Error message: gone" := by decide +kernel

end SinkCheck
