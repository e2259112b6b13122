import SinkCheck.Report.Issue
import SinkCheck.Setting.Fault
import SinkCheck.Settings.Basic
/-
  Rules that join several settings.

  Each rule looks at the settings alone and never at what other rules found, so all of them always
  run and no violation hides another.

  Main statement: `mem_all`, no rule is left out.
-/

namespace SinkCheck

/-- The rules. -/
inductive Rule where
  | credentials
  | dataStreamPair
  | dataStreamUpsert
  | dataStreamDelete
  | timestampField
  | ignoreKey
  | ignoreSchema
  | kerberosPair
  | kerberosCredentials
  | kerberosProxy
  | linger
  | bufferCapacity
  | proxy
  | ssl
  deriving Repr, DecidableEq

namespace Rule

/-- All rules, in the order in which their violations are given. -/
def all : List Rule :=
  [credentials, dataStreamPair, dataStreamUpsert, dataStreamDelete, timestampField, ignoreKey,
   ignoreSchema, kerberosPair, kerberosCredentials, kerberosProxy, linger, bufferCapacity, proxy, ssl]

theorem mem_all (r : Rule) : r ∈ all := by cases r <;> decide

/-- The name of a rule. -/
def name : Rule → String
  | credentials => "credentials"
  | dataStreamPair => "data_stream_pair"
  | dataStreamUpsert => "data_stream_upsert"
  | dataStreamDelete => "data_stream_delete"
  | timestampField => "timestamp_field"
  | ignoreKey => "ignore_key"
  | ignoreSchema => "ignore_schema"
  | kerberosPair => "kerberos_pair"
  | kerberosCredentials => "kerberos_credentials"
  | kerberosProxy => "kerberos_proxy"
  | linger => "linger"
  | bufferCapacity => "buffer_capacity"
  | proxy => "proxy"
  | ssl => "ssl"

/-- A rule as it is shown for inspection. -/
def inspected (r : Rule) : String := "Rule \x7b name: \"" ++ r.name ++ "\" \x7d"

/-! ## What a rule finds -/

/-- A violation, if a condition holds. -/
def violationIf (condition : Bool) (keys : List Key) (issue : Issue) : List Violation :=
  if condition then [.on keys issue] else []

/-- Is the buffer smaller than all requests in flight together?  A product that does not fit 32 bits is
never reached by a buffer. -/
def bufferTooSmall (s : Settings) : Bool :=
  let needed := s.batchSize.toInt * s.maxInFlightRequests.toInt
  decide (¬Width.int.Fits needed) || decide (s.maxBufferedRecords.toInt < needed)

/-- The settings that an encrypted connection needs and that are missing. -/
def missingHttpsSettings (s : Settings) : List String :=
  Https.required.filter fun name => !(s.httpsSettings.map Prod.fst).contains name

/-- The violations of a rule. -/
def violations (r : Rule) (s : Settings) : List Violation :=
  match r with
  | credentials =>
    violationIf (s.username.isSome != s.password.isSome)
      [.connectionUsername, .connectionPassword] .credentialsIncomplete
  | dataStreamPair =>
    violationIf ((s.dataStreamType != .none) != !s.dataset.isEmpty)
      [.dataStreamDataset, .dataStreamType] .dataStreamIncomplete
  | dataStreamUpsert =>
    violationIf (s.isDataStream && s.writeMethod == .upsert) [.writeMethod] .upsertWithDataStream
  | dataStreamDelete =>
    violationIf (s.isDataStream && s.nullBehavior == .delete) [.nullBehavior] .deleteWithDataStream
  | timestampField =>
    violationIf (!s.isDataStream && !s.timestampFields.isEmpty)
      [.dataStreamTimestampField] .timestampWithoutDataStream
  | ignoreKey =>
    violationIf (s.ignoreKey && !s.ignoreKeyTopics.isEmpty)
      [.ignoreKey, .ignoreKeyTopics] .ignoreKeyConflict
  | ignoreSchema =>
    violationIf (s.ignoreSchema && !s.ignoreSchemaTopics.isEmpty)
      [.ignoreSchema, .ignoreSchemaTopics] .ignoreSchemaConflict
  | kerberosPair =>
    violationIf (s.kerberosPrincipal.isSome != s.keytabPath.isSome)
      [.kerberosPrincipal, .kerberosKeytabPath] .kerberosIncomplete
  | kerberosCredentials =>
    violationIf (s.isKerberosEnabled && s.isAuthenticated)
      [.kerberosPrincipal, .kerberosKeytabPath, .connectionUsername, .connectionPassword]
      .kerberosWithCredentials
  | kerberosProxy =>
    violationIf (s.isKerberosEnabled && s.isProxyConfigured)
      [.kerberosPrincipal, .kerberosKeytabPath, .proxyHost] .kerberosWithProxy
  | linger =>
    violationIf (decide (s.flushTimeoutMs < s.lingerMs)) [.lingerMs, .flushTimeoutMs]
      (.lingerExceedsFlushTimeout s.lingerMs s.flushTimeoutMs)
  | bufferCapacity =>
    violationIf (bufferTooSmall s) [.maxBufferedRecords, .batchSize, .maxInFlightRequests]
      (.bufferTooSmall s.maxBufferedRecords s.batchSize s.maxInFlightRequests)
  | proxy =>
    if s.isProxyConfigured then
      violationIf (!s.proxyUsername.isEmpty != s.proxyPassword.isSome)
        [.proxyUsername, .proxyPassword] .proxyCredentialsIncomplete
    else
      violationIf (!s.proxyUsername.isEmpty) [.proxyUsername, .proxyHost]
        (.proxyHostRequired Key.proxyUsername.name) ++
      violationIf s.proxyPassword.isSome [.proxyPassword, .proxyHost]
        (.proxyHostRequired Key.proxyPassword.name)
  | ssl =>
    if s.isSslEnabled then
      violationIf (!(missingHttpsSettings s).isEmpty) [.securityProtocol]
        (.sslConfigsMissing (missingHttpsSettings s))
    else
      violationIf (!s.httpsSettings.isEmpty) [.securityProtocol] .sslConfigsWithoutSsl

end Rule

/-- The violations of all rules, in the order of the rules. -/
def Settings.violations (s : Settings) : List Violation := Rule.all.flatMap fun r => r.violations s

end SinkCheck
