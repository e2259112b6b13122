import SinkCheck.Setting.Keyword
/-
  The settings of a sink, understood.

  Besides the settings themselves this holds the features that they switch on: credentials, a data
  stream, Kerberos, a proxy, encryption.
-/

namespace SinkCheck

/-- The settings of a sink.  A text that may be left out is an `Option`; where a blank text and no text
mean the same, the text is empty. -/
structure Settings where
  connectionUrls : List String
  username : Option String
  password : Option String
  batchSize : Int32
  maxInFlightRequests : Int32
  maxBufferedRecords : Int32
  lingerMs : Int64
  flushTimeoutMs : Int64
  maxRetries : Int32
  retryBackoffMs : Int64
  connectionTimeoutMs : Int32
  readTimeoutMs : Int32
  ignoreKey : Bool
  ignoreSchema : Bool
  ignoreKeyTopics : List String
  ignoreSchemaTopics : List String
  writeMethod : WriteMethod
  nullBehavior : NullBehavior
  dataStreamType : DataStreamType
  dataset : String
  timestampFields : List String
  proxyHost : String
  proxyPort : UInt16
  proxyUsername : String
  proxyPassword : Option String
  securityProtocol : SecurityProtocol
  kerberosPrincipal : Option String
  keytabPath : Option String
  httpsSettings : List (String × String)
  deriving Repr, DecidableEq

namespace Settings

/-- Does the sink log in with a name and a password? -/
def isAuthenticated (s : Settings) : Bool := s.username.isSome && s.password.isSome

/-- Does the sink write to a data stream? -/
def isDataStream (s : Settings) : Bool := s.dataStreamType != .none && !s.dataset.isEmpty

/-- Is anything of Kerberos set? -/
def isKerberosEnabled (s : Settings) : Bool := s.kerberosPrincipal.isSome || s.keytabPath.isSome

/-- Does the sink go through a proxy? -/
def isProxyConfigured (s : Settings) : Bool := !s.proxyHost.isEmpty

/-- Does the sink log in at the proxy? -/
def isProxyAuthenticated (s : Settings) : Bool :=
  s.isProxyConfigured && !s.proxyUsername.isEmpty && s.proxyPassword.isSome

/-- Is the connection encrypted? -/
def isSslEnabled (s : Settings) : Bool := s.securityProtocol == .ssl

end Settings

end SinkCheck
