/-
  Status codes of HTTP.

  A code from 200 to 299 is a success.  The codes 502, 503 and 504 are given by a gateway whose
  service is not there.  Registered codes have a name.
-/

namespace SinkCheck.Http.Status

/-- Is it a success? -/
def isSuccess (code : Nat) : Bool := 200 ≤ code && code < 300

/-- Is the service behind the one that answered not there? -/
def isUnavailable (code : Nat) : Bool := code == 502 || code == 503 || code == 504

/-- Does the code point to another address? -/
def isRedirect (code : Nat) : Bool :=
  code == 301 || code == 302 || code == 303 || code == 307 || code == 308

/-- May an answer with the code end an exchange?  A code is 101 or has three digits and is at least 200. -/
def isFinal (code : Nat) : Bool := code == 101 || (200 ≤ code && code < 1000)

/-- Does an answer with the code never have a body? -/
def isBodiless (code : Nat) : Bool := code == 101 || code == 204 || code == 304

/-- The registered names. -/
def names : List (Nat × String) :=
  [(101, "Switching Protocols"),
   (200, "OK"), (201, "Created"), (202, "Accepted"), (203, "Non Authoritative Information"),
   (204, "No Content"), (205, "Reset Content"), (206, "Partial Content"), (207, "Multi-Status"),
   (208, "Already Reported"), (226, "IM Used"),
   (300, "Multiple Choices"), (301, "Moved Permanently"), (302, "Found"), (303, "See Other"),
   (304, "Not Modified"), (305, "Use Proxy"), (307, "Temporary Redirect"),
   (308, "Permanent Redirect"),
   (400, "Bad Request"), (401, "Unauthorized"), (402, "Payment Required"), (403, "Forbidden"),
   (404, "Not Found"), (405, "Method Not Allowed"), (406, "Not Acceptable"),
   (407, "Proxy Authentication Required"), (408, "Request Timeout"), (409, "Conflict"),
   (410, "Gone"), (411, "Length Required"), (412, "Precondition Failed"),
   (413, "Payload Too Large"), (414, "URI Too Long"), (415, "Unsupported Media Type"),
   (416, "Range Not Satisfiable"), (417, "Expectation Failed"), (418, "I'm a teapot"),
   (421, "Misdirected Request"), (422, "Unprocessable Entity"), (423, "Locked"),
   (424, "Failed Dependency"), (425, "Too Early"), (426, "Upgrade Required"),
   (428, "Precondition Required"), (429, "Too Many Requests"),
   (431, "Request Header Fields Too Large"), (451, "Unavailable For Legal Reasons"),
   (500, "Internal Server Error"), (501, "Not Implemented"), (502, "Bad Gateway"),
   (503, "Service Unavailable"), (504, "Gateway Timeout"), (505, "HTTP Version Not Supported"),
   (506, "Variant Also Negotiates"), (507, "Insufficient Storage"), (508, "Loop Detected"),
   (510, "Not Extended"), (511, "Network Authentication Required")]

/-- The name of a code; a code without one is called by its number. -/
def describe (code : Nat) : String :=
  match names.lookup code with
  | some name => name
  | none => "HTTP " ++ code.repr

example : describe 418 = "I'm a teapot" := by decide +kernel

example : describe 599 = "HTTP 599" := by decide +kernel

end SinkCheck.Http.Status
