import DraftBoard.Url.Basic

/-!
# Requests and responses

The messages that are exchanged with a server, and the standard words for the
status of a response.
-/

namespace DraftBoard.Http

/-- What a request wants. -/
inductive Method where
  | get
  | post
deriving DecidableEq, Repr

/-- The word for a method. -/
def Method.name : Method → String
  | .get => "GET"
  | .post => "POST"

/-- A request to the server of its URL. -/
structure Request where
  method : Method
  url : Url
  /-- The headers of that name, in the order in which they are sent. -/
  authorizations : List String
  accept : String
  contentType : Option String
  body : String
deriving Repr

/-- What a server answers. -/
structure Response where
  status : Nat
  reason : String
  body : ByteArray

/-- Why there is no response. -/
inductive SendFailure where
  /-- Nothing listens at the address. -/
  | unreachable
  /-- The connection was closed before an answer came. -/
  | closed
deriving DecidableEq, Repr

/-- A way to exchange messages with servers. -/
structure Transport (m : Type → Type) where
  send : Request → m (Except SendFailure Response)

/-- Whether a status counts as a failure. -/
def failing (status : Nat) : Bool := 400 ≤ status && status < 600

/-- The standard words for each status. -/
def reasonPhrases : List (Nat × String) := [
  (100, "Continue"), (101, "Switching Protocols"), (102, "Processing"),
  (200, "OK"), (201, "Created"), (202, "Accepted"), (203, "Non Authoritative Information"),
  (204, "No Content"), (205, "Reset Content"), (206, "Partial Content"),
  (207, "Multi-Status"), (208, "Already Reported"), (226, "IM Used"),
  (300, "Multiple Choices"), (301, "Moved Permanently"), (302, "Found"), (303, "See Other"),
  (304, "Not Modified"), (305, "Use Proxy"), (307, "Temporary Redirect"),
  (308, "Permanent Redirect"),
  (400, "Bad Request"), (401, "Unauthorized"), (402, "Payment Required"), (403, "Forbidden"),
  (404, "Not Found"), (405, "Method Not Allowed"), (406, "Not Acceptable"),
  (407, "Proxy Authentication Required"), (408, "Request Timeout"), (409, "Conflict"),
  (410, "Gone"), (411, "Length Required"), (412, "Precondition Failed"),
  (413, "Payload Too Large"), (414, "URI Too Long"), (415, "Unsupported Media Type"),
  (416, "Range Not Satisfiable"), (417, "Expectation Failed"), (418, "I'm a teapot"),
  (421, "Misdirected Request"), (422, "Unprocessable Entity"), (423, "Locked"),
  (424, "Failed Dependency"), (425, "Too Early"), (426, "Upgrade Required"),
  (428, "Precondition Required"), (429, "Too Many Requests"),
  (431, "Request Header Fields Too Large"), (451, "Unavailable For Legal Reasons"),
  (500, "Internal Server Error"), (501, "Not Implemented"), (502, "Bad Gateway"),
  (503, "Service Unavailable"), (504, "Gateway Timeout"), (505, "HTTP Version Not Supported"),
  (506, "Variant Also Negotiates"), (507, "Insufficient Storage"), (508, "Loop Detected"),
  (510, "Not Extended"), (511, "Network Authentication Required")]

/-- The standard words for a status; empty where there are none. -/
def reasonPhrase (status : Nat) : String :=
  (reasonPhrases.lookup status).getD ""

end DraftBoard.Http
