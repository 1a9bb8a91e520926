import DraftBoard.Text.Percent

/-!
# URLs

A URL in its parsed form.  `text` writes it out, `target` is what a request for
it asks its server for: the path and the query, never the fragment.
-/

namespace DraftBoard

/-- The host of a URL; a name may be empty. -/
inductive Url.Host where
  | name (text : List Char)
  | ipv4 (value : Nat)
  | ipv6 (pieces : List Nat)
deriving DecidableEq, Repr

/-- Who is asked: credentials, a host and a port other than the usual one. -/
structure Url.Authority where
  user : List Char
  password : List Char
  host : Url.Host
  port : Option Nat
deriving DecidableEq, Repr

/-- What stands after the authority: segments behind slashes, or a text that is
not divided any further. -/
inductive Url.Location where
  | segments (names : List (List Char))
  | plain (text : List Char)
deriving DecidableEq, Repr

/-- A parsed URL. -/
structure Url where
  scheme : List Char
  authority : Option Url.Authority
  location : Url.Location
  query : Option (List Char)
  fragment : Option (List Char)
deriving DecidableEq, Repr

namespace Url

/-- The longest run of at least two zeros: where it starts and how long it is. -/
def zeroRun (pieces : List Nat) : Option (Nat × Nat) :=
  let runAt (start : Nat) : Nat := ((pieces.drop start).takeWhile (· == 0)).length
  (List.range pieces.length).foldl (fun best start =>
    let length := runAt start
    match best with
    | some (_, longest) => if longest < length then some (start, length) else best
    | none => if 2 ≤ length then some (start, length) else none) none

/-- Pieces of an IPv6 address between colons. -/
def joinPieces (pieces : List Nat) : List Char :=
  [':'].intercalate (pieces.map (Nat.toDigits 16))

namespace Host

/-- The four bytes of an IPv4 address. -/
def dotted (value : Nat) : List Char :=
  ['.'].intercalate
    ([value / 16777216, value / 65536 % 256, value / 256 % 256, value % 256].map
      (Nat.toDigits 10))

/-- The text of a host. -/
def chars : Host → List Char
  | .name text => text
  | .ipv4 value => dotted value
  | .ipv6 pieces =>
      match zeroRun pieces with
      | some (start, length) =>
          '[' :: joinPieces (pieces.take start) ++ [':', ':'] ++
            joinPieces (pieces.drop (start + length)) ++ [']']
      | none => '[' :: joinPieces pieces ++ [']']

end Host

namespace Authority

/-- The host with the port, if there is one. -/
def server (authority : Authority) : List Char :=
  authority.host.chars ++
    match authority.port with
    | some port => ':' :: Nat.toDigits 10 port
    | none => []

/-- The credentials in front of the host. -/
def credentials (authority : Authority) : List Char :=
  if authority.user.isEmpty && authority.password.isEmpty then []
  else
    authority.user ++
      (if authority.password.isEmpty then [] else ':' :: authority.password) ++ ['@']

end Authority

/-- The text of a location. -/
def Location.chars : Location → List Char
  | .segments names => names.flatMap fun name => '/' :: name
  | .plain text => text

/-- A part that follows a mark, if there is one. -/
def marked (mark : Char) : Option (List Char) → List Char
  | some part => mark :: part
  | none => []

/-- What a request for the URL asks its server for. -/
def target (url : Url) : List Char :=
  url.location.chars ++ marked '?' url.query

/-- What stands between the scheme and the path: the authority behind two slashes.
Without one, a path that starts with two slashes is kept apart from the scheme. -/
def front (url : Url) : List Char :=
  match url.authority, url.location with
  | some authority, _ => '/' :: '/' :: authority.credentials ++ authority.server
  | none, .segments ([] :: _ :: _) => ['/', '.']
  | none, _ => []

/-- The written form. -/
def chars (url : Url) : List Char :=
  url.scheme ++ ':' :: (url.front ++ url.target ++ marked '#' url.fragment)

/-- The written form as a text. -/
def text (url : Url) : String := String.ofList url.chars

/-- The text that percent-encoded characters stand for, if they are those of one. -/
def readable? (chars : List Char) : Option String :=
  String.fromUTF8? ⟨(Text.percentDecode chars).toArray⟩

/-- The user and the password as texts.  A password that is empty or no text is left out, and
without one there has to be a user. -/
def Authority.readCredentials? (authority : Authority) : Option (String × Option String) := do
  let user ← readable? authority.user
  let password := if authority.password.isEmpty then none else readable? authority.password
  if authority.user.isEmpty && password.isNone then none else some (user, password)

/-- The credentials that a request takes out of the URL. -/
def readCredentials? (url : Url) : Option (String × Option String) :=
  url.authority.bind Authority.readCredentials?

/-- The URL that a request carries: credentials that can be read as texts are not part of it. -/
def withoutCredentials (url : Url) : Url :=
  { url with authority := url.authority.map fun authority =>
      if authority.readCredentials?.isSome then { authority with user := [], password := [] }
      else authority }

/-- The longest URL that a request can carry. -/
def lengthLimit : Nat := 65534

/-- Whether a request can carry the host: a name has none of four marks. -/
def Host.isCarried (host : Host) : Bool :=
  !host.chars.any fun c => "\"`\x7b\x7d".toList.contains c

/-- Whether a request can be sent for the URL: it is one of the web, and a request can
carry it. -/
def isRequestable (url : Url) : Bool :=
  (url.scheme == "http".toList || url.scheme == "https".toList) &&
    (url.authority.any fun authority => authority.host.isCarried) &&
    url.chars.length ≤ lengthLimit

end Url

end DraftBoard
