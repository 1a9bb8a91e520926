import DraftBoard.Url.Host

/-!
# Reading URLs

`parse` reads an absolute URL the way that browsers do: dot segments are
resolved, backslashes count as slashes on the web, and characters that a part
cannot hold are percent-encoded.
-/

namespace DraftBoard.Url

open Text

/-- Visible ASCII characters outside a list. -/
def visibleExcept (refused : String) (c : Char) : Bool :=
  0x20 < c.toNat && c.toNat < 0x7f && !refused.toList.contains c

/-- Characters that a path segment keeps. -/
def keptInPath : Char → Bool := visibleExcept "\"#<>?`\x7b\x7d"

/-- Characters that the query of a web URL keeps. -/
def keptInQuery : Char → Bool := visibleExcept "\"#<>'"

/-- Characters that the query of any other URL keeps. -/
def keptInPlainQuery : Char → Bool := visibleExcept "\"#<>"

/-- Characters that a fragment keeps. -/
def keptInFragment : Char → Bool := visibleExcept "\"<>`"

/-- Characters that credentials keep. -/
def keptInCredentials : Char → Bool := visibleExcept "\"#<>?`\x7b\x7d/:;=@[\\]^|"

/-- Whether a character is a control character or a blank. -/
def isEdgeBlank (c : Char) : Bool := c.toNat ≤ 0x20

/-- A text without blanks at its ends and line breaks or tabs anywhere. -/
def tidy (text : List Char) : List Char :=
  ((text.dropWhile isEdgeBlank).reverse.dropWhile isEdgeBlank).reverse.filter fun c =>
    c != '\t' && c != '\n' && c != '\r'

/-- The scheme of a URL, lowered, and what follows its colon. -/
def scheme? (text : List Char) : Option (List Char × List Char) :=
  match cutBefore (· == ':') text with
  | (first :: rest, ':' :: after) =>
      if first.isAlpha && rest.all fun c => c.isAlphanum || c == '+' || c == '-' || c == '.' then
        some ((first :: rest).map Char.toLower, after)
      else none
  | _ => none

/-- The usual port of a web scheme; nothing for other schemes. -/
def usualPort? (scheme : List Char) : Option Nat :=
  if scheme = "http".toList ∨ scheme = "ws".toList then some 80
  else if scheme = "https".toList ∨ scheme = "wss".toList then some 443
  else if scheme = "ftp".toList then some 21
  else none

/-- A text cut at the first colon outside brackets. -/
def cutPort : Bool → List Char → List Char × Option (List Char)
  | _, [] => ([], none)
  | bracketed, c :: rest =>
      if c = ':' ∧ !bracketed then ([], some rest)
      else
        let inside := if c = '[' then true else if c = ']' then false else bracketed
        let (host, port) := cutPort inside rest
        (c :: host, port)

/-- The number of a port, the usual one left out. -/
def port? (usual : Option Nat) (digits : List Char) : Option (Option Nat) :=
  if digits.isEmpty then some none
  else do
    let port ← numeral? 10 digits
    if 65535 < port then none else some (if some port = usual then none else some port)

/-- A text cut at its last occurrence of a mark. -/
def cutLast (mark : Char) (text : List Char) : Option (List Char × List Char) :=
  if text.contains mark then
    let after := (text.reverse.takeWhile (· != mark)).reverse
    some (text.take (text.length - after.length - 1), after)
  else none

/-- The authority that a text names, read with what its kind of host is read with, and what
follows the digits of its port. -/
def authority? (readHost : List Char → Option Host) (usual : Option Nat) (text : List Char) :
    Option (Authority × List Char) := do
  let (credentials, server) := (cutLast '@' text).getD ([], text)
  let (user, password) := cutBefore (· == ':') credentials
  let (hostText, portText) := cutPort false server
  let (digits, rest) := cutBefore (fun c => !c.isDigit) (portText.getD [])
  let authority : Authority := {
    user := percentEncode keptInCredentials user
    password := percentEncode keptInCredentials (password.drop 1)
    host := ← readHost hostText
    port := ← port? usual digits }
  let bare := hostText.isEmpty && (text == ['@'] || portText.isSome || !authority.credentials.isEmpty)
  if bare || !(rest.isEmpty || rest.head? == some '\\') then none else some (authority, rest)

/-- Whether a segment means its own directory. -/
def isDot (segment : List Char) : Bool :=
  segment.map Char.toLower == ['.'] || segment.map Char.toLower == "%2e".toList

/-- Whether a segment means the directory above. -/
def isDoubleDot (segment : List Char) : Bool :=
  let lowered := segment.map Char.toLower
  lowered == "..".toList || lowered == ".%2e".toList || lowered == "%2e.".toList ||
    lowered == "%2e%2e".toList

/-- Whether a segment names a drive: a letter and a colon or a bar. -/
def isDrive : List Char → Bool
  | [letter, mark] => letter.isAlpha && (mark == ':' || mark == '|')
  | _ => false

/-- The segments above a directory, last first; nothing is above a drive. -/
def climb : List (List Char) → List (List Char)
  | [] => []
  | segment :: above =>
      if isDrive (segment.takeWhile (· != '\\')) then segment :: above else above

/-- Segments with the dot ones resolved; `above` holds the ones so far, last first.
A dot segment at the end leaves an empty one. -/
def resolveDots (written : List (List Char) → List Char → List Char)
    (above : List (List Char)) : List (List Char) → List (List Char)
  | [] => above.reverse
  | segment :: rest =>
      if isDoubleDot segment then
        resolveDots written (if rest.isEmpty then [] :: climb above else climb above) rest
      else if isDot segment then
        resolveDots written (if rest.isEmpty then [] :: above else above) rest
      else resolveDots written (written above segment :: above) rest

/-- A segment as it is written behind others. -/
def writtenSegment (_above : List (List Char)) (segment : List Char) : List Char :=
  percentEncode keptInPath segment

/-- A segment of a file path as it is written behind others: a drive in front of all others
has a colon. -/
def writtenFileSegment (above : List (List Char)) (segment : List Char) : List Char :=
  if above.isEmpty && isDrive segment then segment.take 1 ++ [':']
  else percentEncode keptInPath segment

/-- The segments of a path that starts with a slash or is empty. -/
def segments (path : List Char) : List (List Char) :=
  resolveDots writtenSegment [] (splitAtMark '/' (path.drop 1))

/-- The query and the fragment at the end of a text. -/
def ending (keep : Char → Bool) (text : List Char) : Option (List Char) × Option (List Char) :=
  let (before, hash) := cutBefore (· == '#') text
  let query :=
    match before with
    | '?' :: query => some (percentEncode keep query)
    | _ => none
  (query, hash.tail?.map (percentEncode keptInFragment))

/-- Whether a character starts the query or the fragment. -/
def isEnd (c : Char) : Bool := c == '?' || c == '#'

/-- Whether a character separates the segments of a path of the web. -/
def isSlash (c : Char) : Bool := c == '/' || c == '\\'

/-- A text with all its slashes leaning forward. -/
def straighten (text : List Char) : List Char :=
  text.map fun c => if c = '\\' then '/' else c

/-- A URL of the web after its colon. -/
def parseWeb (scheme text : List Char) : Option Url := do
  let (authorityText, rest) := cutBefore (fun c => isSlash c || isEnd c) (text.dropWhile isSlash)
  let (authority, _) ← authority? host? (usualPort? scheme) authorityText
  let (path, rest) := cutBefore isEnd rest
  let (query, fragment) := ending keptInQuery rest
  some ⟨scheme, some authority, .segments (segments (straighten path)), query, fragment⟩

/-- The authority with a host and nothing else. -/
def Authority.ofHost (host : Host) : Authority := ⟨[], [], host, none⟩

/-- The segments of a file path without those that are empty in front of others. -/
def trimSegments (names : List (List Char)) : List (List Char) :=
  match names.dropWhile List.isEmpty with
  | [] => [[]]
  | names => names

/-- The host of a file and the segments of its path, given the pieces of the path.  A path
that starts with a drive has no host. -/
def locateFile (host : Host) (pieces : List (List Char)) : Host × List (List Char) :=
  let names := resolveDots writtenFileSegment [] pieces
  (if names.head?.any isDrive then .name [] else host, trimSegments names)

/-- The host and the segments of a file path, its slashes leaning forward.  A host stands
behind two slashes; this machine and drives are none. -/
def fileLocation? (path : List Char) : Option (Host × List (List Char)) :=
  match path with
  | '/' :: '/' :: after => do
      let (hostText, behind) := cutBefore (· == '/') after
      if isDrive hostText then some (locateFile (.name []) (splitAtMark '/' after))
      else
        let host ← if hostText.isEmpty then some (.name []) else host? hostText
        if host = .name [] ∨ host = .name "localhost".toList then
          some (locateFile (.name []) (splitAtMark '/' behind))
        else some (locateFile host (splitAtMark '/' (behind.drop 1)))
  | '/' :: after => some (locateFile (.name []) (splitAtMark '/' after))
  | _ => some (locateFile (.name []) (splitAtMark '/' path))

/-- A URL of a file after its colon. -/
def parseFile (scheme text : List Char) : Option Url := do
  let (path, rest) := cutBefore isEnd text
  let (host, names) ← fileLocation? (straighten path)
  let (query, fragment) := ending keptInQuery rest
  some ⟨scheme, some (.ofHost host), .segments names, query, fragment⟩

/-- Any other URL after its colon. -/
def parseOther (scheme text : List Char) : Option Url := do
  let (before, rest) := cutBefore isEnd text
  let (query, fragment) := ending keptInPlainQuery rest
  match before with
  | '/' :: '/' :: after =>
      let (authorityText, path) := cutBefore (· == '/') after
      let (authority, behind) ← authority? plainHost? none authorityText
      let path := if behind.isEmpty then path else '/' :: behind ++ path
      let names := if path.isEmpty then [] else segments path
      some ⟨scheme, some authority, .segments names, query, fragment⟩
  | '/' :: _ => some ⟨scheme, none, .segments (segments before), query, fragment⟩
  | _ => some ⟨scheme, none, .plain (percentEncode keptPlain before), query, fragment⟩

/-- The URL that a text writes, if it writes an absolute one. -/
def parse (text : String) : Option Url := do
  let (scheme, rest) ← scheme? (tidy text.toList)
  if (usualPort? scheme).isSome then parseWeb scheme rest
  else if scheme = "file".toList then parseFile scheme rest
  else parseOther scheme rest

end DraftBoard.Url
