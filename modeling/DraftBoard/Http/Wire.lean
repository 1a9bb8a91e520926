import DraftBoard.Http.Message
import DraftBoard.Text.Hex

/-!
# Messages on the wire

The bytes of a request, and the response that the bytes of a closed connection
hold.
-/

namespace DraftBoard.Http

/-- One line of a head. -/
def headLine (name value : String) : String := name ++ ": " ++ value ++ "\r\n"

/-- The text of a request to a server, which is asked to close the connection. -/
def Request.wire (request : Request) (server : String) : String :=
  request.method.name ++ " " ++ String.ofList request.url.target ++ " HTTP/1.1\r\n" ++
    (match request.contentType with
      | some type => headLine "content-type" type
      | none => "") ++
    String.join (request.authorizations.map (headLine "authorization")) ++
    headLine "accept" request.accept ++
    headLine "host" server ++
    (if request.method = .post then
      headLine "content-length" (toString request.body.utf8ByteSize)
    else "") ++
    headLine "connection" "close" ++ "\r\n" ++ request.body

/-- Bytes as characters of one byte each. -/
def charsOf (bytes : List UInt8) : List Char :=
  bytes.map fun byte => Char.ofNat byte.toNat

/-- The lines of a head and the bytes behind it; `line` is the current line in
reverse. -/
def splitHead (line : List UInt8) : List UInt8 → Option (List (List Char) × List UInt8)
  | 13 :: 10 :: 13 :: 10 :: body => some ([charsOf line.reverse], body)
  | 13 :: 10 :: rest => do
      let (lines, body) ← splitHead [] rest
      some (charsOf line.reverse :: lines, body)
  | byte :: rest => splitHead (byte :: line) rest
  | [] => none

/-- The status in the first line of a head. -/
def status? (line : List Char) : Option Nat :=
  let digits := ((line.dropWhile (· != ' ')).drop 1).takeWhile Char.isDigit
  if "HTTP/1.".toList.isPrefixOf line && digits.length == 3 then
    some (digits.foldl (fun value c => 10 * value + (c.toNat - 48)) 0)
  else none

/-- The value of a line of a head, for a name in lower case. -/
def headValue? (name : String) (lines : List (List Char)) : Option (List Char) :=
  (lines.find? fun line => (line.takeWhile (· != ':')).map Char.toLower == name.toList).map
    fun line => ((line.dropWhile (· != ':')).drop 1).dropWhile fun c => c == ' ' || c == '\t'

/-- The size that a chunk starts with, and the bytes behind. -/
def chunkSize : Nat → List UInt8 → Nat × List UInt8
  | size, byte :: rest =>
      match Text.hexValue? (Char.ofNat byte.toNat) with
      | some value => chunkSize (16 * size + value) rest
      | none => (size, byte :: rest)
  | size, [] => (size, [])

/-- The bytes behind the current line. -/
def behindLine (bytes : List UInt8) : List UInt8 :=
  (bytes.dropWhile (· != 10)).drop 1

/-- The bytes of chunks without their sizes; `rounds` bounds the count of chunks. -/
def joinChunks : Nat → List UInt8 → List UInt8
  | 0, _ => []
  | rounds + 1, bytes =>
      match chunkSize 0 bytes with
      | (0, _) => []
      | (size, rest) =>
          let rest := behindLine rest
          rest.take size ++ joinChunks rounds (rest.drop (size + 2))

/-- The body of a response whose head has these lines. -/
def bodyOf (lines : List (List Char)) (bytes : List UInt8) : List UInt8 :=
  match headValue? "transfer-encoding" lines, headValue? "content-length" lines with
  | some _, _ => joinChunks (bytes.length + 1) bytes
  | none, some digits =>
      bytes.take ((digits.takeWhile Char.isDigit).foldl
        (fun value c => 10 * value + (c.toNat - 48)) 0)
  | none, none => bytes

/-- The response in the bytes of a closed connection. -/
def Response.ofBytes? (bytes : List UInt8) : Option Response := do
  let (lines, rest) ← splitHead [] bytes
  let status ← status? (← lines.head?)
  some ⟨status, reasonPhrase status, ⟨(bodyOf lines rest).toArray⟩⟩

end DraftBoard.Http
