import DraftBoard.Files.Tree
import DraftBoard.Json.Problem

/-!
# Why a transfer fails

A title that no dashboard bears, a request that does not succeed, a file that
cannot be written, or a document of the wrong shape.
-/

namespace DraftBoard

/-- Why a request does not succeed.  The URL is the one that was sent, as parsing
leaves it. -/
inductive RequestError where
  /-- The URL cannot be parsed, or names no server to send to. -/
  | builder (url : Option String)
  /-- Nothing listens. -/
  | connect (url : String)
  /-- The connection ends without an answer. -/
  | interrupted (url : String)
  /-- The answer has a status from 400 to 599. -/
  | status (code : Nat) (reason : String) (url : String)
  /-- The body of the answer is not what was asked for. -/
  | decode
deriving DecidableEq, Repr

/-- The failure of a request in words. -/
def RequestError.message : RequestError → String
  | .builder none => "builder error"
  | .builder (some url) => "builder error for url (" ++ url ++ ")"
  | .connect url | .interrupted url => "error sending request for url (" ++ url ++ ")"
  | .status code reason url =>
      "HTTP status " ++ (if code < 500 then "client" else "server") ++ " error (" ++
        toString code ++ " " ++ reason ++ ") for url (" ++ url ++ ")"
  | .decode => "error decoding response body"

/-- Why a transfer fails. -/
inductive TransferError where
  | notFound (title : String)
  | transport (url : String) (cause : RequestError)
  | filesystem (path : Path) (cause : FileError)
  | encode (cause : Json.Mismatch)
deriving DecidableEq, Repr

/-- The failure in words. -/
def TransferError.message : TransferError → String
  | .notFound title => Text.quoted title ++ ": No such dashboard"
  | .transport url cause => "request to " ++ url ++ " failed: " ++ cause.message
  | .filesystem path cause => "cannot write " ++ path.text ++ ": " ++ cause.message
  | .encode cause => "failed to encode dashboard: " ++ cause.message

end DraftBoard
