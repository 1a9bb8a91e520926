import DraftBoard.Http.Message
import DraftBoard.Json.Bytes
import DraftBoard.Text.Base64
import DraftBoard.Transfer.Catalogue
import DraftBoard.Url.Parser

/-!
# The catalogue of a remote server

Searches, fetches and uploads are requests below the root URL of a server, sent
with the credentials of an account behind those of the URL itself.
-/

namespace DraftBoard

open Http

/-- Credentials as a request carries them. -/
def Http.basicAuthorization (user password : String) : String :=
  "Basic " ++ Text.base64 (user ++ ":" ++ password)

/-- The credentials of a URL as a request carries them. -/
def Url.authorizations (url : Url) : List String :=
  url.readCredentials?.toList.map fun (user, password) =>
    basicAuthorization user (password.getD "")

/-- Where a server is and who asks. -/
structure Account where
  rootUrl : String
  user : String
  password : String
deriving DecidableEq, Repr

namespace Account

/-- The root URL without slashes at its end. -/
def root (account : Account) : List Char :=
  (account.rootUrl.toList.reverse.dropWhile (· == '/')).reverse

/-- The URL of a path below the root. -/
def url (account : Account) (path : String) : String :=
  String.ofList (account.root ++ path.toList)

/-- The URL that searches for a text. -/
def searchUrl (account : Account) (query : String) : String :=
  account.url ("/api/search?query=" ++ Text.urlComponent query)

/-- The URL of the definition with a uid. -/
def fetchUrl (account : Account) (uid : String) : String :=
  account.url ("/api/dashboards/uid/" ++ Text.urlComponent uid)

/-- The URL that dashboards are stored at. -/
def uploadUrl (account : Account) : String :=
  account.url "/api/dashboards/db"

/-- The credentials as a request carries them. -/
def authorization (account : Account) : String :=
  basicAuthorization account.user account.password

/-- The credentials of a request for a URL: the URL's own come first. -/
def authorizations (account : Account) (url : Url) : List String :=
  url.authorizations ++ [account.authorization]

/-- A request for something that is to be read. -/
def getRequest (account : Account) (url : Url) : Request where
  method := .get
  url := url.withoutCredentials
  authorizations := account.authorizations url
  accept := "application/json"
  contentType := none
  body := ""

/-- A request that brings a JSON text. -/
def postRequest (account : Account) (url : Url) (body : String) : Request where
  method := .post
  url := url.withoutCredentials
  authorizations := account.authorizations url
  accept := "*/*"
  contentType := some "application/json"
  body := body

end Account

/-- The body of an upload. -/
def Upload.toJson (upload : Upload) : Json :=
  .object [("dashboard", upload.dashboard.toJson), ("message", .string upload.message),
    ("overwrite", .bool upload.overwrite)]

namespace Remote

/-- What a response amounts to: a status that counts as a failure is one. -/
def accept (url : Url) : Except SendFailure Response → Except RequestError Response
  | .error .unreachable => .error (.connect url.text)
  | .error .closed => .error (.interrupted url.text)
  | .ok response =>
      if failing response.status then
        .error (.status response.status response.reason url.text)
      else .ok response

/-- The URL that a text is, if a request can be sent for it. -/
def requestUrl (url : String) : Except RequestError Url :=
  match Url.parse url with
  | none => .error (.builder none)
  | some parsed =>
      let carried := parsed.withoutCredentials
      if carried.isRequestable then .ok parsed else .error (.builder (some carried.text))

/-- What the body of a response holds. -/
def decode (parse : String → Except Json.Problem α) (response : Response) :
    Except RequestError α :=
  match parse (Json.textOf response.body) with
  | .ok result => .ok result
  | .error _ => .error .decode

variable {m : Type → Type} [Monad m]

/-- Sends the request for a URL and waits for an answer that is no failure. -/
def exchange (transport : Transport m) (url : String) (request : Url → Request) :
    ExceptT TransferError m Response := do
  match requestUrl url with
  | .error cause => throw (.transport url cause)
  | .ok parsed =>
      let request := request parsed
      match accept request.url (← transport.send request) with
      | .error cause => throw (.transport url cause)
      | .ok response => return response

/-- Asks for a URL and reads the answer. -/
def read (transport : Transport m) (machine : Machine m) (account : Account)
    (parse : String → Except Json.Problem α) (url : String) : ExceptT TransferError m α := do
  machine.note ⟨.debug, .remote, "GET " ++ url⟩
  let response ← exchange transport url account.getRequest
  match decode parse response with
  | .ok result => return result
  | .error cause => throw (.transport url cause)

/-- The catalogue of the server that an account is on. -/
def catalogue (transport : Transport m) (machine : Machine m) (account : Account) :
    Catalogue m where
  search query := read transport machine account Hit.parseList (account.searchUrl query)
  fetch uid := read transport machine account Definition.parse (account.fetchUrl uid)
  upload request := do
    let url := account.uploadUrl
    machine.note ⟨.debug, .remote,
      "POST " ++ url ++ " (" ++ Text.quoted request.dashboard.title ++ ")"⟩
    let _ ← exchange transport url fun parsed => account.postRequest parsed request.toJson.compact

end Remote

/-- A transport over the states of a server, as one over worlds. -/
def World.transport (server : Transport (StateM σ)) : Transport (StateM (World σ)) where
  send request := World.onServer (server.send request)

end DraftBoard
