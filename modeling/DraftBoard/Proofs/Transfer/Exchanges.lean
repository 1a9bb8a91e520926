import DraftBoard.Proofs.Transfer.Courses
import DraftBoard.Proofs.Transfer.FileFrame
import DraftBoard.Proofs.Transfer.Requests

/-!
# Exchanges with a server

A watched transport keeps a history of its exchanges.  Each call to a remote catalogue
makes one exchange, or none when its URL cannot be asked for.
-/

namespace DraftBoard

open Http

variable {τ : Type}

/-- A request that has been sent, and what came back. -/
structure Http.Exchange where
  request : Request
  outcome : Except SendFailure Response

/-- The transport with a history of its exchanges. -/
def Http.Transport.watched (transport : Transport (StateM τ)) :
    Transport (StateM (Watched Exchange τ)) where
  send request := fun state =>
    let (outcome, server) := (transport.send request).run state.server
    (outcome, ⟨server, state.history ++ [⟨request, outcome⟩]⟩)

namespace Remote

/-- The courses of an exchange for a URL. -/
inductive Exchanges (url : String) (request : Url → Request) :
    List Exchange → Except TransferError Response → Prop where
  | unsent {cause : RequestError} (refused : requestUrl url = .error cause) :
      Exchanges url request [] (.error (.transport url cause))
  | failed {asked : Url} {outcome : Except SendFailure Response} {cause : RequestError}
      (requested : requestUrl url = .ok asked)
      (unaccepted : accept (request asked).url outcome = .error cause) :
      Exchanges url request [⟨request asked, outcome⟩] (.error (.transport url cause))
  | answered {asked : Url} {outcome : Except SendFailure Response} {response : Response}
      (requested : requestUrl url = .ok asked)
      (accepted : accept (request asked).url outcome = .ok response) :
      Exchanges url request [⟨request asked, outcome⟩] (.ok response)

variable {α : Type}

/-- The courses of reading what a URL leads to. -/
inductive Reads (account : Account) (parse : String → Except Json.Problem α) (url : String) :
    List Exchange → Except TransferError α → Prop where
  | lost {entries : List Exchange} {error : TransferError}
      (exchange : Exchanges url account.getRequest entries (.error error)) :
      Reads account parse url entries (.error error)
  | unreadable {entries : List Exchange} {response : Response} {cause : RequestError}
      (exchange : Exchanges url account.getRequest entries (.ok response))
      (undecoded : decode parse response = .error cause) :
      Reads account parse url entries (.error (.transport url cause))
  | read {entries : List Exchange} {response : Response} {result : α}
      (exchange : Exchanges url account.getRequest entries (.ok response))
      (decoded : decode parse response = .ok result) :
      Reads account parse url entries (.ok result)

/-- The request that stores a dashboard. -/
def uploadRequest (account : Account) (upload : Upload) (asked : Url) : Request :=
  account.postRequest asked upload.toJson.compact

/-- The courses of an upload; the body of the answer is not read. -/
inductive Posts (account : Account) (upload : Upload) :
    List Exchange → Except TransferError Unit → Prop where
  | lost {entries : List Exchange} {error : TransferError}
      (exchange : Exchanges account.uploadUrl (uploadRequest account upload) entries
        (.error error)) :
      Posts account upload entries (.error error)
  | stored {entries : List Exchange} {response : Response}
      (exchange : Exchanges account.uploadUrl (uploadRequest account upload) entries
        (.ok response)) :
      Posts account upload entries (.ok ())

theorem Exchanges.request_of_mem {url : String} {request : Url → Request}
    {sent : List Exchange} {outcome : Except TransferError Response}
    (course : Exchanges url request sent outcome) :
    ∀ exchange ∈ sent, ∃ asked, requestUrl url = .ok asked ∧
      exchange.request = request asked := by
  intro exchange member
  cases course with
  | unsent _ => cases member
  | failed requested _ =>
      rw [List.mem_singleton.mp member]
      exact ⟨_, requested, rfl⟩
  | answered requested _ =>
      rw [List.mem_singleton.mp member]
      exact ⟨_, requested, rfl⟩

theorem Posts.request_of_mem {account : Account} {upload : Upload} {sent : List Exchange}
    {outcome : Except TransferError Unit} (course : Posts account upload sent outcome) :
    ∀ exchange ∈ sent, ∃ asked, requestUrl account.uploadUrl = .ok asked ∧
      exchange.request = uploadRequest account upload asked := by
  cases course with
  | lost exchange => exact exchange.request_of_mem
  | stored exchange => exact exchange.request_of_mem

/-- What each call of an account sends and receives. -/
def exchanges (account : Account) : Protocol Exchange where
  search query := Reads account Hit.parseList (account.searchUrl query)
  fetch uid := Reads account Definition.parse (account.fetchUrl uid)
  upload := Posts account

theorem accept_ok {url : Url} {outcome : Except SendFailure Response} {response : Response}
    (accepted : Remote.accept url outcome = .ok response) :
    outcome = .ok response ∧ failing response.status = false := by
  cases outcome with
  | error failure => cases failure <;> cases accepted
  | ok answer =>
      simp only [Remote.accept] at accepted
      split at accepted
      · cases accepted
      · next passed =>
          cases accepted
          exact ⟨rfl, Bool.eq_false_iff.mpr passed⟩

theorem accept_error {url : Url} {outcome : Except SendFailure Response}
    {cause : RequestError} (refused : Remote.accept url outcome = .error cause) :
    (∃ response, outcome = .ok response ∧ failing response.status = true ∧
      cause = .status response.status response.reason url.text) ∨
    (∃ failure, outcome = .error failure) ∧
      ∀ code reason text, cause ≠ .status code reason text := by
  cases outcome with
  | error failure =>
      refine .inr ⟨⟨failure, rfl⟩, ?_⟩
      intro code reason text same
      rw [same] at refused
      cases failure <;> cases refused
  | ok answer =>
      simp only [Remote.accept] at refused
      split at refused
      · next fails =>
          cases refused
          exact .inl ⟨answer, rfl, fails, rfl⟩
      · cases refused

theorem decode_ok_iff {α : Type} {parse : String → Except Json.Problem α} {response : Response}
    {result : α} :
    decode parse response = .ok result ↔ parse (Json.textOf response.body) = .ok result := by
  unfold decode
  cases parse (Json.textOf response.body) <;> simp

/-- A list of one hit, with a byte that is no character in a field of some name. -/
def strayByte (name : String) : Response where
  status := 200
  reason := "OK"
  body := ("[\x7b\"title\":\"Disk\",\"uid\":\"d1\",\"" ++ name ++ "\":\"").toUTF8.push 0xFF ++
    "\"\x7d]".toUTF8

example : decode Hit.parseList (strayByte "type") = .ok [⟨"Disk", "d1", none⟩] := by
  decide +kernel

example : decode Hit.parseList (strayByte "folderTitle") = .error .decode := by
  decide +kernel

end Remote

section

variable {transport : Transport (StateM τ)} {account : Account} {α : Type}

theorem exchange_enters (transport : Transport (StateM τ)) (url : String)
    (request : Url → Request) :
    Enters Watched.history (Remote.Exchanges url request)
      (Remote.exchange (World.transport transport.watched) url request) := by
  intro world
  cases requested : Remote.requestUrl url with
  | error cause =>
      rw [exchange_of_refused requested]
      exact ⟨[], (List.append_nil _).symm, .unsent requested⟩
  | ok asked =>
      let outcome := ((transport.send (request asked)).run world.server.server).1
      refine ⟨[⟨request asked, outcome⟩], ?_⟩
      rw [Remote.exchange, requested, carryOut_bind]
      simp only [liftM, carryOut_lift]
      have sent : (((World.transport transport.watched).send (request asked)).run world).1 =
          outcome := rfl
      rw [sent]
      cases accepted : Remote.accept (request asked).url outcome with
      | error cause => exact ⟨rfl, .failed requested accepted⟩
      | ok response => exact ⟨rfl, .answered requested accepted⟩

theorem read_enters (transport : Transport (StateM τ)) (account : Account)
    (parse : String → Except Json.Problem α) (url : String) :
    Enters Watched.history (Remote.Reads account parse url)
      (Remote.read (World.transport transport.watched) World.machine account parse url) := by
  unfold Remote.read
  apply Enters.noted
  apply (exchange_enters transport url account.getRequest).bind
  · intro entries error exchange
    exact .lost exchange
  · intro response
    cases decoded : Remote.decode parse response with
    | error cause =>
        apply Enters.throw
        intro entries exchange
        rw [List.append_nil]
        exact .unreadable exchange decoded
    | ok result =>
        apply Enters.pure
        intro entries exchange
        rw [List.append_nil]
        exact .read exchange decoded

theorem post_enters (transport : Transport (StateM τ)) (account : Account)
    (upload : Upload) :
    Enters Watched.history (Remote.Posts account upload)
      ((remote transport.watched account).upload upload) := by
  apply Enters.noted
  apply (exchange_enters transport account.uploadUrl
    (Remote.uploadRequest account upload)).bind
  · intro entries error exchange
    exact .lost exchange
  · intro response
    apply Enters.pure
    intro entries exchange
    rw [List.append_nil]
    exact .stored exchange

theorem remote_obeys (transport : Transport (StateM τ)) (account : Account) :
    (remote transport.watched account).Obeys Watched.history (Remote.exchanges account) where
  search query := read_enters transport account Hit.parseList (account.searchUrl query)
  fetch uid := read_enters transport account Definition.parse (account.fetchUrl uid)
  upload := post_enters transport account

theorem exchange_refines (transport : Transport (StateM τ)) (url : String)
    (request : Url → Request) :
    Refines Watched.server (Remote.exchange (World.transport transport.watched) url request)
      (Remote.exchange (World.transport transport) url request) := by
  unfold Remote.exchange
  cases Remote.requestUrl url with
  | error cause => exact .throw _
  | ok asked =>
      have sends : RefinesStep Watched.server
          ((World.transport transport.watched).send (request asked))
          ((World.transport transport).send (request asked)) := by
        intro world
        rfl
      apply (Refines.lift sends).bind
      intro outcome
      cases Remote.accept (request asked).url outcome with
      | error cause => exact .throw _
      | ok response => exact .pure _

theorem read_refines (transport : Transport (StateM τ)) (account : Account)
    (parse : String → Except Json.Problem α) (url : String) :
    Refines Watched.server
      (Remote.read (World.transport transport.watched) World.machine account parse url)
      (Remote.read (World.transport transport) World.machine account parse url) := by
  unfold Remote.read
  apply (Refines.lift (refinesStep_note _)).bind
  intro noted
  apply (exchange_refines transport url account.getRequest).bind
  intro response
  cases Remote.decode parse response with
  | error cause => exact .throw _
  | ok result => exact .pure _

theorem remote_refines (transport : Transport (StateM τ)) (account : Account) :
    Catalogue.Refines Watched.server (remote transport.watched account)
      (remote transport account) where
  search query := read_refines transport account Hit.parseList (account.searchUrl query)
  fetch uid := read_refines transport account Definition.parse (account.fetchUrl uid)
  upload request := by
    apply (Refines.lift (refinesStep_note _)).bind
    intro noted
    apply (exchange_refines transport account.uploadUrl _).bind
    intro response
    exact .pure _

theorem exchange_leavesFiles (transport : Transport (StateM τ)) (url : String)
    (request : Url → Request) :
    LeavesFiles (Remote.exchange (World.transport transport) url request) := by
  unfold Remote.exchange
  cases Remote.requestUrl url with
  | error cause => exact .throw _
  | ok asked =>
      have sends : ∀ world, (((World.transport transport).send (request asked)).run
          world).2.files = world.files := by
        intro world
        rfl
      apply (LeavesFiles.lift sends).bind
      intro outcome
      cases Remote.accept (request asked).url outcome with
      | error cause => exact .throw _
      | ok response => exact .pure _

theorem read_leavesFiles (transport : Transport (StateM τ)) (account : Account)
    (parse : String → Except Json.Problem α) (url : String) :
    LeavesFiles
      (Remote.read (World.transport transport) World.machine account parse url) := by
  unfold Remote.read
  apply (LeavesFiles.note _).bind
  intro noted
  apply (exchange_leavesFiles transport url account.getRequest).bind
  intro response
  cases Remote.decode parse response with
  | error cause => exact .throw _
  | ok result => exact .pure _

theorem remote_keepsFiles (transport : Transport (StateM τ)) (account : Account) :
    (remote transport account).KeepsFiles where
  search query := read_leavesFiles transport account Hit.parseList (account.searchUrl query)
  fetch uid := read_leavesFiles transport account Definition.parse (account.fetchUrl uid)
  upload request := by
    apply (LeavesFiles.note _).bind
    intro noted
    apply (exchange_leavesFiles transport account.uploadUrl _).bind
    intro response
    exact .pure _

end

end DraftBoard
