import DraftBoard.Http.Script
import DraftBoard.Proofs.Transfer.Calls
import DraftBoard.Proofs.Transfer.Exchanges

/-!
# Savings only read

A saving searches for the draft title and fetches one of the hits.  It stores nothing on
the server, and if anything but the file system fails, it leaves no trace in the files.
-/

namespace DraftBoard

open Http

variable {σ τ : Type}

/-- The calls of a lookup: a search, and behind hits one fetch of one of them. -/
inductive LookupCalls (title : String) : List AnsweredCall → Prop where
  | search (answer : Except TransferError (List Hit)) :
      LookupCalls title [.search title answer]
  | fetch {hits : List Hit} {hit : Hit} (member : hit ∈ hits) (titled : hit.title = title)
      (answer : Except TransferError Definition) :
      LookupCalls title [.search title (.ok hits), .fetch hit.uid answer]

theorem lookupCalls_of_lookup {title : String} {calls : List AnsweredCall}
    {found : Except TransferError (Hit × Definition)}
    (course : answers.Lookup title calls found) : LookupCalls title calls := by
  cases course with
  | unsearched search =>
      cases search
      exact .search _
  | missing search absent =>
      cases search
      exact .search _
  | unfetched search first fetch =>
      cases search
      cases fetch
      obtain ⟨member, titled⟩ := mem_of_firstTitled first
      exact .fetch member titled _
  | found search first fetch =>
      cases search
      cases fetch
      obtain ⟨member, titled⟩ := mem_of_firstTitled first
      exact .fetch member titled _

theorem LookupCalls.no_upload {title : String} {calls : List AnsweredCall}
    (lookup : LookupCalls title calls) (upload : Upload) (answer : Except TransferError Unit) :
    .upload upload answer ∉ calls := by
  cases lookup <;> simp

/-- An exchange that asks for a URL in order to read what it leads to. -/
def Http.Exchange.ReadsUrl (exchange : Exchange) (account : Account) (url : String) : Prop :=
  ∃ asked, Remote.requestUrl url = .ok asked ∧ exchange.request = account.getRequest asked

/-- The exchanges of a lookup: none, a search, or a search and one fetch of one of the
hits in its answer. -/
inductive LookupRequests (account : Account) (title : String) : List Exchange → Prop where
  | unsent : LookupRequests account title []
  | search {search : Exchange} (asks : search.ReadsUrl account (account.searchUrl title)) :
      LookupRequests account title [search]
  | fetch {search fetch : Exchange} {response : Response} {hits : List Hit} {hit : Hit}
      (asks : search.ReadsUrl account (account.searchUrl title))
      (answered : search.outcome = .ok response)
      (decoded : Remote.decode Hit.parseList response = .ok hits)
      (member : hit ∈ hits) (titled : hit.title = title)
      (fetches : fetch.ReadsUrl account (account.fetchUrl hit.uid)) :
      LookupRequests account title [search, fetch]

theorem LookupRequests.get {account : Account} {title : String} {sent : List Exchange}
    (lookup : LookupRequests account title sent) :
    ∀ exchange ∈ sent, exchange.request.method = .get := by
  have reads : ∀ {exchange : Exchange} {url : String},
      exchange.ReadsUrl account url → exchange.request.method = .get := by
    rintro exchange url ⟨asked, _, request⟩
    rw [request]
    rfl
  cases lookup with
  | unsent =>
      intro exchange member
      cases member
  | search asks =>
      intro exchange member
      rw [List.mem_singleton.mp member]
      exact reads asks
  | fetch asks _ _ _ _ fetches =>
      intro exchange member
      rcases List.mem_cons.mp member with rfl | later
      · exact reads asks
      · rw [List.mem_singleton.mp later]
        exact reads fetches

namespace Remote

variable {α : Type} {account : Account} {parse : String → Except Json.Problem α}
variable {url title : String} {sent : List Exchange}

theorem Reads.of_error {error : TransferError}
    (course : Reads account parse url sent (.error error)) :
    sent = [] ∨ ∃ exchange, sent = [exchange] ∧ exchange.ReadsUrl account url := by
  cases course with
  | lost exchange =>
      cases exchange with
      | unsent refused => exact .inl rfl
      | failed requested unaccepted => exact .inr ⟨_, rfl, _, requested, rfl⟩
  | unreadable exchange undecoded =>
      cases exchange with
      | answered requested accepted => exact .inr ⟨_, rfl, _, requested, rfl⟩

theorem Reads.of_ok {result : α} (course : Reads account parse url sent (.ok result)) :
    ∃ exchange response, sent = [exchange] ∧ exchange.ReadsUrl account url ∧
      exchange.outcome = .ok response ∧ decode parse response = .ok result := by
  cases course with
  | read exchange decoded =>
      cases exchange with
      | answered requested accepted =>
          obtain ⟨rfl, passed⟩ := accept_ok accepted
          exact ⟨_, _, rfl, ⟨_, requested, rfl⟩, rfl, decoded⟩

theorem lookupRequests_of_lookup {found : Except TransferError (Hit × Definition)}
    (course : (exchanges account).Lookup title sent found) :
    LookupRequests account title sent := by
  cases course with
  | unsearched search =>
      rcases search.of_error with rfl | ⟨exchange, rfl, asks⟩
      · exact .unsent
      · exact .search asks
  | missing search absent =>
      obtain ⟨exchange, response, rfl, asks, _, _⟩ := search.of_ok
      exact .search asks
  | unfetched search first fetch =>
      obtain ⟨exchange, response, rfl, asks, answered, decoded⟩ := search.of_ok
      obtain ⟨member, titled⟩ := mem_of_firstTitled first
      rcases fetch.of_error with rfl | ⟨fetched, rfl, fetches⟩
      -- A fetch whose URL is refused, by its length for one, is never sent.
      · exact .search asks
      · exact .fetch asks answered decoded member titled fetches
  | found search first fetch =>
      obtain ⟨exchange, response, rfl, asks, answered, decoded⟩ := search.of_ok
      obtain ⟨member, titled⟩ := mem_of_firstTitled first
      obtain ⟨fetched, _, rfl, fetches, _, _⟩ := fetch.of_ok
      exact .fetch asks answered decoded member titled fetches

end Remote

theorem lookup_of_saves {ε : Type} {protocol : Protocol ε} {title : String}
    {options : SaveOptions} {entries : List ε} {outcome : Except TransferError Saving}
    (saves : protocol.Saves title options entries outcome) :
    ∃ found, protocol.Lookup (Title.draft title) entries found := by
  cases saves with
  | notFound lookup => exact ⟨_, lookup⟩
  | refused path cause lookup => exact ⟨_, lookup⟩
  | saved lookup => exact ⟨_, lookup⟩

/-- Every saving, from whatever catalogue and over whatever transport, makes the calls of a
lookup and no others.  One that fails without blaming the file system has changed no
file. -/
theorem save_reads_only (catalogue : Catalogue (StateM (World σ)))
    (transport : Transport (StateM τ)) (account : Account) (title : String)
    (options : SaveOptions) {world after : World (Watched AnsweredCall σ)}
    {site left : World (Watched Exchange τ)} {outcome result : Except TransferError Saving}
    (ran : carryOut (save catalogue.watched World.machine title options) world =
      (outcome, after))
    (ranRemotely : carryOut (save (remote transport.watched account) World.machine title
      options) site = (result, left)) :
    (∃ calls, after.server.history = world.server.history ++ calls ∧
      LookupCalls (Title.draft title) calls ∧
      ∀ upload answer, .upload upload answer ∉ calls) ∧
    carryOut (save catalogue World.machine title options)
      (world.mapServer Watched.server) = (outcome, after.mapServer Watched.server) ∧
    (catalogue.KeepsFiles → ∀ error, outcome = .error error →
      (∀ path cause, error ≠ .filesystem path cause) → after.files = world.files) ∧
    (∃ sent, left.server.history = site.server.history ++ sent ∧
      LookupRequests account (Title.draft title) sent ∧
      ∀ exchange ∈ sent, exchange.request.method = .get) ∧
    carryOut (save (remote transport account) World.machine title options)
      (site.mapServer Watched.server) = (result, left.mapServer Watched.server) ∧
    (∀ error, result = .error error → (∀ path cause, error ≠ .filesystem path cause) →
      left.files = site.files) := by
  obtain ⟨calls, history, saves⟩ :=
    save_enters catalogue.watched_obeys title options world
  obtain ⟨sent, sentHistory, savesRemotely⟩ :=
    save_enters (remote_obeys transport account) title options site
  obtain ⟨found, lookup⟩ := lookup_of_saves saves
  obtain ⟨foundRemotely, lookupRemotely⟩ := lookup_of_saves savesRemotely
  have plain := save_refines catalogue.watched_refines title options world
  have plainRemotely := save_refines (remote_refines transport account) title options site
  rw [ran] at history plain
  rw [ranRemotely] at sentHistory plainRemotely
  have lookupCalls := lookupCalls_of_lookup lookup
  have lookupRequests := Remote.lookupRequests_of_lookup lookupRemotely
  refine ⟨⟨calls, history, lookupCalls, lookupCalls.no_upload⟩, plain, ?_,
    ⟨sent, sentHistory, lookupRequests, lookupRequests.get⟩, plainRemotely, ?_⟩
  · rintro keeps error rfl unblamed
    exact files_of_save_error keeps.watched ran unblamed
  · rintro error rfl unblamed
    exact files_of_save_error (remote_keepsFiles _ _) ranRemotely unblamed

/-- A shelf without the draft. -/
def watchedShelf : World (Watched AnsweredCall Shelf) where
  server := ⟨{ held := [(⟨"Disk-ref", "d1", some "hosts"⟩, .object [])] }, []⟩
  files := ⟨[(["out".toList], .directory)], []⟩
  log := []
  clock := 5

def foundDraft : Json := .array [Hit.toJson ⟨"Disk (WIP)", "d/2", none⟩]

/-- A server that hangs up on the fetch. -/
def hangingScript : Script where
  address := some "h:1".toList
  routes := [
    ⟨"GET", "/api/search*".toList, .respond 200 foundDraft.compact.toUTF8, none⟩,
    ⟨"GET", "/api/dashboards/uid/d%2F2".toList, .hangUp, none⟩]

def hangingServer : World (Watched Exchange Script) where
  server := ⟨hangingScript, []⟩
  files := ⟨[(["out".toList], .directory)], []⟩
  log := []
  clock := 5

def scriptAccount : Account := ⟨"http://h:1/", "admin", "vmi"⟩

def hangingUrl : String := "http://h:1/api/dashboards/uid/d%2F2"

def watchedSaving : Except TransferError Saving × World (Watched AnsweredCall Shelf) :=
  carryOut (save shelves.watched World.machine "Disk" sampleOptions) watchedShelf

def hangingSaving : Except TransferError Saving × World (Watched Exchange Script) :=
  carryOut (save (remote Script.transport.watched scriptAccount) World.machine "Disk"
    sampleOptions) hangingServer

theorem save_reads_only_sample :
    watchedSaving = (.error (.notFound "Disk (WIP)"), watchedSaving.2) ∧
    hangingSaving = (.error (.transport hangingUrl (.interrupted hangingUrl)),
      hangingSaving.2) ∧
    watchedSaving.2.files = watchedShelf.files ∧
    hangingSaving.2.files = hangingServer.files ∧
    hangingSaving.2.server.history.length = 2 ∧
    ∀ exchange ∈ hangingSaving.2.server.history, exchange.request.method = .get := by
  have ran : watchedSaving = (.error (.notFound "Disk (WIP)"), watchedSaving.2) := rfl
  have ranRemotely : hangingSaving =
      (.error (.transport hangingUrl (.interrupted hangingUrl)), hangingSaving.2) := rfl
  obtain ⟨_, _, files, ⟨sent, history, _, reads⟩, _, filesLeft⟩ :=
    save_reads_only shelves Script.transport scriptAccount "Disk" sampleOptions ran ranRemotely
  refine ⟨ran, ranRemotely, ?_, ?_, rfl, ?_⟩
  · apply files (World.catalogue_keepsFiles _) _ rfl
    intro path cause same
    cases same
  · apply filesLeft _ rfl
    intro path cause same
    cases same
  · rw [history]
    exact reads

end DraftBoard
