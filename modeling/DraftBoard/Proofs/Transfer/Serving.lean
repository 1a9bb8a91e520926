import DraftBoard.Proofs.Dashboard.Codec
import DraftBoard.Proofs.Transfer.Promoting
import DraftBoard.Proofs.Transfer.Requests

/-!
# Servers that serve a shelf

`Serves` says that a server answers searches, fetches and uploads as a shelf would.
`Mirrors` relates a world with such a server to a world with that shelf: each call
leaves the two related, and gives the same result in both.
-/

namespace DraftBoard

open Http Url

/-- Whether a request asks a server for a target. -/
structure Http.Request.Asks (request : Request) (method : Method) (server target : List Char) :
    Prop where
  method : request.method = method
  server : request.url.authority.map (·.server) = some server
  target : request.url.target = target

def Shelf.searchText (shelf : Shelf) (query : String) : String :=
  (Json.array ((shelf.hits query).map Hit.toJson)).compact

/-- A server that answers as a shelf with these dashboards would, and keeps account of
its requests. -/
structure Serves {τ : Type} (transport : Transport (StateM τ)) (received : τ → List Request)
    (server : List Char) (held : List (Hit × Json)) : Prop where
  search : ∀ request state query, request.Asks .get server (searchTarget query) →
    ∃ reason after, (transport.send request).run state =
        (.ok ⟨200, reason, (Shelf.searchText { held := held } query).toUTF8⟩, after) ∧
      received after = received state ++ [request]
  fetch : ∀ request state uid definition, request.Asks .get server (fetchTarget uid) →
    Shelf.definition { held := held } uid = .ok definition →
    ∃ reason after, (transport.send request).run state =
        (.ok ⟨200, reason, definition.toJson.compact.toUTF8⟩, after) ∧
      received after = received state ++ [request]
  upload : ∀ request state, request.Asks .post server uploadTarget →
    ∃ reason body after, (transport.send request).run state =
        (.ok ⟨200, reason, body⟩, after) ∧
      received after = received state ++ [request]

/-- What the bodies of the uploads among requests hold. -/
def posted (requests : List Request) : List (Except Json.Problem Json) :=
  (requests.filter (·.method = .post)).map fun request => Json.parse request.body

theorem posted_get {request : Request} (asks : request.method = .get)
    (requests : List Request) : posted (requests ++ [request]) = posted requests := by
  simp [posted, asks]

theorem posted_post {request : Request} (asks : request.method = .post)
    (requests : List Request) :
    posted (requests ++ [request]) = posted requests ++ [Json.parse request.body] := by
  simp [posted, asks]

/-- A dashboard that can be sent: its document is an object that is read back, and its
uid is one segment of a path. -/
structure Sendable (entry : Hit × Json) : Prop where
  document : ∃ dashboard : Dashboard, entry.2 = dashboard.toJson
  readable : Json.Readable (Json.depthLimit - 1) entry.2
  notDot : entry.1.uid ≠ "."
  notDoubleDot : entry.1.uid ≠ ".."

/-- Whether requests can carry both URLs of a lookup: that of the search and, when a
dashboard bears the title, that of its uid. -/
structure Reaches (authority : Authority) (held : List (Hit × Json)) (title : String) : Prop where
  search : Carries authority (searchTarget title)
  fetch : ∀ entry, Shelf.titled? { held := held } title = some entry →
    Carries authority (fetchTarget entry.1.uid)

/-- The two worlds differ in their servers and logs alone, and what has been uploaded in
one has been posted in the other. -/
structure Mirrors {τ : Type} (received : τ → List Request) (held : List (Hit × Json))
    (posts : List (Except Json.Problem Json)) (uploads : List Upload)
    (world : World τ) (shelf : World Shelf) : Prop where
  files : world.files = shelf.files
  clock : world.clock = shelf.clock
  held : shelf.server.held = held
  uploads : ∃ further, shelf.server.uploads = uploads ++ further ∧
    posted (received world.server) = posts ++ further.map fun upload => .ok upload.toJson

section

variable {τ : Type} {transport : Transport (StateM τ)} {received : τ → List Request}
variable {account : Account} {site : List Char} {authority : Authority}
variable {held : List (Hit × Json)} {posts : List (Except Json.Problem Json)}
variable {uploads : List Upload} {world : World τ} {shelf : World Shelf}

theorem Mirrors.answered (mirrors : Mirrors received held posts uploads world shelf)
    {after : τ} (silent : posted (received after) = posted (received world.server))
    (log : List Event) :
    Mirrors received held posts uploads { world with server := after, log := log } shelf where
  files := mirrors.files
  clock := mirrors.clock
  held := mirrors.held
  uploads := by
    obtain ⟨further, stored, sent⟩ := mirrors.uploads
    exact ⟨further, stored, silent.trans sent⟩

/-- Neither the logs nor the calls on record matter. -/
theorem Mirrors.noted (mirrors : Mirrors received held posts uploads world shelf)
    (log : List Event) :
    Mirrors received held posts uploads { world with log := log } shelf :=
  ⟨mirrors.files, mirrors.clock, mirrors.held, mirrors.uploads⟩

theorem Mirrors.called (mirrors : Mirrors received held posts uploads world shelf)
    (calls : List Call) (log : List Event) :
    Mirrors received held posts uploads world (shelf.called calls log) :=
  ⟨mirrors.files, mirrors.clock, mirrors.held, mirrors.uploads⟩

theorem asks_search (account : Account) (authority : Authority) (query : String) :
    (account.getRequest (searchAsked authority query)).Asks .get authority.server
      (searchTarget query) :=
  ⟨rfl, server_withoutCredentials _, target_ofSite authority rfl _⟩

theorem asks_fetch (account : Account) (authority : Authority) (uid : String) :
    (account.getRequest (fetchAsked authority uid)).Asks .get authority.server
      (fetchTarget uid) := by
  have target := target_ofSite authority (rfl : (fetchTarget uid).head? = some '/') none
  rw [marked, List.append_nil] at target
  exact ⟨rfl, server_withoutCredentials _, target⟩

theorem asks_upload (account : Account) (authority : Authority) (body : String) :
    (account.postRequest (uploadAsked authority) body).Asks .post authority.server
      uploadTarget := by
  have target := target_ofSite authority (rfl : uploadTarget.head? = some '/') none
  rw [marked, List.append_nil] at target
  exact ⟨rfl, server_withoutCredentials _, target⟩

/-- A search finds on the server what it finds on the shelf. -/
theorem remote_search (isOn : account.IsOn site authority)
    (serves : Serves transport received authority.server held)
    (mirrors : Mirrors received held posts uploads world shelf) {query : String}
    (carries : Carries authority (searchTarget query)) :
    ∃ after, carryOut ((remote transport account).search query) world =
        (.ok (shelf.server.hits query), after) ∧
      Mirrors received held posts uploads after shelf := by
  have requested := requestUrl_search isOn query
  rw [if_pos carries] at requested
  obtain ⟨reason, after, answered, noted⟩ := serves.search
    (account.getRequest (searchAsked authority query)) world.server query
    (asks_search account authority query)
  have sameHits : Shelf.hits { held := held } query = shelf.server.hits query := by
    rw [Shelf.hits, Shelf.hits, mirrors.held]
  have holds := Hit.parseList_compact (shelf.server.hits query)
  rw [Shelf.searchText, sameHits] at answered
  obtain ⟨log, run⟩ := read_of_answer requested answered rfl holds
  refine ⟨_, run, mirrors.answered ?_ log⟩
  rw [noted, posted_get rfl]

/-- What a shelf has under the uid of one of its dashboards is read back. -/
theorem Shelf.definition_of_mem (shelf : Shelf)
    (sendable : ∀ entry ∈ shelf.held, Sendable entry) {entry : Hit × Json}
    (member : entry ∈ shelf.held) :
    ∃ dashboard, shelf.definition entry.1.uid = .ok ⟨dashboard, about⟩ ∧
      Json.Readable (Json.depthLimit - 1) dashboard.toJson := by
  cases first : shelf.held.find? (fun other => other.1.uid == entry.1.uid) with
  | none =>
      rw [List.find?_eq_none] at first
      exact absurd (beq_self_eq_true _) (first entry member)
  | some found =>
      have sends := sendable found (List.mem_of_find?_eq_some first)
      obtain ⟨hit, document⟩ := found
      obtain ⟨dashboard, same⟩ := sends.document
      have readable := sends.readable
      subst same
      exact ⟨dashboard, definition_of_find? first, readable⟩

theorem readable_about {depth : Nat} : Json.Readable (depth + 1) Shelf.about := by
  refine .object (by decide) ?_
  intro entry member
  rw [List.mem_singleton] at member
  subst member
  exact .bool true

theorem Upload.readable {depth : Nat} {upload : Upload}
    (readable : Json.Readable depth upload.dashboard.toJson) :
    Json.Readable (depth + 1) upload.toJson := by
  have keys : ["dashboard", "message", "overwrite"].Nodup := by decide
  refine .object keys ?_
  intro entry member
  simp only [List.mem_cons, List.not_mem_nil, or_false] at member
  rcases member with rfl | rfl | rfl
  · exact readable
  · exact .string upload.message
  · exact .bool upload.overwrite

/-- A fetch finds on the server what it finds on the shelf. -/
theorem remote_fetch (isOn : account.IsOn site authority)
    (serves : Serves transport received authority.server held)
    (sendable : ∀ entry ∈ held, Sendable entry)
    (mirrors : Mirrors received held posts uploads world shelf) {entry : Hit × Json}
    (member : entry ∈ held) (carries : Carries authority (fetchTarget entry.1.uid)) :
    ∃ definition after, shelf.server.definition entry.1.uid = .ok definition ∧
      carryOut ((remote transport account).fetch entry.1.uid) world = (.ok definition, after) ∧
      Mirrors received held posts uploads after shelf := by
  have sends := sendable entry member
  have requested := requestUrl_fetch isOn sends.notDot sends.notDoubleDot
  rw [if_pos carries] at requested
  obtain ⟨dashboard, found, readable⟩ :=
    Shelf.definition_of_mem { held := held } sendable member
  obtain ⟨reason, after, answered, noted⟩ := serves.fetch
    (account.getRequest (fetchAsked authority entry.1.uid)) world.server entry.1.uid _
    (asks_fetch account authority entry.1.uid) found
  have holds : Definition.parse (Definition.toJson ⟨dashboard, Shelf.about⟩).compact =
      .ok ⟨dashboard, Shelf.about⟩ :=
    Definition.parse_compact readable readable_about
  obtain ⟨log, run⟩ := read_of_answer requested answered rfl holds
  refine ⟨_, _, (Shelf.definition_congr mirrors.held _).trans found, run,
    mirrors.answered ?_ log⟩
  rw [noted, posted_get rfl]

/-- An upload reaches the server as it reaches the shelf. -/
theorem remote_upload (isOn : account.IsOn site authority)
    (serves : Serves transport received authority.server held)
    (mirrors : Mirrors received held posts uploads world shelf)
    (carries : Carries authority uploadTarget) {upload : Upload}
    (readable : Json.Readable (Json.depthLimit - 1) upload.dashboard.toJson) :
    ∃ after, carryOut ((remote transport account).upload upload) world = (.ok (), after) ∧
      Mirrors received held posts uploads after
        (carryOut (shelves.upload upload) shelf).2 := by
  have requested := requestUrl_upload isOn
  rw [if_pos carries] at requested
  obtain ⟨reason, body, after, answered, noted⟩ := serves.upload
    (account.postRequest (uploadAsked authority) upload.toJson.compact) world.server
    (asks_upload account authority upload.toJson.compact)
  have holds : Json.parse upload.toJson.compact = .ok upload.toJson :=
    Json.parse_compact (Upload.readable readable)
  have sent : posted (received after) =
      posted (received world.server) ++ [.ok upload.toJson] := by
    rw [noted, posted_post rfl]
    exact congrArg (fun result => posted (received world.server) ++ [result]) holds
  obtain ⟨log, run⟩ := post_of_answer requested answered rfl
  refine ⟨_, run, ?_⟩
  obtain ⟨further, stored, earlier⟩ := mirrors.uploads
  refine ⟨mirrors.files, mirrors.clock, mirrors.held, further ++ [upload], ?_, ?_⟩
  · rw [carryOut_upload]
    simp only [stored, List.append_assoc]
  · rw [sent, earlier, List.map_append, List.append_assoc]
    rfl

theorem remote_search_of_not_carried (isOn : account.IsOn site authority)
    (transport : Transport (StateM τ)) (world : World τ) {query : String}
    (refused : ¬ Carries authority (searchTarget query)) :
    ∃ cause log, carryOut ((remote transport account).search query) world =
      (.error (.transport (account.searchUrl query) cause), { world with log := log }) := by
  have requested := requestUrl_search isOn query
  rw [if_neg refused] at requested
  exact ⟨_, read_of_refused requested⟩

theorem remote_fetch_of_not_carried (isOn : account.IsOn site authority)
    (transport : Transport (StateM τ)) (world : World τ) {entry : Hit × Json}
    (sends : Sendable entry) (refused : ¬ Carries authority (fetchTarget entry.1.uid)) :
    ∃ cause log, carryOut ((remote transport account).fetch entry.1.uid) world =
      (.error (.transport (account.fetchUrl entry.1.uid) cause), { world with log := log }) := by
  have requested := requestUrl_fetch isOn sends.notDot sends.notDoubleDot
  rw [if_neg refused] at requested
  exact ⟨_, read_of_refused requested⟩

end

end DraftBoard
