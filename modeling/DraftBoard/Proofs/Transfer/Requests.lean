import DraftBoard.Proofs.Json.Bytes
import DraftBoard.Proofs.Transfer.Runs
import DraftBoard.Proofs.Url.Directories
import DraftBoard.Remote

/-!
# Requests to a server

An account on a site sends its requests to URLs that are read as they are written,
so a server is asked for exactly the target that a search, a fetch or an upload names.
Nothing is sent for a URL that is longer than a request can carry.
-/

namespace DraftBoard

open Http Url

/-- An account whose root URL is a site, with any number of slashes behind it. -/
structure Account.IsOn (account : Account) (site : List Char) (authority : Authority) : Prop
    extends IsSite site authority where
  root : ∃ count, account.rootUrl.toList =
    "http://".toList ++ site ++ List.replicate count '/'

/-- An account whose root URL is a path below a site, with any number of slashes behind it. -/
structure Account.IsBelow (account : Account) (site : List Char) (authority : Authority)
    (path : List Char) : Prop extends IsSite site authority where
  directory : IsDirectory path
  root : ∃ count, account.rootUrl.toList =
    "http://".toList ++ site ++ path ++ List.replicate count '/'

section

variable {account : Account} {site path : List Char} {authority : Authority}

theorem rdropWhile_append_replicate (text : List Char) (count : Nat) :
    (text ++ List.replicate count '/').rdropWhile (· == '/') = text.rdropWhile (· == '/') := by
  induction count with
  | zero => rw [List.replicate_zero, List.append_nil]
  | succ count ih =>
      rw [List.replicate_succ', ← List.append_assoc, List.rdropWhile_concat_pos _ _ _ rfl, ih]

theorem rdropWhile_of_isSite (isSite : IsSite site authority) :
    ("http://".toList ++ site).rdropWhile (· == '/') = "http://".toList ++ site := by
  rw [List.rdropWhile_eq_self_iff]
  intro nonempty slash
  rw [List.getLast_append_of_ne_nil _ isSite.nonempty, beq_iff_eq] at slash
  have notSlash := (isSite.plain _ (List.getLast_mem isSite.nonempty)).2.1
  rw [slash] at notSlash
  cases notSlash

theorem Account.IsBelow.root_eq (isBelow : account.IsBelow site authority path) :
    account.root = "http://".toList ++ site ++ path.rdropWhile (· == '/') := by
  obtain ⟨count, root⟩ := isBelow.root
  calc account.root
      = account.rootUrl.toList.rdropWhile (· == '/') := rfl
    _ = ("http://".toList ++ site ++ path).rdropWhile (· == '/') := by
        rw [root, rdropWhile_append_replicate]
    _ = "http://".toList ++ site ++ path.rdropWhile (· == '/') :=
        Text.rdropWhile_append (rdropWhile_of_isSite isBelow.toIsSite) path

theorem Account.IsOn.isBelow (isOn : account.IsOn site authority) :
    account.IsBelow site authority [] where
  toIsSite := isOn.toIsSite
  directory := ⟨by simp, by simp, by decide⟩
  root := by
    obtain ⟨count, root⟩ := isOn.root
    exact ⟨count, by rw [root, List.append_nil]⟩

theorem Account.IsOn.root_eq (isOn : account.IsOn site authority) :
    account.root = "http://".toList ++ site := by
  rw [isOn.isBelow.root_eq, List.rdropWhile_nil, List.append_nil]

end

/-- The target of the search for a text. -/
def searchTarget (query : String) : List Char :=
  "/api/search".toList ++ marked '?' (some ("query=" ++ Text.urlComponent query).toList)

/-- The target of the definition with a uid. -/
def fetchTarget (uid : String) : List Char :=
  "/api/dashboards/uid".toList ++ '/' :: (Text.urlComponent uid).toList

/-- The target of an upload. -/
def uploadTarget : List Char := "/api/dashboards/db".toList

/-- Whether a request can carry the URL of a target on a server. -/
def Carries (authority : Authority) (target : List Char) : Prop :=
  ("http://".toList ++ authority.server ++ target).length ≤ lengthLimit

instance (authority : Authority) (target : List Char) : Decidable (Carries authority target) :=
  inferInstanceAs (Decidable (_ ≤ _))

theorem length_searchTarget (query : String) :
    (searchTarget query).length = 18 + (Text.urlComponent query).toList.length := by
  generalize component : Text.urlComponent query = value
  have named : ("query=" ++ value).toList.length = 6 + value.toList.length :=
    (congrArg List.length String.toList_append).trans List.length_append
  calc (searchTarget query).length
      = 11 + ("query=" ++ value).toList.length.succ := by
        rw [← component]
        exact List.length_append
    _ = 18 + value.toList.length := by omega

theorem not_carries_replicate {authority : Authority} {count : Nat}
    (long : lengthLimit ≤ count) :
    ¬ Carries authority (searchTarget (String.ofList (List.replicate count 'a'))) := by
  intro carries
  have kept : ∀ c ∈ List.replicate count 'a', Text.unreserved c = true := by
    intro c member
    rw [List.eq_of_mem_replicate member]
    rfl
  have search := length_searchTarget (String.ofList (List.replicate count 'a'))
  rw [Text.urlComponent, String.toList_ofList, String.toList_ofList, percentEncode_of_kept kept,
    List.length_replicate] at search
  unfold Carries at carries
  rw [List.length_append, search] at carries
  omega

/-- The targets of searches are no shorter than the one of uploads. -/
theorem Carries.upload {authority : Authority} {query : String}
    (carries : Carries authority (searchTarget query)) : Carries authority uploadTarget := by
  have upload : uploadTarget.length = 18 := by decide
  have search := length_searchTarget query
  unfold Carries at carries ⊢
  rw [List.length_append] at carries ⊢
  omega

theorem search_straight : IsStraight "/api/search".toList :=
  ⟨rfl, Text.forall_mem_of_all rfl, by decide⟩

theorem upload_straight : IsStraight uploadTarget :=
  ⟨rfl, Text.forall_mem_of_all rfl, by decide⟩

theorem uid_straight : IsStraight "/api/dashboards/uid".toList :=
  ⟨rfl, Text.forall_mem_of_all rfl, by decide⟩

theorem keptInQuery_search (query : String) :
    ∀ c ∈ ("query=" ++ Text.urlComponent query).toList, keptInQuery c = true := by
  intro c member
  rw [String.toList_append] at member
  have nameKept : ∀ d ∈ "query=".toList, keptInQuery d = true :=
    List.all_eq_true.mp rfl
  rcases List.mem_append.mp member with name | value
  · exact nameKept c name
  · exact keptInQuery_urlComponent query c value

section

variable {account : Account} {site path reached : List Char} {authority : Authority}
variable {query : Option (List Char)}

/-- A URL below a site is asked for as its path is read, if it is not too long. -/
theorem requestUrl_of_isSite (isSite : IsSite site authority) (reads : ReadsAs path reached)
    (kept : ∀ text, query = some text → ∀ c ∈ text, keptInQuery c = true) :
    Remote.requestUrl
        (String.ofList ("http://".toList ++ site ++ (path ++ marked '?' query))) =
      if Carries authority (reached ++ marked '?' query) then .ok (ofSite authority reached query)
      else .error (.builder (some (ofSite authority reached query).text)) := by
  have requestable : (ofSite authority reached query).isRequestable =
      decide (Carries authority (reached ++ marked '?' query)) := by
    have carried : (some authority).any (fun authority => authority.host.isCarried) = true :=
      isSite.carried
    rw [isRequestable, chars_ofSite isSite reads.reachedRooted, ofSite]
    simp only [carried, beq_self_eq_true, Bool.true_or, Bool.true_and]
    rfl
  rw [Remote.requestUrl, parse_site isSite reads kept]
  simp only [isSite.withoutCredentials, requestable, decide_eq_true_eq]

theorem kept_of_no_query :
    ∀ text, (none : Option (List Char)) = some text → ∀ c ∈ text, keptInQuery c = true := by
  intro text found
  cases found

theorem requestUrl_of_isSite_path (isSite : IsSite site authority)
    (reads : ReadsAs path reached) :
    Remote.requestUrl (String.ofList ("http://".toList ++ site ++ path)) =
      if Carries authority reached then .ok (ofSite authority reached none)
      else .error (.builder (some (ofSite authority reached none).text)) := by
  have asked := requestUrl_of_isSite isSite reads kept_of_no_query
  rw [marked, List.append_nil, List.append_nil] at asked
  exact asked

theorem Account.IsOn.url_eq (isOn : account.IsOn site authority) (text : String) :
    account.url text = String.ofList ("http://".toList ++ site ++ text.toList) := by
  rw [Account.url, isOn.root_eq]

private theorem search_cut (value : String) :
    ("/api/search?query=" ++ value).toList =
      "/api/search".toList ++ marked '?' (some ("query=" ++ value).toList) := by
  simp [marked]

private theorem fetch_cut (value : String) :
    ("/api/dashboards/uid/" ++ value).toList =
      "/api/dashboards/uid".toList ++ '/' :: value.toList := by
  simp

theorem Account.IsOn.searchUrl_eq (isOn : account.IsOn site authority) (query : String) :
    account.searchUrl query =
      String.ofList ("http://".toList ++ site ++ searchTarget query) :=
  (isOn.url_eq _).trans (congrArg
    (fun target => String.ofList ("http://".toList ++ site ++ target)) (search_cut _))

theorem Account.IsOn.fetchUrl_eq (isOn : account.IsOn site authority) (uid : String) :
    account.fetchUrl uid =
      String.ofList ("http://".toList ++ site ++ fetchTarget uid) :=
  (isOn.url_eq _).trans (congrArg
    (fun target => String.ofList ("http://".toList ++ site ++ target)) (fetch_cut _))

theorem Account.IsOn.uploadUrl_eq (isOn : account.IsOn site authority) :
    account.uploadUrl = String.ofList ("http://".toList ++ site ++ uploadTarget) := by
  rw [Account.uploadUrl, isOn.url_eq]
  rfl

def searchAsked (authority : Authority) (query : String) : Url :=
  ofSite authority "/api/search".toList (some ("query=" ++ Text.urlComponent query).toList)

def fetchAsked (authority : Authority) (uid : String) : Url :=
  ofSite authority (fetchTarget uid) none

def uploadAsked (authority : Authority) : Url :=
  ofSite authority uploadTarget none

theorem requestUrl_search (isOn : account.IsOn site authority) (query : String) :
    Remote.requestUrl (account.searchUrl query) =
      if Carries authority (searchTarget query) then .ok (searchAsked authority query)
      else .error (.builder (some (searchAsked authority query).text)) := by
  rw [isOn.searchUrl_eq]
  exact requestUrl_of_isSite isOn.toIsSite search_straight.readsAs fun text found =>
    Option.some.inj found ▸ keptInQuery_search query

theorem requestUrl_fetch (isOn : account.IsOn site authority) {uid : String}
    (notDot : uid ≠ ".") (notDoubleDot : uid ≠ "..") :
    Remote.requestUrl (account.fetchUrl uid) =
      if Carries authority (fetchTarget uid) then .ok (fetchAsked authority uid)
      else .error (.builder (some (fetchAsked authority uid).text)) := by
  rw [isOn.fetchUrl_eq]
  exact requestUrl_of_isSite_path isOn.toIsSite
    (isStraight_component uid_straight notDot notDoubleDot).readsAs

theorem requestUrl_upload (isOn : account.IsOn site authority) :
    Remote.requestUrl account.uploadUrl =
      if Carries authority uploadTarget then .ok (uploadAsked authority)
      else .error (.builder (some (uploadAsked authority).text)) := by
  rw [isOn.uploadUrl_eq]
  exact requestUrl_of_isSite_path isOn.toIsSite upload_straight.readsAs

end

section

variable {τ : Type} {transport : Transport (StateM τ)} {account : Account} {url : String}
variable {world : World τ}

/-- The catalogue of a remote server in a world. -/
abbrev remote (transport : Transport (StateM τ)) (account : Account) :
    Catalogue (StateM (World τ)) :=
  Remote.catalogue (World.transport transport) World.machine account

/-- Nothing is sent for a URL that no request can carry. -/
theorem exchange_of_refused {request : Url → Request} {cause : RequestError}
    (refused : Remote.requestUrl url = .error cause) :
    carryOut (Remote.exchange (World.transport transport) url request) world =
      (.error (.transport url cause), world) := by
  rw [Remote.exchange, refused]
  rfl

theorem exchange_of_accepted (world : World τ) {request : Url → Request} {asked : Url}
    {response : Response} {after : τ} (requested : Remote.requestUrl url = .ok asked)
    (answered : (transport.send (request asked)).run world.server = (.ok response, after))
    (accepted : failing response.status = false) :
    carryOut (Remote.exchange (World.transport transport) url request) world =
      (.ok response, { world with server := after }) := by
  have sent : carryOut (monadLift ((World.transport transport).send (request asked))) world =
      (.ok (.ok response), { world with server := after }) := by
    rw [carryOut_lift]
    have step : ((World.transport transport).send (request asked)).run world =
        (.ok response, { world with server := after }) := by
      change (((transport.send (request asked)).run world.server).1,
        { world with server := ((transport.send (request asked)).run world.server).2 }) = _
      rw [answered]
    rw [step]
  rw [Remote.exchange, requested]
  simp only [liftM]
  rw [carryOut_bind_of_ok sent]
  simp only [Remote.accept, accepted]
  rfl

theorem read_of_refused {α : Type} {parse : String → Except Json.Problem α}
    {cause : RequestError} (refused : Remote.requestUrl url = .error cause) :
    ∃ log, carryOut
        (Remote.read (World.transport transport) World.machine account parse url) world =
      (.error (.transport url cause), { world with log := log }) := by
  unfold Remote.read
  rw [carryOut_bind]
  simp only [liftM, carryOut_lift, World.note_run]
  exact ⟨_, carryOut_bind_of_error (exchange_of_refused refused) _⟩

/-- A reading whose answer holds what was asked for. -/
theorem read_of_answer {α : Type} {parse : String → Except Json.Problem α} {asked : Url}
    {text reason : String} {status : Nat} {after : τ} {result : α}
    (requested : Remote.requestUrl url = .ok asked)
    (answered : (transport.send (account.getRequest asked)).run world.server =
      (.ok ⟨status, reason, text.toUTF8⟩, after))
    (accepted : failing status = false) (holds : parse text = .ok result) :
    ∃ log, carryOut
        (Remote.read (World.transport transport) World.machine account parse url) world =
      (.ok result, { world with server := after, log := log }) := by
  unfold Remote.read
  rw [carryOut_bind]
  simp only [liftM, carryOut_lift, World.note_run]
  let log := world.log ++ [⟨.debug, .remote, "GET " ++ url⟩]
  refine ⟨log, ?_⟩
  rw [carryOut_bind_of_ok
    (exchange_of_accepted { world with log := log } requested answered accepted)]
  simp only [Remote.decode, Json.textOf_toUTF8, holds]
  rfl

theorem post_of_answer {upload : Upload} {asked : Url} {response : Response} {after : τ}
    (requested : Remote.requestUrl account.uploadUrl = .ok asked)
    (answered : (transport.send (account.postRequest asked upload.toJson.compact)).run
      world.server = (.ok response, after))
    (accepted : failing response.status = false) :
    ∃ log, carryOut ((remote transport account).upload upload) world =
      (.ok (), { world with server := after, log := log }) := by
  let log := world.log ++ [⟨.debug, .remote,
    "POST " ++ account.uploadUrl ++ " (" ++ Text.quoted upload.dashboard.title ++ ")"⟩]
  have sent : carryOut (Remote.exchange (World.transport transport) account.uploadUrl
      fun parsed => account.postRequest parsed upload.toJson.compact)
      { world with log := log } =
        (.ok response, { world with server := after, log := log }) :=
    exchange_of_accepted { world with log := log } requested answered accepted
  refine ⟨log, ?_⟩
  rw [remote, Remote.catalogue]
  simp only
  rw [carryOut_bind]
  simp only [liftM, carryOut_lift, World.note_run]
  exact carryOut_bind_of_ok sent _

end

end DraftBoard
