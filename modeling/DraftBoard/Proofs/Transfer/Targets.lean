import DraftBoard.Http.Script
import DraftBoard.Proofs.Transfer.Exchanges

/-!
# What requests ask for

The target of a search is the directory of the account and the encoded title, that of a fetch
the encoded uid in a segment of its own.  The uids `.` and `..` are no such segments: they are
resolved before the request is sent.  No request is sent for a URL that is too long to carry.
-/

namespace DraftBoard

open Http Url

variable {τ α : Type}

/-- The courses of asking for a URL. -/
inductive Remote.AsksFor (account : Account) (url : String) (asked : Url) :
    List Exchange → Except TransferError α → Prop where
  | sent {outcome : Except TransferError α} (fits : asked.chars.length ≤ lengthLimit)
      (answer : Except SendFailure Response) :
      AsksFor account url asked [⟨account.getRequest asked, answer⟩] outcome
  | tooLong (long : lengthLimit < asked.chars.length) :
      AsksFor account url asked [] (.error (.transport url (.builder (some asked.text))))

namespace Remote

section

variable {account : Account} {url : String} {asked : Url} {sent : List Exchange}
variable {request : Url → Request}

theorem Exchanges.of_requested {outcome : Except TransferError Response}
    (course : Exchanges url request sent outcome) (requested : requestUrl url = .ok asked) :
    ∃ answer, sent = [⟨request asked, answer⟩] := by
  cases course with
  | unsent refused =>
      rw [requested] at refused
      cases refused
  | failed requestedToo _ =>
      rw [requested] at requestedToo
      cases requestedToo
      exact ⟨_, rfl⟩
  | answered requestedToo _ =>
      rw [requested] at requestedToo
      cases requestedToo
      exact ⟨_, rfl⟩

theorem Exchanges.of_refused {outcome : Except TransferError Response} {cause : RequestError}
    (course : Exchanges url request sent outcome) (refused : requestUrl url = .error cause) :
    sent = [] ∧ outcome = .error (.transport url cause) := by
  cases course with
  | unsent refusedToo =>
      rw [refused] at refusedToo
      cases refusedToo
      exact ⟨rfl, rfl⟩
  | failed requested _ =>
      rw [refused] at requested
      cases requested
  | answered requested _ =>
      rw [refused] at requested
      cases requested

variable {parse : String → Except Json.Problem α} {outcome : Except TransferError α}

theorem Reads.of_requested (course : Reads account parse url sent outcome)
    (requested : requestUrl url = .ok asked) :
    ∃ answer, sent = [⟨account.getRequest asked, answer⟩] := by
  cases course with
  | lost exchange => exact exchange.of_requested requested
  | unreadable exchange _ => exact exchange.of_requested requested
  | read exchange _ => exact exchange.of_requested requested

theorem Reads.of_refused {cause : RequestError} (course : Reads account parse url sent outcome)
    (refused : requestUrl url = .error cause) :
    sent = [] ∧ outcome = .error (.transport url cause) := by
  cases course with
  | lost exchange =>
      obtain ⟨nothing, same⟩ := exchange.of_refused refused
      rw [Except.error.inj same]
      exact ⟨nothing, rfl⟩
  | unreadable exchange _ => cases (exchange.of_refused refused).2
  | read exchange _ => cases (exchange.of_refused refused).2

/-- The URL that a text is asked for under, if it is not too long. -/
def IsAskedAs (url : String) (asked : Url) : Prop :=
  Url.parse url = some asked ∧
    requestUrl url =
      if asked.chars.length ≤ lengthLimit then .ok asked else .error (.builder (some asked.text))

theorem Reads.asksFor (course : Reads account parse url sent outcome)
    (isAskedAs : IsAskedAs url asked) : AsksFor account url asked sent outcome := by
  obtain ⟨_, requested⟩ := isAskedAs
  by_cases fits : asked.chars.length ≤ lengthLimit
  · rw [if_pos fits] at requested
    obtain ⟨answer, rfl⟩ := course.of_requested requested
    exact .sent fits answer
  · rw [if_neg fits] at requested
    obtain ⟨rfl, rfl⟩ := course.of_refused requested
    exact .tooLong (Nat.lt_of_not_le fits)

end

end Remote

section

variable {account : Account} {site path reached : List Char} {authority : Authority}
variable {query : Option (List Char)}

theorem isAskedAs_ofSite (isSite : IsSite site authority) (reads : ReadsAs path reached)
    (kept : ∀ text, query = some text → ∀ c ∈ text, keptInQuery c = true) :
    Remote.IsAskedAs (String.ofList ("http://".toList ++ site ++ (path ++ marked '?' query)))
      (ofSite authority reached query) := by
  refine ⟨parse_site isSite reads kept, ?_⟩
  rw [requestUrl_of_isSite isSite reads kept, chars_ofSite isSite reads.reachedRooted]
  rfl

/-- What a URL asks for that searches for a title below a path.  Nothing but the value of its
one parameter depends on the title. -/
structure SearchesFor (path : List Char) (title : String) (component : List Char) (asked : Url) :
    Prop where
  escaped : Text.IsEscaped component
  decoded : Text.percentDecode component = title.toUTF8.data.toList
  target : asked.target =
    path.rdropWhile (· == '/') ++ "/api/search?query=".toList ++ component
  location : asked.location.chars = path.rdropWhile (· == '/') ++ "/api/search".toList
  parameters : asked.query.map (Text.splitAtMark '&') = some ["query=".toList ++ component]
  fragment : asked.fragment = none

/-- The URL of the search for a title below a path. -/
def searchAskedBelow (authority : Authority) (path : List Char) (title : String) : Url :=
  ofSite authority (path.rdropWhile (· == '/') ++ "/api/search".toList)
    (some ("query=" ++ Text.urlComponent title).toList)

theorem isAskedAs_search (isBelow : account.IsBelow site authority path) (title : String) :
    Remote.IsAskedAs (account.searchUrl title) (searchAskedBelow authority path title) := by
  have straight : IsStraight (path.rdropWhile (· == '/') ++ "/api/search".toList) :=
    isBelow.directory.trim.isStraight_append search_straight
  have written : account.searchUrl title = String.ofList ("http://".toList ++ site ++
      (path.rdropWhile (· == '/') ++ "/api/search".toList ++
        marked '?' (some ("query=" ++ Text.urlComponent title).toList))) := by
    rw [Account.searchUrl, Account.url, isBelow.root_eq]
    simp [marked]
  rw [written]
  exact isAskedAs_ofSite isBelow.toIsSite straight.readsAs fun text found =>
    Option.some.inj found ▸ keptInQuery_search title

theorem searchesFor_searchAskedBelow (isBelow : account.IsBelow site authority path)
    (title : String) :
    SearchesFor path title (Text.urlComponent title).toList
      (searchAskedBelow authority path title) := by
  have straight : IsStraight (path.rdropWhile (· == '/') ++ "/api/search".toList) :=
    isBelow.directory.trim.isStraight_append search_straight
  have single : '&' ∉ "query=".toList ++ (Text.urlComponent title).toList := by
    intro member
    rcases List.mem_append.mp member with name | value
    · exact absurd name (by decide)
    · rcases Text.mem_urlComponent value with plain | percent
      · cases plain
      · cases percent
  constructor
  · exact Text.isEscaped_urlComponent title
  · exact Text.percentDecode_urlComponent title
  · rw [searchAskedBelow, target_ofSite authority straight.rooted]
    simp [marked]
  · exact location_ofSite authority straight.rooted _
  · rw [← Text.splitAtMark_of_not_mem single, ← String.toList_append]
    rfl
  · rfl

/-- The title can be read off what is asked for. -/
theorem SearchesFor.title_eq {title other : String} {component componentToo : List Char}
    {asked askedToo : Url} (searches : SearchesFor path title component asked)
    (searchesToo : SearchesFor path other componentToo askedToo)
    (same : askedToo.target = asked.target) : other = title := by
  rw [searches.target, searchesToo.target] at same
  have components : componentToo = component := List.append_cancel_left same
  have decoded := searches.decoded
  rw [← components, searchesToo.decoded] at decoded
  exact Text.toUTF8_inj decoded

/-- The account with more slashes behind its root URL. -/
def Account.slashed (account : Account) (count : Nat) : Account :=
  { account with rootUrl := account.rootUrl ++ String.ofList (List.replicate count '/') }

theorem root_slashed (account : Account) (count : Nat) :
    (account.slashed count).root = account.root := by
  have written : (account.slashed count).rootUrl.toList =
      account.rootUrl.toList ++ List.replicate count '/' := by
    rw [Account.slashed, String.toList_append, String.toList_ofList]
  calc (account.slashed count).root
      = (account.slashed count).rootUrl.toList.rdropWhile (· == '/') := rfl
    _ = account.rootUrl.toList.rdropWhile (· == '/') := by
        rw [written, rdropWhile_append_replicate]
    _ = account.root := rfl

theorem searchUrl_slashed (account : Account) (count : Nat) (title : String) :
    (account.slashed count).searchUrl title = account.searchUrl title := by
  rw [Account.searchUrl, Account.searchUrl, Account.url, Account.url, root_slashed]

/-- A search asks for its title and for nothing else, whatever the title is and however many
slashes the root URL ends in. -/
theorem searches_ask_for_titles (isBelow : account.IsBelow site authority path)
    (transport : Transport (StateM τ)) (title : String) {world after : World (Watched Exchange τ)}
    {outcome : Except TransferError (List Hit)}
    (searches : carryOut ((remote transport.watched account).search title) world =
      (outcome, after)) :
    ∃ asked component sent,
      Url.parse (account.searchUrl title) = some asked ∧
      SearchesFor path title component asked ∧
      after.server.history = world.server.history ++ sent ∧
      Remote.AsksFor account (account.searchUrl title) asked sent outcome ∧
      (∀ other askedToo, Url.parse (account.searchUrl other) = some askedToo →
        askedToo.target = asked.target → other = title) ∧
      ∀ count, (account.slashed count).searchUrl title = account.searchUrl title := by
  have isAskedAs := isAskedAs_search isBelow title
  have searchesFor := searchesFor_searchAskedBelow isBelow title
  obtain ⟨sent, history, course⟩ := (remote_obeys transport account).search title world
  rw [searches] at history course
  refine ⟨_, _, sent, isAskedAs.1, searchesFor, history, course.asksFor isAskedAs, ?_,
    fun count => searchUrl_slashed account count title⟩
  intro other askedToo parsed same
  rw [(isAskedAs_search isBelow other).1] at parsed
  obtain rfl := Option.some.inj parsed
  exact searchesFor.title_eq (searchesFor_searchAskedBelow isBelow other) same

end

def gatewayAccount : Account := ⟨"http://h:1/team/grafana//", "admin", "vmi"⟩

def scriptAuthority : Authority := ⟨[], [], .name "h".toList, some 1⟩

def silentScript : Script where
  address := some "h:1".toList
  routes := [⟨"GET", "*".toList, .respond 200 "[]".toUTF8, none⟩]

def silentServer : World (Watched Exchange Script) := ⟨⟨silentScript, []⟩, ⟨[], []⟩, [], 5⟩

def gatewaySearch : Except TransferError (List Hit) × World (Watched Exchange Script) :=
  carryOut ((remote Script.transport.watched gatewayAccount).search "a&b=#ü/..") silentServer

theorem scriptSite : IsSite "h:1".toList scriptAuthority where
  plain := Text.forall_mem_of_all rfl
  read := rfl
  carried := rfl

theorem gatewayAccount_isBelow :
    gatewayAccount.IsBelow "h:1".toList scriptAuthority "/team/grafana/".toList where
  toIsSite := scriptSite
  directory := by
    refine ⟨?_, Text.forall_mem_of_all rfl, by decide⟩
    intro c first
    exact (Option.some.inj first).symm
  root := ⟨1, rfl⟩

theorem searches_ask_for_titles_sample :
    gatewayAccount.IsBelow "h:1".toList scriptAuthority "/team/grafana/".toList ∧
    gatewaySearch = (.ok [], gatewaySearch.2) ∧
    gatewaySearch.2.server.history.map (fun exchange => exchange.request.url.target) =
      ["/team/grafana/api/search?query=a%26b%3D%23%C3%BC%2F..".toList] ∧
    ∃ asked component sent,
      SearchesFor "/team/grafana/".toList "a&b=#ü/.." component asked ∧
      gatewaySearch.2.server.history = [] ++ sent ∧
      Remote.AsksFor gatewayAccount (gatewayAccount.searchUrl "a&b=#ü/..") asked sent
        (.ok [] : Except TransferError (List Hit)) := by
  have ran : gatewaySearch = (.ok [], gatewaySearch.2) := rfl
  obtain ⟨asked, component, sent, _, searchesFor, history, asksFor, _⟩ :=
    searches_ask_for_titles gatewayAccount_isBelow Script.transport "a&b=#ü/.." ran
  exact ⟨gatewayAccount_isBelow, ran, rfl, asked, component, sent, searchesFor, history, asksFor⟩

def siteAccount : Account := ⟨"http://h:1", "admin", "vmi"⟩

theorem siteAccount_isOn : siteAccount.IsOn "h:1".toList scriptAuthority where
  toIsSite := scriptSite
  root := ⟨0, rfl⟩

def overlongTitle : String := String.ofList (List.replicate lengthLimit 'a')

def overlongSearch : Except TransferError (List Hit) × World (Watched Exchange Script) :=
  carryOut ((remote Script.transport.watched siteAccount).search overlongTitle) silentServer

theorem overlong_title_not_asked_for :
    siteAccount.IsBelow "h:1".toList scriptAuthority [] ∧
    overlongSearch.2.server.history = [] ∧
    ∃ cause, overlongSearch.1 =
      .error (.transport (siteAccount.searchUrl overlongTitle) (.builder cause)) := by
  obtain ⟨sent, history, course⟩ :=
    (remote_obeys Script.transport siteAccount).search overlongTitle silentServer
  have refused : ¬ Carries scriptAuthority (searchTarget overlongTitle) :=
    not_carries_replicate (Nat.le_refl lengthLimit)
  have requested := requestUrl_search siteAccount_isOn overlongTitle
  rw [if_neg refused] at requested
  obtain ⟨rfl, failed⟩ := course.of_refused requested
  have nothing : silentServer.server.history = [] := rfl
  rw [List.append_nil, nothing] at history
  rw [overlongSearch]
  exact ⟨siteAccount_isOn.isBelow, history, _, failed⟩

/-- The path that a fetch asks for. -/
def fetchReached (uid : String) : List Char :=
  if uid = "." then fetchTarget ""
  else if uid = ".." then "/api/dashboards/".toList
  else fetchTarget uid

theorem fetchReached_of_named {uid : String} (notDot : uid ≠ ".") (notDoubleDot : uid ≠ "..") :
    fetchReached uid = fetchTarget uid := by
  rw [fetchReached, if_neg notDot, if_neg notDoubleDot]

theorem readsAs_fetchReached (uid : String) : ReadsAs (fetchTarget uid) (fetchReached uid) := by
  by_cases dot : uid = "."
  · subst dot
    exact ⟨rfl, Text.forall_mem_of_all rfl, rfl, rfl⟩
  · by_cases doubleDot : uid = ".."
    · subst doubleDot
      exact ⟨rfl, Text.forall_mem_of_all rfl, rfl, rfl⟩
    · rw [fetchReached_of_named dot doubleDot]
      exact (isStraight_component uid_straight dot doubleDot).readsAs

theorem fetchTarget_inj {uid other : String} (same : fetchTarget other = fetchTarget uid) :
    other = uid := by
  have components := List.cons_inj_right '/' |>.mp (List.append_cancel_left same)
  exact Text.urlComponent_inj (String.toList_inj.mp components)

theorem fetchTarget_ne (uid : String) : fetchTarget uid ≠ "/api/dashboards/".toList := by
  intro same
  have above : "/api/dashboards/".toList.length = 16 := rfl
  have below : (fetchTarget uid).length = 19 + (Text.urlComponent uid).toList.length.succ :=
    List.length_append
  rw [same, above] at below
  omega

/-- The uid that asks for the same path in a segment of its own. -/
def heldUid (uid : String) : String :=
  if uid = "." then "" else uid

theorem fetchReached_of_held {uid : String} (held : uid ≠ "..") :
    fetchReached uid = fetchTarget (heldUid uid) := by
  by_cases dot : uid = "."
  · rw [fetchReached, heldUid, if_pos dot, if_pos dot]
  · rw [heldUid, if_neg dot, fetchReached_of_named dot held]

theorem heldUid_eq_empty_iff {uid : String} : heldUid uid = "" ↔ uid ∈ ["", "."] := by
  by_cases dot : uid = "."
  · simp [heldUid, dot]
  · simp [heldUid, dot]

theorem heldUid_of_ne_empty {uid : String} (held : heldUid uid ≠ "") : heldUid uid = uid := by
  by_cases dot : uid = "."
  · exact absurd (if_pos dot) held
  · exact if_neg dot

theorem heldUid_eq_iff {uid other : String} :
    heldUid other = heldUid uid ↔ other = uid ∨ other ∈ ["", "."] ∧ uid ∈ ["", "."] := by
  rw [← heldUid_eq_empty_iff, ← heldUid_eq_empty_iff]
  constructor
  · intro same
    by_cases empty : heldUid uid = ""
    · exact .inr ⟨same.trans empty, empty⟩
    · have emptyToo : heldUid other ≠ "" := same ▸ empty
      rw [heldUid_of_ne_empty empty, heldUid_of_ne_empty emptyToo] at same
      exact .inl same
  · rintro (rfl | ⟨emptyToo, empty⟩)
    · rfl
    · rw [emptyToo, empty]

/-- Only the empty uid shares its path with another one. -/
theorem fetchReached_eq_iff {uid other : String} :
    fetchReached other = fetchReached uid ↔
      other = uid ∨ other ∈ ["", "."] ∧ uid ∈ ["", "."] := by
  have resolved : fetchReached ".." = "/api/dashboards/".toList := rfl
  by_cases held : uid = ".."
  · subst held
    by_cases heldToo : other = ".."
    · subst heldToo
      simp
    · rw [resolved, fetchReached_of_held heldToo]
      constructor
      · intro same
        exact absurd same (fetchTarget_ne _)
      · rintro (same | ⟨_, empty⟩)
        · exact absurd same heldToo
        · exact absurd empty (by decide)
  · by_cases heldToo : other = ".."
    · subst heldToo
      rw [resolved, fetchReached_of_held held]
      constructor
      · intro same
        exact absurd same.symm (fetchTarget_ne _)
      · rintro (same | ⟨empty, _⟩)
        · exact absurd same.symm held
        · exact absurd empty (by decide)
    · rw [fetchReached_of_held held, fetchReached_of_held heldToo, ← heldUid_eq_iff]
      constructor
      · exact fetchTarget_inj
      · exact congrArg fetchTarget

/-- What a URL asks for that fetches the definition with a uid. -/
structure FetchesFor (uid : String) (segment : List Char) (asked : Url) : Prop where
  escaped : Text.IsEscaped segment
  decoded : Text.percentDecode segment = uid.toUTF8.data.toList
  target : asked.target = "/api/dashboards/uid/".toList ++ segment
  location : asked.location =
    .segments ["api".toList, "dashboards".toList, "uid".toList, segment]
  query : asked.query = none
  fragment : asked.fragment = none

section

variable {account : Account} {site : List Char} {authority : Authority}

/-- The URL that fetches the definition with a uid, dot segments resolved. -/
def fetchResolved (authority : Authority) (uid : String) : Url :=
  ofSite authority (fetchReached uid) none

theorem isAskedAs_fetch (isOn : account.IsOn site authority) (uid : String) :
    Remote.IsAskedAs (account.fetchUrl uid) (fetchResolved authority uid) := by
  have isAskedAs :=
    isAskedAs_ofSite isOn.toIsSite (readsAs_fetchReached uid) kept_of_no_query
  rw [marked, List.append_nil, ← isOn.fetchUrl_eq] at isAskedAs
  exact isAskedAs

theorem target_fetchResolved (authority : Authority) (uid : String) :
    (fetchResolved authority uid).target = fetchReached uid := by
  rw [fetchResolved, target_ofSite authority (readsAs_fetchReached uid).reachedRooted, marked,
    List.append_nil]

theorem fetchesFor_fetchResolved {uid : String} (notDot : uid ≠ ".") (notDoubleDot : uid ≠ "..") :
    FetchesFor uid (Text.urlComponent uid).toList (fetchResolved authority uid) := by
  have undivided : '/' ∉ (Text.urlComponent uid).toList := by
    intro member
    rcases Text.mem_urlComponent member with plain | percent
    · cases plain
    · cases percent
  constructor
  · exact Text.isEscaped_urlComponent uid
  · exact Text.percentDecode_urlComponent uid
  · rw [target_fetchResolved, fetchReached_of_named notDot notDoubleDot]
    rfl
  · have names : Text.splitAtMark '/' ("api/dashboards/uid".toList ++
        '/' :: (Text.urlComponent uid).toList) =
        ["api".toList, "dashboards".toList, "uid".toList, (Text.urlComponent uid).toList] := by
      rw [Text.splitAtMark_append_mark, Text.splitAtMark_of_not_mem undivided]
      rfl
    rw [← names, fetchResolved, fetchReached_of_named notDot notDoubleDot]
    rfl
  · rfl
  · rfl

/-- A fetch asks for its uid, unless the uid is a dot segment. -/
theorem fetches_ask_for_uids (isOn : account.IsOn site authority)
    (transport : Transport (StateM τ)) (uid : String) {world after : World (Watched Exchange τ)}
    {outcome : Except TransferError Definition}
    (fetches : carryOut ((remote transport.watched account).fetch uid) world =
      (outcome, after)) :
    ∃ asked sent,
      Url.parse (account.fetchUrl uid) = some asked ∧
      after.server.history = world.server.history ++ sent ∧
      Remote.AsksFor account (account.fetchUrl uid) asked sent outcome ∧
      (uid ≠ "." → uid ≠ ".." → ∃ segment, FetchesFor uid segment asked) ∧
      (uid = "." → asked.target = "/api/dashboards/uid/".toList) ∧
      (uid = ".." → asked.target = "/api/dashboards/".toList) ∧
      ∀ other askedToo, Url.parse (account.fetchUrl other) = some askedToo →
        (askedToo.target = asked.target ↔
          other = uid ∨ other ∈ ["", "."] ∧ uid ∈ ["", "."]) := by
  have isAskedAs := isAskedAs_fetch isOn uid
  obtain ⟨sent, history, course⟩ := (remote_obeys transport account).fetch uid world
  rw [fetches] at history course
  refine ⟨_, sent, isAskedAs.1, history, course.asksFor isAskedAs, ?_, ?_, ?_, ?_⟩
  · intro notDot notDoubleDot
    exact ⟨_, fetchesFor_fetchResolved notDot notDoubleDot⟩
  · rintro rfl
    rfl
  · rintro rfl
    rfl
  · intro other askedToo parsed
    rw [(isAskedAs_fetch isOn other).1] at parsed
    obtain rfl := Option.some.inj parsed
    rw [target_fetchResolved, target_fetchResolved]
    exact fetchReached_eq_iff

end

/-- A fetch of a uid with a slash in it. -/
def slashedFetch : Except TransferError Definition × World (Watched Exchange Script) :=
  carryOut ((remote Script.transport.watched siteAccount).fetch "../db") silentServer

theorem fetches_ask_for_uids_sample :
    siteAccount.IsOn "h:1".toList scriptAuthority ∧
    slashedFetch = (slashedFetch.1, slashedFetch.2) ∧
    slashedFetch.2.server.history.map (fun exchange => exchange.request.url.target) =
      ["/api/dashboards/uid/..%2Fdb".toList] ∧
    ∃ asked sent segment,
      slashedFetch.2.server.history = [] ++ sent ∧
      Remote.AsksFor siteAccount (siteAccount.fetchUrl "../db") asked sent slashedFetch.1 ∧
      FetchesFor "../db" segment asked := by
  have ran : slashedFetch = (slashedFetch.1, slashedFetch.2) := rfl
  obtain ⟨asked, sent, _, history, asksFor, fetchesFor, _⟩ :=
    fetches_ask_for_uids siteAccount_isOn Script.transport "../db" ran
  obtain ⟨segment, fetchesFor⟩ := fetchesFor (by decide) (by decide)
  exact ⟨siteAccount_isOn, ran, rfl, asked, sent, segment, history, asksFor, fetchesFor⟩

/-- A server with a hit that has a dot segment as its uid. -/
def dottedScript : Script where
  address := some "h:1".toList
  routes := [⟨"GET", "/api/search*".toList,
    .respond 200 "[\x7b\"title\":\"Disk\",\"uid\":\"..\"\x7d]".toUTF8, none⟩]

def dottedLookup : Except TransferError (Hit × Definition) × World (Watched Exchange Script) :=
  carryOut (find (remote Script.transport.watched siteAccount) World.machine "Disk")
    ⟨⟨dottedScript, []⟩, ⟨[], []⟩, [], 5⟩

theorem dotted_hit_redirects_fetch :
    siteAccount.IsOn "h:1".toList scriptAuthority ∧
    ∃ exchange, dottedLookup.2.server.history[1]? = some exchange ∧
      exchange.request = siteAccount.getRequest exchange.request.url ∧
      exchange.request.url.target = "/api/dashboards/".toList ∧
      ∀ segment, exchange.request.url.target ≠ "/api/dashboards/uid/".toList ++ segment := by
  have asked : ∃ exchange, dottedLookup.2.server.history[1]? = some exchange ∧
      exchange.request = siteAccount.getRequest exchange.request.url ∧
      exchange.request.url.target = "/api/dashboards/".toList := ⟨_, rfl, rfl, rfl⟩
  obtain ⟨exchange, found, authorized, target⟩ := asked
  refine ⟨siteAccount_isOn, exchange, found, authorized, target, ?_⟩
  intro segment same
  rw [target] at same
  cases same

end DraftBoard
