import DraftBoard.Proofs.Dashboard.Codec
import DraftBoard.Proofs.Dashboard.Decoding
import DraftBoard.Proofs.Transfer.Calls
import DraftBoard.Proofs.Transfer.Lookup
import DraftBoard.Proofs.Transfer.Statuses

/-!
# How lookups end

A lookup over a server ends by what the server makes of a search and, if that search finds the
title, of one fetch.  What the server does is a function of its state, so both can be asked for
beforehand.
-/

namespace DraftBoard

open Http

variable {τ α : Type}

/-- What asking a server for a URL leads to.  Nothing is sent for a URL that no request can be
made for. -/
def Remote.asking (transport : Transport (StateM τ)) (account : Account) (url : String)
    (server : τ) : List Exchange × τ :=
  match requestUrl url with
  | .error _ => ([], server)
  | .ok asked =>
      let answered := (transport.send (account.getRequest asked)).run server
      ([⟨account.getRequest asked, answered.1⟩], answered.2)

/-- Asking has been in vain: it was not completed, or refused by the status of the answer, or
the body of the answer cannot be decoded. -/
inductive Lost (parse : String → Except Json.Problem α) : List Exchange → Prop where
  | unsent : Lost parse []
  | unanswered (request : Request) (failure : SendFailure) :
      Lost parse [⟨request, .error failure⟩]
  | refused {request : Request} {response : Response}
      (status : 400 ≤ response.status ∧ response.status < 600) :
      Lost parse [⟨request, .ok response⟩]
  | unreadable {request : Request} {response : Response}
      (undecoded : ∀ result, parse (Json.textOf response.body) ≠ .ok result) :
      Lost parse [⟨request, .ok response⟩]

/-- Asking has delivered a result. -/
inductive Delivers (parse : String → Except Json.Problem α) (result : α) :
    List Exchange → Prop where
  | answered {request : Request} {response : Response}
      (status : ¬ (400 ≤ response.status ∧ response.status < 600))
      (holds : parse (Json.textOf response.body) = .ok result) :
      Delivers parse result [⟨request, .ok response⟩]

section

variable {parse : String → Except Json.Problem α} {result other : α} {sent : List Exchange}

theorem Delivers.not_lost (delivers : Delivers parse result sent) : ¬ Lost parse sent := by
  intro lost
  cases delivers with
  | answered accepted holds =>
      cases lost with
      | refused status => exact accepted status
      | unreadable undecoded => exact undecoded _ holds

theorem Delivers.unique (delivers : Delivers parse result sent)
    (delivered : Delivers parse other sent) : result = other := by
  cases delivers with
  | answered _ holds =>
      cases delivered with
      | answered _ holdsToo =>
          rw [holds] at holdsToo
          exact Except.ok.inj holdsToo

end

namespace Remote

/-- The outcome of reading what a URL leads to. -/
inductive Answers (parse : String → Except Json.Problem α) (url : String)
    (sent : List Exchange) : Except TransferError α → Prop where
  | lost (cause : RequestError) (lost : Lost parse sent) :
      Answers parse url sent (.error (.transport url cause))
  | delivered {result : α} (delivers : Delivers parse result sent) :
      Answers parse url sent (.ok result)

theorem answers_of_accepted {parse : String → Except Json.Problem α} {response : Response}
    (status : failing response.status = false) (url : String) (request : Request) :
    Answers parse url [⟨request, .ok response⟩]
      ((decode parse response).mapError (.transport url)) := by
  cases decoded : decode parse response with
  | error cause =>
      refine .lost cause (.unreadable ?_)
      intro result holds
      rw [decode_ok_iff.mpr holds] at decoded
      cases decoded
  | ok result =>
      exact .delivered (.answered ((not_failing_iff _).mp status) (decode_ok_iff.mp decoded))

theorem lost_of_unaccepted {parse : String → Except Json.Problem α} {url : Url}
    {outcome : Except SendFailure Response} {cause : RequestError}
    (unaccepted : accept url outcome = .error cause) (request : Request) :
    Lost parse [⟨request, outcome⟩] := by
  rcases accept_error unaccepted with ⟨response, rfl, fails, _⟩ | ⟨⟨failure, rfl⟩, _⟩
  · refine .refused ?_
    by_contra status
    rw [(not_failing_iff _).mpr status] at fails
    cases fails
  · exact .unanswered request failure

theorem exchange_run {transport : Transport (StateM τ)} {url : String} {asked : Url}
    {world : World (Watched Exchange τ)} {outcome : Except SendFailure Response} {after : τ}
    (request : Url → Request) (requested : requestUrl url = .ok asked)
    (answered : (transport.send (request asked)).run world.server.server = (outcome, after)) :
    carryOut (exchange (World.transport transport.watched) url request) world =
      ((accept (request asked).url outcome).mapError (.transport url), { world with
        server := ⟨after, world.server.history ++ [⟨request asked, outcome⟩]⟩ }) := by
  have sent : ((World.transport transport.watched).send (request asked)).run world =
      (outcome, { world with
        server := ⟨after, world.server.history ++ [⟨request asked, outcome⟩]⟩ }) := by
    change (((transport.send (request asked)).run world.server.server).1, ({ world with
      server := ⟨((transport.send (request asked)).run world.server.server).2,
        world.server.history ++ [⟨request asked,
          ((transport.send (request asked)).run world.server.server).1⟩]⟩ } :
      World (Watched Exchange τ))) = _
    rw [answered]
  rw [exchange, requested, carryOut_bind]
  simp only [liftM, carryOut_lift, sent]
  cases accept (request asked).url outcome <;> rfl

/-- A reading leaves the server as asking it does, and its outcome follows from what was
sent. -/
theorem read_run (transport : Transport (StateM τ)) (account : Account)
    (parse : String → Except Json.Problem α) (url : String)
    (world : World (Watched Exchange τ)) :
    ∃ outcome log,
      carryOut (read (World.transport transport.watched) World.machine account parse url) world =
        (outcome, { world with
          server := ⟨(asking transport account url world.server.server).2,
            world.server.history ++ (asking transport account url world.server.server).1⟩
          log := log }) ∧
      Answers parse url (asking transport account url world.server.server).1 outcome := by
  let log := world.log ++ [⟨.debug, .remote, "GET " ++ url⟩]
  unfold read
  rw [carryOut_bind]
  simp only [liftM, carryOut_lift, World.note_run]
  cases requested : requestUrl url with
  | error cause =>
      have unasked : asking transport account url world.server.server =
          ([], world.server.server) := by
        rw [asking, requested]
      rw [carryOut_bind_of_error (exchange_of_refused requested), unasked, List.append_nil]
      exact ⟨_, log, rfl, .lost cause .unsent⟩
  | ok asked =>
      cases answered : (transport.send (account.getRequest asked)).run world.server.server with
      | mk outcome after =>
          have sent : asking transport account url world.server.server =
              ([⟨account.getRequest asked, outcome⟩], after) := by
            rw [asking, requested]
            simp only [answered]
          have exchanged : carryOut _ { world with log := log } = _ :=
            exchange_run account.getRequest requested answered
          rw [sent]
          cases accepted : accept (account.getRequest asked).url outcome with
          | error cause =>
              rw [accepted] at exchanged
              rw [carryOut_bind_of_error exchanged]
              exact ⟨_, log, rfl, .lost cause (lost_of_unaccepted accepted _)⟩
          | ok response =>
              obtain ⟨rfl, status⟩ := accept_ok accepted
              rw [accepted] at exchanged
              rw [carryOut_bind_of_ok exchanged]
              refine ⟨_, log, ?_, answers_of_accepted status url (account.getRequest asked)⟩
              cases decode parse response <;> rfl

end Remote

theorem searchUrl_ne_fetchUrl (account : Account) (query uid : String) :
    account.searchUrl query ≠ account.fetchUrl uid := by
  intro same
  have texts := List.append_cancel_left (String.ofList_inj.mp same)
  rw [String.toList_append, String.toList_append] at texts
  have different : ∀ left right : List Char,
      "/api/search?query=".toList ++ left ≠ "/api/dashboards/uid/".toList ++ right := by
    intro left right same
    simp at same
  exact different _ _ texts

theorem fetchUrl_injective (account : Account) {uid other : String}
    (same : account.fetchUrl uid = account.fetchUrl other) : uid = other := by
  have texts := List.append_cancel_left (String.ofList_inj.mp same)
  rw [String.toList_append, String.toList_append] at texts
  have components := List.append_cancel_left texts
  have decoded := Text.componentText?_urlComponent uid
  rw [components, Text.componentText?_urlComponent] at decoded
  exact (Option.some.inj decoded).symm

/-- The first hit with the title, where a search has delivered one. -/
def FirstHit (title : String) (search : List Exchange) (hit : Hit) : Prop :=
  ∃ hits, Delivers Hit.parseList hits search ∧ firstTitled title hits = some hit

theorem FirstHit.not_lost {title : String} {search : List Exchange} {hit : Hit}
    (first : FirstHit title search hit) : ¬ Lost Hit.parseList search := by
  obtain ⟨hits, delivers, _⟩ := first
  exact delivers.not_lost

theorem FirstHit.unique {title : String} {search : List Exchange} {hit other : Hit}
    (first : FirstHit title search hit) (second : FirstHit title search other) : hit = other := by
  obtain ⟨hits, delivers, isFirst⟩ := first
  obtain ⟨hitsToo, deliversToo, isFirstToo⟩ := second
  obtain rfl := delivers.unique deliversToo
  rw [isFirst] at isFirstToo
  exact Option.some.inj isFirstToo

theorem FirstHit.not_absent {title : String} {search : List Exchange} {hit : Hit}
    (first : FirstHit title search hit) :
    ¬ ∃ hits, Delivers Hit.parseList hits search ∧ ∀ hit ∈ hits, hit.title ≠ title := by
  rintro ⟨hits, delivers, absent⟩
  obtain ⟨hitsToo, deliversToo, isFirst⟩ := first
  obtain rfl := delivers.unique deliversToo
  obtain ⟨member, titled⟩ := mem_of_firstTitled isFirst
  exact absent hit member titled

/-- The courses of a lookup by what its search and its fetch lead to. -/
inductive LookupCourse (account : Account) (title : String) (search : List Exchange)
    (fetch : String → List Exchange) : List AnsweredCall → List Exchange →
      Except TransferError (Hit × Definition) → Prop where
  | unsearched (cause : RequestError) (answer : Except TransferError (List Hit))
      (lost : Lost Hit.parseList search) :
      LookupCourse account title search fetch [.search title answer] search
        (.error (.transport (account.searchUrl title) cause))
  | missing {hits : List Hit} (answer : Except TransferError (List Hit))
      (delivers : Delivers Hit.parseList hits search) (absent : firstTitled title hits = none) :
      LookupCourse account title search fetch [.search title answer] search
        (.error (.notFound title))
  | unfetched {hit : Hit} (cause : RequestError) (answer : Except TransferError (List Hit))
      (fetched : Except TransferError Definition) (first : FirstHit title search hit)
      (lost : Lost Definition.parse (fetch hit.uid)) :
      LookupCourse account title search fetch
        [.search title answer, .fetch hit.uid fetched] (search ++ fetch hit.uid)
        (.error (.transport (account.fetchUrl hit.uid) cause))
  | found {hit : Hit} {definition : Definition} (answer : Except TransferError (List Hit))
      (fetched : Except TransferError Definition) (first : FirstHit title search hit)
      (delivers : Delivers Definition.parse definition (fetch hit.uid)) :
      LookupCourse account title search fetch
        [.search title answer, .fetch hit.uid fetched] (search ++ fetch hit.uid)
        (.ok (hit, definition))

theorem watching_run {ε σ : Type} {entry : Except TransferError α → ε}
    {call : ExceptT TransferError (StateM (World σ)) α} {world : World (Watched ε σ)}
    {outcome : Except TransferError α} {after : World σ}
    (ran : carryOut call (world.mapServer Watched.server) = (outcome, after)) :
    carryOut (watching entry call) world =
      (outcome, after.mapServer fun server =>
        ⟨server, world.server.history ++ [entry outcome]⟩) := by
  have watched : carryOut (watching entry call) world =
      ((carryOut call (world.mapServer Watched.server)).1,
        (carryOut call (world.mapServer Watched.server)).2.mapServer fun server =>
          ⟨server, world.server.history ++
            [entry (carryOut call (world.mapServer Watched.server)).1]⟩) := rfl
  rw [watched, ran]

/-- A reading that is watched as a call, too. -/
theorem watched_read_run {transport : Transport (StateM τ)} {account : Account}
    {parse : String → Except Json.Problem α} {url : String}
    {call : ExceptT TransferError (StateM (World (Watched Exchange τ))) α}
    (reads : call =
      Remote.read (World.transport transport.watched) World.machine account parse url)
    (entry : Except TransferError α → AnsweredCall)
    (world : World (Watched AnsweredCall (Watched Exchange τ))) :
    ∃ outcome log,
      carryOut (watching entry call) world =
        (outcome, { world with
          server := ⟨⟨(Remote.asking transport account url world.server.server.server).2,
            world.server.server.history ++
              (Remote.asking transport account url world.server.server.server).1⟩,
            world.server.history ++ [entry outcome]⟩
          log := log }) ∧
      Remote.Answers parse url
        (Remote.asking transport account url world.server.server.server).1 outcome := by
  obtain ⟨outcome, log, run, answers⟩ :=
    Remote.read_run transport account parse url (world.mapServer Watched.server)
  rw [reads]
  exact ⟨outcome, log, watching_run run, answers⟩

/-- What a lookup does, by what asking its server leads to. -/
theorem find_course (transport : Transport (StateM τ)) (account : Account) (title : String)
    (world : World (Watched AnsweredCall (Watched Exchange τ))) :
    ∃ calls sent outcome after,
      carryOut (find (remote transport.watched account).watched World.machine title) world =
        (outcome, after) ∧
      after.server.history = world.server.history ++ calls ∧
      after.server.server.history = world.server.server.history ++ sent ∧
      LookupCourse account title
        (Remote.asking transport account (account.searchUrl title)
          world.server.server.server).1
        (fun uid => (Remote.asking transport account (account.fetchUrl uid)
          (Remote.asking transport account (account.searchUrl title)
            world.server.server.server).2).1)
        calls sent outcome := by
  have searches : (remote transport.watched account).search title =
      Remote.read (World.transport transport.watched) World.machine account Hit.parseList
        (account.searchUrl title) := rfl
  obtain ⟨answer, log, search, answers⟩ := watched_read_run searches (.search title) world
  generalize Remote.asking transport account (account.searchUrl title)
    world.server.server.server = searching at search answers ⊢
  have search : carryOut ((remote transport.watched account).watched.search title) world = _ :=
    search
  cases answers with
  | lost cause lost =>
      exact ⟨_, _, _, _, find_of_search_error search, rfl, rfl, .unsearched cause _ lost⟩
  | @delivered hits delivers =>
      cases first : firstTitled title hits with
      | none =>
          obtain ⟨log, run⟩ := find_of_no_hit search first
          exact ⟨_, _, _, _, run, rfl, rfl, .missing _ delivers first⟩
      | some hit =>
          obtain ⟨before, goesOn⟩ := find_of_hit search first
          have fetches : (remote transport.watched account).fetch hit.uid =
              Remote.read (World.transport transport.watched) World.machine account
                Definition.parse (account.fetchUrl hit.uid) := rfl
          obtain ⟨fetched, log, fetch, answers⟩ := watched_read_run fetches (.fetch hit.uid)
            { world with
              server := ⟨⟨searching.2, world.server.server.history ++ searching.1⟩,
                world.server.history ++ [.search title (.ok hits)]⟩
              log := before }
          obtain ⟨behind, run⟩ := goesOn fetched _ fetch
          have calls := List.append_assoc world.server.history [.search title (.ok hits)]
            [.fetch hit.uid fetched]
          have sent := List.append_assoc world.server.server.history searching.1
            (Remote.asking transport account (account.fetchUrl hit.uid) searching.2).1
          cases answers with
          | lost cause lost =>
              exact ⟨_, _, _, _, run, calls, sent,
                .unfetched cause _ _ ⟨hits, delivers, first⟩ lost⟩
          | delivered definition =>
              exact ⟨_, _, _, _, run, calls, sent,
                .found _ _ ⟨hits, delivers, first⟩ definition⟩

/-- How a lookup ends, by what its search and its fetch lead to. -/
structure LookupOutcomes (account : Account) (title : String) (search : List Exchange)
    (fetch : String → List Exchange) (calls : List AnsweredCall) (sent : List Exchange)
    (outcome : Except TransferError (Hit × Definition)) : Prop where
  unsearched : (∃ cause, outcome = .error (.transport (account.searchUrl title) cause)) ↔
    Lost Hit.parseList search
  missing : outcome = .error (.notFound title) ↔
    ∃ hits, Delivers Hit.parseList hits search ∧ ∀ hit ∈ hits, hit.title ≠ title
  unfetched : ∀ uid, (∃ cause, outcome = .error (.transport (account.fetchUrl uid) cause)) ↔
    ∃ hit, FirstHit title search hit ∧ hit.uid = uid ∧ Lost Definition.parse (fetch uid)
  found : ∀ hit definition, outcome = .ok (hit, definition) ↔
    FirstHit title search hit ∧ Delivers Definition.parse definition (fetch hit.uid)
  /-- A lookup fails in no other way. -/
  failure : ∀ error, outcome = .error error →
    error = .notFound title ∨ (∃ cause, error = .transport (account.searchUrl title) cause) ∨
      ∃ uid cause, error = .transport (account.fetchUrl uid) cause
  /-- Without a hit that bears the title the search is all that is tried. -/
  alone : (∀ hit, ¬ FirstHit title search hit) →
    (∃ answer, calls = [.search title answer]) ∧ sent = search
  both : ∀ hit, FirstHit title search hit →
    (∃ answer fetched, calls = [.search title answer, .fetch hit.uid fetched]) ∧
      sent = search ++ fetch hit.uid
  /-- One item that is no hit is enough. -/
  malformed : ∀ {request response items item}, search = [⟨request, .ok response⟩] →
    Json.parse (Json.textOf response.body) = .ok (.array items) →
    item ∈ items → Hit.ofJson? item = none →
      ∃ cause, outcome = .error (.transport (account.searchUrl title) cause)
  /-- An answer to the fetch is decoded if it gives a document, whatever it says about it. -/
  decoded : ∀ {hit request response}, FirstHit title search hit →
    fetch hit.uid = [⟨request, .ok response⟩] →
    ¬ (400 ≤ response.status ∧ response.status < 600) →
      ∀ definition, outcome = .ok (hit, definition) ↔
        ∃ about? : Option Json, definition.about = about?.getD .null ∧
          Definition.Holds (Json.textOf response.body) definition.dashboard about?

namespace LookupCourse

variable {account : Account} {title : String} {search sent : List Exchange}
variable {fetch : String → List Exchange} {calls : List AnsweredCall}
variable {outcome : Except TransferError (Hit × Definition)}

theorem unsearched_iff (course : LookupCourse account title search fetch calls sent outcome) :
    (∃ cause, outcome = .error (.transport (account.searchUrl title) cause)) ↔
      Lost Hit.parseList search := by
  constructor
  · rintro ⟨cause, same⟩
    cases course with
    | unsearched _ _ lost => exact lost
    | missing _ _ _ => cases same
    | unfetched _ _ _ _ _ =>
        have urls := (TransferError.transport.inj (Except.error.inj same)).1
        exact absurd urls.symm (searchUrl_ne_fetchUrl account title _)
    | found _ _ _ _ => cases same
  · intro lost
    cases course with
    | unsearched cause _ _ => exact ⟨cause, rfl⟩
    | missing _ delivers _ => exact absurd lost delivers.not_lost
    | unfetched _ _ _ first _ => exact absurd lost first.not_lost
    | found _ _ first _ => exact absurd lost first.not_lost

theorem missing_iff (course : LookupCourse account title search fetch calls sent outcome) :
    outcome = .error (.notFound title) ↔
      ∃ hits, Delivers Hit.parseList hits search ∧ ∀ hit ∈ hits, hit.title ≠ title := by
  constructor
  · intro same
    cases course with
    | unsearched _ _ _ => cases same
    | missing _ delivers absent => exact ⟨_, delivers, absent_of_firstTitled absent⟩
    | unfetched _ _ _ _ _ => cases same
    | found _ _ _ _ => cases same
  · intro absent
    cases course with
    | unsearched _ _ lost =>
        obtain ⟨hits, delivers, _⟩ := absent
        exact absurd lost delivers.not_lost
    | missing _ _ _ => rfl
    | unfetched _ _ _ first _ => exact absurd absent first.not_absent
    | found _ _ first _ => exact absurd absent first.not_absent

theorem unfetched_iff (course : LookupCourse account title search fetch calls sent outcome)
    (uid : String) :
    (∃ cause, outcome = .error (.transport (account.fetchUrl uid) cause)) ↔
      ∃ hit, FirstHit title search hit ∧ hit.uid = uid ∧ Lost Definition.parse (fetch uid) := by
  constructor
  · rintro ⟨cause, same⟩
    cases course with
    | unsearched _ _ _ =>
        have urls := (TransferError.transport.inj (Except.error.inj same)).1
        exact absurd urls (searchUrl_ne_fetchUrl account title uid)
    | missing _ _ _ => cases same
    | @unfetched hit _ _ _ first lost =>
        have urls := (TransferError.transport.inj (Except.error.inj same)).1
        obtain rfl := fetchUrl_injective account urls
        exact ⟨hit, first, rfl, lost⟩
    | found _ _ _ _ => cases same
  · rintro ⟨hit, first, rfl, lost⟩
    cases course with
    | unsearched _ _ lost => exact absurd lost first.not_lost
    | missing _ delivers absent =>
        exact absurd ⟨_, delivers, absent_of_firstTitled absent⟩ first.not_absent
    | unfetched cause _ _ firstToo _ =>
        obtain rfl := first.unique firstToo
        exact ⟨cause, rfl⟩
    | found _ _ firstToo delivers =>
        obtain rfl := first.unique firstToo
        exact absurd lost delivers.not_lost

theorem found_iff (course : LookupCourse account title search fetch calls sent outcome) (hit : Hit)
    (definition : Definition) :
    outcome = .ok (hit, definition) ↔
      FirstHit title search hit ∧ Delivers Definition.parse definition (fetch hit.uid) := by
  constructor
  · intro same
    cases course with
    | unsearched _ _ _ => cases same
    | missing _ _ _ => cases same
    | unfetched _ _ _ _ _ => cases same
    | found _ _ first delivers =>
        cases same
        exact ⟨first, delivers⟩
  · rintro ⟨first, delivers⟩
    cases course with
    | unsearched _ _ lost => exact absurd lost first.not_lost
    | missing _ searched absent =>
        exact absurd ⟨_, searched, absent_of_firstTitled absent⟩ first.not_absent
    | unfetched _ _ _ firstToo lost =>
        obtain rfl := first.unique firstToo
        exact absurd lost delivers.not_lost
    | found _ _ firstToo deliversToo =>
        obtain rfl := first.unique firstToo
        obtain rfl := delivers.unique deliversToo
        rfl

theorem failure (course : LookupCourse account title search fetch calls sent outcome) :
    ∀ error, outcome = .error error →
      error = .notFound title ∨ (∃ cause, error = .transport (account.searchUrl title) cause) ∨
        ∃ uid cause, error = .transport (account.fetchUrl uid) cause := by
  intro error same
  cases course with
  | unsearched cause _ _ =>
      obtain rfl := Except.error.inj same
      exact .inr (.inl ⟨cause, rfl⟩)
  | missing _ _ _ =>
      obtain rfl := Except.error.inj same
      exact .inl rfl
  | unfetched cause _ _ _ _ =>
      obtain rfl := Except.error.inj same
      exact .inr (.inr ⟨_, cause, rfl⟩)
  | found _ _ _ _ => cases same

theorem alone (course : LookupCourse account title search fetch calls sent outcome)
    (none : ∀ hit, ¬ FirstHit title search hit) :
    (∃ answer, calls = [.search title answer]) ∧ sent = search := by
  cases course with
  | unsearched _ answer _ => exact ⟨⟨answer, rfl⟩, rfl⟩
  | missing answer _ _ => exact ⟨⟨answer, rfl⟩, rfl⟩
  | unfetched _ _ _ first _ => exact absurd first (none _)
  | found _ _ first _ => exact absurd first (none _)

theorem both (course : LookupCourse account title search fetch calls sent outcome) {hit : Hit}
    (first : FirstHit title search hit) :
    (∃ answer fetched, calls = [.search title answer, .fetch hit.uid fetched]) ∧
      sent = search ++ fetch hit.uid := by
  cases course with
  | unsearched _ _ lost => exact absurd lost first.not_lost
  | missing _ delivers absent =>
      exact absurd ⟨_, delivers, absent_of_firstTitled absent⟩ first.not_absent
  | unfetched _ answer fetched firstToo _ =>
      obtain rfl := first.unique firstToo
      exact ⟨⟨answer, fetched, rfl⟩, rfl⟩
  | found answer fetched firstToo _ =>
      obtain rfl := first.unique firstToo
      exact ⟨⟨answer, fetched, rfl⟩, rfl⟩

end LookupCourse

theorem lost_of_malformed {request : Request} {response : Response} {items : List Json}
    {item : Json} (array : Json.parse (Json.textOf response.body) = .ok (.array items))
    (member : item ∈ items) (malformed : Hit.ofJson? item = none) :
    Lost Hit.parseList [⟨request, .ok response⟩] := by
  refine .unreadable ?_
  intro hits read
  obtain ⟨found, same, decoded⟩ := Hit.items_of_parseList read array
  cases same
  have among : none ∈ hits.map some := by
    rw [← decoded, ← malformed]
    exact List.mem_map_of_mem member
  simp at among

theorem delivers_definition_iff {request : Request} {response : Response}
    {definition : Definition} (status : ¬ (400 ≤ response.status ∧ response.status < 600)) :
    Delivers Definition.parse definition [⟨request, .ok response⟩] ↔
      ∃ about? : Option Json, definition.about = about?.getD .null ∧
        Definition.Holds (Json.textOf response.body) definition.dashboard about? := by
  rw [← Definition.parse_iff]
  constructor
  · intro delivers
    cases delivers with
    | answered _ holds => exact holds
  · intro holds
    exact .answered status holds

theorem LookupCourse.outcomes {account : Account} {title : String} {search sent : List Exchange}
    {fetch : String → List Exchange} {calls : List AnsweredCall}
    {outcome : Except TransferError (Hit × Definition)}
    (course : LookupCourse account title search fetch calls sent outcome) :
    LookupOutcomes account title search fetch calls sent outcome where
  unsearched := course.unsearched_iff
  missing := course.missing_iff
  unfetched := course.unfetched_iff
  found := course.found_iff
  failure := course.failure
  alone := course.alone
  both _ first := course.both first
  malformed := by
    intro request response items item answered array member malformed
    rw [course.unsearched_iff, answered]
    exact lost_of_malformed array member malformed
  decoded := by
    intro hit request response first answered status definition
    rw [course.found_iff, answered, delivers_definition_iff status]
    exact and_iff_right first

/-- A lookup over a server has one of four outcomes, and which one is decided by what asking
the server for the search URL and for the URL of the first hit with the title leads to. -/
theorem lookup_outcomes (transport : Transport (StateM τ)) (account : Account) (title : String)
    {world after : World (Watched AnsweredCall (Watched Exchange τ))}
    {outcome : Except TransferError (Hit × Definition)}
    (looks : carryOut (find (remote transport.watched account).watched World.machine title)
      world = (outcome, after)) :
    ∃ calls sent,
      after.server.history = world.server.history ++ calls ∧
      after.server.server.history = world.server.server.history ++ sent ∧
      LookupOutcomes account title
        (Remote.asking transport account (account.searchUrl title)
          world.server.server.server).1
        (fun uid => (Remote.asking transport account (account.fetchUrl uid)
          (Remote.asking transport account (account.searchUrl title)
            world.server.server.server).2).1)
        calls sent outcome := by
  obtain ⟨calls, sent, outcomeToo, afterToo, ran, callHistory, history, course⟩ :=
    find_course transport account title world
  rw [looks] at ran
  cases ran
  exact ⟨calls, sent, callHistory, history, course.outcomes⟩

/-- A lookup whose fetch is hung up on. -/
def hangingLookup : Except TransferError (Hit × Definition) ×
    World (Watched AnsweredCall (Watched Exchange Script)) :=
  carryOut (find (remote Script.transport.watched scriptAccount).watched World.machine
    "Disk (WIP)") ⟨⟨⟨hangingScript, []⟩, []⟩, ⟨[], []⟩, [], 5⟩

theorem lookup_outcomes_sample :
    hangingLookup = (.error (.transport hangingUrl (.interrupted hangingUrl)),
      hangingLookup.2) ∧
    ∃ hit answer fetched,
      FirstHit "Disk (WIP)" (Remote.asking Script.transport scriptAccount
        (scriptAccount.searchUrl "Disk (WIP)") hangingScript).1 hit ∧ hit.uid = "d/2" ∧
      hangingLookup.2.server.history = [.search "Disk (WIP)" answer, .fetch "d/2" fetched] ∧
      hangingLookup.2.server.server.history.length = 2 := by
  have ran : hangingLookup = (.error (.transport hangingUrl (.interrupted hangingUrl)),
      hangingLookup.2) := rfl
  obtain ⟨calls, sent, callHistory, history, outcomes⟩ :=
    lookup_outcomes Script.transport scriptAccount "Disk (WIP)" ran
  obtain ⟨hit, first, uid, _⟩ := (outcomes.unfetched "d/2").mp ⟨.interrupted hangingUrl, rfl⟩
  obtain ⟨⟨answer, fetched, both⟩, _⟩ := outcomes.both hit first
  rw [uid] at both
  rw [both] at callHistory
  exact ⟨ran, hit, answer, fetched, first, uid, callHistory, rfl⟩

/-- A dashboard about which too much is said. -/
def deepDefinition : Definition := ⟨⟨[]⟩, Definition.nested 127⟩

def deepScript : Script where
  address := some "h:1".toList
  routes := [
    ⟨"GET", "/api/search*".toList,
      .respond 200 (Json.array ([⟨"Disk", "d1", none⟩].map Hit.toJson)).compact.toUTF8, none⟩,
    ⟨"GET", "/api/dashboards/uid/d1".toList,
      .respond 200 deepDefinition.toJson.compact.toUTF8, none⟩]

def deepLookup : Except TransferError (Hit × Definition) ×
    World (Watched AnsweredCall (Watched Exchange Script)) :=
  carryOut (find (remote Script.transport.watched scriptAccount).watched World.machine "Disk")
    ⟨⟨⟨deepScript, []⟩, []⟩, ⟨[], []⟩, [], 5⟩

/-- A lookup fails by what is said about its dashboard, if that nests too deep. -/
theorem deep_remarks_not_decoded :
    FirstHit "Disk" (Remote.asking Script.transport scriptAccount
        (scriptAccount.searchUrl "Disk") deepScript).1 ⟨"Disk", "d1", none⟩ ∧
    (∃ request, (Remote.asking Script.transport scriptAccount (scriptAccount.fetchUrl "d1")
      (Remote.asking Script.transport scriptAccount (scriptAccount.searchUrl "Disk")
        deepScript).2).1 = [⟨request, .ok ⟨200, "OK", deepDefinition.toJson.compact.toUTF8⟩⟩]) ∧
    ∃ cause, deepLookup.1 = .error (.transport (scriptAccount.fetchUrl "d1") cause) := by
  have first : FirstHit "Disk" (Remote.asking Script.transport scriptAccount
      (scriptAccount.searchUrl "Disk") deepScript).1 ⟨"Disk", "d1", none⟩ := by
    have hits := Hit.parseList_compact [⟨"Disk", "d1", none⟩]
    rw [← Json.textOf_toUTF8 (Json.compact _)] at hits
    exact ⟨_, .answered (by decide) hits, rfl⟩
  have fetched : (Remote.asking Script.transport scriptAccount (scriptAccount.fetchUrl "d1")
      (Remote.asking Script.transport scriptAccount (scriptAccount.searchUrl "Disk")
        deepScript).2).1 = [⟨_, .ok ⟨200, "OK", deepDefinition.toJson.compact.toUTF8⟩⟩] := rfl
  have lost : Lost Definition.parse (Remote.asking Script.transport scriptAccount
      (scriptAccount.fetchUrl "d1") (Remote.asking Script.transport scriptAccount
        (scriptAccount.searchUrl "Disk") deepScript).2).1 := by
    rw [fetched]
    refine .unreadable ?_
    intro definition parsed
    have unread : Definition.parse (Json.textOf deepDefinition.toJson.compact.toUTF8) =
        .error .malformed := by
      rw [Json.textOf_toUTF8]
      exact Definition.parse_nested (Nat.le_refl 127)
    dsimp only at parsed
    rw [unread] at parsed
    cases parsed
  obtain ⟨calls, sent, outcome, after, ran, _, _, course⟩ :=
    find_course Script.transport scriptAccount "Disk" ⟨⟨⟨deepScript, []⟩, []⟩, ⟨[], []⟩, [], 5⟩
  have same : deepLookup.1 = outcome := congrArg Prod.fst ran
  rw [same]
  exact ⟨first, ⟨_, fetched⟩, (course.unfetched_iff "d1").mpr ⟨_, first, rfl, lost⟩⟩

end DraftBoard
