import DraftBoard.Proofs.Transfer.Reading

/-!
# Statuses that end a run

An answer with a status from 400 to 599 ends a promotion or a saving at once.  Any other
status is taken for a success, one below 200 or from 300 to 399 as well.
-/

namespace DraftBoard

open Http

variable {τ α : Type}

/-- No answer has a status that counts as a failure. -/
def Clean (sent : List Exchange) : Prop :=
  ∀ exchange ∈ sent, ∀ response, exchange.outcome = .ok response →
    failing response.status = false

/-- The ways in which a run fails: by the status of its last answer, or else with clean
answers only. -/
inductive Ends : List Exchange → TransferError → Prop where
  | otherwise {sent : List Exchange} {error : TransferError} (clean : Clean sent)
      (other : ∀ url code reason text, error ≠ .transport url (.status code reason text)) :
      Ends sent error
  | status {earlier : List Exchange} {exchange : Exchange} {response : Response}
      {url : String} {asked : Url} (clean : Clean earlier)
      (answered : exchange.outcome = .ok response) (fails : failing response.status = true)
      (requested : Remote.requestUrl url = .ok asked)
      (carried : exchange.request.url = asked.withoutCredentials) :
      Ends (earlier ++ [exchange]) (.transport url
        (.status response.status response.reason exchange.request.url.text))

/-- A run that succeeds has met clean answers only, one that fails ends so. -/
def Concludes (sent : List Exchange) : Except TransferError α → Prop
  | .ok _ => Clean sent
  | .error error => Ends sent error

theorem clean_nil : Clean [] := by
  intro exchange member
  cases member

theorem clean_singleton {exchange : Exchange}
    (clean : ∀ response, exchange.outcome = .ok response → failing response.status = false) :
    Clean [exchange] := by
  intro other member
  rw [List.mem_singleton.mp member]
  exact clean

theorem Clean.append {first second : List Exchange} (left : Clean first)
    (right : Clean second) : Clean (first ++ second) := by
  intro exchange member
  rcases List.mem_append.mp member with early | late
  · exact left exchange early
  · exact right exchange late

theorem Clean.ends {first second : List Exchange} {error : TransferError}
    (clean : Clean first) (ends : Ends second error) : Ends (first ++ second) error := by
  cases ends with
  | otherwise right other => exact .otherwise (clean.append right) other
  | status right answered fails requested carried =>
      rw [← List.append_assoc]
      exact .status (clean.append right) answered fails requested carried

theorem requestUrl_error {url : String} {cause : RequestError}
    (refused : Remote.requestUrl url = .error cause) :
    ∀ code reason text, cause ≠ .status code reason text := by
  intro code reason text same
  rw [same, Remote.requestUrl] at refused
  split at refused
  · cases refused
  · simp only at refused
    split at refused <;> cases refused

namespace Remote

theorem Exchanges.concludes {url : String} {request : Url → Request} {sent : List Exchange}
    {outcome : Except TransferError Response}
    (carries : ∀ asked, (request asked).url = asked.withoutCredentials)
    (course : Exchanges url request sent outcome) : Concludes sent outcome := by
  cases course with
  | unsent refused =>
      refine .otherwise clean_nil ?_
      intro other code reason text same
      cases same
      exact requestUrl_error refused _ _ _ rfl
  | @failed asked outcome cause requested unaccepted =>
      rcases accept_error unaccepted with ⟨response, rfl, fails, rfl⟩ | ⟨⟨failure, rfl⟩, other⟩
      · let exchange : Exchange := ⟨request asked, .ok response⟩
        have ends : Ends ([] ++ [exchange]) _ :=
          .status clean_nil rfl fails requested (carries asked)
        exact ends
      · refine .otherwise (clean_singleton ?_) ?_
        · intro response answered
          cases answered
        · intro other code reason text same
          cases same
          exact other _ _ _ rfl
  | answered requested accepted =>
      obtain ⟨rfl, passed⟩ := accept_ok accepted
      apply clean_singleton
      intro response answered
      cases answered
      exact passed

theorem decode_error {parse : String → Except Json.Problem α} {response : Response}
    {cause : RequestError} (undecoded : decode parse response = .error cause) :
    cause = .decode := by
  unfold decode at undecoded
  split at undecoded
  · cases undecoded
  · cases undecoded
    rfl

theorem Reads.concludes {account : Account} {parse : String → Except Json.Problem α}
    {url : String} {sent : List Exchange} {outcome : Except TransferError α}
    (course : Reads account parse url sent outcome) : Concludes sent outcome := by
  cases course with
  | lost exchange => exact exchange.concludes fun _ => rfl
  | unreadable exchange undecoded =>
      refine .otherwise (exchange.concludes fun _ => rfl) ?_
      intro other code reason text same
      rw [decode_error undecoded] at same
      cases same
  | read exchange _ => exact exchange.concludes fun _ => rfl

theorem Posts.concludes {account : Account} {upload : Upload} {sent : List Exchange}
    {outcome : Except TransferError Unit} (course : Posts account upload sent outcome) :
    Concludes sent outcome := by
  cases course with
  | lost exchange => exact exchange.concludes fun _ => rfl
  | stored exchange => exact exchange.concludes fun _ => rfl

variable {account : Account} {title : String} {sent : List Exchange}

theorem lookup_concludes {outcome : Except TransferError (Hit × Definition)}
    (course : (exchanges account).Lookup title sent outcome) : Concludes sent outcome := by
  cases course with
  | unsearched search => exact search.concludes
  | missing search absent =>
      refine .otherwise search.concludes ?_
      intro url code reason text same
      cases same
  | unfetched search first fetch => exact search.concludes.ends fetch.concludes
  | found search first fetch => exact search.concludes.append fetch.concludes

theorem promotes_concludes {outcome : Except TransferError Promotion}
    (course : (exchanges account).Promotes title sent outcome) : Concludes sent outcome := by
  cases course with
  | notFound lookup => exact lookup_concludes lookup
  | refused lookup upload => exact (lookup_concludes lookup).ends upload.concludes
  | stored lookup upload => exact (lookup_concludes lookup).append upload.concludes

theorem saves_concludes {options : SaveOptions} {outcome : Except TransferError Saving}
    (course : (exchanges account).Saves title options sent outcome) :
    Concludes sent outcome := by
  cases course with
  | notFound lookup => exact lookup_concludes lookup
  | refused path cause lookup =>
      refine .otherwise (lookup_concludes lookup) ?_
      intro url code reason text same
      cases same
  | saved lookup => exact lookup_concludes lookup

end Remote

/-- The answer to an exchange ends a run: nothing is sent behind it, and the run fails by
its status at the URL that was asked for. -/
structure EndsRun (exchange : Exchange) (response : Response) (sent : List Exchange)
    (outcome : Except TransferError α) : Prop where
  last : ∃ earlier, sent = earlier ++ [exchange]
  failure : ∃ url asked, Remote.requestUrl url = .ok asked ∧
    exchange.request.url = asked.withoutCredentials ∧
    outcome = .error (.transport url
      (.status response.status response.reason exchange.request.url.text))

/-- In a run that concludes, an answer is the end of it if and only if its status counts as
a failure. -/
theorem Concludes.fails_iff {sent : List Exchange} {outcome : Except TransferError α}
    (concludes : Concludes sent outcome) {exchange : Exchange} (member : exchange ∈ sent)
    {response : Response} (answered : exchange.outcome = .ok response) :
    400 ≤ response.status ∧ response.status < 600 ↔
      EndsRun exchange response sent outcome := by
  have counts : failing response.status = true ↔
      400 ≤ response.status ∧ response.status < 600 := by
    simp [failing]
  rw [← counts]
  cases outcome with
  | ok result =>
      have passed := concludes exchange member response answered
      rw [passed]
      constructor
      · intro fails
        cases fails
      · rintro ⟨_, url, _, _, _, same⟩
        cases same
  | error error =>
      cases concludes with
      | otherwise clean other =>
          have passed := clean exchange member response answered
          rw [passed]
          constructor
          · intro fails
            cases fails
          · rintro ⟨_, url, _, _, _, same⟩
            cases same
            exact absurd rfl (other _ _ _ _)
      | @status earlier final finalResponse url asked clean finalAnswered finalFails requested
          carried =>
          -- All earlier answers are clean, so one that fails can only be the last.
          constructor
          · intro fails
            rcases List.mem_append.mp member with early | late
            · rw [clean exchange early response answered] at fails
              cases fails
            · rw [List.mem_singleton.mp late] at answered ⊢
              rw [finalAnswered] at answered
              cases answered
              exact ⟨⟨earlier, rfl⟩, url, asked, requested, carried, rfl⟩
          · rintro ⟨⟨others, same⟩, _⟩
            cases (List.append_inj' same rfl).2
            rw [finalAnswered] at answered
            cases answered
            exact finalFails

/-- Whether an upload was sent and answered with a status that does not count as a
failure. -/
def UploadTaken (sent : List Exchange) : Prop :=
  ∃ exchange ∈ sent, exchange.request.method = .post ∧
    ∃ response, exchange.outcome = .ok response ∧
      ¬ (400 ≤ response.status ∧ response.status < 600)

theorem not_failing_iff (status : Nat) :
    failing status = false ↔ ¬ (400 ≤ status ∧ status < 600) := by
  rw [← Bool.not_eq_true]
  simp [failing]

theorem not_uploadTaken_of_get {sent : List Exchange}
    (gets : ∀ exchange ∈ sent, exchange.request.method = .get) : ¬ UploadTaken sent := by
  rintro ⟨exchange, member, post, _⟩
  rw [gets exchange member] at post
  cases post

namespace Remote

theorem not_uploadTaken_of_refused {account : Account} {upload : Upload}
    {stored : List Exchange} {error : TransferError}
    (course : Posts account upload stored (.error error)) : ¬ UploadTaken stored := by
  cases course with
  | lost exchange =>
      cases exchange with
      | unsent refused =>
          rintro ⟨exchange, member, _⟩
          cases member
      | failed requested unaccepted =>
          rintro ⟨exchange, member, _, response, answered, passed⟩
          rw [List.mem_singleton.mp member] at answered
          rcases accept_error unaccepted with ⟨other, same, fails, _⟩ | ⟨⟨failure, lost⟩, _⟩
          · rw [same] at answered
            cases answered
            rw [(not_failing_iff _).mpr passed] at fails
            cases fails
          · rw [lost] at answered
            cases answered

theorem uploadTaken_of_stored {account : Account} {upload : Upload} {stored : List Exchange}
    (course : Posts account upload stored (.ok ())) : UploadTaken stored := by
  cases course with
  | stored exchange =>
      cases exchange with
      | answered requested accepted =>
          obtain ⟨rfl, passed⟩ := accept_ok accepted
          exact ⟨_, List.mem_cons_self, rfl, _, rfl, (not_failing_iff _).mp passed⟩

/-- A promotion succeeds if and only if its upload was answered and the status does not
count as a failure. -/
theorem promotes_ok_iff {account : Account} {title : String} {sent : List Exchange}
    {outcome : Except TransferError Promotion}
    (course : (exchanges account).Promotes title sent outcome) :
    (∃ promotion, outcome = .ok promotion) ↔ UploadTaken sent := by
  cases course with
  | notFound lookup =>
      have gets := (lookupRequests_of_lookup lookup).get
      constructor
      · rintro ⟨promotion, same⟩
        cases same
      · intro taken
        exact absurd taken (not_uploadTaken_of_get gets)
  | @refused looked stored hit definition error lookup upload =>
      have gets := (lookupRequests_of_lookup lookup).get
      constructor
      · rintro ⟨promotion, same⟩
        cases same
      · rintro ⟨exchange, member, taken⟩
        rcases List.mem_append.mp member with early | late
        · exact absurd ⟨exchange, early, taken⟩ (not_uploadTaken_of_get gets)
        · exact absurd ⟨exchange, late, taken⟩ (not_uploadTaken_of_refused upload)
  | stored lookup upload =>
      constructor
      · rintro _
        obtain ⟨exchange, member, taken⟩ := uploadTaken_of_stored upload
        exact ⟨exchange, List.mem_append_right _ member, taken⟩
      · rintro _
        exact ⟨_, rfl⟩

end Remote

/-- Every answer with a status from 400 to 599 ends a promotion or a saving, and no other
answer does; a promotion succeeds if and only if its upload is answered with another
status.  A saving that is ended so has changed no file, and a promotion never changes
any. -/
theorem failing_answers_end_runs (transport : Transport (StateM τ)) (account : Account)
    (title : String) (options : SaveOptions)
    {world promoted site saved : World (Watched Exchange τ)}
    {promotion : Except TransferError Promotion} {saving : Except TransferError Saving}
    (promotes : carryOut (promote (remote transport.watched account) World.machine title)
      world = (promotion, promoted))
    (saves : carryOut (save (remote transport.watched account) World.machine title options)
      site = (saving, saved)) :
    (∃ sent, promoted.server.history = world.server.history ++ sent ∧
      (∀ exchange ∈ sent, ∀ response, exchange.outcome = .ok response →
        (400 ≤ response.status ∧ response.status < 600 ↔
          EndsRun exchange response sent promotion)) ∧
      ((∃ report, promotion = .ok report) ↔ UploadTaken sent) ∧
      promoted.files = world.files) ∧
    (∃ sent, saved.server.history = site.server.history ++ sent ∧
      ∀ exchange ∈ sent, ∀ response, exchange.outcome = .ok response →
        (400 ≤ response.status ∧ response.status < 600 ↔
          EndsRun exchange response sent saving) ∧
        (400 ≤ response.status ∧ response.status < 600 → saved.files = site.files)) := by
  obtain ⟨sent, history, promoteCourse⟩ :=
    promote_enters (remote_obeys transport account) title world
  obtain ⟨read, readHistory, saveCourse⟩ :=
    save_enters (remote_obeys transport account) title options site
  have files := promote_leavesFiles (remote_keepsFiles transport.watched account) title world
  rw [promotes] at history promoteCourse files
  rw [saves] at readHistory saveCourse
  refine ⟨⟨sent, history, ?_, Remote.promotes_ok_iff promoteCourse, files⟩,
    ⟨read, readHistory, ?_⟩⟩
  · intro exchange member response answered
    exact (Remote.promotes_concludes promoteCourse).fails_iff member answered
  · intro exchange member response answered
    have ends := (Remote.saves_concludes saveCourse).fails_iff member answered
    refine ⟨ends, ?_⟩
    intro fails
    obtain ⟨_, url, asked, _, _, failure⟩ := ends.mp fails
    have failed : saving = _ := failure
    rw [failed] at saves
    apply files_of_save_error (remote_keepsFiles _ _) saves
    intro path cause same
    cases same

def bothFound : Json :=
  .array [Hit.toJson ⟨"Disk", "d1", some "hosts"⟩, Hit.toJson ⟨"Disk (WIP)", "d2", none⟩]

def foundDisk : Json := .object [("dashboard", .object [])]

/-- A dashboard and its draft, on a server whose answer to an upload is given. -/
def diskScript (uploadStatus : Nat) : Script where
  address := some "h:1".toList
  routes := [
    ⟨"GET", "/api/search*".toList, .respond 200 bothFound.compact.toUTF8, none⟩,
    ⟨"GET", "/api/dashboards/uid/d1".toList, .respond 203 foundDisk.compact.toUTF8, none⟩,
    ⟨"GET", "/api/dashboards/uid/d2".toList, .respond 503 .empty, none⟩,
    ⟨"POST", "/api/dashboards/db".toList, .respond uploadStatus .empty, none⟩]

def diskServer (uploadStatus : Nat) : World (Watched Exchange Script) where
  server := ⟨diskScript uploadStatus, []⟩
  files := ⟨[], []⟩
  log := []
  clock := 5

def diskPromotion (uploadStatus : Nat) :
    Except TransferError Promotion × World (Watched Exchange Script) :=
  carryOut (promote (remote Script.transport.watched scriptAccount) World.machine "Disk")
    (diskServer uploadStatus)

def diskSaving : Except TransferError Saving × World (Watched Exchange Script) :=
  carryOut (save (remote Script.transport.watched scriptAccount) World.machine "Disk"
    sampleOptions) (diskServer 200)

theorem failing_answers_end_runs_sample :
    (∃ promotion promoted sent exchange, diskPromotion 412 = (promotion, promoted) ∧
      promoted.server.history = sent ∧ exchange ∈ sent ∧
      exchange.outcome = .ok ⟨412, "Precondition Failed", .empty⟩ ∧
      EndsRun exchange ⟨412, "Precondition Failed", .empty⟩ sent promotion ∧
      ¬ UploadTaken sent) ∧
    (∃ saving saved sent exchange, diskSaving = (saving, saved) ∧
      saved.server.history = sent ∧ exchange ∈ sent ∧
      exchange.outcome = .ok ⟨503, "Service Unavailable", .empty⟩ ∧
      EndsRun exchange ⟨503, "Service Unavailable", .empty⟩ sent saving) := by
  have uploads : ∃ promotion promoted posted, diskPromotion 412 = (promotion, promoted) ∧
    promoted.server.history[2]? = some posted ∧
    posted.outcome = .ok ⟨412, "Precondition Failed", .empty⟩ := ⟨_, _, _, rfl, rfl, rfl⟩
  have fetches : ∃ saving saved fetched, diskSaving = (saving, saved) ∧
    saved.server.history[1]? = some fetched ∧
    fetched.outcome = .ok ⟨503, "Service Unavailable", .empty⟩ := ⟨_, _, _, rfl, rfl, rfl⟩
  obtain ⟨promotion, promoted, posted, promotes, third, refused⟩ := uploads
  obtain ⟨saving, saved, fetched, saves, second, unread⟩ := fetches
  obtain ⟨⟨sent, history, ends, taken, _⟩, ⟨read, readHistory, readEnds⟩⟩ :=
    failing_answers_end_runs Script.transport scriptAccount "Disk" sampleOptions promotes saves
  have upload : posted ∈ sent := by
    rw [history] at third
    exact List.mem_of_getElem? third
  have fetch : fetched ∈ read := by
    rw [readHistory] at second
    exact List.mem_of_getElem? second
  have ended := (ends posted upload _ refused).mp (by decide)
  have endedRead := (readEnds fetched fetch _ unread).1.mp (by decide)
  refine ⟨⟨promotion, promoted, sent, posted, promotes, history, upload, refused, ended, ?_⟩,
    ⟨saving, saved, read, fetched, saves, readHistory, fetch, unread, endedRead⟩⟩
  rw [← taken]
  rintro ⟨report, same⟩
  obtain ⟨url, asked, _, _, failure⟩ := ended.failure
  rw [failure] at same
  cases same

/-- An upload that is answered with 300 counts as stored. -/
theorem promoted_with_answer_300 :
    (diskPromotion 300).1 = .ok ⟨"hosts", "Disk", " (WIP)"⟩ ∧
    ∃ exchange ∈ (diskPromotion 300).2.server.history, exchange.request.method = .post ∧
      ∃ response, exchange.outcome = .ok response ∧
        ¬ (200 ≤ response.status ∧ response.status ≤ 299) := by
  refine ⟨rfl, ?_⟩
  have upload : ∃ exchange, (diskPromotion 300).2.server.history[2]? = some exchange ∧
      exchange.request.method = .post ∧
      exchange.outcome = .ok ⟨300, "Multiple Choices", .empty⟩ := ⟨_, rfl, rfl, rfl⟩
  obtain ⟨exchange, found, post, answered⟩ := upload
  exact ⟨exchange, List.mem_of_getElem? found, post, _, answered, by decide⟩

end DraftBoard
