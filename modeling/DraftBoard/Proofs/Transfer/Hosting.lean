import DraftBoard.Proofs.Transfer.Serving

/-!
# Hosting a shelf

For every shelf there is a server that serves it.  It undoes the encoding of the
components in its targets, so that it never sees the texts that were searched for.
-/

namespace DraftBoard

open Http Url

namespace Shelf

/-- What a target has behind a beginning. -/
def behind? (beginning target : List Char) : Option (List Char) :=
  if beginning.isPrefixOf target then some (target.drop beginning.length) else none

def accepted (text : String) : Response := ⟨200, "OK", text.toUTF8⟩

/-- The answer to a request for a target. -/
def page (shelf : Shelf) (target : List Char) : Response :=
  match (behind? "/api/search?query=".toList target).bind Text.componentText? with
  | some query => accepted (shelf.searchText query)
  | none =>
      match (behind? "/api/dashboards/uid/".toList target).bind Text.componentText? with
      | none => ⟨404, "Not Found", "".toUTF8⟩
      | some uid =>
          match shelf.definition uid with
          | .ok definition => accepted definition.toJson.compact
          | .error _ => ⟨404, "Not Found", "".toUTF8⟩

def answer (shelf : Shelf) (request : Request) : Response :=
  match request.method with
  | .get => shelf.page request.url.target
  | .post => accepted ""

/-- The server keeps account of its requests and of nothing else. -/
def transport (shelf : Shelf) : Transport (StateM (List Request)) where
  send request := fun received => (.ok (shelf.answer request), received ++ [request])

theorem behind?_append (beginning rest : List Char) :
    behind? beginning (beginning ++ rest) = some rest := by
  have leads : beginning.isPrefixOf (beginning ++ rest) = true := by
    rw [List.isPrefixOf_iff_prefix]
    exact List.prefix_append beginning rest
  rw [behind?, if_pos leads, List.drop_left]

theorem behind?_cons {beginning front rest : List Char} {mark : Char}
    (cut : beginning = front ++ [mark]) :
    behind? beginning (front ++ mark :: rest) = some rest := by
  rw [← List.singleton_append, ← List.append_assoc, ← cut, behind?_append]

theorem behind?_search (query : String) :
    behind? "/api/search?query=".toList (searchTarget query) =
      some (Text.urlComponent query).toList := by
  have cut : searchTarget query =
      "/api/search?query=".toList ++ (Text.urlComponent query).toList :=
    congrArg (fun named => "/api/search".toList ++ '?' :: named) String.toList_append
  rw [cut, behind?_append]

theorem behind?_fetch (uid : String) :
    behind? "/api/dashboards/uid/".toList (fetchTarget uid) =
      some (Text.urlComponent uid).toList :=
  behind?_cons (rfl : _ = "/api/dashboards/uid".toList ++ ['/'])

/-- No fetch is taken for a search. -/
theorem behind?_search_fetch (uid : String) :
    behind? "/api/search?query=".toList (fetchTarget uid) = none :=
  rfl

theorem page_search (shelf : Shelf) (query : String) :
    shelf.page (searchTarget query) = accepted (shelf.searchText query) := by
  rw [page, behind?_search, Option.bind_some, Text.componentText?_urlComponent]

theorem page_fetch {shelf : Shelf} {uid : String} {definition : Definition}
    (found : shelf.definition uid = .ok definition) :
    shelf.page (fetchTarget uid) = accepted definition.toJson.compact := by
  rw [page, behind?_search_fetch, behind?_fetch, Option.bind_none, Option.bind_some,
    Text.componentText?_urlComponent]
  simp only [found]

theorem answer_of_get {shelf : Shelf} {request : Request} {server target : List Char}
    (asks : request.Asks .get server target) : shelf.answer request = shelf.page target := by
  simp only [answer, asks.method, asks.target]

theorem answer_of_post {shelf : Shelf} {request : Request} {server target : List Char}
    (asks : request.Asks .post server target) : shelf.answer request = accepted "" := by
  simp only [answer, asks.method]

theorem transport_run (shelf : Shelf) (request : Request) (received : List Request) :
    (shelf.transport.send request).run received =
      (.ok (shelf.answer request), received ++ [request]) := rfl

/-- Every shelf has a server that serves it. -/
theorem transport_serves (shelf : Shelf) (server : List Char) :
    Serves shelf.transport id server shelf.held where
  search request received query asks := by
    refine ⟨"OK", received ++ [request], ?_, rfl⟩
    rw [transport_run, answer_of_get asks, page_search]
    exact rfl
  fetch request received uid definition asks found := by
    refine ⟨"OK", received ++ [request], ?_, rfl⟩
    have sameFound := (definition_congr rfl uid : shelf.definition uid = _).trans found
    rw [transport_run, answer_of_get asks, page_fetch sameFound]
    rfl
  upload request received asks := by
    refine ⟨"OK", "".toUTF8, received ++ [request], ?_, rfl⟩
    rw [transport_run, answer_of_post asks]
    rfl

end Shelf

end DraftBoard
