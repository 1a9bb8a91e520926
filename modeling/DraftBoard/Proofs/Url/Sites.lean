import DraftBoard.Proofs.Text.Percent
import DraftBoard.Proofs.Text.Split
import DraftBoard.Url.Parser

/-!
# URLs below a site

A site is a host with a port as it is written in a root URL.  Behind it, a path and
a query that need no encoding are read as they stand, so that a request asks for
exactly what was written.
-/

namespace DraftBoard.Url

open Text

/-- The authority that a site is read as. -/
structure IsSite (site : List Char) (authority : Authority) : Prop where
  plain : ∀ c ∈ site, 0x20 < c.toNat ∧ isSlash c = false ∧ isEnd c = false ∧ c ≠ '@'
  read : authority? host? (some 80) site = some (authority, [])
  carried : authority.host.isCarried = true

/-- A path that is read as it is written. -/
structure IsStraight (path : List Char) : Prop where
  rooted : path.head? = some '/'
  kept : ∀ c ∈ path, keptInPath c = true ∧ c ≠ '\\'
  undotted : ∀ segment ∈ splitAtMark '/' (path.drop 1),
    isDot segment = false ∧ isDoubleDot segment = false

/-- A path that is read as another one, in which dot segments are resolved. -/
structure ReadsAs (path reached : List Char) : Prop where
  rooted : path.head? = some '/'
  kept : ∀ c ∈ path, keptInPath c = true ∧ c ≠ '\\'
  reachedRooted : reached.head? = some '/'
  resolved : segments path = splitAtMark '/' (reached.drop 1)

/-- The URL of a path and a query on a site. -/
def ofSite (authority : Authority) (path : List Char) (query : Option (List Char)) : Url where
  scheme := "http".toList
  authority := some authority
  location := .segments (splitAtMark '/' (path.drop 1))
  query := query
  fragment := none

theorem percentEncode_of_kept {keep : Char → Bool} {text : List Char}
    (kept : ∀ c ∈ text, keep c = true) : percentEncode keep text = text := by
  induction text with
  | nil => rfl
  | cons c rest ih =>
      have first := kept c List.mem_cons_self
      have others := ih fun d member => kept d (List.mem_cons_of_mem _ member)
      rw [percentEncode] at others ⊢
      rw [List.flatMap_cons, others, if_pos first, List.singleton_append]

theorem dropWhile_of_head {test : Char → Bool} {text : List Char}
    (refused : ∀ c, text.head? = some c → test c = false) : text.dropWhile test = text := by
  cases text with
  | nil => rfl
  | cons c rest => simp [refused c rfl]

/-- Nothing is taken from a text without blanks. -/
theorem tidy_of_visible {text : List Char} (visible : ∀ c ∈ text, 0x20 < c.toNat) :
    tidy text = text := by
  have notBlank : ∀ c ∈ text, isEdgeBlank c = false := by
    intro c member
    have above := visible c member
    simp only [isEdgeBlank, decide_eq_false_iff_not]
    omega
  have front : text.dropWhile isEdgeBlank = text :=
    dropWhile_of_head fun c found => notBlank c (List.mem_of_mem_head? found)
  have back : text.reverse.dropWhile isEdgeBlank = text.reverse := by
    apply dropWhile_of_head
    intro c found
    exact notBlank c (List.mem_reverse.mp (List.mem_of_mem_head? found))
  rw [tidy, front, back, List.reverse_reverse, List.filter_eq_self]
  intro c member
  have above := visible c member
  have notTab : c ≠ '\t' := by
    rintro rfl
    exact absurd above (by decide)
  have notLineFeed : c ≠ '\n' := by
    rintro rfl
    exact absurd above (by decide)
  have notReturn : c ≠ '\r' := by
    rintro rfl
    exact absurd above (by decide)
  simp [notTab, notLineFeed, notReturn]

theorem scheme?_http (rest : List Char) :
    scheme? ("http:".toList ++ rest) = some ("http".toList, rest) := by
  have cut : cutBefore (· == ':') ("http".toList ++ ':' :: rest) =
      ("http".toList, ':' :: rest) := rfl
  have text : "http:".toList ++ rest = "http".toList ++ ':' :: rest := rfl
  rw [scheme?, text, cut]
  rfl

/-- Segments without dots that need no encoding stay as they are. -/
theorem resolveDots_of_plain {above names : List (List Char)}
    (undotted : ∀ segment ∈ names, isDot segment = false ∧ isDoubleDot segment = false)
    (kept : ∀ segment ∈ names, ∀ c ∈ segment, keptInPath c = true) :
    resolveDots writtenSegment above names = above.reverse ++ names := by
  induction names generalizing above with
  | nil => simp [resolveDots]
  | cons segment names ih =>
      obtain ⟨notDot, notDoubleDot⟩ := undotted segment List.mem_cons_self
      have written : writtenSegment above segment = segment :=
        percentEncode_of_kept (kept segment List.mem_cons_self)
      have further := @ih (segment :: above)
        (fun other member => undotted other (List.mem_cons_of_mem _ member))
        (fun other member => kept other (List.mem_cons_of_mem _ member))
      simp [resolveDots, notDot, notDoubleDot, written, further]

theorem IsStraight.readsAs {path : List Char} (straight : IsStraight path) :
    ReadsAs path path where
  rooted := straight.rooted
  kept := straight.kept
  reachedRooted := straight.rooted
  resolved := by
    rw [segments, resolveDots_of_plain straight.undotted]
    · rfl
    · intro segment member c inside
      exact (straight.kept c (List.mem_of_mem_drop (mem_of_mem_splitAtMark member inside))).1

theorem segments_straighten {path reached : List Char} (reads : ReadsAs path reached) :
    segments (straighten path) = splitAtMark '/' (reached.drop 1) := by
  have unchanged : straighten path = path := by
    have same : path.map (fun c => if c = '\\' then '/' else c) = path.map id :=
      List.map_congr_left fun c member => if_neg (reads.kept c member).2
    rw [straighten, same, List.map_id]
  rw [unchanged, reads.resolved]

theorem IsSite.nonempty {site : List Char} {authority : Authority}
    (isSite : IsSite site authority) : site ≠ [] := by
  rintro rfl
  have nothing : authority? host? (some 80) [] = none := rfl
  rw [isSite.read] at nothing
  cases nothing

/-- A site brings no credentials. -/
theorem IsSite.credentials {site : List Char} {authority : Authority}
    (isSite : IsSite site authority) : authority.user = [] ∧ authority.password = [] := by
  have absent : '@' ∉ site := fun member => (isSite.plain '@' member).2.2.2 rfl
  have unmarked : cutLast '@' site = none := by
    simp [cutLast, absent]
  have read := isSite.read
  unfold authority? at read
  simp only [unmarked, Option.getD_none, bind, Option.bind_eq_some_iff] at read
  obtain ⟨host, _, port, _, read⟩ := read
  split at read
  · cases read
  · obtain ⟨same, _⟩ := Prod.mk.inj (Option.some.inj read)
    subst same
    exact ⟨rfl, rfl⟩

theorem IsSite.withoutCredentials {site : List Char} {authority : Authority}
    (isSite : IsSite site authority) (path : List Char) (query : Option (List Char)) :
    (ofSite authority path query).withoutCredentials = ofSite authority path query := by
  obtain ⟨noUser, noPassword⟩ := isSite.credentials
  cases authority with
  | mk user password host port =>
      subst noUser noPassword
      simp only [ofSite, Url.withoutCredentials, Option.map_some]
      split <;> rfl

theorem server_withoutCredentials (url : Url) :
    url.withoutCredentials.authority.map (·.server) = url.authority.map (·.server) := by
  cases located : url.authority with
  | none => simp [Url.withoutCredentials, located]
  | some authority =>
      simp only [Url.withoutCredentials, located, Option.map_some]
      split <;> rfl

section

variable {site path reached : List Char} {authority : Authority} {query : Option (List Char)}

theorem location_ofSite (authority : Authority) (rooted : path.head? = some '/')
    (query : Option (List Char)) : (ofSite authority path query).location.chars = path := by
  obtain ⟨tail, rfl⟩ := List.head?_eq_some_iff.mp rooted
  simp only [ofSite, Location.chars, List.drop_succ_cons, List.drop_zero, flatMap_splitAtMark]

theorem target_ofSite (authority : Authority) (rooted : path.head? = some '/')
    (query : Option (List Char)) :
    (ofSite authority path query).target = path ++ marked '?' query := by
  rw [target, location_ofSite authority rooted]
  rfl

theorem chars_ofSite (isSite : IsSite site authority) (rooted : path.head? = some '/')
    (query : Option (List Char)) :
    (ofSite authority path query).chars =
      "http://".toList ++ authority.server ++ (path ++ marked '?' query) := by
  obtain ⟨noUser, noPassword⟩ := isSite.credentials
  have bare : authority.credentials = [] := by
    simp [Authority.credentials, noUser, noPassword]
  have nothing : marked '#' (none : Option (List Char)) = [] := rfl
  rw [Url.chars, target_ofSite authority rooted query]
  simp only [ofSite, front, bare, nothing]
  simp

theorem visible_of_kept {refused : String} {c : Char} (kept : visibleExcept refused c = true) :
    0x20 < c.toNat := by
  simp only [visibleExcept, Bool.and_eq_true, decide_eq_true_eq] at kept
  exact kept.1.1

theorem ne_of_kept {keep : Char → Bool} {c mark : Char} (kept : keep c = true)
    (refused : keep mark = false) : c ≠ mark := by
  rintro rfl
  rw [refused] at kept
  cases kept

theorem mem_marked {mark c : Char} {part : Option (List Char)} (member : c ∈ marked mark part) :
    c = mark ∨ ∃ text, part = some text ∧ c ∈ text := by
  cases part with
  | none => cases member
  | some text =>
      rcases List.mem_cons.mp member with rfl | inside
      · exact Or.inl rfl
      · exact Or.inr ⟨text, rfl, inside⟩

/-- A query that needs no encoding is read as it is written. -/
theorem ending_marked (kept : ∀ text, query = some text → ∀ c ∈ text, keptInQuery c = true) :
    ending keptInQuery (marked '?' query) = (query, none) := by
  have unmarked : ∀ c ∈ marked '?' query, (c == '#') = false := by
    intro c member
    rw [beq_eq_false_iff_ne]
    rcases mem_marked member with rfl | ⟨text, found, inside⟩
    · decide
    · exact ne_of_kept (kept text found c inside) rfl
  have last : ∀ c, ([] : List Char).head? = some c → (c == '#') = true := by
    intro c found
    cases found
  have cut := cutBefore_append unmarked last
  rw [List.append_nil] at cut
  cases query with
  | none => rfl
  | some text =>
      rw [ending, cut]
      simp only [marked, percentEncode_of_kept (kept text rfl)]
      rfl

theorem visible_site (isSite : IsSite site authority) (reads : ReadsAs path reached)
    (kept : ∀ text, query = some text → ∀ c ∈ text, keptInQuery c = true) :
    ∀ c ∈ "http://".toList ++ site ++ (path ++ marked '?' query), 0x20 < c.toNat := by
  intro c member
  rcases List.mem_append.mp member with front | behind
  · rcases List.mem_append.mp front with scheme | inSite
    · have schemeVisible : ∀ d ∈ "http://".toList, 0x20 < d.toNat := forall_mem_of_all rfl
      exact schemeVisible c scheme
    · exact (isSite.plain c inSite).1
  · rcases List.mem_append.mp behind with inPath | inQuery
    · exact visible_of_kept (reads.kept c inPath).1
    · rcases mem_marked inQuery with rfl | ⟨text, found, inside⟩
      · decide
      · exact visible_of_kept (kept text found c inside)

/-- Below a site a path is read as on its own, and a query as it is written. -/
theorem parse_site (isSite : IsSite site authority) (reads : ReadsAs path reached)
    (kept : ∀ text, query = some text → ∀ c ∈ text, keptInQuery c = true) :
    parse (String.ofList ("http://".toList ++ site ++ (path ++ marked '?' query))) =
      some (ofSite authority reached query) := by
  have scheme : scheme? ("http://".toList ++ site ++ (path ++ marked '?' query)) =
      some ("http".toList, '/' :: '/' :: (site ++ (path ++ marked '?' query))) := by
    rw [List.append_assoc]
    exact scheme?_http _
  have slashes : ('/' :: '/' :: (site ++ (path ++ marked '?' query))).dropWhile isSlash =
      site ++ (path ++ marked '?' query) := by
    obtain ⟨first, others, rfl⟩ := List.exists_cons_of_ne_nil isSite.nonempty
    have plain := (isSite.plain first List.mem_cons_self).2.1
    have slash : isSlash '/' = true := rfl
    simp [plain, slash]
  have authorityCut : cutBefore (fun c => isSlash c || isEnd c)
      (site ++ (path ++ marked '?' query)) = (site, path ++ marked '?' query) := by
    apply cutBefore_append
    · intro c member
      obtain ⟨_, notSlash, notEnd, _⟩ := isSite.plain c member
      rw [notSlash, notEnd, Bool.or_self]
    · intro c found
      rw [List.head?_append, reads.rooted] at found
      cases found
      rfl
  have pathCut : cutBefore isEnd (path ++ marked '?' query) = (path, marked '?' query) := by
    apply cutBefore_append
    · intro c member
      have inPath := (reads.kept c member).1
      have notQuery : c ≠ '?' := ne_of_kept inPath rfl
      have notFragment : c ≠ '#' := ne_of_kept inPath rfl
      simp [isEnd, notQuery, notFragment]
    · intro c found
      cases query with
      | none => cases found
      | some text =>
          cases found
          rfl
  have usual : usualPort? "http".toList = some 80 := rfl
  rw [parse, String.toList_ofList, tidy_of_visible (visible_site isSite reads kept)]
  simp only [scheme, usual, parseWeb, slashes, authorityCut, isSite.read, pathCut,
    ending_marked kept, segments_straighten reads, bind, Option.bind,
    Option.isSome_some, if_true]
  rfl

end

end DraftBoard.Url
