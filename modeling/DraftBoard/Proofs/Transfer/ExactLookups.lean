import DraftBoard.Proofs.Transfer.Shelves

/-!
# Lookups on a shelf are exact

A search on a shelf goes by parts of titles and takes no account of case, and a fetch goes by
uids.  Together they still come to the first dashboard that bears the very title, whichever
titles and uids the shelf holds and however often it holds them.
-/

namespace DraftBoard

/-- An entry of a list with a property that no entry before it has. -/
structure IsFirst {α : Type} (property : α → Prop) (entries : List α) (entry : α) : Prop where
  holds : property entry
  first : ∃ before behind, entries = before ++ entry :: behind ∧ ∀ other ∈ before, ¬ property other

theorem isFirst_of_find? {α : Type} {test : α → Bool} {property : α → Prop}
    {entries : List α} {entry : α} (decides : ∀ other, test other = true ↔ property other)
    (found : entries.find? test = some entry) : IsFirst property entries entry := by
  obtain ⟨holds, before, behind, parts, others⟩ := List.find?_eq_some_iff_append.mp found
  refine ⟨(decides entry).mp holds, before, behind, parts, ?_⟩
  intro other member holdsToo
  have fails := others other member
  rw [(decides other).mpr holdsToo] at fails
  cases fails

namespace Shelf

/-- A search neither hides nor reorders the dashboards that bear the title. -/
theorem filter_hits (shelf : Shelf) (title : String) :
    (shelf.hits title).filter (fun hit => hit.title == title) =
      (shelf.held.map (·.1)).filter fun hit => hit.title == title := by
  rw [hits, List.filter_filter]
  apply List.filter_congr
  intro hit _
  by_cases same : hit.title = title
  · rw [same, matchesQuery_self, Bool.and_true]
  · rw [beq_eq_false_iff_ne.mpr same, Bool.false_and]

theorem hits_sublist (shelf : Shelf) (query : String) :
    (shelf.hits query).Sublist (shelf.held.map (·.1)) :=
  List.filter_sublist

theorem titled?_eq_none_iff {shelf : Shelf} {title : String} :
    shelf.titled? title = none ↔ ∀ entry ∈ shelf.held, entry.1.title ≠ title := by
  simp [titled?, List.find?_eq_none]

theorem isFirst_of_titled? {shelf : Shelf} {title : String} {entry : Hit × Json}
    (found : shelf.titled? title = some entry) :
    IsFirst (fun entry => entry.1.title = title) shelf.held entry :=
  isFirst_of_find? (fun _ => beq_iff_eq) found

/-- What a fetch makes of the document that is held under its uid. -/
def opened (document : Json) : Except TransferError Definition :=
  match Dashboard.ofJson document with
  | .ok dashboard => .ok ⟨dashboard, about⟩
  | .error cause => .error (.encode cause)

theorem opened_eq_ok_iff {document : Json} {definition : Definition} :
    opened document = .ok definition ↔
      document = definition.dashboard.toJson ∧ definition.about = about := by
  obtain ⟨⟨fields⟩, about⟩ := definition
  cases document <;> simp [opened, Dashboard.ofJson, Dashboard.toJson, eq_comm]

theorem opened_eq_error_iff {document : Json} {error : TransferError} :
    opened document = .error error ↔
      (∀ dashboard : Dashboard, document ≠ dashboard.toJson) ∧
        error = .encode (.wrongType document.found .map) := by
  cases document with
  | object fields =>
      constructor
      · intro failed
        cases failed
      · rintro ⟨none, _⟩
        exact absurd rfl (none ⟨fields⟩)
  | _ => simp [opened, Dashboard.ofJson, Dashboard.toJson, eq_comm]

/-- A uid that is held leads to the first dashboard that has it. -/
theorem definition_of_holder {shelf : Shelf} {entry : Hit × Json} (member : entry ∈ shelf.held) :
    ∃ holder, IsFirst (fun other => other.1.uid = entry.1.uid) shelf.held holder ∧
      shelf.definition entry.1.uid = opened holder.2 ∧
      (shelf.DistinctUids → holder = entry) := by
  have present : (shelf.held.find? fun other => other.1.uid == entry.1.uid).isSome := by
    rw [List.find?_isSome]
    exact ⟨entry, member, beq_self_eq_true _⟩
  obtain ⟨holder, found⟩ := Option.isSome_iff_exists.mp present
  refine ⟨holder, isFirst_of_find? (fun _ => beq_iff_eq) found, ?_, ?_⟩
  · simp only [definition, found]
    rfl
  · intro distinct
    have itself := find?_uid distinct member
    rw [found] at itself
    exact Option.some.inj itself

end Shelf

/-- How a lookup ends that goes to an entry of a shelf: by the document of the first entry with
its uid, which is its own document where uids are distinct. -/
structure FetchedAs (shelf : Shelf) (entry : Hit × Json)
    (outcome : Except TransferError (Hit × Definition)) (document : Json) : Prop where
  held : ∃ hit, IsFirst (fun other => other.1.uid = entry.1.uid) shelf.held (hit, document)
  own : shelf.DistinctUids → document = entry.2
  ok_iff : ∀ hit definition, outcome = .ok (hit, definition) ↔
    hit = entry.1 ∧ document = definition.dashboard.toJson ∧ definition.about = Shelf.about
  error_iff : ∀ error, outcome = .error error ↔
    (∀ dashboard : Dashboard, document ≠ dashboard.toJson) ∧
      error = .encode (.wrongType document.found .map)

/-- What the calls and the outcome of a lookup have to be, going by the shelf alone. -/
structure ExactLookup (shelf : Shelf) (title : String) (calls : List Call)
    (outcome : Except TransferError (Hit × Definition)) : Prop where
  missing_iff : calls = [.search title] ∧ outcome = .error (.notFound title) ↔
    ∀ entry ∈ shelf.held, entry.1.title ≠ title
  found : (∃ entry ∈ shelf.held, entry.1.title = title) →
    ∃ entry document, IsFirst (fun entry => entry.1.title = title) shelf.held entry ∧
      calls = [.search title, .fetch entry.1.uid] ∧ FetchedAs shelf entry outcome document

theorem fetchedAs_definition {shelf : Shelf} {entry : Hit × Json} (member : entry ∈ shelf.held) :
    ∃ document, FetchedAs shelf entry
      ((shelf.definition entry.1.uid).map fun definition => (entry.1, definition)) document := by
  obtain ⟨holder, first, fetched, own⟩ := Shelf.definition_of_holder member
  rw [fetched]
  refine ⟨holder.2, ⟨holder.1, first⟩, fun distinct => by rw [own distinct], ?_, ?_⟩
  · intro hit definition
    rw [← Shelf.opened_eq_ok_iff]
    cases Shelf.opened holder.2 <;> simp [Except.map, eq_comm]
  · intro error
    rw [← Shelf.opened_eq_error_iff]
    cases Shelf.opened holder.2 <;> simp [Except.map]

/-- A lookup on a shelf goes to the first dashboard with the very title, and fails without a
fetch if there is none. -/
theorem lookups_exact (title : String) (world : World Shelf) :
    (∃ calls log outcome,
      carryOut (find shelves World.machine title) world = (outcome, world.called calls log) ∧
      ExactLookup world.server title calls outcome) ∧
    (world.server.hits title).Sublist (world.server.held.map (·.1)) ∧
    (world.server.hits title).filter (fun hit => hit.title == title) =
      (world.server.held.map (·.1)).filter fun hit => hit.title == title := by
  refine ⟨?_, world.server.hits_sublist title, world.server.filter_hits title⟩
  cases looked : world.server.titled? title with
  | none =>
      obtain ⟨log, run⟩ := find_of_not_titled looked
      have missing := Shelf.titled?_eq_none_iff.mp looked
      refine ⟨_, log, _, run, ?_, ?_⟩
      · exact iff_of_true ⟨rfl, rfl⟩ missing
      · rintro ⟨entry, member, same⟩
        exact absurd same (missing entry member)
  | some entry =>
      obtain ⟨log, run⟩ := find_of_titled looked
      have member := Shelf.mem_of_titled? looked
      have first := Shelf.isFirst_of_titled? looked
      obtain ⟨document, fetched⟩ := fetchedAs_definition member
      refine ⟨_, log, _, run, ?_, fun _ => ⟨entry, document, first, rfl, fetched⟩⟩
      constructor
      · rintro ⟨one, _⟩
        cases one
      · intro missing
        exact absurd first.holds (missing entry member)

/-- The first dashboard with the title shares its uid with one before it, which is no object. -/
example :
    (carryOut (find shelves World.machine "Disk")
      ⟨⟨[(⟨"Disk (WIP)", "d1", none⟩, .null), (⟨"Disk", "d1", none⟩, .object [])], [], []⟩,
        ⟨[], []⟩, [], 5⟩).1 = .error (.encode (.wrongType .null .map)) := rfl

end DraftBoard
