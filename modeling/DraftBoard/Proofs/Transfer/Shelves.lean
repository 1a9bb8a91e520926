import DraftBoard.Proofs.Transfer.Lookup
import DraftBoard.Shelf

/-!
# Lookups on a shelf

Every title contains itself, so a search for a title finds all dashboards that bear
it.  A lookup on a shelf is thus the first dashboard with the title, and the first
one with the uid of that dashboard.
-/

namespace DraftBoard

namespace Shelf

/-- The first dashboard that bears a title. -/
def titled? (shelf : Shelf) (title : String) : Option (Hit × Json) :=
  shelf.held.find? fun entry => entry.1.title == title

/-- No two dashboards have the same uid. -/
def DistinctUids (shelf : Shelf) : Prop :=
  (shelf.held.map fun entry => entry.1.uid).Nodup

instance (shelf : Shelf) : Decidable shelf.DistinctUids :=
  inferInstanceAs (Decidable (List.Nodup _))

theorem containsText_self (text : List Char) : containsText text text = true := by
  cases text with
  | nil => rfl
  | cons c rest => simp [containsText]

theorem matchesQuery_self (title : String) : matchesQuery title title = true :=
  containsText_self _

/-- Searching for a title leaves none of the dashboards that bear it out. -/
theorem find?_hits (shelf : Shelf) (title : String) :
    (shelf.hits title).find? (fun hit => hit.title == title) =
      (shelf.titled? title).map (·.1) := by
  unfold hits titled?
  induction shelf.held with
  | nil => rfl
  | cons entry held ih =>
      rw [List.map_cons, List.filter_cons, List.find?_cons]
      by_cases same : entry.1.title = title
      · have found : matchesQuery title entry.1.title = true := by
          rw [same]
          exact matchesQuery_self title
        have test : (entry.1.title == title) = true := beq_iff_eq.mpr same
        rw [if_pos found, List.find?_cons, test]
        rfl
      · have test : (entry.1.title == title) = false := beq_eq_false_iff_ne.mpr same
        rw [test]
        by_cases found : matchesQuery title entry.1.title = true
        · rw [if_pos found, List.find?_cons, test]
          exact ih
        · rw [if_neg found]
          exact ih

theorem definition_of_find? {shelf : Shelf} {uid : String} {hit : Hit}
    {dashboard : Dashboard}
    (found : shelf.held.find? (fun entry => entry.1.uid == uid) =
      some (hit, dashboard.toJson)) :
    shelf.definition uid = .ok ⟨dashboard, about⟩ := by
  simp only [definition, found]
  rfl

/-- Where uids are distinct, a uid leads to its own dashboard. -/
theorem find?_uid {shelf : Shelf} (distinct : shelf.DistinctUids) {entry : Hit × Json}
    (member : entry ∈ shelf.held) :
    shelf.held.find? (fun other => other.1.uid == entry.1.uid) = some entry := by
  unfold DistinctUids at distinct
  generalize shelf.held = held at distinct member ⊢
  induction held with
  | nil => cases member
  | cons first held ih =>
      rw [List.map_cons, List.nodup_cons] at distinct
      rcases List.mem_cons.mp member with rfl | later
      · simp
      · have different : first.1.uid ≠ entry.1.uid := by
          intro same
          apply distinct.1
          rw [same]
          exact List.mem_map_of_mem later
        have test : (first.1.uid == entry.1.uid) = false := beq_eq_false_iff_ne.mpr different
        rw [List.find?_cons, test]
        exact ih distinct.2 later

theorem mem_of_titled? {shelf : Shelf} {title : String} {entry : Hit × Json}
    (found : shelf.titled? title = some entry) : entry ∈ shelf.held :=
  List.mem_of_find?_eq_some found

theorem definition_of_titled? {shelf : Shelf} (distinct : shelf.DistinctUids)
    {title : String} {hit : Hit} {dashboard : Dashboard}
    (found : shelf.titled? title = some (hit, dashboard.toJson)) :
    shelf.definition hit.uid = .ok ⟨dashboard, about⟩ :=
  definition_of_find? (find?_uid distinct (mem_of_titled? found))

theorem titled?_congr {left right : Shelf} (same : left.held = right.held)
    (title : String) : left.titled? title = right.titled? title := by
  rw [titled?, titled?, same]

theorem definition_congr {left right : Shelf} (same : left.held = right.held)
    (uid : String) : left.definition uid = right.definition uid := by
  rw [definition, definition, same]

end Shelf

variable {title : String} {world : World Shelf}

/-- The catalogue of a shelf in a world. -/
abbrev shelves : Catalogue (StateM (World Shelf)) := World.catalogue Shelf.catalogue

/-- A world after further calls to its server. -/
def World.called (world : World Shelf) (calls : List Call) (log : List Event) : World Shelf :=
  { world with
    server := { world.server with calls := world.server.calls ++ calls }
    log := log }

theorem carryOut_search (query : String) (world : World Shelf) :
    carryOut (shelves.search query) world =
      (.ok (world.server.hits query), world.called [.search query] world.log) := rfl

theorem carryOut_fetch (uid : String) (world : World Shelf) :
    carryOut (shelves.fetch uid) world =
      (world.server.definition uid, world.called [.fetch uid] world.log) := rfl

theorem find_of_not_titled (missing : world.server.titled? title = none) :
    ∃ log, carryOut (find shelves World.machine title) world =
      (.error (.notFound title), world.called [.search title] log) := by
  apply find_of_no_hit (carryOut_search title world)
  rw [Shelf.find?_hits, missing]
  rfl

/-- A lookup goes to the first dashboard with the title, and on to its uid. -/
theorem find_of_titled {hit : Hit} {document : Json}
    (found : world.server.titled? title = some (hit, document)) :
    ∃ log, carryOut (find shelves World.machine title) world =
      ((world.server.definition hit.uid).map (fun definition => (hit, definition)),
        world.called [.search title, .fetch hit.uid] log) := by
  have first : (world.server.hits title).find? (fun hit => hit.title == title) = some hit := by
    rw [Shelf.find?_hits, found]
    rfl
  obtain ⟨before, goesOn⟩ := find_of_hit (carryOut_search title world) first
  obtain ⟨behind, run⟩ := goesOn _ _ (carryOut_fetch hit.uid _)
  refine ⟨behind, run.trans ?_⟩
  simp [World.called, Shelf.definition]

/-- What a successful lookup on a shelf went through. -/
theorem find_shelf_ok {hit : Hit} {definition : Definition} {looked : World Shelf}
    (found : carryOut (find shelves World.machine title) world =
      (.ok (hit, definition), looked)) :
    ∃ document log, world.server.titled? title = some (hit, document) ∧
      world.server.definition hit.uid = .ok definition ∧
      looked = world.called [.search title, .fetch hit.uid] log := by
  cases first : world.server.titled? title with
  | none =>
      obtain ⟨log, run⟩ := find_of_not_titled first
      rw [run] at found
      cases found
  | some entry =>
      obtain ⟨chosen, document⟩ := entry
      obtain ⟨log, run⟩ := find_of_titled first
      rw [run] at found
      cases fetched : world.server.definition chosen.uid with
      | error error =>
          rw [fetched] at found
          cases found
      | ok read =>
          rw [fetched] at found
          cases found
          exact ⟨document, log, rfl, fetched, rfl⟩

end DraftBoard
