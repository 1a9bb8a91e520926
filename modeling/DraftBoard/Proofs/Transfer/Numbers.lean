import Mathlib
import DraftBoard.Proofs.Dashboard.Sources
import DraftBoard.Proofs.Dashboard.Untouched
import DraftBoard.Proofs.Json.SourceText
import DraftBoard.Proofs.Text.Percent
import DraftBoard.Proofs.Transfer.Reading
import DraftBoard.Proofs.Transfer.SavedText

/-!
# Numbers in saved files

A saving reads the numbers of the document that it fetches and writes them again.  Each
number that it does not set is in the file as the literal of what it was read as, and with
few digits that is a literal of the same number.
-/

namespace DraftBoard

open Http Json

variable {τ : Type}

/-- A literal is written again as the literal of the number that it is read as.  That number
is the one nearest to what its literal denotes, and literals of few digits denote the same
number as before. -/
structure Json.NumberText.Rewritten (before after : NumberText) : Prop where
  read : ∃ number, before.value? = some number ∧ after = number.literal ∧
    number.Covers after.rational
  kept : before.Kept → after.rational = before.rational

theorem Json.NumberText.rewritten {text : NumberText} {number : Number}
    (read : text.value? = some number) : text.Rewritten number.literal where
  read := ⟨number, read, rfl, Number.covers_literal (canonical_value? read)⟩
  kept := by
    intro kept
    obtain ⟨other, readToo, same⟩ := kept.rational_eq
    obtain rfl := Option.some.inj (readToo.symm.trans read)
    exact same

/-- Every number of a source that a saving does not set is rewritten in another one. -/
def SaveOptions.RewritesNumbers (options : SaveOptions) (draft : Dashboard)
    (fetched saved : Json.Source) : Prop :=
  ∀ position literal, fetched.at? position = some (.number literal) →
    ¬ options.Sets draft position →
    ∃ there, saved.at? position = some (.number there) ∧ literal.Rewritten there

theorem SaveOptions.rewritesNumbers (options : SaveOptions) {draft : Dashboard}
    {source : Json.Source} (isSource : draft.IsSource source) (distinct : source.distinct = true)
    (version : Int) :
    options.RewritesNumbers draft source (options.documentFor draft version).toJson.written := by
  intro position literal found untouched
  obtain ⟨there, place, comes⟩ := Json.Source.ComesTo.at? isSource distinct found
  obtain ⟨number, read, rfl⟩ := Option.map_eq_some_iff.mp comes
  have kept := options.at?_documentFor version untouched place
  exact ⟨number.literal, written_at? kept, NumberText.rewritten read⟩

/-- The file of a document is read as the source that the document is written as. -/
theorem Json.Source.parse_provisionedText (dashboard : Dashboard) :
    parse (provisionedText dashboard) = .ok dashboard.toJson.written := by
  rw [provisionedText_eq]
  exact parse_write Layout.pretty_sound _ rfl

/-- What an exchange was answered is the text of a definition. -/
def Http.Exchange.Fetched (exchange : Exchange) (text : String) (definition : Definition) :
    Prop :=
  ∃ response, exchange.outcome = .ok response ∧ Json.textOf response.body = text ∧
    Definition.parse text = .ok definition

theorem Http.Exchange.Fetched.parsed {exchange : Exchange} {text : String}
    {definition : Definition} (fetched : exchange.Fetched text definition) :
    Definition.parse text = .ok definition := by
  obtain ⟨_, _, _, parsed⟩ := fetched
  exact parsed

/-- A saving that succeeds has ended its exchanges with the text of the draft that it has
written. -/
theorem save_fetched {transport : Transport (StateM τ)} {account : Account} {title : String}
    {options : SaveOptions} {world after : World (Watched Exchange τ)} {saving : Saving}
    (saved : carryOut (save (remote transport.watched account) World.machine title options)
      world = (.ok saving, after)) :
    ∃ search fetch text definition version,
      after.server.history = world.server.history ++ [search, fetch] ∧
      fetch.Fetched text definition ∧
      after.files.content? saving.path =
        some (provisionedText (options.documentFor definition.dashboard version)) := by
  obtain ⟨hit, definition, looked, lookup, rfl, _, content⟩ := save_ok saved
  obtain ⟨sent, history, course⟩ :=
    find_enters (remote_obeys transport account) (Title.draft title) world
  obtain ⟨log, run⟩ := save_of_found options lookup
  have server : after.server = looked.server := by
    rw [saved] at run
    rw [(Prod.mk.inj run).2]
  rw [lookup] at history course
  cases course with
  | found search first fetch =>
      obtain ⟨searched, _, rfl, _⟩ := Remote.Reads.of_ok search
      obtain ⟨fetched, response, rfl, _, answered, decoded⟩ := Remote.Reads.of_ok fetch
      rw [SaveOptions.savingFor_path, server]
      exact ⟨searched, fetched, _, definition, looked.clock, history,
        ⟨response, answered, rfl, Remote.decode_ok_iff.mp decoded⟩, content⟩

/-- A saving that succeeds has fetched a text and left another one in its file.  Both are
read with their literals, those of the first come to the fetched document, and where no key
stands twice in it each number outside of what the saving sets is there in the file again,
rewritten. -/
theorem save_rewrites_numbers (transport : Transport (StateM τ)) (account : Account)
    (title : String) (options : SaveOptions) {world after : World (Watched Exchange τ)}
    {saving : Saving}
    (saved : carryOut (save (remote transport.watched account) World.machine title options)
      world = (.ok saving, after)) :
    ∃ search fetch text definition fetched content written,
      after.server.history = world.server.history ++ [search, fetch] ∧
      fetch.Fetched text definition ∧ Definition.source text = .ok fetched ∧
      definition.HasSource fetched ∧ after.files.content? saving.path = some content ∧
      Json.Source.parse content = .ok written ∧
      (fetched.distinct = true →
        options.RewritesNumbers definition.dashboard fetched written) := by
  obtain ⟨search, fetch, text, definition, version, history, answered, content⟩ :=
    save_fetched saved
  obtain ⟨fetched, source, isSource⟩ := Definition.source_of_parse answered.parsed
  exact ⟨search, fetch, text, definition, fetched, _, _, history, answered, source, isSource,
    content, Json.Source.parse_provisionedText _,
    fun distinct => options.rewritesNumbers isSource distinct version⟩

/-- A draft with a number of few digits and one of many. -/
def measuredText : String :=
  "\x7b\"dashboard\":\x7b\"step\":2.50,\"charge\":1.602176634e-19\x7d\x7d"

def measuredScript : Script where
  address := some "h:1".toList
  routes := [
    ⟨"GET", "/api/search*".toList, .respond 200 foundDraft.compact.toUTF8, none⟩,
    ⟨"GET", "/api/dashboards/uid/d%2F2".toList, .respond 200 measuredText.toUTF8, none⟩]

def measuredServer : World (Watched Exchange Script) where
  server := ⟨measuredScript, []⟩
  files := ⟨[], []⟩
  log := []
  clock := 5

def measuredSaving : Except TransferError Saving × World (Watched Exchange Script) :=
  carryOut (save (remote Script.transport.watched scriptAccount) World.machine "Disk"
    sampleOptions) measuredServer

def measured : Saving where
  sourceFolder := "General"
  sourceTitle := "Disk (WIP)"
  path := .ofString "/out/hosts/-ref.json"
  title := "-ref"

/-- The document in the fetched text. -/
def measuredSource : Json.Source :=
  .object [("step", .number ⟨false, ['2'], some ['5', '0'], none⟩),
    ("charge", .number ⟨false, ['1'], some "602176634".toList, some (true, ['1', '9'])⟩)]

theorem measuredSaving_ok : measuredSaving = (.ok measured, measuredSaving.2) := by
  apply eq_ok_of_toOption
  decide +kernel

theorem measured_fetched {search fetch : Exchange} {text : String} {definition : Definition}
    (history : measuredSaving.2.server.history = measuredServer.server.history ++ [search, fetch])
    (answered : fetch.Fetched text definition) :
    measuredSaving.2.server.history = [search, fetch] ∧ text = measuredText := by
  have bodies : measuredSaving.2.server.history.map (·.outcome.toOption.map (·.body)) =
      [some foundDraft.compact.toUTF8, some measuredText.toUTF8] := by decide +kernel
  have before : measuredServer.server.history = [] := rfl
  obtain ⟨response, answer, rfl, _⟩ := answered
  rw [before, List.nil_append] at history
  rw [history] at bodies
  simp only [List.map_cons, List.cons.injEq, answer] at bodies
  have body : response.body = measuredText.toUTF8 := Option.some.inj bodies.2.1
  rw [body, Json.textOf_toUTF8]
  exact ⟨history, rfl⟩

theorem source_measuredText : Definition.source measuredText = .ok measuredSource := by cbv

theorem save_rewrites_numbers_sample :
    measuredSaving = (.ok measured, measuredSaving.2) ∧
    ∃ content written there, measuredSaving.2.files.content? measured.path = some content ∧
      Json.Source.parse content = .ok written ∧
      written.at? [.key "step"] = some (.number there) ∧ there.rational = 5 / 2 := by
  refine ⟨measuredSaving_ok, ?_⟩
  obtain ⟨search, fetch, text, definition, fetched, content, written, history, answered, source,
      _, file, read, rewrites⟩ :=
    save_rewrites_numbers Script.transport scriptAccount "Disk" sampleOptions measuredSaving_ok
  rw [(measured_fetched history answered).2, source_measuredText] at source
  obtain rfl := Except.ok.inj source
  obtain ⟨there, place, rewritten⟩ :=
    rewrites (by decide) [.key "step"] _ rfl (SaveOptions.not_sets_of_not_mem (by decide))
  refine ⟨content, written, there, file, read, place, ?_⟩
  have step : NumberText.magnitude ⟨false, ['2'], some ['5', '0'], none⟩ =
      (250 : Nat) * 10 ^ (-2 : Int) := NumberText.magnitude_eq rfl rfl
  rw [rewritten.kept (by decide), NumberText.rational, if_neg Bool.false_ne_true, step]
  norm_num

/-- A number with an exponent is read as a neighbour of the nearest one, which is another
number in the file. -/
theorem saving_changes_a_charge :
    measuredSaving = (.ok measured, measuredSaving.2) ∧
    ∃ search fetch definition content written before after,
      measuredSaving.2.server.history = [search, fetch] ∧
      fetch.Fetched measuredText definition ∧
      Definition.source measuredText = .ok measuredSource ∧ measuredSource.distinct = true ∧
      measuredSource.at? [.key "charge"] = some (.number before) ∧
      ¬ sampleOptions.Sets definition.dashboard [.key "charge"] ∧
      measuredSaving.2.files.content? measured.path = some content ∧
      Json.Source.parse content = .ok written ∧
      written.at? [.key "charge"] = some (.number after) ∧
      after.rational ≠ before.rational := by
  refine ⟨measuredSaving_ok, ?_⟩
  obtain ⟨search, fetch, text, definition, version, history, answered, file⟩ :=
    save_fetched measuredSaving_ok
  obtain ⟨history, rfl⟩ := measured_fetched history answered
  obtain ⟨fetched, source, isSource⟩ := Definition.source_of_parse answered.parsed
  rw [source_measuredText] at source
  obtain rfl := Except.ok.inj source
  have untouched : ¬ sampleOptions.Sets definition.dashboard [.key "charge"] :=
    SaveOptions.not_sets_of_not_mem (by decide)
  obtain ⟨after, place, rewritten⟩ :=
    sampleOptions.rewritesNumbers isSource (by decide) version [.key "charge"] _ rfl untouched
  refine ⟨search, fetch, definition, _, _, _, after, history, answered, source_measuredText,
    by decide, rfl, untouched, file, Json.Source.parse_provisionedText _, place, ?_⟩
  obtain ⟨number, read, rfl, _⟩ := rewritten.read
  have parts : (NumberText.value?
      ⟨false, ['1'], some "602176634".toList, some (true, ['1', '9'])⟩).map
        (fun n => (n.literal.negative, digitsValue n.literal.digits, n.literal.place)) =
      some (false, 16021766340000001, -35) := by decide +kernel
  rw [read, Option.map_some, Option.some.injEq, Prod.mk.injEq, Prod.mk.injEq] at parts
  obtain ⟨sign, digits, place⟩ := parts
  have fetched : NumberText.magnitude
      ⟨false, ['1'], some "602176634".toList, some (true, ['1', '9'])⟩ =
        (1602176634 : Nat) * 10 ^ (-28 : Int) := NumberText.magnitude_eq rfl rfl
  have written := NumberText.magnitude_eq digits place
  rw [NumberText.rational, NumberText.rational, sign, if_neg Bool.false_ne_true,
    if_neg Bool.false_ne_true, fetched, written]
  norm_num

end DraftBoard
