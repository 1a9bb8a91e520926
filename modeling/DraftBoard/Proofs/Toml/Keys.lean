import DraftBoard.Toml.Parser
import Mathlib.Data.List.Nodup

/-!
# Keys of a document

No key stands twice at the top of a document that can be read: what is added goes behind
keys that differ from it, and what is set goes where its key stands already.
-/

namespace DraftBoard.Toml

namespace Entries

def keys (entries : Entries) : List String := entries.map Prod.fst

theorem not_mem_keys {entries : Entries} {key : String} (absent : entries.lookup key = none) :
    key ∉ entries.keys := by
  intro member
  obtain ⟨entry, held, rfl⟩ := List.mem_map.mp member
  exact absurd rfl (bne_iff_ne.mp (List.lookup_eq_none_iff.mp absent entry held))

theorem keys_set {entries : Entries} {key : String} {old : Value}
    (present : entries.lookup key = some old) (value : Value) :
    (Entries.set key value entries).keys = entries.keys := by
  induction entries with
  | nil => cases present
  | cons head entries ih =>
      obtain ⟨name, held⟩ := head
      by_cases here : name = key
      · simp [Entries.set, here, keys]
      · have test : (key == name) = false := beq_eq_false_iff_ne.mpr (Ne.symm here)
        rw [List.lookup_cons, test] at present
        simpa [Entries.set, here, keys] using ih present

theorem nodup_set {entries : Entries} {key : String} {old : Value}
    (distinct : entries.keys.Nodup) (present : entries.lookup key = some old) (value : Value) :
    (Entries.set key value entries).keys.Nodup := by
  rwa [keys_set present]

theorem nodup_append {entries : Entries} {key : String} (distinct : entries.keys.Nodup)
    (absent : entries.lookup key = none) (value : Value) :
    (Entries.keys (entries ++ [(key, value)])).Nodup := by
  have kept : Entries.keys (entries ++ [(key, value)]) = entries.keys.concat key := by
    simp [keys]
  rw [kept]
  exact distinct.concat (not_mem_keys absent)

end Entries

/-- A step that leaves the keys of a table distinct. -/
def KeepsDistinct (step : Entries → Option Entries) : Prop :=
  ∀ entries after, step entries = some after → entries.keys.Nodup → after.keys.Nodup

theorem keepsDistinct_insertDotted (key : String) (value : Value) (path : List String) :
    KeepsDistinct (insertDotted key value path) := by
  intro entries after inserted distinct
  cases path with
  | nil =>
      rw [insertDotted] at inserted
      split at inserted
      · cases inserted
      · next absent =>
          cases inserted
          exact Entries.nodup_append distinct absent value
  | cons name path =>
      rw [insertDotted] at inserted
      split at inserted
      · next absent =>
          obtain ⟨inner, _, same⟩ := Option.bind_eq_some_iff.mp inserted
          cases same
          exact Entries.nodup_append distinct absent _
      · next origin inner present =>
          split at inserted
          · obtain ⟨changed, _, same⟩ := Option.bind_eq_some_iff.mp inserted
            cases same
            exact Entries.nodup_set distinct present _
          · cases inserted
      · next elements present =>
          split at inserted
          · obtain ⟨changed, _, same⟩ := Option.bind_eq_some_iff.mp inserted
            cases same
            exact Entries.nodup_set distinct present _
          · cases inserted
      · cases inserted

theorem keepsDistinct_below {step : Entries → Option Entries} (keeps : KeepsDistinct step)
    (path : List String) : KeepsDistinct (below step path) := by
  intro entries after stepped distinct
  cases path with
  | nil => exact keeps entries after stepped distinct
  | cons name path =>
      rw [below] at stepped
      split at stepped
      · next absent =>
          obtain ⟨inner, _, same⟩ := Option.bind_eq_some_iff.mp stepped
          cases same
          exact Entries.nodup_append distinct absent _
      · next origin inner present =>
          split at stepped
          · cases stepped
          · obtain ⟨changed, _, same⟩ := Option.bind_eq_some_iff.mp stepped
            cases same
            exact Entries.nodup_set distinct present _
      · next elements present =>
          split at stepped
          · cases stepped
          · obtain ⟨changed, _, same⟩ := Option.bind_eq_some_iff.mp stepped
            cases same
            exact Entries.nodup_set distinct present _
      · cases stepped

theorem keepsDistinct_openTable (key : String) : KeepsDistinct (openTable key) := by
  intro entries after opened distinct
  rw [openTable] at opened
  split at opened
  · next absent =>
      cases opened
      exact Entries.nodup_append distinct absent _
  · next inner present =>
      cases opened
      exact Entries.nodup_set distinct present _
  · cases opened

theorem keepsDistinct_openElement (key : String) : KeepsDistinct (openElement key) := by
  intro entries after opened distinct
  rw [openElement] at opened
  split at opened
  · next absent =>
      cases opened
      exact Entries.nodup_append distinct absent _
  · next elements present =>
      cases opened
      exact Entries.nodup_set distinct present _
  · cases opened

theorem keepsDistinct_insertPair (key : List String) (value : Value) :
    KeepsDistinct (insertPair key value) := by
  intro entries after inserted distinct
  obtain ⟨last, _, inserted⟩ := Option.bind_eq_some_iff.mp inserted
  exact keepsDistinct_insertDotted last value key.dropLast entries after inserted distinct

theorem nodup_readEntry {draft after : Draft} {text rest : List Char}
    (taken : readEntry draft text = some (after, rest)) (distinct : draft.entries.keys.Nodup) :
    after.entries.keys.Nodup := by
  obtain ⟨⟨key, value, behind⟩, _, taken⟩ := Option.bind_eq_some_iff.mp taken
  obtain ⟨entries, inserted, taken⟩ := Option.bind_eq_some_iff.mp taken
  obtain ⟨line, _, same⟩ := Option.bind_eq_some_iff.mp taken
  cases same
  exact keepsDistinct_below (keepsDistinct_insertPair key value) _ _ _ inserted distinct

theorem nodup_readHeader {draft after : Draft} {text rest : List Char}
    (taken : readHeader draft text = some (after, rest)) (distinct : draft.entries.keys.Nodup) :
    after.entries.keys.Nodup := by
  have keeps : ∀ doubled key,
      KeepsDistinct ((if doubled = true then openElement else openTable) key) := by
    intro doubled key
    cases doubled with
    | true => exact keepsDistinct_openElement key
    | false => exact keepsDistinct_openTable key
  obtain ⟨⟨path, behind⟩, _, taken⟩ := Option.bind_eq_some_iff.mp taken
  dsimp only at taken
  split at taken
  case h_3 => cases taken
  -- Doubled and single headers differ in the brackets that are passed alone.
  all_goals
    obtain ⟨line, _, taken⟩ := Option.bind_eq_some_iff.mp taken
    obtain ⟨last, _, taken⟩ := Option.bind_eq_some_iff.mp taken
    obtain ⟨entries, opened, taken⟩ := Option.bind_eq_some_iff.mp taken
    obtain ⟨ended, _, same⟩ := Option.bind_eq_some_iff.mp taken
    cases same
    exact keepsDistinct_below (keeps _ last) _ _ _ opened distinct

theorem nodup_readLines {rounds : Nat} {draft : Draft} {text : List Char} {entries : Entries}
    (taken : readLines rounds draft text = some entries)
    (distinct : draft.entries.keys.Nodup) : entries.keys.Nodup := by
  induction rounds generalizing draft text with
  | zero => cases taken
  | succ rounds ih =>
      rw [readLines] at taken
      obtain ⟨line, _, taken⟩ := Option.bind_eq_some_iff.mp taken
      split at taken
      · cases taken
        exact distinct
      · obtain ⟨⟨next, behind⟩, header, taken⟩ := Option.bind_eq_some_iff.mp taken
        exact ih taken (nodup_readHeader header distinct)
      · obtain ⟨⟨next, behind⟩, entry, taken⟩ := Option.bind_eq_some_iff.mp taken
        exact ih taken (nodup_readEntry entry distinct)

/-- No key stands twice at the top of a document. -/
theorem nodup_keys_of_parse {text : String} {entries : Entries}
    (parsed : parse text = some entries) : entries.keys.Nodup :=
  nodup_readLines parsed List.nodup_nil

end DraftBoard.Toml
