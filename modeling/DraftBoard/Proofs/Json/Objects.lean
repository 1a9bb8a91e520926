import DraftBoard.Proofs.Json.Agreement
import DraftBoard.Proofs.Json.Entries
import DraftBoard.Proofs.Json.Fields
import DraftBoard.Proofs.Json.Source

/-!
# Texts that hold an object

A text holds an object if it is read as the object and repeats none of its keys.  Then every
key of the object is given its value by one entry of the text, and no entry is lost.
-/

namespace DraftBoard.Json

/-- A text that is read as an object and repeats none of its keys. -/
structure HoldsObject (text : String) (fields : Fields) : Prop where
  parsed : parse text = .ok (.object fields)
  distinct : ∃ starts, parseStarts text = .ok starts ∧ (starts.map (·.1)).Nodup

section

variable {depth : Nat} {first : Bool} {before fields : Fields} {text rest : List Char}
variable {keys : List String} {key : String}

/-- An entry whose key is not repeated goes behind all others. -/
theorem keys_of_entry {item : Reader Json} {after : Fields}
    (one : insertEntry item before key text = .ok (after, rest))
    (distinct : (before.keys ++ key :: keys).Nodup) :
    key ∉ before.keys ∧ key ∉ keys ∧ after.keys ++ keys = before.keys ++ key :: keys := by
  obtain ⟨start, found, _, _, rfl⟩ := insertEntry_iff.mp one
  obtain ⟨_, behind, apart⟩ := List.nodup_append.mp distinct
  have fresh : key ∉ before.keys := fun member => apart key member key List.mem_cons_self rfl
  refine ⟨fresh, (List.nodup_cons.mp behind).1, ?_⟩
  rw [Fields.keys_insert, if_neg fresh, List.append_assoc]
  rfl

theorem keys_of_run {item : Reader Json}
    (run : EntryRun .keep (insertEntry item) first before text keys fields rest)
    (distinct : (before.keys ++ keys).Nodup) : fields.keys = before.keys ++ keys := by
  induction run with
  | ends _ => rw [List.append_nil]
  | reads _ _ one _ ih =>
      obtain ⟨_, _, goesOn⟩ := keys_of_entry one distinct
      rw [← goesOn] at distinct ⊢
      exact ih distinct

/-- A key keeps its value if no later entry has it. -/
theorem get?_of_run {item : Reader Json}
    (run : EntryRun .keep (insertEntry item) first before text keys fields rest)
    (missing : key ∉ keys) : fields.get? key = before.get? key := by
  induction run with
  | ends _ => rfl
  | reads _ _ one _ ih =>
      obtain ⟨start, found, _, _, rfl⟩ := insertEntry_iff.mp one
      rw [List.mem_cons, not_or] at missing
      rw [ih missing.2, Fields.get?_insert_of_ne _ _ missing.1]

end

section

variable {depth : Nat} {starts final : Starts} {fields : Fields} {key : String}
variable {start text rest : List Char}

/-- The keys of an object are given their values, if no key is repeated. -/
def Starts.Give (depth : Nat) (fields : Fields) (starts : Starts) : Prop :=
  (starts.map (·.1)).Nodup → ∀ key, Given depth starts key (fields.get? key)

theorem Starts.Give.concat {found : Json} (gives : starts.Give depth fields)
    (read : value .keep depth start = .ok (found, rest)) :
    Starts.Give depth (fields.insert key found) (starts ++ [(key, start)]) := by
  intro distinct name
  rw [List.map_append, List.nodup_append] at distinct
  obtain ⟨before, _, apart⟩ := distinct
  by_cases same : name = key
  · subst same
    have fresh : starts.filter (·.1 = name) = [] := by
      rw [List.filter_eq_nil_iff]
      intro entry member
      simpa using apart entry.1 (List.mem_map_of_mem member) name (by simp)
    rw [Fields.get?_insert_self]
    exact (Given.missing fresh).append_first read
  · rw [Fields.get?_insert_of_ne _ _ same]
    exact (gives before name).append_other (Ne.symm same)

theorem startEntry_follows_insertEntry (key : String) (gives : starts.Give depth fields) :
    Follows (Starts.Give depth) (insertEntry (value .keep depth) fields key)
      (startEntry starts key) := by
  intro text rest after read
  obtain ⟨start, found, colon, one, rfl⟩ := insertEntry_iff.mp read
  exact ⟨_, startEntry_iff.mpr ⟨start, colon, skipValue_of_value one, rfl⟩, gives.concat one⟩

theorem names_of_run {first : Bool} {keys : List String}
    (run : EntryRun .keep startEntry first starts text keys final rest) :
    final.map (·.1) = starts.map (·.1) ++ keys := by
  induction run with
  | ends _ => rw [List.append_nil]
  | reads _ _ one _ ih =>
      obtain ⟨start, _, _, rfl⟩ := startEntry_iff.mp one
      rw [ih, List.map_append, List.append_assoc]
      rfl

end

section

variable {text : String} {fields : Fields}

/-- A run over all entries of a text that is an object and nothing else. -/
structure ObjectRun (text : String) (fields : Fields) (keys : List String)
    (behind left rest : List Char) : Prop where
  visible : skipBlank text.toList = '{' :: behind
  enough : keys.length ≤ behind.length
  run : EntryRun .keep (insertEntry (value .keep (depthLimit - 1))) true [] behind keys fields left
  brace : expectChar '}' left = .ok rest
  nothing : skipBlank rest = []

theorem parse_object_iff :
    parse text = .ok (.object fields) ↔
      ∃ keys behind left rest, ObjectRun text fields keys behind left rest := by
  constructor
  · intro read
    obtain ⟨rest, found, nothing⟩ := readAll_iff.mp read
    obtain ⟨inner, behind, limit, visible, entries⟩ := value_object_iff.mp found
    obtain rfl : inner = depthLimit - 1 := by omega
    obtain ⟨keys, final, left, enough, run, same, brace⟩ := keyed_iff.mp entries
    cases same
    exact ⟨keys, behind, left, rest, visible, enough, run, brace, nothing⟩
  · rintro ⟨keys, behind, left, rest, visible, enough, run, brace, nothing⟩
    have entries := keyed_iff.mpr ⟨keys, fields, left, enough, run, rfl, brace⟩
    exact readAll_iff.mpr ⟨rest,
      value_object_iff.mpr ⟨depthLimit - 1, behind, rfl, visible, entries⟩, nothing⟩

theorem ObjectRun.starts {keys : List String} {behind left rest : List Char}
    (object : ObjectRun text fields keys behind left rest) :
    ∃ starts, parseStarts text = .ok starts ∧ starts.map (·.1) = keys ∧
      starts.Give (depthLimit - 1) fields := by
  have nothing : Starts.Give (depthLimit - 1) [] [] := fun _ _ => .missing rfl
  obtain ⟨starts, gives, run⟩ := object.run.follows startEntry_follows_insertEntry nothing
  refine ⟨starts, readAll_iff.mpr ⟨rest, ?_, object.nothing⟩, names_of_run run, gives⟩
  rw [expectStarts, object.visible]
  exact keyed_iff.mpr ⟨keys, starts, left, object.enough, run, rfl, object.brace⟩

theorem holdsObject_iff :
    HoldsObject text fields ↔
      ∃ keys behind left rest, ObjectRun text fields keys behind left rest ∧ keys.Nodup := by
  constructor
  · rintro ⟨parsed, starts, startsRead, distinct⟩
    obtain ⟨keys, behind, left, rest, object⟩ := parse_object_iff.mp parsed
    obtain ⟨startsToo, startsReadToo, names, _⟩ := object.starts
    rw [startsRead] at startsReadToo
    cases startsReadToo
    rw [names] at distinct
    exact ⟨keys, behind, left, rest, object, distinct⟩
  · rintro ⟨keys, behind, left, rest, object, distinct⟩
    obtain ⟨starts, startsRead, names, _⟩ := object.starts
    refine ⟨parse_object_iff.mpr ⟨keys, behind, left, rest, object⟩, starts, startsRead, ?_⟩
    rw [names]
    exact distinct

/-- An object gives every key the value that it has. -/
theorem HoldsObject.given (holds : HoldsObject text fields) :
    ∃ starts, parseStarts text = .ok starts ∧
      ∀ key, Given (depthLimit - 1) starts key (fields.get? key) := by
  obtain ⟨keys, behind, left, rest, object, distinct⟩ := holdsObject_iff.mp holds
  obtain ⟨starts, startsRead, names, gives⟩ := object.starts
  rw [← names] at distinct
  exact ⟨starts, startsRead, gives distinct⟩

theorem HoldsObject.nodup_keys (holds : HoldsObject text fields) : fields.keys.Nodup := by
  obtain ⟨keys, behind, left, rest, object, distinct⟩ := holdsObject_iff.mp holds
  rw [keys_of_run object.run distinct]
  exact distinct

/-- The text of an object that can be read back holds that object. -/
theorem holdsObject_compact (readable : Readable depthLimit (.object fields)) :
    HoldsObject (Json.object fields).compact fields := by
  obtain ⟨below, limit⟩ : ∃ below, depthLimit = below + 1 := ⟨depthLimit - 1, rfl⟩
  rw [limit] at readable
  cases readable with
  | object distinct readable =>
      have reads := reads_insertEntry Layout.compact_sound (value_skipsBlanks .keep below)
        (fun entry member => (readable entry member).readsBack Layout.compact_sound 1) []
        distinct
      obtain ⟨behind, left, written, enough, run, brace⟩ :=
        entryRun_write Layout.compact_sound reads []
      have enough : fields.keys.length ≤ behind.length := by rwa [Fields.keys, List.length_map]
      have visible : skipBlank (Json.object fields).compact.toList = '{' :: behind := by
        rw [Json.compact, String.toList_ofList, written]
        exact skipBlank_cons rfl behind
      obtain rfl : below = depthLimit - 1 := by omega
      exact holdsObject_iff.mpr
        ⟨fields.keys, behind, left, [], ⟨visible, enough, run, brace, rfl⟩, distinct⟩

end

end DraftBoard.Json
