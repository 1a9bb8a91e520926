import DraftBoard.Json.Basic

/-!
# Entries of an object

Setting an entry changes what one key looks up and nothing else.  A key that is
there keeps its place, a new one goes behind all others.
-/

namespace DraftBoard.Json.Fields

variable {fields : Fields} {key other : String} {value : Json}

theorem get?_cons (name key : String) (value : Json) (fields : Fields) :
    get? ((name, value) :: fields) key =
      if key = name then some value else get? fields key := by
  by_cases same : key = name
  · simp [get?, same]
  · have test : (key == name) = false := beq_eq_false_iff_ne.mpr same
    simp [get?, List.lookup_cons, test, same]

@[simp] theorem get?_insert_self (key : String) (value : Json)
    (fields : Fields) : get? (insert key value fields) key = some value := by
  induction fields with
  | nil => simp [insert, get?]
  | cons entry fields ih =>
      obtain ⟨name, old⟩ := entry
      by_cases same : name = key
      · simp [insert, same, get?]
      · have different : key ≠ name := Ne.symm same
        rw [insert, if_neg same, get?_cons, if_neg different, ih]

theorem get?_insert_of_ne (value : Json) (fields : Fields)
    (different : other ≠ key) :
    get? (insert key value fields) other = get? fields other := by
  induction fields with
  | nil => simp [insert, get?_cons, different]
  | cons entry fields ih =>
      obtain ⟨name, old⟩ := entry
      by_cases same : name = key
      · subst name
        simp [insert, get?_cons, different]
      · simp only [insert, if_neg same, get?_cons, ih]

theorem get?_insert (key other : String) (value : Json) (fields : Fields) :
    get? (insert key value fields) other =
      if other = key then some value else get? fields other := by
  by_cases same : other = key
  · subst other
    simp
  · simp [same, get?_insert_of_ne value fields same]

theorem mem_keys_iff : key ∈ keys fields ↔ ∃ value, get? fields key = some value := by
  induction fields with
  | nil => simp [keys, get?]
  | cons entry fields ih =>
      obtain ⟨name, old⟩ := entry
      rw [get?_cons]
      by_cases same : key = name
      · simp [keys, same]
      · simp only [keys, List.map_cons, List.mem_cons, same, false_or, if_false]
        exact ih

theorem mem_keys_of_get? (found : get? fields key = some value) : key ∈ keys fields :=
  mem_keys_iff.mpr ⟨value, found⟩

theorem get?_eq_none_of_not_mem (missing : key ∉ keys fields) : get? fields key = none := by
  cases found : get? fields key with
  | none => rfl
  | some value => exact absurd (mem_keys_of_get? found) missing

/-- Objects without repeated keys are the same if they list the same keys and look up the
same values. -/
theorem eq_of_get? {left right : Fields} (distinct : (keys left).Nodup)
    (sameKeys : keys left = keys right) (values : ∀ key, get? left key = get? right key) :
    left = right := by
  induction left generalizing right with
  | nil =>
      cases right with
      | nil => rfl
      | cons entry right => cases sameKeys
  | cons entry left ih =>
      obtain ⟨name, value⟩ := entry
      cases right with
      | nil => cases sameKeys
      | cons other right =>
          obtain ⟨otherName, otherValue⟩ := other
          have heads : name = otherName := (List.cons.inj sameKeys).1
          have tails : keys left = keys right := (List.cons.inj sameKeys).2
          subst heads
          obtain ⟨missing, distinct⟩ := List.nodup_cons.mp distinct
          have missingToo : name ∉ keys right := by
            rw [← tails]
            exact missing
          have here := values name
          rw [get?_cons, get?_cons, if_pos rfl, if_pos rfl] at here
          have others : ∀ key, get? left key = get? right key := by
            intro key
            by_cases same : key = name
            · rw [same, get?_eq_none_of_not_mem missing, get?_eq_none_of_not_mem missingToo]
            · have there := values key
              rwa [get?_cons, get?_cons, if_neg same, if_neg same] at there
          rw [Option.some.inj here, ih distinct tails others]

/-- A key that is set keeps its place, or goes behind all others. -/
theorem keys_insert (key : String) (value : Json) (fields : Fields) :
    keys (insert key value fields) =
      if key ∈ keys fields then keys fields else keys fields ++ [key] := by
  induction fields with
  | nil => simp [insert, keys]
  | cons entry fields ih =>
      obtain ⟨name, old⟩ := entry
      by_cases same : name = key
      · simp [insert, same, keys]
      · have different : key ≠ name := Ne.symm same
        simp only [insert, if_neg same, keys, List.map_cons, List.mem_cons,
          different, false_or]
        simp only [keys] at ih
        rw [ih]
        by_cases member : key ∈ fields.map (·.1) <;> simp [member]

theorem keys_insert_of_mem (value : Json) (member : key ∈ keys fields) :
    keys (insert key value fields) = keys fields := by
  rw [keys_insert, if_pos member]

theorem nodup_keys_insert (key : String) (value : Json) (distinct : (keys fields).Nodup) :
    (keys (insert key value fields)).Nodup := by
  rw [keys_insert]
  split
  · exact distinct
  · next missing =>
      rw [List.nodup_append]
      refine ⟨distinct, by simp, ?_⟩
      intro present member last lastMember
      rw [List.mem_singleton] at lastMember
      subst lastMember
      rintro rfl
      exact missing member

theorem mem_insert {entry : String × Json} (member : entry ∈ insert key value fields) :
    entry = (key, value) ∨ entry ∈ fields := by
  induction fields with
  | nil => exact .inl (List.mem_singleton.mp member)
  | cons first fields ih =>
      obtain ⟨name, old⟩ := first
      by_cases same : name = key
      · subst name
        rw [insert, if_pos rfl] at member
        rcases List.mem_cons.mp member with here | later
        · exact .inl here
        · exact .inr (List.mem_cons_of_mem _ later)
      · rw [insert, if_neg same] at member
        rcases List.mem_cons.mp member with rfl | later
        · exact .inr List.mem_cons_self
        · rcases ih later with new | old
          · exact .inl new
          · exact .inr (List.mem_cons_of_mem _ old)

/-- Of two values set under one key the last one stays. -/
@[simp] theorem insert_insert_self (key : String) (first second : Json)
    (fields : Fields) :
    insert key second (insert key first fields) = insert key second fields := by
  induction fields with
  | nil => simp [insert]
  | cons entry fields ih =>
      obtain ⟨name, old⟩ := entry
      by_cases same : name = key
      · simp [insert, same]
      · simp [insert, same, ih]

theorem insert_eq_self (present : get? fields key = some value) :
    insert key value fields = fields := by
  induction fields with
  | nil => simp [get?] at present
  | cons entry fields ih =>
      obtain ⟨name, old⟩ := entry
      rw [get?_cons] at present
      by_cases same : name = key
      · subst name
        simp only [if_true, Option.some.injEq] at present
        simp [insert, present]
      · have different : key ≠ name := Ne.symm same
        rw [if_neg different] at present
        rw [insert, if_neg same, ih present]

theorem insert_of_not_mem (value : Json) (missing : key ∉ keys fields) :
    insert key value fields = fields ++ [(key, value)] := by
  induction fields with
  | nil => rfl
  | cons entry fields ih =>
      obtain ⟨name, old⟩ := entry
      simp only [keys, List.map_cons, List.mem_cons, not_or] at missing
      rw [insert, if_neg (Ne.symm missing.1), ih missing.2, List.cons_append]

/-- Two settings change places when one of them finds its key. -/
theorem insert_comm_of_mem (first second : Json) (different : key ≠ other)
    (member : key ∈ keys fields) :
    insert key first (insert other second fields) =
      insert other second (insert key first fields) := by
  induction fields with
  | nil => simp [keys] at member
  | cons entry fields ih =>
      obtain ⟨name, old⟩ := entry
      by_cases atKey : name = key
      · subst name
        simp [insert, different]
      · by_cases atOther : name = other
        · subst name
          simp [insert, atKey]
        · have tailMember : key ∈ keys fields := by
            simpa [keys, Ne.symm atKey] using member
          simp [insert, atKey, atOther, ih tailMember]

theorem get?_append_of_not_mem (left : Fields) {right : Fields} (missing : key ∉ keys right) :
    get? (left ++ right) key = get? left key := by
  have nothing : List.lookup key right = none := get?_eq_none_of_not_mem missing
  rw [get?, List.lookup_append, nothing, Option.or_none]
  rfl

theorem get?_eq_some_iff (distinct : (keys fields).Nodup) :
    get? fields key = some value ↔ (key, value) ∈ fields := by
  induction fields with
  | nil => simp [get?]
  | cons entry fields ih =>
      obtain ⟨name, first⟩ := entry
      obtain ⟨missing, distinct⟩ := List.nodup_cons.mp distinct
      rw [get?_cons, List.mem_cons, ← ih distinct, Prod.mk.injEq]
      by_cases same : key = name
      · subst same
        rw [if_pos rfl, get?_eq_none_of_not_mem missing]
        simp [eq_comm]
      · rw [if_neg same]
        simp [same]

/-- What an object without repeated keys looks up does not depend on the order of its
entries. -/
theorem get?_of_perm {left right : Fields} (order : left.Perm right)
    (distinct : (keys left).Nodup) (key : String) : get? left key = get? right key := by
  have names : (keys left).Perm (keys right) := order.map _
  have distinctToo : (keys right).Nodup := names.nodup_iff.mp distinct
  ext value
  rw [get?_eq_some_iff distinct, get?_eq_some_iff distinctToo, order.mem_iff]

end DraftBoard.Json.Fields
