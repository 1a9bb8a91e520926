import DraftBoard.Proofs.Files.Paths

/-!
# Parents and joined paths

The parent of a path has the components of the path but the last one.  A relative path that is
joined to another one adds its components to it, and an absolute one takes its place.
-/

namespace DraftBoard

namespace Path

theorem join_of_isAbsolute (base : Path) {right : Path} (absolute : right.isAbsolute = true) :
    base.join right = right := by
  simp [join, absolute]

theorem join_of_empty {base : Path} (empty : base.chars = []) (right : Path) :
    base.join right = right := by
  simp [join, empty]

theorem here_not_mem_behind (others : List (List Char)) : Component.here ∉ behind others := by
  intro member
  obtain ⟨piece, named, same⟩ := List.mem_map.mp member
  have notHere : piece ≠ ['.'] := by
    rintro rfl
    simp [idle] at named
  rw [componentOf, if_neg notHere] at same
  split at same <;> cases same

/-- The pieces of a relative path name its components, a leading dot apart. -/
theorem behind_pieces {path : Path} (relative : path.isAbsolute = false) :
    behind (pieces path.chars) = path.components.filter (· ≠ .here) := by
  obtain ⟨chars⟩ := path
  cases chars with
  | nil => rfl
  | cons c rest =>
      rw [isAbsolute_cons, decide_eq_false_iff_not] at relative
      obtain ⟨piece, others, cut⟩ := pieces_cons relative rest
      have kept : (behind others).filter (· ≠ .here) = behind others := by
        rw [List.filter_eq_self]
        intro component member
        have notHere : component ≠ .here := by
          rintro rfl
          exact here_not_mem_behind others member
        exact decide_eq_true notHere
      rw [components_of_pieces cut, cut, List.filter_cons, kept]
      by_cases isHere : c :: piece = ['.']
      · rw [isHere]
        rfl
      · have different : componentOf (c :: piece) ≠ .here := by
          rw [componentOf, if_neg isHere]
          split <;> simp
        have named : idle (c :: piece) = false := by
          simpa [idle] using isHere
        rw [if_pos (decide_eq_true different), ← List.singleton_append, behind_append,
          behind_singleton named, List.singleton_append]

/-- A relative path that is joined to another one adds its components to it, a leading dot
apart. -/
theorem components_join {base right : Path} (nonempty : base.chars ≠ [])
    (relative : right.isAbsolute = false) :
    (base.join right).components = base.components ++ right.components.filter (· ≠ .here) := by
  rw [components_join_behind nonempty relative, behind_pieces relative]

theorem behind_intercalate {named : List (List Char)} (plain : ∀ piece ∈ named, '/' ∉ piece) :
    behind (pieces (['/'].intercalate named)) = behind named := by
  cases named with
  | nil => rfl
  | cons first others => rw [pieces, Text.splitAtMark_intercalate plain]

theorem trimIdle_eq (others : List (List Char)) : trimIdle others = others.rdropWhile idle := rfl

/-- Idle pieces at the end name nothing. -/
theorem behind_trimIdle (others : List (List Char)) :
    behind (trimIdle others) = behind others := by
  rw [trimIdle_eq]
  induction others using List.reverseRecOn with
  | nil => rfl
  | append_singleton others piece ih =>
      by_cases isIdle : idle piece = true
      · rw [List.rdropWhile_concat_pos _ _ _ isIdle, ih, behind_append]
        simp [behind, isIdle]
      · rw [List.rdropWhile_concat_neg _ _ _ isIdle]

/-- The pieces above the last one that names something. -/
def above (others : List (List Char)) : List (List Char) := trimIdle (trimIdle others).dropLast

theorem mem_of_mem_above {others : List (List Char)} {piece : List Char}
    (member : piece ∈ above others) : piece ∈ others := by
  have inDropped := (List.rdropWhile_prefix idle _).subset member
  exact (List.rdropWhile_prefix idle _).subset (List.dropLast_subset _ inDropped)

theorem behind_above {others : List (List Char)} (nonempty : trimIdle others ≠ []) :
    ∃ component, behind others = behind (above others) ++ [component] := by
  have last : idle ((trimIdle others).getLast nonempty) = false :=
    Bool.not_eq_true _ ▸ List.rdropWhile_last_not idle others nonempty
  refine ⟨componentOf ((trimIdle others).getLast nonempty), ?_⟩
  rw [above, behind_trimIdle, ← behind_singleton last, ← behind_append,
    List.dropLast_append_getLast, behind_trimIdle]

theorem parent?_rooted (rest : List Char) :
    (Path.mk ('/' :: rest)).parent? =
      if trimIdle (pieces rest) = [] then none
      else some ⟨'/' :: ['/'].intercalate (above (pieces rest))⟩ := by
  unfold parent? above
  simp only [split]
  cases trimIdle (pieces rest) <;> rfl

theorem parent?_of_pieces {chars piece : List Char} {c : Char} {others : List (List Char)}
    (cut : pieces chars = (c :: piece) :: others) :
    (Path.mk chars).parent? =
      if trimIdle others = [] then some ⟨[]⟩
      else some ⟨['/'].intercalate ((c :: piece) :: above others)⟩ := by
  unfold parent? above
  rw [split_of_pieces cut]
  dsimp only
  cases trimIdle others <;> rfl

/-- A path without a parent is empty or the root, and any other one has one component more than
its parent. -/
theorem parent?_cases (path : Path) :
    path.parent? = none ∧ (path.components = [] ∨ path.components = [.root]) ∨
      ∃ parent component, path.parent? = some parent ∧
        path.components = parent.components ++ [component] := by
  obtain ⟨chars⟩ := path
  cases chars with
  | nil => exact .inl ⟨rfl, .inl rfl⟩
  | cons c rest =>
      by_cases rooted : c = '/'
      · subst c
        rw [parent?_rooted, components_rooted]
        by_cases bare : trimIdle (pieces rest) = []
        · rw [if_pos bare, ← behind_trimIdle, bare]
          exact .inl ⟨rfl, .inr rfl⟩
        · obtain ⟨component, last⟩ := behind_above bare
          have unmarked : ∀ piece ∈ above (pieces rest), '/' ∉ piece :=
            fun piece member => Text.not_mem_of_mem_splitAtMark (mem_of_mem_above member)
          rw [if_neg bare]
          refine .inr ⟨_, component, rfl, ?_⟩
          rw [components_rooted, behind_intercalate unmarked, last, List.cons_append]
      · obtain ⟨piece, others, cut⟩ := pieces_cons rooted rest
        rw [parent?_of_pieces cut, components_of_pieces cut]
        by_cases bare : trimIdle others = []
        · rw [if_pos bare, ← behind_trimIdle, bare]
          exact .inr ⟨_, componentOf (c :: piece), rfl, rfl⟩
        · obtain ⟨component, last⟩ := behind_above bare
          have unmarked : ∀ kept ∈ (c :: piece) :: above others, '/' ∉ kept := by
            intro kept member
            have inPath : kept ∈ pieces (c :: rest) := by
              rw [cut]
              rcases List.mem_cons.mp member with rfl | later
              · exact List.mem_cons_self
              · exact List.mem_cons_of_mem _ (mem_of_mem_above later)
            exact Text.not_mem_of_mem_splitAtMark inPath
          rw [if_neg bare]
          refine .inr ⟨_, component, rfl, ?_⟩
          rw [components_of_pieces (Text.splitAtMark_intercalate unmarked), last,
            List.cons_append]

/-- What a name is the last component of has a parent with the components before the name. -/
theorem exists_parent? {path : Path} {before : List Component} {name : List Char}
    (ends : path.components = before ++ [.name name]) :
    ∃ parent, path.parent? = some parent ∧ parent.components = before := by
  rcases parent?_cases path with ⟨_, empty | root⟩ | ⟨parent, component, found, whole⟩
  · rw [ends] at empty
    simp at empty
  · rw [ends] at root
    have alone := List.append_eq_singleton_iff.mp root
    simp at alone
  · rw [ends] at whole
    exact ⟨parent, found, (List.append_inj_left' whole rfl).symm⟩

end Path

end DraftBoard
