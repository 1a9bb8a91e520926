import DraftBoard.Proofs.Text.Split
import DraftBoard.Proofs.Title.Slug
import DraftBoard.Transfer.Provision

/-!
# Components of joined paths

A name that is joined to a path becomes its last component, whatever the path is
and however it ends.
-/

namespace DraftBoard

namespace Path

/-- The components that the pieces behind the first one stand for. -/
def behind (others : List (List Char)) : List Component :=
  (others.filter fun piece => !idle piece).map componentOf

@[simp] theorem behind_append (left right : List (List Char)) :
    behind (left ++ right) = behind left ++ behind right := by
  simp [behind]

theorem behind_singleton {piece : List Char} (named : idle piece = false) :
    behind [piece] = [componentOf piece] := by
  simp [behind, named]

theorem components_rooted (rest : List Char) :
    (Path.mk ('/' :: rest)).components = .root :: behind (pieces rest) := rfl

/-- A path that does not start at the root has a first piece. -/
theorem pieces_cons {c : Char} (unrooted : c ≠ '/') (rest : List Char) :
    ∃ piece others, pieces (c :: rest) = (c :: piece) :: others := by
  obtain ⟨piece, others, cut⟩ :=
    List.exists_cons_of_ne_nil (Text.splitAtMark_ne_nil '/' rest)
  exact ⟨piece, others, Text.splitAtMark_cons_of_ne unrooted cut⟩

section

variable {chars piece : List Char} {c : Char} {others : List (List Char)}

theorem split_of_pieces (cut : pieces chars = (c :: piece) :: others) :
    (Path.mk chars).split = (some (c :: piece), others) := by
  unfold Path.split
  split
  · next empty =>
      obtain rfl : chars = [] := empty
      cases cut
  · next text rooted =>
      obtain rfl : chars = '/' :: text := rooted
      cases cut
  · rw [cut]

theorem components_of_pieces (cut : pieces chars = (c :: piece) :: others) :
    (Path.mk chars).components = componentOf (c :: piece) :: behind others := by
  rw [components, split_of_pieces cut]
  rfl

end

/-- What stands behind a slash adds the components of its pieces. -/
theorem components_append_behind {chars : List Char} (nonempty : chars ≠ [])
    (rest : List Char) :
    (Path.mk (chars ++ '/' :: rest)).components =
      (Path.mk chars).components ++ behind (pieces rest) := by
  cases chars with
  | nil => exact absurd rfl nonempty
  | cons c front =>
      by_cases rooted : c = '/'
      · subst c
        rw [List.cons_append, components_rooted, components_rooted, pieces,
          Text.splitAtMark_append_mark, behind_append]
        rfl
      · obtain ⟨piece, others, cut⟩ := pieces_cons rooted front
        rw [components_of_pieces (Text.splitAtMark_append_of_cut cut rest),
          components_of_pieces cut, behind_append]
        rfl

theorem isAbsolute_cons (c : Char) (rest : List Char) :
    (Path.mk (c :: rest)).isAbsolute = decide (c = '/') := by
  unfold isAbsolute
  split
  · next text rooted =>
      cases rooted
      rfl
  · next unrooted =>
      have notSlash : c ≠ '/' := by
        rintro rfl
        exact unrooted rest rfl
      exact (decide_eq_false notSlash).symm

theorem isAbsolute_of_slash_not_mem {name : List Char} (plain : '/' ∉ name) :
    (Path.mk name).isAbsolute = false := by
  cases name with
  | nil => rfl
  | cons c rest =>
      rw [isAbsolute_cons, decide_eq_false_iff_not]
      rintro rfl
      exact plain List.mem_cons_self

/-- A relative path that is joined to another one adds the components of its pieces. -/
theorem components_join_behind {base right : Path} (nonempty : base.chars ≠ [])
    (relative : right.isAbsolute = false) :
    (base.join right).components = base.components ++ behind (pieces right.chars) := by
  by_cases slashed : base.chars.getLast? = some '/'
  · have joined : base.join right = ⟨base.chars ++ right.chars⟩ := by
      simp [join, relative, nonempty, slashed]
    obtain ⟨front, split⟩ := List.getLast?_eq_some_iff.mp slashed
    have whole : base = ⟨front ++ ['/']⟩ := by
      cases base with
      | mk chars => exact congrArg Path.mk split
    rw [joined, split, List.append_assoc, List.singleton_append, whole]
    by_cases bare : front = []
    · subst front
      rfl
    · -- The slash at the end names nothing of its own.
      rw [components_append_behind bare, components_append_behind bare]
      simp [pieces, behind, Text.splitAtMark, idle]
  · have joined : base.join right = ⟨base.chars ++ '/' :: right.chars⟩ := by
      simp [join, relative, nonempty, slashed]
    rw [joined, components_append_behind nonempty]

/-- A name joined to a path is its last component. -/
theorem components_join_name (base : Path) {name : List Char} (plain : '/' ∉ name)
    (named : idle name = false) :
    (base.join ⟨name⟩).components = base.components ++ [componentOf name] := by
  have relative := isAbsolute_of_slash_not_mem plain
  by_cases empty : base.chars = []
  · have alone : base.join ⟨name⟩ = ⟨name⟩ := by
      simp [join, empty]
    have nothing : base.components = [] := by
      cases base with
      | mk chars =>
          cases empty
          rfl
    obtain ⟨c, rest, rfl⟩ : ∃ c rest, name = c :: rest := by
      cases name with
      | nil => exact absurd named (by decide)
      | cons c rest => exact ⟨c, rest, rfl⟩
    rw [alone, nothing, components_of_pieces (Text.splitAtMark_of_not_mem plain)]
    rfl
  · rw [components_join_behind empty relative, pieces, Text.splitAtMark_of_not_mem plain,
      behind_singleton named]

/-- A text that stands for itself as a piece of a path. -/
structure IsName (name : List Char) : Prop where
  plain : '/' ∉ name
  nonempty : name ≠ []
  notHere : name ≠ ['.']
  notUp : name ≠ ['.', '.']

theorem isName_provisioned {stem : String} (plain : '/' ∉ stem.toList) :
    IsName (stem ++ ".json").toList := by
  have long : 5 ≤ (stem ++ ".json").toList.length := by
    rw [String.toList_append, List.length_append]
    have ending : ".json".toList.length = 5 := rfl
    omega
  have longer : ∀ short : List Char, short.length < 5 → (stem ++ ".json").toList ≠ short := by
    intro short bound equal
    rw [equal] at long
    omega
  refine ⟨?_, longer _ (by decide), longer _ (by decide), longer _ (by decide)⟩
  rw [String.toList_append, List.mem_append, not_or]
  exact ⟨plain, by decide⟩

end Path

/-- The last component of a provisioned path is the stem with its ending. -/
theorem components_provisionedPath (outDir : Path) (folder : String) {stem : String}
    (plain : '/' ∉ stem.toList) :
    (provisionedPath outDir folder stem).components =
      (outDir.join (.ofString folder)).components ++
        [.name (stem ++ ".json").toList] := by
  have name := Path.isName_provisioned plain
  have named : Path.idle (stem ++ ".json").toList = false := by
    simp only [Path.idle, name.nonempty, name.notHere, decide_false, Bool.or_self]
  have isName : Path.componentOf (stem ++ ".json").toList = .name (stem ++ ".json").toList := by
    rw [Path.componentOf, if_neg name.notHere, if_neg name.notUp]
  have joined := Path.components_join_name (outDir.join (.ofString folder)) name.plain named
  rw [isName] at joined
  exact joined

theorem getLast?_provisionedPath (outDir : Path) (folder : String) {stem : String}
    (plain : '/' ∉ stem.toList) :
    (provisionedPath outDir folder stem).components.getLast? =
      some (.name (stem ++ ".json").toList) := by
  rw [components_provisionedPath outDir folder plain, List.getLast?_concat]

end DraftBoard
