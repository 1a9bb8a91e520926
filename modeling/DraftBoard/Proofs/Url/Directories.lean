import DraftBoard.Proofs.Url.Components
import Mathlib.Data.List.DropRight

/-!
# Directories below a site

A root URL may name a directory on its site.  What is asked for below it stands behind the
directory without the slashes at its end.
-/

namespace DraftBoard.Url

open Text

/-- Segments of unreserved characters behind slashes, or nothing.  None of them is a dot
segment. -/
structure IsDirectory (path : List Char) : Prop where
  rooted : ∀ c, path.head? = some c → c = '/'
  plain : ∀ c ∈ path, unreserved c = true ∨ c = '/'
  undotted : ∀ segment ∈ splitAtMark '/' path, segment ≠ ['.'] ∧ segment ≠ ['.', '.']

variable {path tail : List Char}

theorem undotted_of_unreserved {segment : List Char}
    (plain : ∀ c ∈ segment, unreserved c = true)
    (named : segment ≠ ['.'] ∧ segment ≠ ['.', '.']) :
    isDot segment = false ∧ isDoubleDot segment = false := by
  have encoded : (urlComponent (String.ofList segment)).toList = segment := by
    rw [urlComponent, String.toList_ofList, String.toList_ofList, percentEncode_of_kept plain]
  have notDot : String.ofList segment ≠ "." := by
    intro same
    exact named.1 (String.ofList_inj.mp same)
  have notDoubleDot : String.ofList segment ≠ ".." := by
    intro same
    exact named.2 (String.ofList_inj.mp same)
  rw [← encoded]
  exact ⟨isDot_urlComponent notDot, isDoubleDot_urlComponent notDoubleDot⟩

/-- Slashes at the end of a path are followed by nothing. -/
theorem mem_splitAtMark_of_trimmed {segment : List Char}
    (member : segment ∈ splitAtMark '/' (path.rdropWhile (· == '/'))) :
    segment ∈ splitAtMark '/' path := by
  induction path using List.reverseRecOn with
  | nil => exact member
  | append_singleton path c ih =>
      by_cases slash : c = '/'
      · subst slash
        rw [List.rdropWhile_concat_pos _ _ _ rfl] at member
        rw [splitAtMark_append_mark]
        exact List.mem_append_left _ (ih member)
      · rw [List.rdropWhile_concat_neg _ _ _ (by simpa using slash)] at member
        exact member

theorem IsDirectory.trim (directory : IsDirectory path) :
    IsDirectory (path.rdropWhile (· == '/')) where
  rooted := by
    intro c first
    apply directory.rooted
    obtain ⟨slashes, whole⟩ := List.rdropWhile_prefix (· == '/') path
    rw [← whole, List.head?_append, first]
    rfl
  plain := by
    intro c member
    exact directory.plain c ((List.rdropWhile_prefix _ path).subset member)
  undotted segment member := directory.undotted segment (mem_splitAtMark_of_trimmed member)

theorem IsDirectory.isStraight_append (directory : IsDirectory path)
    (straight : IsStraight tail) : IsStraight (path ++ tail) where
  rooted := by
    cases path with
    | nil => exact straight.rooted
    | cons c rest => exact congrArg some (directory.rooted c rfl)
  kept := by
    intro c member
    rcases List.mem_append.mp member with above | below
    · rcases directory.plain c above with plain | rfl
      · obtain ⟨inPath, _, notBackslash, _⟩ := kept_of_unreserved (.inl plain)
        exact ⟨inPath, notBackslash⟩
      · decide
    · exact straight.kept c below
  undotted := by
    cases path with
    | nil => exact straight.undotted
    | cons c rest =>
        obtain rfl := directory.rooted c rfl
        obtain ⟨after, rfl⟩ := List.head?_eq_some_iff.mp straight.rooted
        intro segment member
        rw [List.cons_append, List.drop_succ_cons, List.drop_zero,
          splitAtMark_append_mark] at member
        rcases List.mem_append.mp member with above | below
        · have inPath : segment ∈ splitAtMark '/' ('/' :: rest) := by
            rw [splitAtMark, if_pos rfl]
            exact List.mem_cons_of_mem _ above
          apply undotted_of_unreserved _ (directory.undotted segment inPath)
          intro c inside
          rcases directory.plain c (mem_of_mem_splitAtMark inPath inside) with plain | rfl
          · exact plain
          · exact absurd inside (not_mem_of_mem_splitAtMark inPath)
        · exact straight.undotted segment below

end DraftBoard.Url
