/-!
# Cutting texts

A text is cut at every occurrence of a mark; joining the pieces with the mark gives the
text again.
-/

namespace DraftBoard.Text

/-- The pieces of a text between occurrences of a mark. -/
def splitAtMark (mark : Char) : List Char → List (List Char)
  | [] => [[]]
  | c :: rest =>
      if c = mark then [] :: splitAtMark mark rest
      else
        match splitAtMark mark rest with
        | first :: others => (c :: first) :: others
        | [] => [[c]]

/-- A text cut before the first character that satisfies a test. -/
def cutBefore (test : Char → Bool) (text : List Char) : List Char × List Char :=
  (text.takeWhile fun c => !test c, text.dropWhile fun c => !test c)

end DraftBoard.Text
