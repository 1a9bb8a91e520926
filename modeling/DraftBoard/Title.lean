import DraftBoard.Text.Lowercase

/-!
# Dashboard titles

A draft title ends in `draftMark`, a reference title in `referenceMark`; both
marks are recognised whatever the case of their letters.  `slug` turns any title
into the name that its file and its uid bear.
-/

namespace DraftBoard.Title

/-- What the title of a draft ends in. -/
def draftMark : String := " (WIP)"

/-- What the title of a reference dashboard ends in. -/
def referenceMark : String := "-ref"

/-- Size of a text in UTF-8 bytes. -/
def byteSize (text : List Char) : Nat :=
  (text.map Char.utf8Size).foldr (· + ·) 0

/-- A text cut at a byte offset; nothing when the offset falls inside a character
or behind the end. -/
def cutAtByte : Nat → List Char → Option (List Char × List Char)
  | 0, text => some ([], text)
  | _ + 1, [] => none
  | offset + 1, c :: rest =>
      if c.utf8Size ≤ offset + 1 then
        (cutAtByte (offset + 1 - c.utf8Size) rest).map fun (head, tail) => (c :: head, tail)
      else none

/-- Whether two texts agree up to the case of ASCII letters. -/
def sameIgnoringCase (left right : List Char) : Bool :=
  left.map Char.toLower == right.map Char.toLower

/-- What precedes `mark` in a text that ends in it, up to the case of ASCII
letters.  The tail that is compared has as many bytes as the mark. -/
def stripMark? (mark text : List Char) : Option (List Char) :=
  if byteSize mark ≤ byteSize text then
    match cutAtByte (byteSize text - byteSize mark) text with
    | some (head, tail) => if sameIgnoringCase tail mark then some head else none
    | none => none
  else none

/-- The draft form of a title: the mark is appended unless the title bears it. -/
def draft (title : String) : String :=
  match stripMark? draftMark.toList title.toList with
  | some _ => title
  | none => title ++ draftMark

/-- The reference form of a title: one draft mark is dropped, then the reference
mark is appended unless it is there. -/
def reference (title : String) : String :=
  let base := (stripMark? draftMark.toList title.toList).getD title.toList
  match stripMark? referenceMark.toList base with
  | some _ => String.ofList base
  | none => String.ofList base ++ referenceMark

/-- Characters that a slug keeps: lower-case ASCII letters, digits and the
underscore. -/
def isSlugChar (c : Char) : Bool :=
  c.isLower || c.isDigit || c == '_'

/-- A hyphen put between every lower-case ASCII letter and an upper-case one that
follows it. -/
def splitCamel : List Char → List Char
  | a :: b :: rest =>
      if a.isLower && b.isUpper then a :: '-' :: b :: splitCamel rest
      else a :: splitCamel (b :: rest)
  | text => text

/-- Every run of characters outside the slug alphabet made into one hyphen;
`inRun` tells that the hyphen of the present run has been written. -/
def hyphenateFrom (inRun : Bool) : List Char → List Char
  | [] => []
  | c :: rest =>
      if isSlugChar c then c :: hyphenateFrom false rest
      else if inRun then hyphenateFrom true rest
      else '-' :: hyphenateFrom true rest

/-- Every run of characters outside the slug alphabet made into one hyphen. -/
def hyphenate (text : List Char) : List Char :=
  hyphenateFrom false text

/-- The slug of a character sequence. -/
def slugChars (title : List Char) : List Char :=
  hyphenate (Text.lowercaseChars (splitCamel title))

/-- The slug of a title: camel-case words are parted, letters lowered, and all
else becomes single hyphens. -/
def slug (title : String) : String :=
  String.ofList (slugChars title.toList)

end DraftBoard.Title
