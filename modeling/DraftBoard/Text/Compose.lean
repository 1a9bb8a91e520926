import DraftBoard.Text.ComposeTable

/-!
# Composed text

One written letter can be one character, or a letter with marks behind it.  `compose`
gives the spelling with as few characters as possible: it takes all characters apart,
puts the marks of each letter into order, and joins what can be joined.
-/

namespace DraftBoard.Text

/-- The place of a mark around its letter; a character that is no such mark has none. -/
def place (c : Char) : Nat :=
  if c.toNat < 0x300 then 0
  else
    match classRuns.find? fun run => run.first ≤ c.toNat && c.toNat ≤ run.last with
    | some run => run.place
    | none => 0

/-- The two parts of a Korean syllable: its last consonant, or else its vowel, is split
off. -/
def splitSyllable? (c : Char) : Option (Char × Char) :=
  if 0xac00 ≤ c.toNat ∧ c.toNat < 0xac00 + 11172 then
    let index := c.toNat - 0xac00
    if index % 28 = 0 then
      some (Char.ofNat (0x1100 + index / 588), Char.ofNat (0x1161 + index % 588 / 28))
    else some (Char.ofNat (c.toNat - index % 28), Char.ofNat (0x11a7 + index % 28))
  else none

/-- The Korean syllable of a consonant and a vowel, or of a syllable without a last
consonant and one. -/
def joinSyllable? (first second : Char) : Option Char :=
  let a := first.toNat
  let b := second.toNat
  if 0x1100 ≤ a ∧ a < 0x1113 ∧ 0x1161 ≤ b ∧ b < 0x1176 then
    some (Char.ofNat (0xac00 + (a - 0x1100) * 588 + (b - 0x1161) * 28))
  else if 0xac00 ≤ a ∧ a < 0xac00 + 11172 ∧ (a - 0xac00) % 28 = 0 ∧ 0x11a7 < b ∧ b < 0x11c3 then
    some (Char.ofNat (a + (b - 0x11a7)))
  else none

/-- The two characters that one stands for. -/
def splitPair? (c : Char) : Option (Char × Char) :=
  (splitSyllable? c).or <|
    (composites.find? fun pair => pair.code == c.toNat).map fun pair =>
      (Char.ofNat pair.first, Char.ofNat pair.second)

/-- The character that stands for two. -/
def joinPair? (first second : Char) : Option Char :=
  (joinSyllable? first second).or <|
    (composites.find? fun pair => pair.second == second.toNat && pair.first == first.toNat).map
      fun pair => Char.ofNat pair.code

/-- A character taken apart; `depth` bounds how often. -/
def takeApart : Nat → Char → List Char
  | 0, c => [c]
  | depth + 1, c =>
      match splitPair? c with
      | some (first, second) => takeApart depth first ++ [second]
      | none => [c]

/-- How often a character can be taken apart: a letter carries at most three marks. -/
def splitDepth : Nat := 4

/-- Puts a mark behind characters, nearest first: in front of marks with a later place. -/
def insertMark (c : Char) : List Char → List Char
  | [] => [c]
  | last :: before =>
      if place c < place last ∧ place c ≠ 0 then last :: insertMark c before
      else c :: last :: before

/-- The characters with the marks of each letter in the order of their places. -/
def orderMarks (text : List Char) : List Char :=
  (text.foldl (fun before c => insertMark c before) []).reverse

/-- Joins a letter with what follows.  Marks that do not join stay between them in
`kept`, nearest first, and hide later marks of their own place. -/
def joinFrom (letter : Char) (kept : List Char) : List Char → List Char
  | [] => letter :: kept.reverse
  | c :: rest =>
      let near := kept.head?.all fun last => place last < place c
      match if near then joinPair? letter c else none with
      | some joined => joinFrom joined kept rest
      | none =>
          if place c = 0 then letter :: kept.reverse ++ joinFrom c [] rest
          else joinFrom letter (c :: kept) rest

/-- The text with as few characters as possible. -/
def compose (text : List Char) : List Char :=
  if text.all fun c => c.toNat < 0x300 then text
  else
    let apart := orderMarks (text.flatMap (takeApart splitDepth))
    let marks := apart.takeWhile fun c => place c != 0
    match apart.dropWhile fun c => place c != 0 with
    | [] => marks
    | letter :: rest => marks ++ joinFrom letter [] rest

end DraftBoard.Text
