import DraftBoard.Url.Basic

/-!
# Labels in ASCII letters

A label of any characters is written with letters, digits and hyphens: first its ASCII
characters, then, behind a hyphen, the places of all others as distances in digits of
growing weight.  `encodeLabel` writes a label that way, `decodeLabel?` reads it.
-/

namespace DraftBoard.Url

/-- Halves a distance for `steps` rounds at most, and the place that it ends at. -/
def settleBias : Nat → Nat → Nat → Nat
  | 0, place, delta => place + 36 * delta / (delta + 38)
  | steps + 1, place, delta =>
      if 455 < delta then settleBias steps (place + 36) (delta / 35)
      else place + 36 * delta / (delta + 38)

/-- The bias after a distance among `count` characters. -/
def nextBias (delta count : Nat) (first : Bool) : Nat :=
  let damped := if first then delta / 700 else delta / 2
  settleBias damped 0 (damped + damped / count)

/-- The digit from which on a distance goes on behind it. -/
def threshold (bias place : Nat) : Nat :=
  if place ≤ bias then 1 else min 26 (place - bias)

/-- A digit: letters before numerals. -/
def labelDigit (value : Nat) : Char :=
  if value < 26 then Char.ofNat (97 + value) else Char.ofNat (22 + value)

/-- A distance in digits of growing weight; `rounds` bounds their number. -/
def distanceDigits (bias : Nat) : Nat → Nat → Nat → List Char
  | 0, _, _ => []
  | rounds + 1, place, rest =>
      let least := threshold bias place
      if rest < least then [labelDigit rest]
      else
        labelDigit (least + (rest - least) % (36 - least)) ::
          distanceDigits bias rounds (place + 36) ((rest - least) / (36 - least))

/-- What writing a label carries from one character to the next. -/
structure LabelState where
  delta : Nat
  bias : Nat
  handled : Nat
  written : List Char

/-- Writes every occurrence of one code point of a label. -/
def writeCodePoint (basic code : Nat) (label : List Char) (state : LabelState) : LabelState :=
  label.foldl (fun state c =>
    if c.toNat < code then { state with delta := state.delta + 1 }
    else if c.toNat = code then
      { delta := 0
        bias := nextBias state.delta (state.handled + 1) (state.handled == basic)
        handled := state.handled + 1
        written := state.written ++ distanceDigits state.bias (state.delta + 1) 36 state.delta }
    else state) state

/-- The code points of a label outside ASCII, least first. -/
def foreignCodes (label : List Char) : List Nat :=
  ((label.map Char.toNat).filter (128 ≤ ·)).mergeSort.eraseReps

/-- A label in letters, digits and hyphens. -/
def encodeLabel (label : List Char) : List Char :=
  let basic := label.filter fun c => c.toNat < 128
  let start : LabelState := ⟨0, 72, basic.length, []⟩
  let (state, _) := (foreignCodes label).foldl (fun (state, next) code =>
    let state := { state with delta := state.delta + (code - next) * (state.handled + 1) }
    let state := writeCodePoint basic.length code label state
    ({ state with delta := state.delta + 1 }, code + 1)) (start, 128)
  basic ++ (if basic.isEmpty then [] else ['-']) ++ state.written

/-- The value of a digit. -/
def labelDigit? (c : Char) : Option Nat :=
  if c.isLower then some (c.toNat - 97)
  else if c.isUpper then some (c.toNat - 65)
  else if c.isDigit then some (c.toNat - 22)
  else none

/-- A distance at the start of a text, and what follows it. -/
def readDistance (bias : Nat) : Nat → Nat → Nat → List Char → Option (Nat × List Char)
  | _, _, _, [] => none
  | place, weight, sum, c :: rest => do
      let digit ← labelDigit? c
      let sum := sum + digit * weight
      let least := threshold bias place
      if digit < least then some (sum, rest)
      else readDistance bias (place + 36) (weight * (36 - least)) sum rest

/-- Puts characters into a label as distances say.  `next` and `index` are the least code
point and place that can be meant; `rounds` bounds the count of distances. -/
def placeChars (bias next index : Nat) (label : List Char) :
    Nat → List Char → Option (List Char)
  | _, [] => some label
  | 0, _ => none
  | rounds + 1, text => do
      let (reached, rest) ← readDistance bias 36 1 index text
      let count := label.length + 1
      let code := next + reached / count
      if 0xd800 ≤ code ∧ code < 0xe000 ∨ 0x110000 ≤ code then none
      else
        placeChars (nextBias (reached - index) count (index == 0)) code (reached % count + 1)
          (label.insertIdx (reached % count) (Char.ofNat code)) rounds rest

/-- The label that letters, digits and hyphens stand for. -/
def decodeLabel? (text : List Char) : Option (List Char) :=
  let distances := (text.reverse.takeWhile (· != '-')).reverse
  let basic := text.take (text.length - distances.length - 1)
  if text.contains '-' ∧ basic.isEmpty then none
  else placeChars 72 128 0 basic distances.length distances

end DraftBoard.Url
