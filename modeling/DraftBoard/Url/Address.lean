import DraftBoard.Text.Hex
import DraftBoard.Text.Split
import DraftBoard.Url.Basic

/-!
# Addresses

Hosts that are numbers: IPv4 addresses with one to four parts, and IPv6 addresses with
eight pieces or a gap.
-/

namespace DraftBoard.Url

open Text

/-- A part of an IPv4 address: decimal, octal after a zero, hexadecimal after `0x`. -/
def ipv4Part? : List Char → Option Nat
  | [] => none
  | ['0'] => some 0
  | '0' :: 'x' :: digits => numeral? 16 digits
  | '0' :: 'X' :: digits => numeral? 16 digits
  | '0' :: digits => numeral? 8 digits
  | digits => numeral? 10 digits

/-- The labels of a name, an empty last one left out. -/
def labels (name : List Char) : List (List Char) :=
  let all := splitAtMark '.' name
  if all.length ≠ 1 ∧ all.getLast? = some [] then all.dropLast else all

/-- Whether the last label of a name is a number. -/
def endsInNumber (name : List Char) : Bool :=
  let all := splitAtMark '.' name
  if all = [[]] then false
  else
    match (labels name).getLast? with
    | some label =>
        !label.isEmpty && (label.all Char.isDigit || (label.take 2 == ['0', 'x'] ||
          label.take 2 == ['0', 'X']) && (ipv4Part? label).isSome)
    | none => false

/-- An IPv4 address of one to four parts; the last part fills what the others leave. -/
def ipv4? (name : List Char) : Option Host := do
  let parts ← (labels name).mapM ipv4Part?
  let last ← parts.getLast?
  let above := parts.dropLast
  if 3 < above.length ∨ above.any (255 < ·) ∨ Nat.pow 256 (4 - above.length) ≤ last then none
  else
    let high := (List.range above.length).foldl (fun value index =>
      value + above.getD index 0 * Nat.pow 256 (3 - index)) 0
    some (.ipv4 (high + last))

/-- One piece of an IPv6 address. -/
def ipv6Piece? (piece : List Char) : Option Nat :=
  if piece.isEmpty || 4 < piece.length then none else numeral? 16 piece

/-- The two pieces of a dotted ending: four plain decimal bytes. -/
def dottedPieces? (text : List Char) : Option (List Nat) := do
  let bytes ← (splitAtMark '.' text).mapM fun part =>
    if part.isEmpty || 3 < part.length || (part.length ≠ 1 && part.head? == some '0') then none
    else do
      let byte ← numeral? 10 part
      if byte < 256 then some byte else none
  match bytes with
  | [a, b, c, d] => some [a * 256 + b, c * 256 + d]
  | _ => none

/-- The pieces of one side of an IPv6 address; only the right side may end dotted. -/
def ipv6Side? (mayEndDotted : Bool) (text : List Char) : Option (List Nat) :=
  if text.isEmpty then some []
  else
    let parts := splitAtMark ':' text
    match parts.getLast? with
    | some last =>
        if mayEndDotted && last.contains '.' then do
          some ((← parts.dropLast.mapM ipv6Piece?) ++ (← dottedPieces? last))
        else parts.mapM ipv6Piece?
    | none => none

/-- A text cut at the first double colon. -/
def cutDoubleColon : List Char → Option (List Char × List Char)
  | ':' :: ':' :: rest => some ([], rest)
  | c :: rest => (cutDoubleColon rest).map fun (left, right) => (c :: left, right)
  | [] => none

/-- An IPv6 address: eight pieces, or two sides with zeros between them. -/
def ipv6? (text : List Char) : Option Host :=
  match cutDoubleColon text with
  | some (left, right) => do
      let before ← ipv6Side? false left
      let after ← ipv6Side? true right
      if 8 ≤ before.length + after.length then none
      else
        some (.ipv6 (before ++ List.replicate (8 - before.length - after.length) 0 ++ after))
  | none => do
      let pieces ← ipv6Side? true text
      if pieces.length = 8 then some (.ipv6 pieces) else none

end DraftBoard.Url
