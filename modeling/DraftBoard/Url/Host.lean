import DraftBoard.Text.Percent
import DraftBoard.Url.Address
import DraftBoard.Url.Name

/-!
# Reading hosts

A host in brackets is an IPv6 address.  On the web, one whose last label is a number is an
IPv4 address, and any other one a name, which is brought into ASCII letters.  Elsewhere a
host is kept as it is written.
-/

namespace DraftBoard.Url

open Text

/-- The text between the brackets of an IPv6 address. -/
def bracketed? (rest : List Char) : Option (List Char) :=
  if rest.getLast? = some ']' then some rest.dropLast else none

/-- A text with its percent triples undone. -/
def decodedText? (text : List Char) : Option (List Char) :=
  if text.contains '%' then
    (String.fromUTF8? ⟨(percentDecode text).toArray⟩).map String.toList
  else some text

/-- The host that a text names on the web; `none` when it names none. -/
def host? (text : List Char) : Option Host :=
  match text with
  | [] => none
  | '[' :: rest => do ipv6? (← bracketed? rest)
  | _ => do
      let name ← asciiName? (← decodedText? text)
      if name.isEmpty then none
      else if endsInNumber name then ipv4? name
      else some (.name name)

/-- Visible ASCII characters and the blank. -/
def keptPlain (c : Char) : Bool := 0x20 ≤ c.toNat && c.toNat < 0x7f

/-- Whether a character cannot be in a host outside the web. -/
def forbiddenInPlainHost (c : Char) : Bool :=
  "\x00\t\n\r #/:<>?@[\\]^|".toList.contains c

/-- The host that a text names outside the web: nothing may name one. -/
def plainHost? (text : List Char) : Option Host :=
  match text with
  | '[' :: rest => do ipv6? (← bracketed? rest)
  | _ =>
      if text.any forbiddenInPlainHost then none
      else some (.name (percentEncode keptPlain text))

end DraftBoard.Url
