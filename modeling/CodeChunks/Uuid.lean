import CodeChunks.Json.Reader

/-!
# Identifiers

An identifier is 32 hexadecimal digits. It is written in groups of 8, 4, 4, 4 and 12 with hyphens
between them; it is read in that form, also in braces or after `urn:uuid:` in any case, or without
hyphens.
-/

namespace CodeChunks

structure Uuid where
  digits : Vector (Fin 16) 32
  deriving DecidableEq, Repr

namespace Uuid

/-- The identifier whose digits are those of a number. -/
def ofNat (n : Nat) : Uuid := ⟨Vector.ofFn fun i => Fin.ofNat 16 (n / Nat.pow 16 (31 - i.val))⟩

def hexDigit (d : Fin 16) : Char := "0123456789abcdef".toList.getD d.val '0'

def text (u : Uuid) : String :=
  let ds := u.digits.toList.map hexDigit
  let group (start length : Nat) : List Char := (ds.drop start).take length
  String.ofList (group 0 8 ++ '-' :: group 8 4 ++ '-' :: group 12 4 ++ '-' :: group 16 4 ++
    '-' :: group 20 12)

/-- An identifier from its bare digits. -/
def ofDigits? (cs : List Char) : Option Uuid := do
  let ds ← cs.mapM Json.hexValue?
  let ds := ds.map (Fin.ofNat 16)
  if h : ds.toArray.size = 32 then some ⟨⟨ds.toArray, h⟩⟩ else none

/-- An identifier from its digits in hyphenated groups. -/
def ofGroups? (cs : List Char) : Option Uuid :=
  let hyphens := [8, 13, 18, 23]
  if cs.length == 36 && hyphens.all fun i => cs[i]? == some '-' then
    ofDigits? (cs.filter (· != '-'))
  else none

def ofText? (s : String) : Option Uuid :=
  let cs := s.toList
  if cs.length == 32 then ofDigits? cs
  else if cs.length == 36 then ofGroups? cs
  else if cs.length == 38 && cs.head? == some '\x7b' && cs.getLast? == some '\x7d' then
    ofGroups? ((cs.drop 1).take 36)
  else if (cs.take 9).map Char.toLower == "urn:uuid:".toList then ofGroups? (cs.drop 9)
  else none

def toJson (u : Uuid) : Json := .str u.text

def ofJson? (j : Json) : Option Uuid := j.asString?.bind ofText?

end Uuid

end CodeChunks
