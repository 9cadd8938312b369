import CodeChunks.Regex.Property.Age
import CodeChunks.Regex.Property.Break
import CodeChunks.Regex.Property.Category
import CodeChunks.Regex.Property.Script
import CodeChunks.Regex.Property.Trait

/-!
# The names of character properties

A class of characters is named by a property, as in `Lu`, `Greek` or `Alphabetic`, or by a
property and its value, as in `script=Greek` or `age=6.0`. Case, blanks, underscores and hyphens
in a name do not count, and neither does a leading `is`.
-/

namespace CodeChunks.Regex

open Text

/-- The letters that count in a name. -/
def nameLetters (cs : List Char) : List Char :=
  (cs.filter fun c => c.toNat < 0x80 && c != ' ' && c != '_' && c != '-').map Char.toLower

/-- A name as the tables write it. The letter `c` alone is a name of its own, so a leading `is`
counts before it. -/
def normalName (cs : List Char) : String :=
  match cs with
  | i :: s :: rest =>
    if i.toLower == 'i' && s.toLower == 's' then
      let letters := nameLetters rest
      if letters == ['c'] then "isc" else String.ofList letters
    else String.ofList (nameLetters cs)
  | _ => String.ofList (nameLetters cs)

/-- The set that a property's name stands for: a trait, a general category or a script. -/
def propertySet? (name : List Char) : Option CodeSet :=
  let name := normalName name
  match traitSet? name, categorySet? name with
  | some s, _ => some s
  | none, some s => some s
  | none, none => (script? name).map Script.set

/-- The set of the characters whose property has the value. -/
def valueSet? (name value : List Char) : Option CodeSet :=
  let value := normalName value
  match normalName name with
  | "gc" | "generalcategory" => categorySet? value
  | "sc" | "script" => (script? value).map Script.set
  | "scx" | "scriptextensions" => (script? value).map Script.extension
  | "age" => ageSet? value
  | "gcb" | "graphemeclusterbreak" => clusterSet? value
  | "wb" | "wordbreak" => roleSet? wordRoles value
  | "sb" | "sentencebreak" => roleSet? sentenceRoles value
  | _ => none

/-! ## The classes with letters of their own -/

def digitSet : CodeSet := categoryUnion ["nd"]

def spaceSet : CodeSet := (traitSet? "whitespace").getD .empty

/-- The characters of a word: letters, marks, decimal digits, connectors and the two joiners. -/
def wordSet : CodeSet :=
  .unions [(traitSet? "alphabetic").getD .empty, (traitSet? "joincontrol").getD .empty,
    categoryUnion ["mn", "mc", "me", "nd", "pc"]]

end CodeChunks.Regex
