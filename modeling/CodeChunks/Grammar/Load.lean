import CodeChunks.Error
import CodeChunks.Grammar.Document

/-!
# From entries to a grammar

Loading takes two passes. The first has the categories `Collected` and, for every member, the
categories that name it. In the second the kinds are `Built`, one for each name: a later entry
replaces an earlier one, except that a literal token never replaces a named rule. The categories
collected for a name go to the first kind built for it.
-/

namespace CodeChunks.Grammar

/-- Kinds that may stand anywhere though their entry does not say so. -/
def isKnownExtra (name : String) (language : Language) : Bool :=
  Text.contains "comment" name ||
    (language == .python && name == "line_continuation") ||
    (language == .php && name == "text_interpolation")

namespace Entry

def isCategory (e : Entry) : Bool := e.subtypes.isSome

def hasStructure (e : Entry) : Bool := !e.fields.isEmpty || e.children.isSome

def shape (e : Entry) : Shape :=
  if e.hasStructure then
    .composite (e.fields.map fun (role, spec) => spec.connection (some role))
      (e.children.toList.map fun spec => spec.connection none)
  else .token (.infer e.name e.named)

/-- The kind that an entry describes. -/
def kind (e : Entry) (language : Language) (categories : Names) : Kind :=
  { name := e.name
    language := language
    categories := categories
    shape := e.shape
    anywhere := e.extra || isKnownExtra e.name language
    explicit := e.named }

end Entry

/-- For every member, the categories that name it. -/
abbrev Membership := Table String Names

def Membership.add (m : Membership) (category member : String) : Membership :=
  m.insert member (((m.get? member).getD []).insert category)

/-- What the first pass has collected. -/
structure Collected where
  categories : Table String Category := []
  membership : Membership := []

def Collected.add (language : Language) (c : Collected) (e : Entry) : Collected :=
  match e.subtypes with
  | none => c
  | some subtypes =>
    let members := Names.ofList subtypes
    { categories := c.categories.insert e.name ⟨e.name, language, members⟩
      membership := members.foldl (fun m member => m.add e.name member) c.membership }

/-- What the second pass has built. -/
structure Built where
  kinds : Table String Kind := []
  membership : Membership

def Built.add (language : Language) (b : Built) (e : Entry) : Built :=
  if e.isCategory then b
  else if !e.named && ((b.kinds.get? e.name).map Kind.explicit).getD false then b
  else
    let categories := (b.membership.get? e.name).getD []
    { kinds := b.kinds.insert e.name (e.kind language categories)
      membership := b.membership.erase e.name }

/-- The grammar of a list of entries. -/
def ofEntries (language : Language) (entries : List Entry) : Grammar :=
  let collected := entries.foldl (Collected.add language) {}
  let built := entries.foldl (Built.add language) { membership := collected.membership }
  { language := language, kinds := built.kinds, categories := collected.categories }

/-- The grammar of a document, refused if it does not have the form of one. -/
def ofText (language : Language) (text : String) : Except Error Grammar :=
  match entriesOfText? text with
  | some entries => .ok (ofEntries language entries)
  | none => .error (.grammar "malformed grammar document")

def ofJson (language : Language) (document : Json) : Except Error Grammar :=
  match entriesOfJson? document with
  | some entries => .ok (ofEntries language entries)
  | none => .error (.grammar "malformed grammar document")

end CodeChunks.Grammar
