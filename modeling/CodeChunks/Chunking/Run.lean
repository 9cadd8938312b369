import CodeChunks.Budget
import CodeChunks.Chunking.Limits
import CodeChunks.Chunking.Render

/-!
# Chunking one file

Some contents need no parser: nothing at all, blank text, text with a null character, which counts
as binary, and a single line (`Content`). Everything else is parsed, and the nodes worth a chunk are
selected. `Settings.run` chunks a file, and `Settings.runTree` one that was parsed.
-/

namespace CodeChunks

/-- A text to be chunked. -/
structure SourceFile where
  content : String
  path : Option String
  language : Language

/-- What a parser makes of a text. -/
inductive Parsed where
  | tree (t : SyntaxTree)
  | failed (e : Error)
  /-- The parser broke down. -/
  | crashed

abbrev Parser := String → Language → Parsed

/-- What became of a file. -/
inductive Outcome where
  | chunks (cs : List Chunk)
  | failed (e : Error)
  | crashed

/-- What is given to new chunks from outside: the batch they belong to, their identifiers, and the
time. -/
structure Stamp where
  batch : Uuid
  ids : Nat → Uuid
  now : Timestamp

/-- The kinds of content. -/
inductive Content where
  | nothing
  | blank (lines : Nat)
  | binary
  | singleLine
  | code
  deriving DecidableEq, Repr

def Content.ofText (cs : List Char) : Content :=
  if cs.isEmpty then .nothing
  else if Text.isBlankText cs then .blank ((cs.filter (· == '\n')).length + 1)
  else if cs.contains (Char.ofNat 0) then .binary
  else if cs.contains '\n' then .code
  else .singleLine

/-- The chunk of a content that needs no parser. -/
def edgeCaseChunk (counter : TokenCounter) (f : SourceFile) (lines : Nat) (edgeCase : String)
    (stamp : Stamp) : Chunk :=
  Chunk.of f.content (LineRange.of 1 lines) f.path f.language .text
    { id := stamp.ids 0
      createdAt := stamp.now
      name := chunkName f.language edgeCase 1
      context :=
        { ChunkContext.ofContent counter f.content.toList with edgeCase := some edgeCase } }

/-- The failure of a parser, as a failure of the file. -/
def parseFailure (l : Language) : Error → Error
  | .unsupportedLanguage name => .unsupportedLanguage name
  | .parse language message => .parse language message
  | e => .parse l.name e.message

/-- The settings that one run depends on. -/
structure Settings where
  config : Config
  classifier : Classifier
  parser : Parser
  budget : Budget
  clock : Clock := .still
  counter : TokenCounter := .estimating

namespace Settings

def view (s : Settings) (f : SourceFile) (t : SyntaxTree) : View :=
  { classifier := s.classifier, tree := t, language := f.language, path := f.path
    counter := s.counter }

def selector (s : Settings) (f : SourceFile) (t : SyntaxTree) : Selector :=
  { tree := t
    isWorthy := (s.view f t).isWorthy s.config.importanceThreshold
    limit := s.budget.limit }

/-- Chunks a parsed file. Also the kinds that were asked for. A step that breaks a limit ends the
run before one that comes too late, which would have been later. -/
def runTree (s : Settings) (f : SourceFile) (stamp : Stamp) (t : SyntaxTree) :
    Outcome × List String :=
  let plan := (s.selector f t).plan
  let (timely, late) := (Meter.ofConfig s.config).inTime s.clock 0 plan.steps
  let (taken, failure) := (Limits.ofConfig s.config).take 0 timely
  let asked := (Step.asked taken).map t.kind
  match failure.or late with
  | some e => (.failed e, asked)
  | none => (.chunks ((s.view f t).renderAll s.config.task stamp.ids stamp.now plan.drafts), asked)

/-- Chunks a file. Also the kinds that were asked for. -/
def run (s : Settings) (f : SourceFile) (stamp : Stamp) : Outcome × List String :=
  match Content.ofText f.content.toList with
  | .nothing => (.chunks [], [])
  | .blank lines => (.chunks [edgeCaseChunk s.counter f lines "whitespace_only" stamp], [])
  | .binary => (.failed (.binaryFile f.path), [])
  | .singleLine => (.chunks [edgeCaseChunk s.counter f 1 "single_line" stamp], [])
  | .code =>
    match s.parser f.content f.language with
    | .crashed => (.crashed, [])
    | .failed e => (.failed (parseFailure f.language e), [])
    | .tree t => s.runTree f stamp t

end Settings

end CodeChunks
