import CodeChunks.Chunking.Run
import CodeChunks.Language.Detect
import CodeChunks.Store.Cache
import CodeChunks.Store.Recent
import CodeChunks.Store.Stats

/-!
# Chunkers

A `Chunker` keeps what it learnt about kinds, counts what it did, and retains recent batches. Chunks
whose content was seen before are dropped; which contents were seen is kept in a store that several
chunkers may share (`SeenContents`). A file that fails leaves both stores as they were.
-/

namespace CodeChunks

/-- The batch that first emitted a content, by its digest. -/
abbrev SeenContents := Cache String Uuid

structure Chunker where
  config : Config
  classifier : Classifier
  batches : Recent Uuid (List Chunk)
  stats : Stats := {}
  /-- Counts the tokens that chunks report. -/
  counter : TokenCounter := .estimating

namespace Chunker

/-- Why there is no chunker of a configuration. -/
inductive Refusal where
  | invalid (e : Error)
  /-- There is no room for its stores. -/
  | noRoom

/-- The store of a chunker that has seen nothing, if there is room for it. -/
def newSeen? (config : Config) : Option SeenContents := Cache.ofCapacity? config.dedupCapacity

/-- A chunker, if its configuration is accepted and there is room for its stores: that of the
contents seen and that of the batches. -/
def of (config : Config) (classifier : Classifier) : Except Refusal Chunker :=
  match config.validate with
  | .error e => .error (.invalid e)
  | .ok () =>
    match newSeen? config, Recent.ofCapacity? config.batchCapacity with
    | some _, some batches =>
      .ok { config := config, classifier := classifier, batches := batches }
    | _, _ => .error .noRoom

def description : String := "Grammar-aware chunker that cuts along classified syntax nodes"

/-- The extension under which a file is counted. -/
def extensionKey (path : Option String) : String :=
  match path.bind Path.extension? with
  | some e => Text.toLower e
  | none => "none"

/-- The digest by which a chunk is recognised; chunks of contents that needed no parser have
none. -/
def contentKey? (c : Chunk) : Option String :=
  if c.metadata.context.edgeCase.isSome then none else c.contentHash?

/-- The chunks whose content is new, which is now seen. -/
def keepNew (batch : Uuid) (seen : SeenContents) : List Chunk → SeenContents × List Chunk
  | [] => (seen, [])
  | c :: rest =>
    match contentKey? c with
    | none =>
      let (seen, kept) := keepNew batch seen rest
      (seen, c :: kept)
    | some key =>
      let (seen, isNew) := seen.insertIfAbsent key batch
      let (seen, kept) := keepNew batch seen rest
      (seen, if isNew then c :: kept else kept)

def inBatch (batch : Uuid) (c : Chunk) : Chunk := { c with metadata.batch := some batch }

/-- Whether a file failed on its own account, rather than on that of a limit. -/
def isSkipped : Error → Bool
  | .binaryFile _ => true
  | .parse _ _ => true
  | .unsupportedLanguage _ => true
  | _ => false

def recordFailure (c : Chunker) (extension : String) (e : Error) : Chunker :=
  { c with
    stats := if isSkipped e then c.stats.skipped extension else c.stats.errored extension }

/-- Keeps the chunks that are new, retains them as a batch, and counts. -/
def accept (c : Chunker) (seen : SeenContents) (extension : String) (batch : Uuid)
    (drafted : List Chunk) : Chunker × SeenContents × List Chunk :=
  let (seen, kept) := keepNew batch seen drafted
  let kept := kept.map (inBatch batch)
  ({ c with
      batches := if kept.isEmpty then c.batches else c.batches.put batch kept
      stats := c.stats.processed extension kept.length (drafted.length - kept.length) },
    seen, kept)

/-- Keeps the answers for kinds that were asked for. -/
def learn (c : Chunker) (language : Language) (kinds : List String) : Chunker :=
  { c with classifier := kinds.foldl (fun k kind => k.ask kind language) c.classifier }

/-- What a call on a chunker runs with. -/
def settings (c : Chunker) (parser : Parser) (budget : Budget) (clock : Clock) : Settings :=
  { config := c.config, classifier := c.classifier, parser, budget, clock, counter := c.counter }

/-- Chunks a text in a known language. -/
def chunkAs (c : Chunker) (seen : SeenContents) (parser : Parser) (budget : Budget)
    (f : SourceFile) (stamp : Stamp) (clock : Clock := .still) :
    Chunker × SeenContents × Outcome :=
  let extension := extensionKey f.path
  let (outcome, asked) := (c.settings parser budget clock).run f stamp
  let c := c.learn f.language asked
  match outcome with
  | .chunks drafted =>
    let (c, seen, kept) := c.accept seen extension stamp.batch drafted
    (c, seen, .chunks kept)
  | .failed e => (c.recordFailure extension e, seen, .failed e)
  | .crashed => (c, seen, .crashed)

/-- Chunks a text whose language is that of its path. -/
def chunk (c : Chunker) (seen : SeenContents) (parser : Parser) (budget : Budget)
    (content : String) (path : Option String) (stamp : Stamp) (clock : Clock := .still) :
    Chunker × SeenContents × Outcome :=
  let language := match path with
    | some p => Language.detect p (some content)
    | none => .unknown
  c.chunkAs seen parser budget ⟨content, path, language⟩ stamp clock

/-- Chunks a file of some bytes, or one that does not exist. What is not UTF-8 is binary. -/
def chunkFile (c : Chunker) (seen : SeenContents) (parser : Parser) (budget : Budget)
    (path : String) (bytes : Option ByteArray) (stamp : Stamp) (clock : Clock := .still) :
    Chunker × SeenContents × Outcome :=
  match bytes with
  | none => (c, seen, .failed .fileNotFound)
  | some bytes =>
    match String.fromUTF8? bytes with
    | some content => c.chunk seen parser budget content (some path) stamp clock
    | none =>
      let e : Error := .binaryFile (some path)
      (c.recordFailure (extensionKey (some path)) e, seen, .failed e)

/-- The retained chunks of a batch, which becomes the most recent. -/
def batch (c : Chunker) (id : Uuid) : Chunker × Option (List Chunk) :=
  let (batches, found) := c.batches.get? id
  ({ c with batches := batches }, found)

end Chunker

end CodeChunks
