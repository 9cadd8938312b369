/-!
# BLAKE3

The 256-bit BLAKE3 digest. The input is cut into chunks of 1024 bytes and these into blocks of 64.
A chunk's blocks are compressed one after the other; neighbouring chunks are then joined in pairs,
level by level, an odd one out being carried up, until one node is left. The last compression of
that node is marked as the root.
-/

namespace CodeChunks.Digest

/-- Eight or sixteen 32-bit words. -/
abbrev Words := Array UInt32

/-- The initial chaining value. -/
def initial : Words :=
  #[0x6A09E667, 0xBB67AE85, 0x3C6EF372, 0xA54FF53A, 0x510E527F, 0x9B05688C, 0x1F83D9AB, 0x5BE0CD19]

/-- The order in which a round takes the words of the round before. -/
def permutation : List Nat := [2, 6, 3, 10, 7, 0, 4, 13, 1, 11, 12, 5, 9, 14, 15, 8]

def chunkStart : UInt32 := 1

def chunkEnd : UInt32 := 2

def parentNode : UInt32 := 4

def rootNode : UInt32 := 8

def rotateRight (x : UInt32) (n : UInt32) : UInt32 := (x >>> n) ||| (x <<< (32 - n))

def word (ws : Words) (i : Nat) : UInt32 := ws.getD i 0

def setWord (ws : Words) (i : Nat) (x : UInt32) : Words := ws.setIfInBounds i x

/-- Mixes two message words into one column or diagonal of the state. -/
def mix (v : Words) (a b c d : Nat) (x y : UInt32) : Words :=
  let v := setWord v a (word v a + word v b + x)
  let v := setWord v d (rotateRight (word v d ^^^ word v a) 16)
  let v := setWord v c (word v c + word v d)
  let v := setWord v b (rotateRight (word v b ^^^ word v c) 12)
  let v := setWord v a (word v a + word v b + y)
  let v := setWord v d (rotateRight (word v d ^^^ word v a) 8)
  let v := setWord v c (word v c + word v d)
  setWord v b (rotateRight (word v b ^^^ word v c) 7)

/-- One round: the four columns, then the four diagonals. -/
def round (v m : Words) : Words :=
  let v := mix v 0 4 8 12 (word m 0) (word m 1)
  let v := mix v 1 5 9 13 (word m 2) (word m 3)
  let v := mix v 2 6 10 14 (word m 4) (word m 5)
  let v := mix v 3 7 11 15 (word m 6) (word m 7)
  let v := mix v 0 5 10 15 (word m 8) (word m 9)
  let v := mix v 1 6 11 12 (word m 10) (word m 11)
  let v := mix v 2 7 8 13 (word m 12) (word m 13)
  mix v 3 4 9 14 (word m 14) (word m 15)

def permute (m : Words) : Words := (permutation.map (word m)).toArray

/-- `n` rounds, the message words being permuted after each. -/
def rounds : Nat → Words → Words → Words
  | 0, v, _ => v
  | n + 1, v, m => rounds n (round v m) (permute m)

/-- What is left to compress at a node: it yields a chaining value, or the digest at the root. -/
structure Node where
  chain : Words
  block : Words
  counter : Nat
  length : Nat
  flags : UInt32

/-- The chaining value of a node under additional flags. -/
def Node.compress (n : Node) (flags : UInt32) : Words :=
  let low := UInt32.ofNat (n.counter % 0x100000000)
  let high := UInt32.ofNat (n.counter / 0x100000000 % 0x100000000)
  let v := n.chain ++
    #[word initial 0, word initial 1, word initial 2, word initial 3, low, high,
      UInt32.ofNat n.length, n.flags ||| flags]
  let v := rounds 7 v n.block
  ((List.range 8).map fun i => word v i ^^^ word v (i + 8)).toArray

/-- The word of four bytes, the least significant first. -/
def wordOf (a b c d : UInt8) : UInt32 :=
  a.toUInt32 ||| (b.toUInt32 <<< 8) ||| (c.toUInt32 <<< 16) ||| (d.toUInt32 <<< 24)

/-- The words of a row of bytes, the last one filled up with zeros. -/
def wordsOf : List UInt8 → List UInt32
  | [] => []
  | [a] => [wordOf a 0 0 0]
  | [a, b] => [wordOf a b 0 0]
  | [a, b, c] => [wordOf a b c 0]
  | a :: b :: c :: d :: rest => wordOf a b c d :: wordsOf rest

/-- The sixteen words of a block of at most 64 bytes. -/
def blockOf (bytes : List UInt8) : Words :=
  let ws := wordsOf bytes
  (ws ++ List.replicate (16 - ws.length) 0).toArray

/-- Pieces of `size` bytes, the last one shorter; an empty row has one empty piece. -/
def pieces (size : Nat) : Nat → List UInt8 → List (List UInt8)
  | 0, bytes => [bytes]
  | fuel + 1, bytes =>
    if bytes.length ≤ size then [bytes]
    else bytes.take size :: pieces size fuel (bytes.drop size)

/-- The blocks of a chunk from a chaining value on; the last block is left to the node. -/
def chunkNode (counter : Nat) (chain : Words) (flags : UInt32) : List (List UInt8) → Node
  | [] => ⟨chain, blockOf [], counter, 0, flags ||| chunkEnd⟩
  | [last] => ⟨chain, blockOf last, counter, last.length, flags ||| chunkEnd⟩
  | block :: rest =>
    let n : Node := ⟨chain, blockOf block, counter, block.length, flags⟩
    chunkNode counter (n.compress 0) 0 rest

def parentOf (left right : Node) : Node :=
  ⟨initial, left.compress 0 ++ right.compress 0, 0, 64, parentNode⟩

/-- Neighbours joined in pairs. -/
def joinPairs : List Node → List Node
  | a :: b :: rest => parentOf a b :: joinPairs rest
  | rest => rest

/-- The one node left after joining; each pass at least halves the row, so its length is enough
fuel. -/
def joinAll : Nat → List Node → Option Node
  | 0, nodes => nodes.head?
  | fuel + 1, nodes => joinAll fuel (joinPairs nodes)

def hexDigit (n : UInt32) : Char := Nat.digitChar n.toNat

/-- The bytes of a word in hexadecimal, the least significant byte first. -/
def hexWord (w : UInt32) : List Char :=
  ([0, 8, 16, 24] : List UInt32).flatMap fun shift =>
    let byte := (w >>> shift) &&& 0xFF
    [hexDigit (byte >>> 4), hexDigit (byte &&& 0xF)]

/-- The digest in hexadecimal. -/
def blake3 (bytes : List UInt8) : String :=
  let chunks := pieces 1024 bytes.length bytes
  let nodes := chunks.mapIdx fun i chunk =>
    chunkNode i initial chunkStart (pieces 64 chunk.length chunk)
  match joinAll nodes.length nodes with
  | some root => String.ofList ((root.compress rootNode).toList.flatMap hexWord)
  | none => ""

end CodeChunks.Digest
