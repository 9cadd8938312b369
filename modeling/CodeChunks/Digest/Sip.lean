/-!
# SipHash-1-3

The 64-bit SipHash-1-3 `digest` of a string of bytes under the key nought. A word of eight bytes
takes one `round`, and the end takes three. The last word holds the bytes left over and the length.
-/

namespace CodeChunks.Digest.Sip

structure State where
  a : UInt64
  b : UInt64
  c : UInt64
  d : UInt64

def initial : State :=
  ⟨0x736F6D6570736575, 0x646F72616E646F6D, 0x6C7967656E657261, 0x7465646279746573⟩

def rotateLeft (x n : UInt64) : UInt64 := (x <<< n) ||| (x >>> (64 - n))

namespace State

def round (s : State) : State :=
  let a := s.a + s.b
  let b := rotateLeft s.b 13 ^^^ a
  let c := s.c + s.d
  let d := rotateLeft s.d 16 ^^^ c
  let a := rotateLeft a 32 + d
  let c := c + b
  ⟨a, rotateLeft b 17 ^^^ c, rotateLeft c 32, rotateLeft d 21 ^^^ a⟩

/-- Takes in one word. -/
def absorb (s : State) (word : UInt64) : State :=
  let s := { s with d := s.d ^^^ word }.round
  { s with a := s.a ^^^ word }

/-- The digest, once all words are taken in. -/
def finish (s : State) : UInt64 :=
  let s := { s with c := s.c ^^^ 0xFF }.round.round.round
  s.a ^^^ s.b ^^^ s.c ^^^ s.d

end State

/-- The word of up to eight bytes, the lowest first. -/
def word (bytes : List UInt8) : UInt64 := bytes.foldr (fun byte w => (w <<< 8) ||| byte.toUInt64) 0

/-- Takes in the bytes of a string of some length. -/
def absorbAll (length : Nat) (s : State) : List UInt8 → State
  | b₀ :: b₁ :: b₂ :: b₃ :: b₄ :: b₅ :: b₆ :: b₇ :: rest =>
    absorbAll length (s.absorb (word [b₀, b₁, b₂, b₃, b₄, b₅, b₆, b₇])) rest
  | rest => s.absorb (word rest ||| (UInt64.ofNat length <<< 56))

def digest (bytes : List UInt8) : UInt64 := (absorbAll bytes.length initial bytes).finish

/-- The digest of a text, which is closed with a byte that no text holds. -/
def ofText (s : String) : UInt64 := digest (s.toUTF8.toList ++ [0xFF])

end CodeChunks.Digest.Sip
