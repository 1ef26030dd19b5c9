/-
The SHA-256 digest of a byte sequence. Words are 32-bit and their
arithmetic wraps; the message is padded to whole blocks of sixty-four
bytes, and each block is folded into eight words of state.
-/

namespace CloudSession.Digest.Sha256

-- ============================================================== constants

/-- The eight words of the initial state. -/
def initial : List UInt32 :=
  [0x6a09e667, 0xbb67ae85, 0x3c6ef372, 0xa54ff53a,
   0x510e527f, 0x9b05688c, 0x1f83d9ab, 0x5be0cd19]

/-- The word added in each of the sixty-four rounds. -/
def roundWords : List UInt32 :=
  [0x428a2f98, 0x71374491, 0xb5c0fbcf, 0xe9b5dba5, 0x3956c25b, 0x59f111f1,
   0x923f82a4, 0xab1c5ed5, 0xd807aa98, 0x12835b01, 0x243185be, 0x550c7dc3,
   0x72be5d74, 0x80deb1fe, 0x9bdc06a7, 0xc19bf174, 0xe49b69c1, 0xefbe4786,
   0x0fc19dc6, 0x240ca1cc, 0x2de92c6f, 0x4a7484aa, 0x5cb0a9dc, 0x76f988da,
   0x983e5152, 0xa831c66d, 0xb00327c8, 0xbf597fc7, 0xc6e00bf3, 0xd5a79147,
   0x06ca6351, 0x14292967, 0x27b70a85, 0x2e1b2138, 0x4d2c6dfc, 0x53380d13,
   0x650a7354, 0x766a0abb, 0x81c2c92e, 0x92722c85, 0xa2bfe8a1, 0xa81a664b,
   0xc24b8b70, 0xc76c51a3, 0xd192e819, 0xd6990624, 0xf40e3585, 0x106aa070,
   0x19a4c116, 0x1e376c08, 0x2748774c, 0x34b0bcb5, 0x391c0cb3, 0x4ed8aa4a,
   0x5b9cca4f, 0x682e6ff3, 0x748f82ee, 0x78a5636f, 0x84c87814, 0x8cc70208,
   0x90befffa, 0xa4506ceb, 0xbef9a3f7, 0xc67178f2]

-- ================================================================ message

/-- The bytes of a natural, `count` of them, the highest first. -/
def bigEndian : Nat → Nat → List UInt8
  | 0, _ => []
  | count + 1, n => bigEndian count (n / 256) ++ [(n % 256).toUInt8]

/-- The message with a one bit, zeros, and its length in bits, so that the
whole fills blocks of sixty-four bytes. -/
def pad (bytes : List UInt8) : List UInt8 :=
  bytes ++ 0x80 :: List.replicate ((119 - bytes.length % 64) % 64) 0
    ++ bigEndian 8 (8 * bytes.length)

/-- The words of a byte sequence, four bytes each. -/
def words : List UInt8 → List UInt32
  | a :: b :: c :: d :: rest =>
    (a.toUInt32 <<< 24 ||| b.toUInt32 <<< 16 ||| c.toUInt32 <<< 8 ||| d.toUInt32) :: words rest
  | _ => []

/-- The blocks of sixteen words, at most `count` of them. -/
def blocks : Nat → List UInt32 → List (List UInt32)
  | 0, _ => []
  | count + 1, ws =>
    match ws with
    | [] => []
    | w :: rest => (w :: rest).take 16 :: blocks count ((w :: rest).drop 16)

-- ============================================================ compression

/-- A word turned right by `n` bits, `0 < n < 32`. -/
def rotate (n : UInt32) (w : UInt32) : UInt32 := w >>> n ||| w <<< (32 - n)

/-- The next word of the schedule, from the last sixteen, newest first. -/
def nextWord (recent : List UInt32) : UInt32 :=
  let slot (i : Nat) : UInt32 := recent.getD i 0
  let w2 := slot 1
  let w15 := slot 14
  let small0 := rotate 7 w15 ^^^ rotate 18 w15 ^^^ w15 >>> 3
  let small1 := rotate 17 w2 ^^^ rotate 19 w2 ^^^ w2 >>> 10
  slot 15 + small0 + slot 6 + small1

/-- The schedule of a block, newest word first, after `count` more words. -/
def schedule : Nat → List UInt32 → List UInt32
  | 0, ws => ws
  | count + 1, ws => schedule count (nextWord ws :: ws)

/-- The eight words of state. -/
structure State where
  a : UInt32
  b : UInt32
  c : UInt32
  d : UInt32
  e : UInt32
  f : UInt32
  g : UInt32
  h : UInt32

/-- One round with the sum of its constant and its schedule word. -/
def State.step (s : State) (word : UInt32) : State :=
  let big1 := rotate 6 s.e ^^^ rotate 11 s.e ^^^ rotate 25 s.e
  let choice := (s.e &&& s.f) ^^^ (~~~s.e &&& s.g)
  let t1 := s.h + big1 + choice + word
  let big0 := rotate 2 s.a ^^^ rotate 13 s.a ^^^ rotate 22 s.a
  let majority := (s.a &&& s.b) ^^^ (s.a &&& s.c) ^^^ (s.b &&& s.c)
  ⟨t1 + big0 + majority, s.a, s.b, s.c, s.d + t1, s.e, s.f, s.g⟩

/-- The sum of two states, word by word. -/
def State.add (s t : State) : State :=
  ⟨s.a + t.a, s.b + t.b, s.c + t.c, s.d + t.d, s.e + t.e, s.f + t.f, s.g + t.g, s.h + t.h⟩

def State.ofWords (ws : List UInt32) : State :=
  let w (i : Nat) : UInt32 := ws.getD i 0
  ⟨w 0, w 1, w 2, w 3, w 4, w 5, w 6, w 7⟩

def State.toWords (s : State) : List UInt32 := [s.a, s.b, s.c, s.d, s.e, s.f, s.g, s.h]

/-- The state after a block. -/
def State.absorb (s : State) (block : List UInt32) : State :=
  let ws := (schedule 48 block.reverse).reverse
  s.add ((List.zipWith (· + ·) roundWords ws).foldl State.step s)

-- ================================================================= digest

/-- The thirty-two bytes of the digest. -/
def digest (bytes : List UInt8) : List UInt8 :=
  let ws := words (pad bytes)
  let final := (blocks ws.length ws).foldl State.absorb (State.ofWords initial)
  final.toWords.flatMap fun w => bigEndian 4 w.toNat

end CloudSession.Digest.Sha256
