import TieredLedger.Bytes

/-! SHA-256, which pads a message to whole blocks of sixteen words and compresses each into the state, and HMAC over
it, which turns a key once into the two states that start the inner and the outer digest. -/
namespace TieredLedger.Sha256

/-- The eight words carried from block to block; at the end they are the digest. -/
structure State where
  a : UInt32
  b : UInt32
  c : UInt32
  d : UInt32
  e : UInt32
  f : UInt32
  g : UInt32
  h : UInt32
deriving DecidableEq, Repr, Inhabited

structure Window where
  w0 : UInt32
  w1 : UInt32
  w2 : UInt32
  w3 : UInt32
  w4 : UInt32
  w5 : UInt32
  w6 : UInt32
  w7 : UInt32
  w8 : UInt32
  w9 : UInt32
  w10 : UInt32
  w11 : UInt32
  w12 : UInt32
  w13 : UInt32
  w14 : UInt32
  w15 : UInt32

def initial : State :=
  ⟨0x6a09e667, 0xbb67ae85, 0x3c6ef372, 0xa54ff53a, 0x510e527f, 0x9b05688c, 0x1f83d9ab, 0x5be0cd19⟩

def roundConstants : List UInt32 :=
  [0x428a2f98, 0x71374491, 0xb5c0fbcf, 0xe9b5dba5, 0x3956c25b, 0x59f111f1, 0x923f82a4, 0xab1c5ed5,
   0xd807aa98, 0x12835b01, 0x243185be, 0x550c7dc3, 0x72be5d74, 0x80deb1fe, 0x9bdc06a7, 0xc19bf174,
   0xe49b69c1, 0xefbe4786, 0x0fc19dc6, 0x240ca1cc, 0x2de92c6f, 0x4a7484aa, 0x5cb0a9dc, 0x76f988da,
   0x983e5152, 0xa831c66d, 0xb00327c8, 0xbf597fc7, 0xc6e00bf3, 0xd5a79147, 0x06ca6351, 0x14292967,
   0x27b70a85, 0x2e1b2138, 0x4d2c6dfc, 0x53380d13, 0x650a7354, 0x766a0abb, 0x81c2c92e, 0x92722c85,
   0xa2bfe8a1, 0xa81a664b, 0xc24b8b70, 0xc76c51a3, 0xd192e819, 0xd6990624, 0xf40e3585, 0x106aa070,
   0x19a4c116, 0x1e376c08, 0x2748774c, 0x34b0bcb5, 0x391c0cb3, 0x4ed8aa4a, 0x5b9cca4f, 0x682e6ff3,
   0x748f82ee, 0x78a5636f, 0x84c87814, 0x8cc70208, 0x90befffa, 0xa4506ceb, 0xbef9a3f7, 0xc67178f2]

@[inline] def rotateRight (x : UInt32) (k : UInt32) : UInt32 := x >>> k ||| x <<< (32 - k)

@[inline] def Window.next (w : Window) : UInt32 :=
  let s0 := rotateRight w.w1 7 ^^^ rotateRight w.w1 18 ^^^ w.w1 >>> 3
  let s1 := rotateRight w.w14 17 ^^^ rotateRight w.w14 19 ^^^ w.w14 >>> 10
  w.w0 + s0 + w.w9 + s1

@[inline] def Window.slide (w : Window) : Window :=
  ⟨w.w1, w.w2, w.w3, w.w4, w.w5, w.w6, w.w7, w.w8, w.w9, w.w10, w.w11, w.w12, w.w13, w.w14, w.w15, w.next⟩

@[inline] def State.round (s : State) (k word : UInt32) : State :=
  let s1 := rotateRight s.e 6 ^^^ rotateRight s.e 11 ^^^ rotateRight s.e 25
  let choice := (s.e &&& s.f) ^^^ (~~~s.e &&& s.g)
  let t1 := s.h + s1 + choice + k + word
  let s0 := rotateRight s.a 2 ^^^ rotateRight s.a 13 ^^^ rotateRight s.a 22
  let majority := (s.a &&& s.b) ^^^ (s.a &&& s.c) ^^^ (s.b &&& s.c)
  ⟨t1 + s0 + majority, s.a, s.b, s.c, s.d + t1, s.e, s.f, s.g⟩

def rounds : List UInt32 → State → Window → State
  | [], s, _ => s
  | k :: ks, s, w => rounds ks (s.round k w.w0) w.slide

def State.add (s t : State) : State :=
  ⟨s.a + t.a, s.b + t.b, s.c + t.c, s.d + t.d, s.e + t.e, s.f + t.f, s.g + t.g, s.h + t.h⟩

def State.xor (s t : State) : State :=
  ⟨s.a ^^^ t.a, s.b ^^^ t.b, s.c ^^^ t.c, s.d ^^^ t.d, s.e ^^^ t.e, s.f ^^^ t.f, s.g ^^^ t.g, s.h ^^^ t.h⟩

def compress (s : State) (block : Window) : State := s.add (rounds roundConstants s block)

def words : Bytes → List UInt32
  | a :: b :: c :: d :: rest => Bytes.word32BE a b c d :: words rest
  | _ => []

def absorb (s : State) : List UInt32 → State
  | w0 :: w1 :: w2 :: w3 :: w4 :: w5 :: w6 :: w7 :: w8 :: w9 :: w10 :: w11 :: w12 :: w13 :: w14 :: w15 :: rest =>
    absorb (compress s ⟨w0, w1, w2, w3, w4, w5, w6, w7, w8, w9, w10, w11, w12, w13, w14, w15⟩) rest
  | _ => s

/-- What completes `n` bytes to whole blocks: a set bit, zeros, and the number of bits in eight bytes. -/
def padding (n : Nat) : Bytes :=
  0x80 :: List.replicate ((119 - n % 64) % 64) 0 ++ Bytes.be64 (UInt64.ofNat (8 * n))

/-- Takes in the end of a message after `before` bytes, a multiple of 64, have gone into the state. -/
def finish (s : State) (before : Nat) (message : Bytes) : State :=
  absorb s (words (message ++ padding (before + message.length)))

def State.toBytes (s : State) : Bytes :=
  Bytes.be32 s.a ++ Bytes.be32 s.b ++ Bytes.be32 s.c ++ Bytes.be32 s.d ++
    Bytes.be32 s.e ++ Bytes.be32 s.f ++ Bytes.be32 s.g ++ Bytes.be32 s.h

def digestSize : Nat := 32

def digest (message : Bytes) : Bytes := (finish initial 0 message).toBytes

def hexDigest (message : Bytes) : String := Bytes.hex (digest message)

@[simp] theorem State.length_toBytes (s : State) : s.toBytes.length = digestSize := rfl

@[simp] theorem length_digest (message : Bytes) : (digest message).length = digestSize := rfl

theorem length_hexDigest (message : Bytes) : (hexDigest message).toList.length = 64 := by
  rw [hexDigest, Bytes.hex, String.toList_ofList, Bytes.length_flatMap_hexPair, length_digest]
  rfl

end TieredLedger.Sha256

namespace TieredLedger.Hmac

/-- A key ready for use: the states after the inner and the outer pad. -/
structure Key where
  inner : Sha256.State
  outer : Sha256.State

def Key.ofBytes (key : Bytes) : Key :=
  let short := if key.length > 64 then Sha256.digest key else key
  let block := short ++ List.replicate (64 - short.length) 0
  ⟨Sha256.absorb Sha256.initial (Sha256.words (block.map (· ^^^ 0x36))),
   Sha256.absorb Sha256.initial (Sha256.words (block.map (· ^^^ 0x5c)))⟩

def Key.mac (key : Key) (message : Bytes) : Sha256.State :=
  Sha256.finish key.outer 64 (Sha256.finish key.inner 64 message).toBytes

def lastBlock (s : Sha256.State) : Sha256.Window :=
  ⟨s.a, s.b, s.c, s.d, s.e, s.f, s.g, s.h, 0x80000000, 0, 0, 0, 0, 0, 0, 768⟩

def Key.macDigest (key : Key) (message : Sha256.State) : Sha256.State :=
  Sha256.compress key.outer (lastBlock (Sha256.compress key.inner (lastBlock message)))

def code (key message : Bytes) : Bytes := ((Key.ofBytes key).mac message).toBytes

end TieredLedger.Hmac
