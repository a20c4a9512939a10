import Velvt.WindowKeys

/-!
# SHA-256

The keys of a window are made with whatever hash is given.  This is the hash that the service
uses; its words are numbers below `2 ^ 32`.
-/

namespace Velvt.Sha256

open Velvt.Rules (encodeHex utf8Bytes)

def rotateRight (word places : Nat) : Nat :=
  word >>> places ||| word <<< (32 - places) % 2 ^ 32

def roundConstants : List Nat :=
  [0x428a2f98, 0x71374491, 0xb5c0fbcf, 0xe9b5dba5, 0x3956c25b, 0x59f111f1, 0x923f82a4, 0xab1c5ed5,
    0xd807aa98, 0x12835b01, 0x243185be, 0x550c7dc3, 0x72be5d74, 0x80deb1fe, 0x9bdc06a7, 0xc19bf174,
    0xe49b69c1, 0xefbe4786, 0x0fc19dc6, 0x240ca1cc, 0x2de92c6f, 0x4a7484aa, 0x5cb0a9dc, 0x76f988da,
    0x983e5152, 0xa831c66d, 0xb00327c8, 0xbf597fc7, 0xc6e00bf3, 0xd5a79147, 0x06ca6351, 0x14292967,
    0x27b70a85, 0x2e1b2138, 0x4d2c6dfc, 0x53380d13, 0x650a7354, 0x766a0abb, 0x81c2c92e, 0x92722c85,
    0xa2bfe8a1, 0xa81a664b, 0xc24b8b70, 0xc76c51a3, 0xd192e819, 0xd6990624, 0xf40e3585, 0x106aa070,
    0x19a4c116, 0x1e376c08, 0x2748774c, 0x34b0bcb5, 0x391c0cb3, 0x4ed8aa4a, 0x5b9cca4f, 0x682e6ff3,
    0x748f82ee, 0x78a5636f, 0x84c87814, 0x8cc70208, 0x90befffa, 0xa4506ceb, 0xbef9a3f7, 0xc67178f2]

/-- The eight words of the working state. -/
structure State where
  a : Nat
  b : Nat
  c : Nat
  d : Nat
  e : Nat
  f : Nat
  g : Nat
  h : Nat

def State.initial : State :=
  ⟨0x6a09e667, 0xbb67ae85, 0x3c6ef372, 0xa54ff53a, 0x510e527f, 0x9b05688c, 0x1f83d9ab, 0x5be0cd19⟩

def State.add (first second : State) : State :=
  let sum (word other : Nat) := (word + other) % 2 ^ 32
  ⟨sum first.a second.a, sum first.b second.b, sum first.c second.c, sum first.d second.d,
    sum first.e second.e, sum first.f second.f, sum first.g second.g, sum first.h second.h⟩

def State.words : State → List Nat
  | ⟨a, b, c, d, e, f, g, h⟩ => [a, b, c, d, e, f, g, h]

/-- One more word of the message schedule, of which the newest word comes first. -/
def extend (schedule : List Nat) : List Nat :=
  let sigma0 (word : Nat) := rotateRight word 7 ^^^ rotateRight word 18 ^^^ word >>> 3
  let sigma1 (word : Nat) := rotateRight word 17 ^^^ rotateRight word 19 ^^^ word >>> 10
  let word := sigma1 (schedule.getD 1 0) + schedule.getD 6 0 + sigma0 (schedule.getD 14 0) +
    schedule.getD 15 0
  word % 2 ^ 32 :: schedule

def State.round : State → Nat × Nat → State
  | ⟨a, b, c, d, e, f, g, h⟩, (constant, word) =>
    let sum1 := rotateRight e 6 ^^^ rotateRight e 11 ^^^ rotateRight e 25
    let choice := e &&& f ^^^ (2 ^ 32 - 1 - e) &&& g
    let temp1 := h + sum1 + choice + constant + word
    let sum0 := rotateRight a 2 ^^^ rotateRight a 13 ^^^ rotateRight a 22
    let majority := a &&& b ^^^ a &&& c ^^^ b &&& c
    ⟨(temp1 + sum0 + majority) % 2 ^ 32, a, b, c, (d + temp1) % 2 ^ 32, e, f, g⟩

def wordOf (bytes : List UInt8) : Nat :=
  bytes.foldl (fun word byte => 256 * word + byte.toNat) 0

def pieces (count size : Nat) (bytes : List UInt8) : List (List UInt8) :=
  (List.range count).map fun place => (bytes.drop (size * place)).take size

def compress (state : State) (block : List UInt8) : State :=
  let schedule := extend^[48] ((pieces 16 4 block).map wordOf).reverse
  state.add ((roundConstants.zip schedule.reverse).foldl State.round state)

/-- The message, a one bit, zeros up to a whole block, and the length of the message in bits. -/
def padded (message : List UInt8) : List UInt8 :=
  message ++ 0x80 :: List.replicate ((119 - message.length % 64) % 64) 0 ++
    Rules.toBeBytes (8 * message.length)

def bytesOf (word : Nat) : List UInt8 :=
  [24, 16, 8, 0].map fun places => UInt8.ofNat (word >>> places)

def sha256 (message : List UInt8) : List UInt8 :=
  let text := padded message
  ((pieces (text.length / 64) 64 text).foldl compress State.initial).words.flatMap bytesOf

theorem sha256_length (message : List UInt8) : (sha256 message).length = 32 := by
  simp only [sha256]
  cases (pieces ((padded message).length / 64) 64 (padded message)).foldl compress State.initial
  rfl

example : encodeHex (sha256 (utf8Bytes "abc")) =
    "ba7816bf8f01cfea414140de5dae2223b00361a396177a9cb410ff61f20015ad" := by
  decide +kernel

end Velvt.Sha256
