set_option autoImplicit false

namespace BusLink.Hash.Sha256

structure Words where
  a : UInt32
  b : UInt32
  c : UInt32
  d : UInt32
  e : UInt32
  f : UInt32
  g : UInt32
  h : UInt32
deriving DecidableEq, Repr

def Words.initial : Words :=
  ⟨0x6a09e667, 0xbb67ae85, 0x3c6ef372, 0xa54ff53a, 0x510e527f, 0x9b05688c, 0x1f83d9ab, 0x5be0cd19⟩

def Words.add (left right : Words) : Words :=
  ⟨left.a + right.a, left.b + right.b, left.c + right.c, left.d + right.d,
    left.e + right.e, left.f + right.f, left.g + right.g, left.h + right.h⟩

def roundConstants : List UInt32 :=
  [0x428a2f98, 0x71374491, 0xb5c0fbcf, 0xe9b5dba5, 0x3956c25b, 0x59f111f1, 0x923f82a4, 0xab1c5ed5,
    0xd807aa98, 0x12835b01, 0x243185be, 0x550c7dc3, 0x72be5d74, 0x80deb1fe, 0x9bdc06a7, 0xc19bf174,
    0xe49b69c1, 0xefbe4786, 0x0fc19dc6, 0x240ca1cc, 0x2de92c6f, 0x4a7484aa, 0x5cb0a9dc, 0x76f988da,
    0x983e5152, 0xa831c66d, 0xb00327c8, 0xbf597fc7, 0xc6e00bf3, 0xd5a79147, 0x06ca6351, 0x14292967,
    0x27b70a85, 0x2e1b2138, 0x4d2c6dfc, 0x53380d13, 0x650a7354, 0x766a0abb, 0x81c2c92e, 0x92722c85,
    0xa2bfe8a1, 0xa81a664b, 0xc24b8b70, 0xc76c51a3, 0xd192e819, 0xd6990624, 0xf40e3585, 0x106aa070,
    0x19a4c116, 0x1e376c08, 0x2748774c, 0x34b0bcb5, 0x391c0cb3, 0x4ed8aa4a, 0x5b9cca4f, 0x682e6ff3,
    0x748f82ee, 0x78a5636f, 0x84c87814, 0x8cc70208, 0x90befffa, 0xa4506ceb, 0xbef9a3f7, 0xc67178f2]

def turn (word : UInt32) (bits : UInt32) : UInt32 :=
  word >>> bits ||| word <<< (32 - bits)

/-- The next word of the schedule from the sixteen words before it. -/
def nextWord (window : List UInt32) : UInt32 :=
  let early := window.getD 1 0
  let late := window.getD 14 0
  (turn late 17 ^^^ turn late 19 ^^^ late >>> 10) + window.getD 9 0 +
    (turn early 7 ^^^ turn early 18 ^^^ early >>> 3) + window.getD 0 0

/-- One round with its constant and the schedule's word. -/
def round (words : Words) (constant scheduled : UInt32) : Words :=
  let choice := (words.e &&& words.f) ^^^ ((~~~words.e) &&& words.g)
  let majority := (words.a &&& words.b) ^^^ (words.a &&& words.c) ^^^ (words.b &&& words.c)
  let first := words.h + (turn words.e 6 ^^^ turn words.e 11 ^^^ turn words.e 25) + choice +
    constant + scheduled
  let second := (turn words.a 2 ^^^ turn words.a 13 ^^^ turn words.a 22) + majority
  ⟨first + second, words.a, words.b, words.c, words.d + first, words.e, words.f, words.g⟩

def rounds : List UInt32 → List UInt32 → Words → Words
  | [], _, words => words
  | constant :: constants, window, words =>
    rounds constants (window.tail ++ [nextWord window]) (round words constant (window.headD 0))

/-- Folds a block of sixteen words into the working words. -/
def compress (words : Words) (block : List UInt32) : Words :=
  words.add (rounds roundConstants block words)

def wordsOfBytes : List UInt8 → List UInt32
  | first :: second :: third :: fourth :: rest =>
    (first.toUInt32 <<< 24 ||| second.toUInt32 <<< 16 ||| third.toUInt32 <<< 8 |||
      fourth.toUInt32) :: wordsOfBytes rest
  | _ => []

def bytesOfWord (word : UInt32) : List UInt8 :=
  [(word >>> 24).toUInt8, (word >>> 16).toUInt8, (word >>> 8).toUInt8, word.toUInt8]

def lengthBytes (length : Nat) : List UInt8 :=
  [56, 48, 40, 32, 24, 16, 8, 0].map fun bits => UInt8.ofNat (length >>> bits)

/-- A message followed by a one bit, zero bits, and its length in bits. -/
def pad (message : List UInt8) : List UInt8 :=
  message ++ 0x80 :: List.replicate ((119 - message.length % 64) % 64) 0 ++
    lengthBytes (8 * message.length)

/-- The digest of a message, thirty-two bytes. -/
def digest (message : List UInt8) : List UInt8 :=
  let content := wordsOfBytes (pad message)
  let words := (List.range (content.length / 16)).foldl
    (fun words index => compress words ((content.drop (16 * index)).take 16)) Words.initial
  [words.a, words.b, words.c, words.d, words.e, words.f, words.g, words.h].flatMap bytesOfWord

end BusLink.Hash.Sha256
