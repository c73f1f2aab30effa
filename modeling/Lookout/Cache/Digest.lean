/-!
# Digests

The digest of 256 bits under which a text is filed, in hexadecimal: a text of any length becomes a name
of 64 characters.

* **`digitsOf_length`** — a digest is written with two digits a byte.
-/

namespace Lookout.Cache.Digest

/-- The constants of the 64 rounds. -/
def roundConstants : List UInt32 := [
  0x428a2f98, 0x71374491, 0xb5c0fbcf, 0xe9b5dba5, 0x3956c25b, 0x59f111f1, 0x923f82a4, 0xab1c5ed5,
  0xd807aa98, 0x12835b01, 0x243185be, 0x550c7dc3, 0x72be5d74, 0x80deb1fe, 0x9bdc06a7, 0xc19bf174,
  0xe49b69c1, 0xefbe4786, 0x0fc19dc6, 0x240ca1cc, 0x2de92c6f, 0x4a7484aa, 0x5cb0a9dc, 0x76f988da,
  0x983e5152, 0xa831c66d, 0xb00327c8, 0xbf597fc7, 0xc6e00bf3, 0xd5a79147, 0x06ca6351, 0x14292967,
  0x27b70a85, 0x2e1b2138, 0x4d2c6dfc, 0x53380d13, 0x650a7354, 0x766a0abb, 0x81c2c92e, 0x92722c85,
  0xa2bfe8a1, 0xa81a664b, 0xc24b8b70, 0xc76c51a3, 0xd192e819, 0xd6990624, 0xf40e3585, 0x106aa070,
  0x19a4c116, 0x1e376c08, 0x2748774c, 0x34b0bcb5, 0x391c0cb3, 0x4ed8aa4a, 0x5b9cca4f, 0x682e6ff3,
  0x748f82ee, 0x78a5636f, 0x84c87814, 0x8cc70208, 0x90befffa, 0xa4506ceb, 0xbef9a3f7, 0xc67178f2]

/-- The eight words of a digest. -/
structure Words where
  a : UInt32
  b : UInt32
  c : UInt32
  d : UInt32
  e : UInt32
  f : UInt32
  g : UInt32
  h : UInt32
deriving DecidableEq

/-- The digest before any text. -/
def Words.start : Words :=
  ⟨0x6a09e667, 0xbb67ae85, 0x3c6ef372, 0xa54ff53a, 0x510e527f, 0x9b05688c, 0x1f83d9ab, 0x5be0cd19⟩

/-- The word turned right by `n` bits. -/
def turn (x n : UInt32) : UInt32 := (x >>> n) ||| (x <<< (32 - n))

/-- One round with a word of the schedule and its constant. -/
def Words.round (s : Words) (w k : UInt32) : Words :=
  let choice := (s.e &&& s.f) ^^^ (~~~s.e &&& s.g)
  let majority := (s.a &&& s.b) ^^^ (s.a &&& s.c) ^^^ (s.b &&& s.c)
  let t := s.h + (turn s.e 6 ^^^ turn s.e 11 ^^^ turn s.e 25) + choice + k + w
  let u := (turn s.a 2 ^^^ turn s.a 13 ^^^ turn s.a 22) + majority
  ⟨t + u, s.a, s.b, s.c, s.d + t, s.e, s.f, s.g⟩

/-- The sum of two digests, word by word. -/
def Words.add (s t : Words) : Words :=
  ⟨s.a + t.a, s.b + t.b, s.c + t.c, s.d + t.d, s.e + t.e, s.f + t.f, s.g + t.g, s.h + t.h⟩

/-- The last sixteen words of the schedule moved on by `n` words, those passed in front. -/
def schedule : Nat → List UInt32 → List UInt32
  | 0, window => window
  | n + 1, window =>
    match window with
    | w0 :: rest =>
      let at' (i : Nat) : UInt32 := rest.getD i 0
      let s0 := turn (at' 0) 7 ^^^ turn (at' 0) 18 ^^^ (at' 0 >>> 3)
      let s1 := turn (at' 13) 17 ^^^ turn (at' 13) 19 ^^^ (at' 13 >>> 10)
      w0 :: schedule n (rest ++ [w0 + s0 + at' 8 + s1])
    | [] => []

/-- The digest after one block of sixteen words. -/
def Words.block (s : Words) (words : List UInt32) : Words :=
  let rounds := (schedule 48 words).zip roundConstants
  s.add (rounds.foldl (fun t (w, k) => t.round w k) s)

/-- The bytes as words of four bytes, the first byte the highest. -/
def wordsOfBytes : List UInt8 → List UInt32
  | a :: b :: c :: d :: rest =>
    ((a.toUInt32 <<< 24) ||| (b.toUInt32 <<< 16) ||| (c.toUInt32 <<< 8) ||| d.toUInt32) ::
      wordsOfBytes rest
  | _ => []

/-- The eight bytes of a number, the highest first. -/
def lengthBytes (n : Nat) : List UInt8 :=
  (List.range 8).map fun i => UInt8.ofNat (n / Nat.pow 256 (7 - i) % 256)

/-- The bytes filled up to whole blocks: a one bit, zeros and the number of bits. -/
def pad (bytes : List UInt8) : List UInt8 :=
  bytes ++ 0x80 :: List.replicate ((119 - bytes.length % 64) % 64) 0 ++ lengthBytes (8 * bytes.length)

/-- The digest after `n` blocks. -/
def Words.blocks (s : Words) : Nat → List UInt32 → Words
  | 0, _ => s
  | n + 1, words => (s.block (words.take 16)).blocks n (words.drop 16)

/-- The digest of bytes. -/
def Words.ofBytes (bytes : List UInt8) : Words :=
  let words := wordsOfBytes (pad bytes)
  Words.start.blocks (words.length / 16) words

/-- The four bytes of a word, the highest first. -/
def wordBytes (w : UInt32) : List UInt8 :=
  [(w >>> 24).toUInt8, (w >>> 16).toUInt8, (w >>> 8).toUInt8, w.toUInt8]

/-- The two hexadecimal digits of every byte. -/
def digitsOf (bytes : List UInt8) : List Char :=
  bytes.flatMap fun b => [Nat.digitChar (b.toNat / 16), Nat.digitChar (b.toNat % 16)]

/-- A digest is written with two digits a byte. -/
theorem digitsOf_length (bytes : List UInt8) : (digitsOf bytes).length = 2 * bytes.length := by
  induction bytes with
  | nil => rfl
  | cons b rest ih =>
    simp only [digitsOf, List.flatMap_cons, List.length_append, List.length_cons] at ih ⊢
    simp [ih]
    omega

/-- The digest of a text in hexadecimal. -/
def ofText (s : String) : String :=
  let w := Words.ofBytes s.toUTF8.toList
  String.ofList (digitsOf ([w.a, w.b, w.c, w.d, w.e, w.f, w.g, w.h].flatMap wordBytes))

end Lookout.Cache.Digest
