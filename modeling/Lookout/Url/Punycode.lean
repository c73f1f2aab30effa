/-!
# Punycode

The ASCII form of a host label with other letters: the ASCII letters first, then the positions and
numbers of the others as one sequence of digits in base 36.
-/

namespace Lookout.Url.Punycode

/-- The digit of a number below 36. -/
def digit (n : Nat) : Char := if n < 26 then Char.ofNat (97 + n) else Char.ofNat (22 + n)

/-- The value of a digit. -/
def value? (c : Char) : Option Nat :=
  if 'a' ≤ c && c ≤ 'z' then some (c.toNat - 97)
  else if 'A' ≤ c && c ≤ 'Z' then some (c.toNat - 65)
  else if '0' ≤ c && c ≤ '9' then some (c.toNat - 22)
  else none

/-- Divides a difference down until it fits the last threshold, `steps` times at most. -/
def reduce : Nat → Nat → Nat → Nat
  | 0, k, delta => k + 36 * delta / (delta + 38)
  | steps + 1, k, delta =>
    if 455 < delta then reduce steps (k + 36) (delta / 35) else k + 36 * delta / (delta + 38)

/-- The next bias after a difference. -/
def adapt (delta count : Nat) (first : Bool) : Nat :=
  let delta := if first then delta / 700 else delta / 2
  reduce 64 0 (delta + delta / count)

/-- The threshold at position `k`. -/
def threshold (k bias : Nat) : Nat :=
  if k ≤ bias then 1 else if bias + 26 ≤ k then 26 else k - bias

/-- The digits of a number of variable length. -/
def variableLength : Nat → Nat → Nat → Nat → List Char
  | 0, _, _, q => [digit q]
  | steps + 1, k, bias, q =>
    let t := threshold k bias
    if q < t then [digit q]
    else digit (t + (q - t) % (36 - t)) :: variableLength steps (k + 36) bias ((q - t) / (36 - t))

/-- The state of the encoder between two letters. -/
structure Encoder where
  delta : Nat
  bias : Nat
  handled : Nat
  output : List Char

/-- Encodes all occurrences of the letter `n` in the label. -/
def encodeLetter (basic n : Nat) (s : Encoder) (label : List Char) : Encoder :=
  label.foldl (fun s c =>
    if c.toNat < n then { s with delta := s.delta + 1 }
    else if c.toNat = n then
      { delta := 0
        bias := adapt s.delta (s.handled + 1) (s.handled == basic)
        handled := s.handled + 1
        output := s.output ++ variableLength 64 36 s.bias s.delta }
    else s) s

/-- Encodes the letters from `n` on, one distinct letter per step. -/
def encodeFrom (label : List Char) (basic : Nat) : Nat → Nat → Encoder → Encoder
  | 0, _, s => s
  | steps + 1, n, s =>
    match ((label.map Char.toNat).filter (n ≤ ·)).min? with
    | none => s
    | some m =>
      let s := encodeLetter basic m { s with delta := s.delta + (m - n) * (s.handled + 1) } label
      encodeFrom label basic steps (m + 1) { s with delta := s.delta + 1 }

/-- The encoded form of a label, without its mark. -/
def encode (label : List Char) : List Char :=
  let basic := label.filter (·.toNat < 128)
  let start : Encoder :=
    { delta := 0, bias := 72, handled := basic.length,
      output := if basic.isEmpty then [] else basic ++ ['-'] }
  (encodeFrom label basic.length label.length 128 start).output

/-- Reads a number of variable length: the number and the digits behind it. -/
def readVariableLength (bias : Nat) :
    (k weight total : Nat) → List Char → Option (Nat × List Char)
  | _, _, _, [] => none
  | k, weight, total, c :: rest =>
    match value? c with
    | none => none
    | some d =>
      let t := threshold k bias
      let total := total + d * weight
      if d < t then some (total, rest)
      else readVariableLength bias (k + 36) (weight * (36 - t)) total rest

/-- Inserts the letters that the digits stand for; each step reads one number. -/
def decodeFrom : Nat → (n i bias : Nat) → List Char → List Char → Option (List Char)
  | _, _, _, _, output, [] => some output
  | 0, _, _, _, _, _ :: _ => none
  | steps + 1, n, i, bias, output, digits =>
    match readVariableLength bias 36 1 0 digits with
    | none => none
    | some (delta, rest) =>
      let count := output.length + 1
      let total := i + delta
      let letter := n + total / count
      if 0x10ffff < letter || (0xd800 ≤ letter && letter < 0xe000) then none
      else
        let position := total % count
        decodeFrom steps letter (position + 1) (adapt delta count (i == 0 && n == 128))
          (output.take position ++ Char.ofNat letter :: output.drop position) rest

/-- The label that an encoded form stands for. -/
def decode? (encoded : List Char) : Option (List Char) :=
  let behind := (encoded.reverse.takeWhile (· != '-')).reverse
  if behind.length = encoded.length then decodeFrom encoded.length 128 0 72 [] encoded
  else
    let basic := encoded.take (encoded.length - behind.length - 1)
    if basic.all (·.toNat < 128) then decodeFrom encoded.length 128 0 72 basic behind else none

end Lookout.Url.Punycode
