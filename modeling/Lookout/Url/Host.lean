import Lookout.Text.Lowercase
import Lookout.Url.Percent
import Lookout.Url.Punycode

/-!
# Hosts

The host of an address: a domain name in its ASCII form, an IPv4 address in any of its spellings, or
an IPv6 address in brackets.
-/

namespace Lookout.Url

/-- Why a text is not an address. -/
inductive AddressError
  | emptyHost
  | invalidDomainName
  | invalidPort
  | invalidIPv4
  | invalidIPv6
  | invalidDomainCharacter
  | relativeWithoutBase
  | relativeToOpaqueBase
deriving DecidableEq, Repr

/-- The text of an address error. -/
def AddressError.message : AddressError → String
  | .emptyHost => "empty host"
  | .invalidDomainName => "invalid international domain name"
  | .invalidPort => "invalid port number"
  | .invalidIPv4 => "invalid IPv4 address"
  | .invalidIPv6 => "invalid IPv6 address"
  | .invalidDomainCharacter => "invalid domain character"
  | .relativeWithoutBase => "relative URL without a base"
  | .relativeToOpaqueBase => "relative URL with a cannot-be-a-base base"

/-- The parts of a text between the separators; one part more than there are separators. -/
def splitAt (sep : Char → Bool) : List Char → List (List Char)
  | [] => [[]]
  | c :: rest =>
    match splitAt sep rest with
    | [] => [[c]]
    | part :: parts => if sep c then [] :: part :: parts else (c :: part) :: parts

/-- The parts written one after another with a separator between them. -/
def joinWith (sep : List Char) (parts : List (List Char)) : List Char := sep.intercalate parts

/-! ## IPv4 -/

/-- A number in decimal, or in base sixteen after `0x`, or in base eight after a zero. -/
def ipv4Number? (part : List Char) : Option Nat :=
  let inBase (base : Nat) (ds : List Char) : Option Nat :=
    ds.foldl (fun n d =>
      match n, hexValue? d with
      | some n, some v => if v < base then some (n * base + v) else none
      | _, _ => none) (some 0)
  match part with
  | [] => none
  | '0' :: 'x' :: ds | '0' :: 'X' :: ds => inBase 16 ds
  | '0' :: d :: ds => inBase 8 (d :: ds)
  | ds => inBase 10 ds

/-- The labels of a domain without an empty last one. -/
def labelsWithoutRoot (domain : List Char) : List (List Char) :=
  let labels := splitAt (· == '.') domain
  if labels.getLast? == some [] && 1 < labels.length then labels.dropLast else labels

/-- The last label is a number, so that the domain must be an IPv4 address. -/
def endsInNumber (domain : List Char) : Bool :=
  match (labelsWithoutRoot domain).getLast? with
  | none => false
  | some last =>
    (!last.isEmpty && last.all (fun c => '0' ≤ c && c ≤ '9')) || (ipv4Number? last).isSome

/-- The IPv4 address that a domain ending in a number stands for. The last part fills all bytes that
are left. -/
def parseIPv4 (domain : List Char) : Except AddressError Nat :=
  let parts := labelsWithoutRoot domain
  let numbers := parts.filterMap ipv4Number?
  if 4 < parts.length || numbers.length ≠ parts.length then .error .invalidIPv4
  else
    match numbers.reverse with
    | [] => .error .invalidIPv4
    | last :: before =>
      if before.any (255 < ·) || Nat.pow 256 (5 - parts.length) ≤ last then .error .invalidIPv4
      else
        .ok (last + (before.reverse.zipIdx.map fun (n, i) => n * Nat.pow 256 (3 - i)).foldl (· + ·) 0)

/-- The four numbers of an IPv4 address. -/
def ipv4Text (address : Nat) : List Char :=
  joinWith ['.'] ([3, 2, 1, 0].map fun i => Nat.toDigits 10 (address / Nat.pow 256 i % 256))

/-! ## IPv6 -/

/-- The eight units of an address read so far, in reading order, and the place of the double colon. -/
structure IPv6Pieces where
  units : List Nat
  gap : Option Nat

/-- The IPv4 address at the end of an IPv6 address: four plain numbers. -/
def embeddedIPv4? (cs : List Char) : Option (List Nat) :=
  let parts := splitAt (· == '.') cs
  let ok (p : List Char) : Bool :=
    !p.isEmpty && p.all Char.isDigit && (p.length = 1 || p.head? != some '0') && p.length ≤ 3 &&
      p.foldl (fun n d => n * 10 + (d.toNat - 48)) 0 ≤ 255
  if parts.length = 4 && parts.all ok then
    match parts.map (fun p => p.foldl (fun n d => n * 10 + (d.toNat - 48)) 0) with
    | [a, b, c, d] => some [a * 256 + b, c * 256 + d]
    | _ => none
  else none

/-- Reads the units of an IPv6 address, `fuel` at most. -/
def readIPv6 : Nat → IPv6Pieces → List Char → Option IPv6Pieces
  | 0, _, _ => none
  | _ + 1, p, [] => some p
  | fuel + 1, p, ':' :: rest =>
    if p.gap.isSome || p.units.length = 8 then none
    else readIPv6 fuel { p with gap := some p.units.length } rest
  | fuel + 1, p, cs =>
    if p.units.length = 8 then none
    else
      let digits := (cs.takeWhile fun c => (hexValue? c).isSome).take 4
      let rest := cs.drop digits.length
      match rest with
      | '.' :: _ =>
        if digits.isEmpty || 6 < p.units.length then none
        else (embeddedIPv4? cs).map fun two => { p with units := p.units ++ two }
      | _ =>
        let unit := digits.foldl (fun n d => n * 16 + (hexValue? d).getD 0) 0
        match rest with
        | [] => if digits.isEmpty then none else some { p with units := p.units ++ [unit] }
        | [':'] => none
        | ':' :: rest =>
          if digits.isEmpty then none else readIPv6 fuel { p with units := p.units ++ [unit] } rest
        | _ => none

/-- The eight units of an IPv6 address. -/
def parseIPv6 (cs : List Char) : Except AddressError (List Nat) :=
  let start : Option (IPv6Pieces × List Char) :=
    match cs with
    | ':' :: ':' :: rest => some (⟨[], some 0⟩, rest)
    | ':' :: _ => none
    | cs => some (⟨[], none⟩, cs)
  match start.bind fun (p, rest) => readIPv6 10 p rest with
  | none => .error .invalidIPv6
  | some p =>
    match p.gap with
    | some at_ =>
      if p.units.length = 8 then .error .invalidIPv6
      else .ok (p.units.take at_ ++ List.replicate (8 - p.units.length) 0 ++ p.units.drop at_)
    | none => if p.units.length = 8 then .ok p.units else .error .invalidIPv6

/-- The number of zero units at the start. -/
def zeroRun (units : List Nat) : Nat := (units.takeWhile (· == 0)).length

/-- The start and the length of the first longest run of at least two zero units. -/
def longestZeroRun (units : List Nat) : Option (Nat × Nat) :=
  (List.range units.length).foldl (fun best i =>
    let length := zeroRun (units.drop i)
    match best with
    | some (_, n) => if n < length then some (i, length) else best
    | none => if 2 ≤ length then some (i, length) else none) none

/-- An IPv6 address in its shortest form. -/
def ipv6Text (units : List Nat) : List Char :=
  let hex (us : List Nat) := joinWith [':'] (us.map (Nat.toDigits 16))
  match longestZeroRun units with
  | none => hex units
  | some (i, n) => hex (units.take i) ++ [':', ':'] ++ hex (units.drop (i + n))

/-! ## Domain names -/

/-- Characters that no domain name may contain. -/
def isForbiddenInDomain (c : Char) : Bool :=
  c.toNat ≤ 0x20 || c.toNat = 0x7f ||
    ['%', '#', '/', ':', '<', '>', '?', '@', '[', '\\', ']', '^', '|'].contains c

/-- Characters that no host may contain. -/
def isForbiddenInHost (c : Char) : Bool :=
  ['\x00', '\t', '\n', '\x0d', ' ', '#', '/', ':', '<', '>', '?', '@', '[', '\\', ']', '^', '|'].contains c

/-- Characters that a domain name drops: soft hyphens, joiners without width and selectors. -/
def isDroppedInDomain (c : Char) : Bool :=
  let n := c.toNat
  n = 0xad || n = 0x200b || n = 0x2060 || n = 0xfeff || n = 0x34f || n = 0x2064 ||
    (0xfe00 ≤ n && n ≤ 0xfe0f) || (0x180b ≤ n && n ≤ 0x180d)

/-- The plain form of a character of a domain name: full stops and full-width forms as their ASCII
twins, letters in lower case. -/
def domainChar (c : Char) : List Char :=
  let n := c.toNat
  if n = 0x3002 || n = 0xff0e || n = 0xff61 then ['.']
  else if 0xff01 ≤ n && n ≤ 0xff5e then Text.lowercaseChar (Char.ofNat (n - 0xfee0))
  else if c = 'ß' then ['ß']
  else Text.lowercaseChar c

/-- The ASCII form of one label. -/
def labelToAscii (label : List Char) : Except AddressError (List Char) :=
  if label.all (·.toNat < 128) then
    match label with
    | 'x' :: 'n' :: '-' :: '-' :: encoded =>
      match Punycode.decode? encoded with
      | some decoded =>
        if decoded.any (128 ≤ ·.toNat) && Punycode.encode decoded == encoded then .ok label
        else .error .invalidDomainName
      | none => .error .invalidDomainName
    | label => .ok label
  else .ok (['x', 'n', '-', '-'] ++ Punycode.encode label)

/-- The ASCII forms of labels in order. -/
def labelsToAscii : List (List Char) → Except AddressError (List (List Char))
  | [] => .ok []
  | label :: rest => do
    let label ← labelToAscii label
    let rest ← labelsToAscii rest
    pure (label :: rest)

/-- The ASCII form of a domain name. -/
def domainToAscii (domain : List Char) : Except AddressError (List Char) := do
  let plain := (domain.filter (!isDroppedInDomain ·)).flatMap domainChar
  let labels ← labelsToAscii (splitAt (· == '.') plain)
  let ascii := joinWith ['.'] labels
  if ascii.any isForbiddenInDomain then .error .invalidDomainName else pure ascii

/-- Reads the host of a web address and gives its normal form. -/
def parseHost (input : List Char) : Except AddressError (List Char) :=
  match input with
  | '[' :: rest =>
    if rest.getLast? = some ']' then do
      let units ← parseIPv6 rest.dropLast
      pure ('[' :: ipv6Text units ++ [']'])
    else .error .invalidIPv6
  | input =>
    match textOfBytes? (percentDecode input) with
    | none => .error .invalidDomainName
    | some decoded => do
      let domain ← domainToAscii decoded
      if domain.isEmpty then .error .emptyHost
      else if endsInNumber domain then do
        let address ← parseIPv4 domain
        pure (ipv4Text address)
      else pure domain

/-- Reads the host of an address of another kind, which is kept as it is written. -/
def parseOpaqueHost (input : List Char) : Except AddressError (List Char) :=
  match input with
  | '[' :: rest =>
    if rest.getLast? = some ']' then do
      let units ← parseIPv6 rest.dropLast
      pure ('[' :: ipv6Text units ++ [']'])
    else .error .invalidIPv6
  | input =>
    if input.any isForbiddenInHost then .error .invalidDomainCharacter
    else .ok (percentEncode isControl input)

end Lookout.Url
