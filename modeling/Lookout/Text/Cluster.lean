import Lookout.Text.ClusterTable

/-!
# Clusters

The user-perceived characters of a text: a base with the marks, joiners and partners that belong to
it. A text is cut before every character that does not continue the cluster in front of it.

* **`clusters_flatten`** — the clusters of a text, in order, are the text.
-/

namespace Lookout.Text

/-- The part that a character plays at a cluster boundary. -/
inductive ClusterClass
  | carriageReturn | lineFeed | control | extend | joiner | spacingMark | prepend
  | regional | leading | vowel | trailing | openSyllable | closedSyllable | other
deriving DecidableEq

/-- The part that the character plays. -/
def clusterClass (c : Char) : ClusterClass :=
  let n := c.toNat
  if n = 0xd then .carriageReturn
  else if n = 0xa then .lineFeed
  else if 0x20 ≤ n && n < 0x7f then .other
  else if controlRanges.has n then .control
  else if n < 0x300 then .other
  else if n = 0x200d then .joiner
  else if extendRanges.has n then .extend
  else if spacingMarkRanges.has n then .spacingMark
  else if 0x1f1e6 ≤ n && n ≤ 0x1f1ff then .regional
  else if (0x1100 ≤ n && n ≤ 0x115f) || (0xa960 ≤ n && n ≤ 0xa97c) then .leading
  else if (0x1160 ≤ n && n ≤ 0x11a7) || (0xd7b0 ≤ n && n ≤ 0xd7c6) then .vowel
  else if (0x11a8 ≤ n && n ≤ 0x11ff) || (0xd7cb ≤ n && n ≤ 0xd7fb) then .trailing
  else if 0xac00 ≤ n && n ≤ 0xd7a3 then
    if (n - 0xac00) % 28 = 0 then .openSyllable else .closedSyllable
  else if prependRanges.has n then .prepend
  else .other

/-- The character is a pictograph. -/
def isPictograph (c : Char) : Bool := pictographRanges.has c.toNat

/-- Read backwards, the text is a pictograph followed by marks. -/
def endsWithPictograph (reversed : List Char) : Bool :=
  match reversed.dropWhile (fun c => clusterClass c == .extend) with
  | c :: _ => isPictograph c
  | [] => false

/-- Read backwards, the text is a consonant followed by marks of which one links a conjunct. -/
def endsWithLinkedConsonant (reversed : List Char) : Bool :=
  let mark (c : Char) := clusterClass c == .extend || clusterClass c == .joiner
  let marks := reversed.takeWhile mark
  marks.any (fun c => conjunctLinkerRanges.has c.toNat) &&
    match reversed.dropWhile mark with
    | c :: _ => conjunctConsonantRanges.has c.toNat
    | [] => false

/-- The character `c` continues the cluster `reversed`, given backwards. -/
def continuesCluster (reversed : List Char) (c : Char) : Bool :=
  match reversed with
  | [] => false
  | last :: before =>
    match clusterClass last, clusterClass c with
    | .carriageReturn, .lineFeed => true
    | .carriageReturn, _ | .lineFeed, _ | .control, _ => false
    | _, .carriageReturn | _, .lineFeed | _, .control => false
    | _, .extend | _, .joiner | _, .spacingMark => true
    | .prepend, _ => true
    | .leading, .leading | .leading, .vowel | .leading, .openSyllable | .leading, .closedSyllable => true
    | .openSyllable, .vowel | .openSyllable, .trailing | .vowel, .vowel | .vowel, .trailing => true
    | .closedSyllable, .trailing | .trailing, .trailing => true
    | .regional, .regional =>
      ((last :: before).takeWhile (fun d => clusterClass d == .regional)).length % 2 == 1
    | .joiner, _ =>
      (isPictograph c && endsWithPictograph before) ||
        (conjunctConsonantRanges.has c.toNat && endsWithLinkedConsonant reversed)
    | .extend, _ => conjunctConsonantRanges.has c.toNat && endsWithLinkedConsonant reversed
    | _, _ => false

/-- The clusters of `current ++ rest`, where `current` is given backwards and not cut yet. -/
def clustersFrom (current : List Char) : List Char → List (List Char)
  | [] => if current.isEmpty then [] else [current.reverse]
  | c :: rest =>
    if current.isEmpty || continuesCluster current c then clustersFrom (c :: current) rest
    else current.reverse :: clustersFrom [c] rest

/-- The clusters of a text. -/
def clusters (cs : List Char) : List (List Char) := clustersFrom [] cs

theorem clustersFrom_flatten (current cs : List Char) :
    (clustersFrom current cs).flatten = current.reverse ++ cs := by
  induction cs generalizing current with
  | nil => cases current <;> simp [clustersFrom]
  | cons c rest ih =>
    rw [clustersFrom]
    split
    · simp [ih]
    · simp [ih]

/-- The clusters of a text, in order, are the text. -/
theorem clusters_flatten (cs : List Char) : (clusters cs).flatten = cs := by
  simp [clusters, clustersFrom_flatten]

end Lookout.Text
