import Lookout.Url.Percent

/-!
# Single path segments

The written form of a text as one segment of a path: nothing in it can end the segment or start a
query. Tabs and line ends are left out, and a text that would be a dot segment becomes empty.
-/

namespace Lookout.Url

/-- The character has no place in an address and is left out. -/
def isIgnored (c : Char) : Bool := c == '\t' || c == '\n' || c == '\x0d'

/-- The written form of a text as one path segment. -/
def encodeSegment (raw : List Char) : List Char :=
  let kept := raw.filter (!isIgnored ·)
  if kept = ['.'] || kept = ['.', '.'] then [] else percentEncode inSegmentSet kept

/-- No character of the set is left in the written form, the percent sign apart. -/
theorem not_mem_encodeSegment {raw : List Char} {c : Char} (set : inSegmentSet c = true)
    (percent : c ≠ '%') (digit : ∀ n, n < 16 → hexDigit n ≠ c) : c ∉ encodeSegment raw := by
  unfold encodeSegment
  simp only
  split
  · simp
  · intro h
    simp only [percentEncode, List.mem_flatMap] at h
    obtain ⟨d, _, hd⟩ := h
    split at hd
    · simp only [List.mem_flatMap] at hd
      obtain ⟨b, _, hb⟩ := hd
      have small := b.toNat_lt
      simp only [percentByte, List.mem_cons, List.not_mem_nil, or_false] at hb
      rcases hb with h | h | h
      · exact percent h
      · exact digit (b.toNat / 16) (by omega) h.symm
      · exact digit (b.toNat % 16) (by omega) h.symm
    · next keep =>
      simp only [List.mem_cons, List.not_mem_nil, or_false] at hd
      subst hd
      exact keep set

end Lookout.Url
