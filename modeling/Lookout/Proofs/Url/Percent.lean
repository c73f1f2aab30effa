import Lookout.Proofs.Url.Segments
import Lookout.Url.PathSegment

/-!
# Percent encoding read back

A text is read back from its encoded form as long as the percent sign itself is encoded, so two texts never
have one encoded form. A path segment is the encoded form of what is kept of a text: tabs and line ends are
left out, and nothing is kept of a dot segment.

* **`percentDecode_percentEncode`** — what is encoded is decoded byte by byte, whatever follows.
* **`encodeSegment_eq_iff`** — two texts have one segment exactly if the same is kept of them.
* **`segmentText_eq_self_iff`** — what a text must not have in it to be kept whole.
-/

namespace Lookout.Url

/-! ## Bytes -/

theorem hexValue?_hexDigit : ∀ n < 16, hexValue? (hexDigit n) = some n := by decide

/-- The byte behind a percent sign is read back. -/
theorem percentDecode_percentByte (b : UInt8) (rest : List Char) :
    percentDecode (percentByte b ++ rest) = b :: percentDecode rest := by
  have hsmall := b.toNat_lt
  have hhigh := hexValue?_hexDigit (b.toNat / 16) (by omega)
  have hlow := hexValue?_hexDigit (b.toNat % 16) (by omega)
  have hbyte : b.toNat / 16 * 16 + b.toNat % 16 = b.toNat := by omega
  show percentDecode ('%' :: hexDigit (b.toNat / 16) :: hexDigit (b.toNat % 16) :: rest) = _
  rw [percentDecode, hhigh, hlow]
  simp only [hbyte, UInt8.ofNat_toNat]

theorem percentDecode_percentBytes (bytes : List UInt8) (rest : List Char) :
    percentDecode (bytes.flatMap percentByte ++ rest) = bytes ++ percentDecode rest := by
  induction bytes with
  | nil => rfl
  | cons b bytes ih =>
    rw [List.flatMap_cons, List.append_assoc, percentDecode_percentByte, ih, List.cons_append]

/-- A character that is no percent sign is kept. -/
theorem percentDecode_cons {c : Char} (h : c ≠ '%') (rest : List Char) :
    percentDecode (c :: rest) = String.utf8EncodeChar c ++ percentDecode rest := by
  rw [percentDecode]
  rintro a b rest' rfl
  exact absurd rfl h

/-! ## Texts -/

/-- The text of the bytes of a text is that text. -/
theorem textOfBytes?_encoded (cs : List Char) : textOfBytes? (cs.flatMap String.utf8EncodeChar) = some cs := by
  have hvalid : cs.utf8Encode.IsValidUTF8 := ByteArray.isValidUTF8_utf8Encode
  have htext : String.fromUTF8 cs.utf8Encode hvalid = String.ofList cs := rfl
  have hbytes : (⟨(cs.flatMap String.utf8EncodeChar).toArray⟩ : ByteArray) = cs.utf8Encode := by
    rw [List.utf8Encode]
    exact ByteArray.ext List.data_toByteArray.symm
  rw [textOfBytes?, hbytes, String.fromUTF8?, dif_pos hvalid, htext, Option.map_some, String.toList_ofList]

section Encoded

variable {set : Char → Bool} (percent : set '%' = true)
include percent

/-- What is encoded is decoded byte by byte, whatever follows, if the percent sign is encoded. -/
theorem percentDecode_percentEncode (cs rest : List Char) :
    percentDecode (percentEncode set cs ++ rest) = cs.flatMap String.utf8EncodeChar ++ percentDecode rest := by
  induction cs with
  | nil => rfl
  | cons c cs ih =>
    rw [percentEncode_cons, List.append_assoc, List.flatMap_cons, List.append_assoc]
    cases hc : set c with
    | true => rw [if_pos rfl, percentDecode_percentBytes, ih]
    | false =>
      have hplain : c ≠ '%' := by
        rintro rfl
        cases hc.symm.trans percent
      rw [if_neg Bool.false_ne_true, List.singleton_append, percentDecode_cons hplain, ih]

/-- An encoded text is read back. -/
theorem textOfBytes?_percentDecode (cs : List Char) :
    textOfBytes? (percentDecode (percentEncode set cs)) = some cs := by
  have hbytes := percentDecode_percentEncode percent cs []
  rw [List.append_nil, percentDecode, List.append_nil] at hbytes
  rw [hbytes, textOfBytes?_encoded]

theorem percentEncode_injective {a b : List Char} (h : percentEncode set a = percentEncode set b) : a = b := by
  have ha := textOfBytes?_percentDecode percent a
  rw [h, textOfBytes?_percentDecode percent b] at ha
  exact (Option.some.inj ha).symm

end Encoded

theorem percentEncode_eq_nil_iff (set : Char → Bool) (cs : List Char) : percentEncode set cs = [] ↔ cs = [] := by
  refine ⟨fun h => ?_, fun h => by rw [h, percentEncode_nil]⟩
  cases cs with
  | nil => rfl
  | cons c cs =>
    rw [percentEncode_cons, List.append_eq_nil_iff] at h
    obtain ⟨b, bytes, hbytes⟩ := List.exists_cons_of_ne_nil (String.utf8EncodeChar_ne_nil (c := c))
    have hfirst := h.1
    split at hfirst
    · rw [hbytes, List.flatMap_cons, percentByte] at hfirst
      cases hfirst
    · cases hfirst

/-! ## Segments -/

/-- What is kept of a text that is written as a segment: no tabs and line ends, and nothing of a dot
segment. -/
def segmentText (raw : List Char) : List Char :=
  let kept := raw.filter (!isIgnored ·)
  if kept = ['.'] || kept = ['.', '.'] then [] else kept

/-- A segment is the encoded form of what is kept of a text. -/
theorem encodeSegment_eq (raw : List Char) :
    encodeSegment raw = percentEncode inSegmentSet (segmentText raw) := by
  unfold encodeSegment segmentText
  dsimp only
  split
  · rfl
  · rfl

/-- Two texts have one segment exactly if the same is kept of them. -/
theorem encodeSegment_eq_iff (a b : List Char) :
    encodeSegment a = encodeSegment b ↔ segmentText a = segmentText b := by
  rw [encodeSegment_eq, encodeSegment_eq]
  exact ⟨percentEncode_injective rfl, congrArg _⟩

/-- What is kept of a text is read back from its segment. -/
theorem textOfBytes?_encodeSegment (raw : List Char) :
    textOfBytes? (percentDecode (encodeSegment raw)) = some (segmentText raw) := by
  rw [encodeSegment_eq]
  exact textOfBytes?_percentDecode rfl _

/-- A text is kept whole exactly if there are no tabs and no line ends in it and it is no dot segment. -/
theorem segmentText_eq_self_iff (raw : List Char) : segmentText raw = raw ↔
    (∀ c ∈ raw, isIgnored c = false) ∧ raw ≠ ['.'] ∧ raw ≠ ['.', '.'] := by
  constructor
  · intro h
    have hkept : raw.filter (!isIgnored ·) = raw ∧ raw ≠ ['.'] ∧ raw ≠ ['.', '.'] := by
      unfold segmentText at h
      dsimp only at h
      split at h
      · next hdots =>
        subst h
        simp at hdots
      · next hdots =>
        rw [h] at hdots
        exact ⟨h, by simpa using hdots⟩
    refine ⟨fun c hc => ?_, hkept.2⟩
    simpa using List.filter_eq_self.1 hkept.1 c hc
  · rintro ⟨plain, hdot, hdots⟩
    have hkept : raw.filter (!isIgnored ·) = raw := by
      refine List.filter_eq_self.2 fun c hc => ?_
      rw [plain c hc]
      rfl
    unfold segmentText
    dsimp only
    rw [hkept, if_neg]
    simp [hdot, hdots]

end Lookout.Url
