import Lookout.Proofs.Url.Percent

/-!
# Characters of a host

A host is decoded, put in its plain form and written in ASCII before it is accepted. A character that no
domain name may contain comes through each of these steps as it is, so an accepted host has none of them
as it is written, but for the percent sign. The brackets around an address are the one exception.

* **`Punycode.mem_encode`** — the ASCII letters of a label stand in its encoded form.
* **`eq_percent_of_parseHost`** — an accepted host without brackets has no forbidden character but the
  percent sign.
* **`getLast?_ne_colon_of_parseHost`** — no accepted host ends with a colon.
-/

namespace Lookout.Url

/-! ## Bytes -/

theorem utf8EncodeChar_of_ascii {c : Char} (ascii : c.toNat < 128) :
    String.utf8EncodeChar c = [UInt8.ofNat c.toNat] := by
  have hle : c.val.toNat ≤ 127 := Nat.le_of_lt_succ ascii
  rw [String.utf8EncodeChar.eq_def]
  exact if_pos hle

/-- A character beyond ASCII has no byte below 128. -/
theorem le_of_mem_utf8EncodeChar {c : Char} (wide : 128 ≤ c.toNat) {b : UInt8}
    (h : b ∈ String.utf8EncodeChar c) : 128 ≤ b.toNat := by
  have hlarge : ¬ c.val.toNat ≤ 127 := Nat.not_le.2 wide
  have hchar : c.val.toNat < 1114112 := by
    rcases c.valid with h | h <;> omega
  rw [String.utf8EncodeChar.eq_def] at h
  simp only [hlarge, if_false] at h
  split at h
  · simp only [List.mem_cons, List.not_mem_nil, or_false] at h
    rcases h with rfl | rfl <;> rw [UInt8.toNat_ofNat'] <;> omega
  · split at h
    · simp only [List.mem_cons, List.not_mem_nil, or_false] at h
      rcases h with rfl | rfl | rfl <;> rw [UInt8.toNat_ofNat'] <;> omega
    · simp only [List.mem_cons, List.not_mem_nil, or_false] at h
      rcases h with rfl | rfl | rfl | rfl <;> rw [UInt8.toNat_ofNat'] <;> omega

/-- The byte of an ASCII character is a byte of that character only. -/
theorem eq_of_mem_utf8EncodeChar {c d : Char} (ascii : c.toNat < 128)
    (h : UInt8.ofNat c.toNat ∈ String.utf8EncodeChar d) : d = c := by
  have hbyte : (UInt8.ofNat c.toNat).toNat = c.toNat := by
    rw [UInt8.toNat_ofNat']
    omega
  rcases Nat.lt_or_ge d.toNat 128 with hd | hd
  · rw [utf8EncodeChar_of_ascii hd] at h
    have heq := congrArg UInt8.toNat (List.mem_singleton.1 h)
    rw [hbyte, UInt8.toNat_ofNat'] at heq
    exact Char.toNat_inj.1 (by omega)
  · have hle := le_of_mem_utf8EncodeChar hd h
    omega

/-- A character that is neither a percent sign nor a hexadecimal digit is no part of an encoded byte. -/
theorem mem_percentDecode {c : Char} (ascii : c.toNat < 128) (plain : c ≠ '%') (digit : hexValue? c = none)
    {cs : List Char} (h : c ∈ cs) : UInt8.ofNat c.toNat ∈ percentDecode cs := by
  fun_induction percentDecode cs with
  | case1 a b rest x y hx hy ih =>
    have hne {d : Char} {n : Nat} (hd : hexValue? d = some n) : c ≠ d := by
      rintro rfl
      cases digit.symm.trans hd
    simp only [List.mem_cons, plain, hne hx, hne hy, false_or] at h
    exact List.mem_cons_of_mem _ (ih h)
  | case2 a b rest _ ih =>
    exact List.mem_cons_of_mem _ (ih ((List.mem_cons.1 h).resolve_left plain))
  | case3 d rest _ ih =>
    rcases List.mem_cons.1 h with rfl | h
    · rw [utf8EncodeChar_of_ascii ascii]
      exact List.mem_append_left _ List.mem_cons_self
    · exact List.mem_append_right _ (ih h)
  | case4 => cases h

/-- The bytes of the text that is read from bytes are those bytes. -/
theorem encoded_of_textOfBytes? {bytes : List UInt8} {cs : List Char} (h : textOfBytes? bytes = some cs) :
    cs.flatMap String.utf8EncodeChar = bytes := by
  obtain ⟨s, hs, rfl⟩ := Option.map_eq_some_iff.1 h
  rw [String.fromUTF8?] at hs
  split at hs
  · next hvalid =>
    obtain rfl := Option.some.inj hs
    have hbytes : (String.fromUTF8 ⟨bytes.toArray⟩ hvalid).toList.utf8Encode = ⟨bytes.toArray⟩ :=
      String.utf8Encode_toList
    rw [List.utf8Encode] at hbytes
    have hdata := congrArg (fun b : ByteArray => b.data.toList) hbytes
    simpa using hdata
  · cases hs

/-! ## Labels -/

namespace Punycode

theorem output_encodeLetter (basic n : Nat) (s : Encoder) (label : List Char) :
    s.output <+: (encodeLetter basic n s label).output := by
  unfold encodeLetter
  induction label generalizing s with
  | nil => exact List.prefix_rfl
  | cons c label ih =>
    rw [List.foldl_cons]
    refine List.IsPrefix.trans ?_ (ih _)
    split
    · exact List.prefix_rfl
    · split
      · exact List.prefix_append _ _
      · exact List.prefix_rfl

theorem output_encodeFrom (label : List Char) (basic steps n : Nat) (s : Encoder) :
    s.output <+: (encodeFrom label basic steps n s).output := by
  induction steps generalizing n s with
  | zero => exact List.prefix_rfl
  | succ steps ih =>
    rw [encodeFrom]
    split
    · exact List.prefix_rfl
    · next m _ =>
      let start : Encoder := { s with delta := s.delta + (m - n) * (s.handled + 1) }
      let letter := encodeLetter basic m start label
      have hletter : s.output <+: letter.output := output_encodeLetter basic m start label
      exact hletter.trans (ih (m + 1) { letter with delta := letter.delta + 1 })

/-- The ASCII letters of a label stand in its encoded form. -/
theorem mem_encode {label : List Char} {c : Char} (ascii : c.toNat < 128) (h : c ∈ label) :
    c ∈ encode label := by
  have hbasic : c ∈ label.filter (·.toNat < 128) := List.mem_filter.2 ⟨h, decide_eq_true ascii⟩
  refine (output_encodeFrom _ _ _ _ _).subset ?_
  rw [if_neg (by simpa using List.ne_nil_of_mem hbasic)]
  exact List.mem_append_left _ hbasic

end Punycode

theorem mem_of_labelToAscii {label encoded : List Char} (hlabel : labelToAscii label = .ok encoded) {c : Char}
    (ascii : c.toNat < 128) (h : c ∈ label) : c ∈ encoded := by
  unfold labelToAscii at hlabel
  split at hlabel
  · split at hlabel
    · split at hlabel
      · split at hlabel
        · exact Except.ok.inj hlabel ▸ h
        · cases hlabel
      · cases hlabel
    · exact Except.ok.inj hlabel ▸ h
  · obtain rfl := Except.ok.inj hlabel
    exact List.mem_append_right _ (Punycode.mem_encode ascii h)

theorem mem_of_labelsToAscii {labels encoded : List (List Char)} (hlabels : labelsToAscii labels = .ok encoded)
    {label : List Char} (h : label ∈ labels) : ∃ l ∈ encoded, labelToAscii label = .ok l := by
  induction labels generalizing encoded with
  | nil => cases h
  | cons first rest ih =>
    simp only [labelsToAscii, bind, Except.bind, pure, Except.pure] at hlabels
    split at hlabels
    · cases hlabels
    · next l hfirst =>
      split at hlabels
      · cases hlabels
      · next ls hrest =>
        obtain rfl := Except.ok.inj hlabels
        rcases List.mem_cons.1 h with rfl | h
        · exact ⟨l, List.mem_cons_self, hfirst⟩
        · obtain ⟨l', hl', heq⟩ := ih hrest h
          exact ⟨l', List.mem_cons_of_mem _ hl', heq⟩

theorem exists_mem_splitAt {p : Char → Bool} {c : Char} (plain : p c = false) {cs : List Char}
    (h : c ∈ cs) : ∃ part ∈ splitAt p cs, c ∈ part := by
  induction cs with
  | nil => cases h
  | cons d cs ih =>
    obtain ⟨part, parts, hsplit⟩ := List.exists_cons_of_ne_nil (splitAt_ne_nil p cs)
    rw [hsplit] at ih
    rw [splitAt, hsplit]
    dsimp only
    cases hd : p d with
    | true =>
      have hrest : c ∈ cs := (List.mem_cons.1 h).resolve_left (by rintro rfl; cases plain.symm.trans hd)
      obtain ⟨q, hq, hc⟩ := ih hrest
      exact ⟨q, List.mem_cons_of_mem _ hq, hc⟩
    | false =>
      rcases List.mem_cons.1 h with rfl | h
      · exact ⟨_, List.mem_cons_self, List.mem_cons_self⟩
      · obtain ⟨q, hq, hc⟩ := ih h
        rcases List.mem_cons.1 hq with rfl | hq
        · exact ⟨_, List.mem_cons_self, List.mem_cons_of_mem _ hc⟩
        · exact ⟨q, List.mem_cons_of_mem _ hq, hc⟩

theorem subset_joinWith (sep : List Char) {parts : List (List Char)} {part : List Char} (h : part ∈ parts) :
    part ⊆ joinWith sep parts := by
  rw [joinWith]
  induction parts with
  | nil => cases h
  | cons first rest ih =>
    cases rest with
    | nil =>
      rw [List.mem_singleton.1 h, List.intercalate_singleton]
      exact List.Subset.refl _
    | cons second rest =>
      rw [List.intercalate_cons_cons]
      rcases List.mem_cons.1 h with rfl | h
      · exact fun c hc => List.mem_append_left _ (List.mem_append_left _ hc)
      · exact fun c hc => List.mem_append_right _ (ih h hc)

/-! ## Hosts -/

theorem ascii_of_isForbiddenInDomain {c : Char} (h : isForbiddenInDomain c = true) : c.toNat < 128 := by
  simp only [isForbiddenInDomain, Bool.or_eq_true, decide_eq_true_eq, List.contains_iff_mem, List.mem_cons,
    List.not_mem_nil, or_false] at h
  rcases h with (h | h) | h
  · omega
  · omega
  · rcases h with rfl | rfl | rfl | rfl | rfl | rfl | rfl | rfl | rfl | rfl | rfl | rfl | rfl <;> decide

/-- A forbidden character is left as it is on the way to the ASCII form of a domain. -/
theorem plain_of_isForbiddenInDomain {c : Char} (h : isForbiddenInDomain c = true) (percent : c ≠ '%') :
    hexValue? c = none ∧ isDroppedInDomain c = false ∧ domainChar c = [c] ∧ c ≠ '.' := by
  have hall : ∀ n < 128, isForbiddenInDomain (Char.ofNat n) = true → Char.ofNat n ≠ '%' →
      hexValue? (Char.ofNat n) = none ∧ isDroppedInDomain (Char.ofNat n) = false ∧
        domainChar (Char.ofNat n) = [Char.ofNat n] ∧ Char.ofNat n ≠ '.' := by
    decide +kernel
  have hc := hall c.toNat (ascii_of_isForbiddenInDomain h)
  rw [Char.ofNat_toNat] at hc
  exact hc h percent

/-- No forbidden character but the percent sign stands in a text that is the name of a domain once it is
decoded. -/
theorem not_mem_of_domainToAscii {domain ascii : List Char} (h : domainToAscii domain = .ok ascii) {c : Char}
    (forbidden : isForbiddenInDomain c = true) (percent : c ≠ '%') : c ∉ domain := by
  intro hmem
  obtain ⟨-, hkept, hchar, hdot⟩ := plain_of_isForbiddenInDomain forbidden percent
  have hplain : c ∈ (domain.filter (!isDroppedInDomain ·)).flatMap domainChar := by
    refine List.mem_flatMap.2 ⟨c, List.mem_filter.2 ⟨hmem, by simp [hkept]⟩, ?_⟩
    rw [hchar]
    exact List.mem_singleton_self c
  obtain ⟨label, hlabel, hc⟩ := exists_mem_splitAt (p := (· == '.')) (by simpa using hdot) hplain
  simp only [domainToAscii, bind, Except.bind, pure, Except.pure] at h
  split at h
  · cases h
  · next labels hlabels =>
    obtain ⟨l, hl, hascii⟩ := mem_of_labelsToAscii hlabels hlabel
    have hl' := mem_of_labelToAscii hascii (ascii_of_isForbiddenInDomain forbidden) hc
    have hany : (joinWith ['.'] labels).any isForbiddenInDomain = true :=
      List.any_eq_true.2 ⟨c, subset_joinWith _ hl hl', forbidden⟩
    rw [if_pos hany] at h
    cases h

/-- An accepted host without brackets has no forbidden character but the percent sign. -/
theorem eq_percent_of_parseHost {written host : List Char} (h : parseHost written = .ok host)
    (unbracketed : written.head? ≠ some '[') {c : Char} (mem : c ∈ written)
    (forbidden : isForbiddenInDomain c = true) : c = '%' := by
  by_contra percent
  obtain ⟨hdigit, -⟩ := plain_of_isForbiddenInDomain forbidden percent
  have hascii := ascii_of_isForbiddenInDomain forbidden
  unfold parseHost at h
  split at h
  · exact unbracketed rfl
  · split at h
    · cases h
    · next decoded hdecoded =>
      have hbyte := mem_percentDecode hascii percent hdigit mem
      rw [← encoded_of_textOfBytes? hdecoded, List.mem_flatMap] at hbyte
      obtain ⟨d, hd, hc⟩ := hbyte
      obtain rfl := eq_of_mem_utf8EncodeChar hascii hc
      cases hdomain : domainToAscii decoded with
      | error e =>
        rw [hdomain] at h
        cases h
      | ok domain => exact not_mem_of_domainToAscii hdomain forbidden percent hd

/-- A bracket that is opened at the start of a host is closed at its end. -/
theorem getLast?_of_parseHost {written host : List Char} (h : parseHost written = .ok host)
    (bracketed : written.head? = some '[') : written.getLast? = some ']' := by
  obtain ⟨rest, rfl⟩ := List.head?_eq_some_iff.1 bracketed
  simp only [parseHost] at h
  split at h
  · next hlast =>
    obtain ⟨init, rfl⟩ := List.getLast?_eq_some_iff.1 hlast
    rw [← List.cons_append, List.getLast?_append_cons]
    rfl
  · cases h

/-- No accepted host ends with a colon. -/
theorem getLast?_ne_colon_of_parseHost {written host : List Char} (h : parseHost written = .ok host) :
    written.getLast? ≠ some ':' := by
  intro hlast
  by_cases hbracket : written.head? = some '['
  · rw [getLast?_of_parseHost h hbracket] at hlast
    cases hlast
  · have hpercent := eq_percent_of_parseHost h hbracket (List.mem_of_getLast? hlast) (by decide)
    cases hpercent

end Lookout.Url
