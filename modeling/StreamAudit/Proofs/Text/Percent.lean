import StreamAudit.Proofs.Text.Utf8
import StreamAudit.Text.Percent

/-!
Percent coding read back. A byte in front of any others is read from its triple
(`bytes_encodeByte_append`), so what is written character by character is read character by
character (`decode_flatMap`). A text is read from its coded form whatever marks are kept
(`decode_encode`), as long as the percent sign is none of them, and a text without percent signs
reads as itself (`decode_eq_self`). A text coded as in a form is another matter: read as part of an
address it has plus signs for its blanks (`decode_encodeForm`).
-/

set_option autoImplicit false
set_option relaxedAutoImplicit false

namespace StreamAudit.Text.Percent

theorem hexValue?_hexDigit {n : Nat} (h : n < 16) : hexValue? (hexDigit n) = some n := by
  have hall : ∀ m < 16, hexValue? (hexDigit m) = some m := by decide
  exact hall n h

theorem isUnreserved_hexDigit {n : Nat} (h : n < 16) : isUnreserved (hexDigit n) = true := by
  have hall : ∀ m < 16, isUnreserved (hexDigit m) = true := by decide
  exact hall n h

/-! ### Reading -/

theorem bytes_encodeByte_append {b : Nat} (h : b < 256) (rest : List Char) :
    bytes (encodeByte b ++ rest) = b :: bytes rest := by
  have hvalue : 16 * (b / 16) + b % 16 = b := by omega
  simp only [encodeByte, List.cons_append, List.nil_append, bytes,
    hexValue?_hexDigit (by omega : b / 16 < 16),
    hexValue?_hexDigit (by omega : b % 16 < 16), hvalue]

theorem bytes_encodeBytes_append {codes : List Nat} (h : ∀ b ∈ codes, b < 256) (rest : List Char) :
    bytes (codes.flatMap encodeByte ++ rest) = codes ++ bytes rest := by
  induction codes with
  | nil => rfl
  | cons b codes ih =>
    rw [List.flatMap_cons, List.append_assoc, bytes_encodeByte_append (h b List.mem_cons_self),
      ih fun other hother ↦ h other (List.mem_cons_of_mem b hother), List.cons_append]

/-- A character other than the percent sign stands for its own bytes. -/
theorem bytes_cons {c : Char} (h : c ≠ '%') (rest : List Char) :
    bytes (c :: rest) = Utf8.encodeChar c ++ bytes rest := by
  rw [bytes]
  rintro high low more rfl
  exact absurd rfl h

/-- If each character is written so that it reads as its image, a text reads as the images of its
characters. -/
theorem decode_flatMap {code : Char → List Char} {image : Char → Char} {s : List Char}
    (h : ∀ c ∈ s, ∀ rest, bytes (code c ++ rest) = Utf8.encodeChar (image c) ++ bytes rest) :
    decode (s.flatMap code) = s.map image := by
  have hbytes : bytes (s.flatMap code) = Utf8.encode (s.map image) := by
    induction s with
    | nil => rfl
    | cons c more ih =>
      rw [List.flatMap_cons, h c List.mem_cons_self,
        ih fun other hother ↦ h other (List.mem_cons_of_mem c hother)]
      rfl
  rw [decode, hbytes, Utf8.decode_encode]

/-- A text without percent signs reads as itself. -/
theorem decode_eq_self {s : List Char} (h : '%' ∉ s) : decode s = s := by
  have hread : decode (s.flatMap fun c ↦ [c]) = s.map id := decode_flatMap fun c hc rest ↦
    bytes_cons (fun heq ↦ h (heq ▸ hc)) rest
  rwa [List.flatMap_singleton', List.map_id] at hread

/-! ### Writing -/

/-- How one character is written. -/
def codeOf (keeps : Char → Bool) (c : Char) : List Char :=
  if isUnreserved c || keeps c then [c] else (Utf8.encodeChar c).flatMap encodeByte

theorem encode_eq_flatMap (keeps : Char → Bool) (s : List Char) :
    encode keeps s = s.flatMap (codeOf keeps) :=
  rfl

section Kept

variable {keeps : Char → Bool}

/-- A character that is written as it stands is no percent sign. -/
theorem ne_percent_of_plain (hkeeps : keeps '%' = false) {c : Char}
    (h : (isUnreserved c || keeps c) = true) : c ≠ '%' := by
  rintro rfl
  rw [hkeeps] at h
  exact absurd h (by decide)

theorem bytes_codeOf_append (hkeeps : keeps '%' = false) (c : Char) (rest : List Char) :
    bytes (codeOf keeps c ++ rest) = Utf8.encodeChar c ++ bytes rest := by
  unfold codeOf
  split
  · exact bytes_cons (ne_percent_of_plain hkeeps ‹_›) rest
  · exact bytes_encodeBytes_append (fun b ↦ Utf8.lt_of_mem_encodeChar) rest

/-- A text is read from its coded form. -/
theorem decode_encode (hkeeps : keeps '%' = false) (s : List Char) :
    decode (encode keeps s) = s := by
  have hread : decode (s.flatMap (codeOf keeps)) = s.map id :=
    decode_flatMap fun c _ ↦ bytes_codeOf_append hkeeps c
  rw [encode_eq_flatMap, hread, List.map_id]

theorem isUnreserved_of_mem_triples {c origin : Char}
    (h : c ∈ (Utf8.encodeChar origin).flatMap encodeByte) :
    isUnreserved c = true ∨ c = '%' := by
  obtain ⟨b, hb, hc⟩ := List.mem_flatMap.mp h
  have hlt := Utf8.lt_of_mem_encodeChar hb
  simp only [encodeByte, List.mem_cons, List.not_mem_nil, or_false] at hc
  rcases hc with rfl | rfl | rfl
  · exact .inr rfl
  · exact .inl (isUnreserved_hexDigit (by omega))
  · exact .inl (isUnreserved_hexDigit (by omega))

/-- A coded text has no characters but those that are unreserved or kept, and percent signs. -/
theorem mem_encode {s : List Char} {c : Char} (h : c ∈ encode keeps s) :
    isUnreserved c = true ∨ keeps c = true ∨ c = '%' := by
  obtain ⟨origin, -, hc⟩ := List.mem_flatMap.mp h
  split at hc
  · rename_i hplain
    obtain rfl := List.mem_singleton.mp hc
    rcases Bool.or_eq_true_iff.mp hplain with hfree | hkept
    · exact .inl hfree
    · exact .inr (.inl hkept)
  · rcases isUnreserved_of_mem_triples hc with hfree | rfl
    · exact .inl hfree
    · exact .inr (.inr rfl)

theorem map_decode_encode (hkeeps : keeps '%' = false) (text : Option (List Char)) :
    (text.map (encode keeps)).map decode = text := by
  cases text with
  | none => rfl
  | some text => exact congrArg some (decode_encode hkeeps text)

/-- The marks in a coded text are those kept. -/
theorem not_mem_encode {c : Char} (hfree : isUnreserved c = false)
    (hkeeps : keeps c = false) (hpercent : c ≠ '%') (s : List Char) : c ∉ encode keeps s := by
  intro hmem
  rcases mem_encode hmem with h | h | h
  · exact absurd (hfree.symm.trans h) (by decide)
  · exact absurd (hkeeps.symm.trans h) (by decide)
  · exact hpercent h

end Kept

/-! ### Forms -/

/-- A blank is taken for a plus sign. -/
def plusForBlank (c : Char) : Char :=
  if c == ' ' then '+' else c

theorem map_plusForBlank_eq_self_iff {s : List Char} : s.map plusForBlank = s ↔ ' ' ∉ s := by
  constructor
  · intro h hblank
    have himage : ' ' ∈ s.map plusForBlank := h.symm ▸ hblank
    obtain ⟨c, -, hc⟩ := List.mem_map.mp himage
    unfold plusForBlank at hc
    split at hc
    · exact absurd hc (by decide)
    · rename_i hother
      exact hother (beq_iff_eq.mpr hc)
  · intro h
    refine (List.map_congr_left fun c hc ↦ ?_).trans (List.map_id s)
    rw [plusForBlank, if_neg]
    · rfl
    · rw [beq_iff_eq]
      rintro rfl
      exact h hc

theorem encodeForm_eq_flatMap (s : List Char) :
    encodeForm s = s.flatMap fun c ↦ (codeOf (· == ' ') c).map plusForBlank := by
  rw [encodeForm, encode_eq_flatMap, List.map_flatMap]
  rfl

/-- Read as part of an address, a text coded as in a form has plus signs for its blanks. -/
theorem decode_encodeForm (s : List Char) : decode (encodeForm s) = s.map plusForBlank := by
  rw [encodeForm_eq_flatMap]
  refine decode_flatMap fun c _ rest ↦ ?_
  by_cases hblank : c = ' '
  · subst hblank
    exact bytes_cons (by decide) rest
  · have himage : plusForBlank c = c := by
      rw [plusForBlank, if_neg (by simpa using hblank)]
    -- what is written for any other character has no blank in it
    have hcode : (codeOf (· == ' ') c).map plusForBlank = codeOf (· == ' ') c := by
      rw [map_plusForBlank_eq_self_iff]
      intro hmem
      unfold codeOf at hmem
      split at hmem
      · exact hblank (List.mem_singleton.mp hmem).symm
      · exact absurd (isUnreserved_of_mem_triples hmem) (by decide)
    rw [hcode, himage]
    exact bytes_codeOf_append (by decide) c rest

/-- A text coded as in a form has plus signs instead of blanks. -/
theorem mem_encodeForm {s : List Char} {c : Char} (h : c ∈ encodeForm s) :
    isUnreserved c = true ∨ c = '+' ∨ c = '%' := by
  obtain ⟨origin, horigin, rfl⟩ := List.mem_map.mp h
  split
  · exact .inr (.inl rfl)
  · rename_i hblank
    rcases mem_encode horigin with hplain | hkept | hpercent
    · exact .inl hplain
    · exact absurd hkept hblank
    · exact .inr (.inr hpercent)

theorem not_mem_encodeForm {c : Char} (hfree : isUnreserved c = false) (hplus : c ≠ '+')
    (hpercent : c ≠ '%') (s : List Char) : c ∉ encodeForm s := by
  intro hmem
  rcases mem_encodeForm hmem with h | h | h
  · exact absurd (hfree.symm.trans h) (by decide)
  · exact hplus h
  · exact hpercent h

end StreamAudit.Text.Percent
