import LineAgents.Proofs.Text.Utf8

/-!
# Which bytes are UTF-8

The reader keeps a `none` in its list for bytes that make up no character. That it complains exactly
when it should is measured against a notion of valid UTF-8 that knows nothing of reading:
`ByteArray.IsValidUTF8`, by which some list of characters is written as those bytes. Shorter forms
than a character has, surrogates, numbers above the last code point and characters cut short are all
left out by it, because no character is written so.

One direction is that what is written is read (`LineAgents.Utf8.scan_flatMap_encodePoint`). For the
other, bytes that are read without complaint begin with the bytes of a scalar value
(`LineAgents.Utf8.exists_encodePoint_append`): the first byte says how many are to come, and each of
them lies in the range that keeps the value from having a shorter form or being a surrogate.

* `LineAgents.Utf8.none_notMem_scan_iff`: the reader complains of exactly the bytes that are not
  valid.
* `LineAgents.Utf8.encode_decode`: valid bytes are the bytes of the text that they are read as.
* `LineAgents.Utf8.decode?_of_valid`, `LineAgents.Utf8.decode?_of_not_valid`: the strict reader
  gives that text, and no text for other bytes, in which the lenient reader leaves the replacement
  character (`LineAgents.Utf8.replacement_mem_decode`).
-/

namespace LineAgents.Utf8

variable {b : UInt8} {bs : Bytes}

/-! ### The bytes of one character -/

section Point

variable {c : Nat}

/-- A character is a scalar value. -/
theorem isScalar_toNat (d : Char) : Text.isScalar d.toNat = true := by
  have hvalid : d.toNat < 0xD800 ∨ 0xDFFF < d.toNat ∧ d.toNat < 0x110000 := d.valid
  rw [Text.isScalar_iff]
  omega

/-- A scalar value is the number of a character. -/
theorem toNat_ofNat (hc : Text.isScalar c = true) : (Char.ofNat c).toNat = c := by
  have hvalid : c.isValidChar := by
    rw [Text.isScalar_iff] at hc
    change c < 0xD800 ∨ 0xDFFF < c ∧ c < 0x110000
    omega
  rw [Char.ofNat, dif_pos hvalid]
  rfl

/-- **The bytes of a character** are those that the character is written as in any string. -/
theorem encodePoint_toNat (d : Char) : encodePoint d.toNat = String.utf8EncodeChar d := by
  have hc := isScalar_toNat d
  have hbound := (Text.isScalar_iff _).mp hc
  rw [String.utf8EncodeChar]
  simp only [Char.toNat_val]
  generalize d.toNat = c at *
  by_cases h1 : c < 0x80
  · rw [encodePoint_one h1, if_pos (by omega)]
  by_cases h2 : c < 0x800
  · have hlead : 0xC0 + c / 64 = c / 64 % 32 + 192 := by omega
    rw [encodePoint_two (by omega) h2, if_neg (by omega), if_pos (by omega), hlead,
      Nat.add_comm 0x80]
  by_cases h3 : c < 0x10000
  · have hlead : 0xE0 + c / 4096 = c / 4096 % 16 + 224 := by omega
    rw [encodePoint_three (by omega) h3 hc, if_neg (by omega), if_neg (by omega),
      if_pos (by omega), hlead, Nat.add_comm 0x80, Nat.add_comm 0x80]
  · have hlead : 0xF0 + c / 262144 = c / 262144 % 8 + 240 := by omega
    rw [encodePoint_four (by omega) hc, if_neg (by omega), if_neg (by omega), if_neg (by omega),
      hlead, Nat.add_comm 0x80, Nat.add_comm 0x80, Nat.add_comm 0x80]

/-- Valid bytes are those of scalar values one after the other. -/
theorem isValidUTF8_iff : bs.toByteArray.IsValidUTF8 ↔
    ∃ cs : List Nat, (∀ c ∈ cs, Text.isScalar c = true) ∧ bs = cs.flatMap encodePoint := by
  constructor
  · rintro ⟨ds, hds⟩
    refine ⟨ds.map Char.toNat, ?_, ?_⟩
    · rintro c hc
      obtain ⟨d, -, rfl⟩ := List.mem_map.mp hc
      exact isScalar_toNat d
    · rw [List.flatMap_map]
      simp only [encodePoint_toNat]
      exact List.toByteArray_inj.mp hds
  · rintro ⟨cs, hcs, rfl⟩
    refine ⟨cs.map Char.ofNat, congrArg List.toByteArray ?_⟩
    rw [List.flatMap_map]
    refine List.flatMap_congr fun c hc => ?_
    rw [← encodePoint_toNat, toNat_ofNat (hcs c hc)]

end Point

/-! ### Bytes read without complaint -/

section Reading

variable {lo hi : UInt8}

/-- A number that is the value of a byte, as a byte. -/
theorem toUInt8_eq {n : Nat} (h : n = b.toNat) : n.toUInt8 = b := by
  rw [h]
  exact UInt8.ofNat_toNat

/-- **Inside a character** the next byte lies in the range that is expected. -/
theorem exists_cons_of_inside {left acc : Nat} (h : none ∉ scanFrom (.inside left lo hi acc) bs) :
    ∃ b rest, bs = b :: rest ∧ lo.toNat ≤ b.toNat ∧ b.toNat ≤ hi.toNat := by
  cases bs with
  | nil => exact absurd List.mem_cons_self h
  | cons b rest =>
    refine ⟨b, rest, rfl, ?_⟩
    by_contra hout
    have hr : (decide (lo ≤ b) && decide (b ≤ hi)) = false := by
      rw [Bool.eq_false_iff]
      simpa [UInt8.le_iff_toNat_le] using hout
    refine h ?_
    simp [scanFrom, Reader.step, hr]

/-- A range that begins later after one lead. -/
theorem of_raised {p : Prop} [Decidable p] (hlo : 0x80 ≤ lo.toNat)
    (h : (if p then lo else 0x80).toNat ≤ b.toNat) :
    0x80 ≤ b.toNat ∧ (p → lo.toNat ≤ b.toNat) := by
  split at h
  · exact ⟨Nat.le_trans hlo h, fun _ => h⟩
  · exact ⟨h, fun hp => absurd hp ‹_›⟩

/-- A range that ends earlier after one lead. -/
theorem of_lowered {p : Prop} [Decidable p] (hhi : hi.toNat ≤ 0xBF)
    (h : b.toNat ≤ (if p then hi else 0xBF).toNat) :
    b.toNat ≤ 0xBF ∧ (p → b.toNat ≤ hi.toNat) := by
  split at h
  · exact ⟨Nat.le_trans h hhi, fun _ => h⟩
  · exact ⟨h, fun hp => absurd hp ‹_›⟩

/-- Two bytes, the first of which leaves out the shorter form. -/
theorem exists_encodePoint_two (hb : 0xC2 ≤ b.toNat) (hb' : b.toNat < 0xE0)
    (h : none ∉ scanFrom .ready (b :: bs)) :
    ∃ c rest, Text.isScalar c = true ∧ b :: bs = encodePoint c ++ rest := by
  rw [scanFrom, Reader.step, start_of_two hb hb', List.nil_append] at h
  obtain ⟨b₁, rest, rfl, hlo, hhi⟩ := exists_cons_of_inside h
  have h80 : (0x80 : UInt8).toNat = 0x80 := rfl
  have hBF : (0xBF : UInt8).toNat = 0xBF := rfl
  refine ⟨(b.toNat - 0xC0) * 64 + (b₁.toNat - 0x80), rest,
    (Text.isScalar_iff _).mpr (by omega), ?_⟩
  rw [encodePoint_two (by omega) (by omega), toUInt8_eq (b := b) (by omega),
    toUInt8_eq (b := b₁) (by omega)]
  rfl

/-- Three bytes, the second of which leaves out the shorter forms and the surrogates. -/
theorem exists_encodePoint_three (hb : 0xE0 ≤ b.toNat) (hb' : b.toNat < 0xF0)
    (h : none ∉ scanFrom .ready (b :: bs)) :
    ∃ c rest, Text.isScalar c = true ∧ b :: bs = encodePoint c ++ rest := by
  rw [scanFrom, Reader.step, start_of_three hb hb', List.nil_append] at h
  obtain ⟨b₁, rest, rfl, hlo, hhi⟩ := exists_cons_of_inside h
  rw [scanFrom_inside_succ hlo hhi] at h
  obtain ⟨b₂, rest, rfl, hlo₂, hhi₂⟩ := exists_cons_of_inside h
  have h80 : (0x80 : UInt8).toNat = 0x80 := rfl
  have hBF : (0xBF : UInt8).toNat = 0xBF := rfl
  obtain ⟨hlo, hshort⟩ := of_raised (by decide) hlo
  obtain ⟨hhi, hsurrogate⟩ := of_lowered (by decide) hhi
  have hA0 : (0xA0 : UInt8).toNat = 0xA0 := rfl
  have h9F : (0x9F : UInt8).toNat = 0x9F := rfl
  have hc : Text.isScalar
      (((b.toNat - 0xE0) * 64 + (b₁.toNat - 0x80)) * 64 + (b₂.toNat - 0x80)) = true := by
    rw [Text.isScalar_iff]
    omega
  refine ⟨_, rest, hc, ?_⟩
  rw [encodePoint_three (by omega) (by omega) hc, toUInt8_eq (b := b) (by omega),
    toUInt8_eq (b := b₁) (by omega), toUInt8_eq (b := b₂) (by omega)]
  rfl

/-- Four bytes, the second of which leaves out the shorter forms and what lies above the last code
point. -/
theorem exists_encodePoint_four (hb : 0xF0 ≤ b.toNat) (hb' : b.toNat < 0xF5)
    (h : none ∉ scanFrom .ready (b :: bs)) :
    ∃ c rest, Text.isScalar c = true ∧ b :: bs = encodePoint c ++ rest := by
  rw [scanFrom, Reader.step, start_of_four hb hb', List.nil_append] at h
  obtain ⟨b₁, rest, rfl, hlo, hhi⟩ := exists_cons_of_inside h
  rw [scanFrom_inside_succ hlo hhi] at h
  obtain ⟨b₂, rest, rfl, hlo₂, hhi₂⟩ := exists_cons_of_inside h
  rw [scanFrom_inside_succ hlo₂ hhi₂] at h
  obtain ⟨b₃, rest, rfl, hlo₃, hhi₃⟩ := exists_cons_of_inside h
  have h80 : (0x80 : UInt8).toNat = 0x80 := rfl
  have hBF : (0xBF : UInt8).toNat = 0xBF := rfl
  obtain ⟨hlo, hshort⟩ := of_raised (by decide) hlo
  obtain ⟨hhi, hlast⟩ := of_lowered (by decide) hhi
  have h90 : (0x90 : UInt8).toNat = 0x90 := rfl
  have h8F : (0x8F : UInt8).toNat = 0x8F := rfl
  have hc : Text.isScalar ((((b.toNat - 0xF0) * 64 + (b₁.toNat - 0x80)) * 64 +
      (b₂.toNat - 0x80)) * 64 + (b₃.toNat - 0x80)) = true := by
    rw [Text.isScalar_iff]
    omega
  refine ⟨_, rest, hc, ?_⟩
  rw [encodePoint_four (by omega) hc, toUInt8_eq (b := b) (by omega),
    toUInt8_eq (b := b₁) (by omega), toUInt8_eq (b := b₂) (by omega),
    toUInt8_eq (b := b₃) (by omega)]
  rfl

/-- **Bytes read without complaint begin with a character.** -/
theorem exists_encodePoint_append (h : none ∉ scanFrom .ready (b :: bs)) :
    ∃ c rest, Text.isScalar c = true ∧ b :: bs = encodePoint c ++ rest := by
  by_cases h1 : b.toNat < 0x80
  · refine ⟨b.toNat, bs, (Text.isScalar_iff _).mpr (by omega), ?_⟩
    rw [encodePoint_one h1, toUInt8_eq rfl]
    rfl
  by_cases hstray : b.toNat < 0xC2 ∨ 0xF5 ≤ b.toNat
  · rw [scanFrom, Reader.step, start_of_stray (by omega)] at h
    exact absurd List.mem_cons_self h
  by_cases h2 : b.toNat < 0xE0
  · exact exists_encodePoint_two (by omega) h2 h
  by_cases h3 : b.toNat < 0xF0
  · exact exists_encodePoint_three (by omega) h3 h
  · exact exists_encodePoint_four (by omega) (by omega) h

end Reading

theorem encodePoint_ne_nil (c : Nat) : encodePoint c ≠ [] := by
  rw [encodePoint]
  split_ifs <;> exact List.cons_ne_nil _ _

/-- **The reader complains of exactly the bytes that are not valid.** -/
theorem none_notMem_scan_iff : none ∉ scan bs ↔ bs.toByteArray.IsValidUTF8 := by
  rw [isValidUTF8_iff]
  constructor
  · -- by induction on the number of bytes, a character at a time
    intro h
    induction hlength : bs.length using Nat.strongRecOn generalizing bs with
    | ind n ih =>
      cases bs with
      | nil => exact ⟨[], nofun, rfl⟩
      | cons b bs =>
        obtain ⟨c, rest, hc, hsplit⟩ := exists_encodePoint_append h
        rw [hsplit] at h hlength ⊢
        rw [scan, scanFrom_encodePoint rest hc] at h
        have hshorter : rest.length < n := by
          have hpos := List.length_pos_iff.mpr (encodePoint_ne_nil c)
          rw [List.length_append] at hlength
          omega
        obtain ⟨cs, hcs, rfl⟩ := ih rest.length hshorter (List.not_mem_of_not_mem_cons h) rfl
        exact ⟨c :: cs, List.forall_mem_cons.mpr ⟨hc, hcs⟩, rfl⟩
  · rintro ⟨cs, hcs, rfl⟩
    rw [scan_flatMap_encodePoint hcs]
    simp

/-! ### What the two readers make of bytes -/

/-- **Valid bytes are those of the text that they are read as.** -/
theorem encode_decode (h : bs.toByteArray.IsValidUTF8) : encode (decode bs) = bs := by
  obtain ⟨cs, hcs, rfl⟩ := isValidUTF8_iff.mp h
  rw [decode_flatMap_encodePoint hcs, encode, Text.codePoints_ofCodePoints hcs]

/-- **Bytes that are not valid leave the replacement character** in the text they are read as. -/
theorem replacement_mem_decode (h : ¬bs.toByteArray.IsValidUTF8) : 0xFFFD ∈ decode bs := by
  have hnone : none ∈ scan bs := by
    by_contra hnone
    exact h (none_notMem_scan_iff.mp hnone)
  rw [decode, Text.ofCodePoints, List.mem_flatMap]
  exact ⟨replacement, List.mem_map_of_mem hnone, by decide⟩

/-- The strict reader and the lenient one read valid bytes as the same text. -/
theorem decode?_of_valid (h : bs.toByteArray.IsValidUTF8) : decode? bs = some (decode bs) := by
  rw [decode?_eq, if_neg (none_notMem_scan_iff.mpr h)]

theorem decode?_of_not_valid (h : ¬bs.toByteArray.IsValidUTF8) : decode? bs = none := by
  rw [decode?_eq, if_pos (not_not.mp fun hnone => h (none_notMem_scan_iff.mp hnone))]

end LineAgents.Utf8
