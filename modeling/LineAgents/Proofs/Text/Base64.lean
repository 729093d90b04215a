import LineAgents.Text.Base64

/-!
# Spellings in base64

Bytes have many spellings in base64 (`LineAgents.Base64.Spells`): in either of two alphabets, with
the padding at the end or without it, and with white space anywhere. The reader is lenient about all
of this, and reads every spelling as the bytes it spells (`LineAgents.Base64.Spells.decode_eq`).

Bytes are cut into sextets, groups of six bits, of which there are two, three or four for one, two
or three bytes (`LineAgents.Base64.sextets`); packing them again gives the bytes
(`LineAgents.Base64.pack_sextets`). A digit stands for a sextet in both alphabets, and what is no
digit is passed over, so the digits of a spelling are the sextets of its bytes
(`LineAgents.Base64.Spells.digits_eq`).
-/

namespace LineAgents.Base64

/-! ### Spellings -/

/-- The digits of the standard alphabet. -/
def standardAlphabet : Text :=
  "ABCDEFGHIJKLMNOPQRSTUVWXYZabcdefghijklmnopqrstuvwxyz0123456789+/"

/-- The digits of the alphabet for URLs. -/
def urlAlphabet : Text := "ABCDEFGHIJKLMNOPQRSTUVWXYZabcdefghijklmnopqrstuvwxyz0123456789-_"

/-- The white space among the ASCII units. -/
def asciiSpaces : Text := [9, 10, 11, 12, 13, 32]

/-- **The sextets of bytes**; those of a last incomplete group are filled up with zeros. -/
def sextets : Bytes → List Nat
  | a :: b :: c :: rest =>
    a.toNat / 4 :: (a.toNat % 4 * 16 + b.toNat / 16) :: (b.toNat % 16 * 4 + c.toNat / 64) ::
      c.toNat % 64 :: sextets rest
  | [a, b] => [a.toNat / 4, a.toNat % 4 * 16 + b.toNat / 16, b.toNat % 16 * 4]
  | [a] => [a.toNat / 4, a.toNat % 4 * 16]
  | [] => []

/-- The padding behind the digits of bytes, to a multiple of four. -/
def padding (b : Bytes) : Text := List.replicate ((3 - b.length % 3) % 3) 61

/-- **The digits of bytes** in an alphabet, with their padding or without. -/
def encode (alphabet : Text) (padded : Bool) (b : Bytes) : Text :=
  (sextets b).map (alphabet.getD · 0) ++ if padded then padding b else []

/-- **A text spells bytes** when it is made of their digits in one of the alphabets, padded or not,
and of white space. -/
def Spells (s : Text) (b : Bytes) : Prop :=
  ∃ alphabet ∈ [standardAlphabet, urlAlphabet], ∃ padded : Bool,
    s.filter (· ∉ asciiSpaces) = encode alphabet padded b

/-! ### Sextets -/

theorem sextets_lt (b : Bytes) : ∀ n ∈ sextets b, n < 64 := by
  induction b using sextets.induct with
  | case1 a b c rest ih =>
    have ha := a.toNat_lt
    have hb := b.toNat_lt
    simp only [sextets, List.mem_cons]
    rintro n (rfl | rfl | rfl | rfl | hn)
    · omega
    · omega
    · have hc := c.toNat_lt
      omega
    · omega
    · exact ih n hn
  | case2 a b =>
    have ha := a.toNat_lt
    have hb := b.toNat_lt
    simp only [sextets, List.mem_cons, List.not_mem_nil, or_false]
    rintro n (rfl | rfl | rfl) <;> omega
  | case3 a =>
    have ha := a.toNat_lt
    simp only [sextets, List.mem_cons, List.not_mem_nil, or_false]
    rintro n (rfl | rfl) <;> omega
  | case4 => exact fun n hn => absurd hn List.not_mem_nil

/-- **The sextets of bytes are packed into the bytes again.** -/
theorem pack_sextets (b : Bytes) : pack (sextets b) = b := by
  have hbyte : ∀ (x : UInt8) (n : Nat), n = x.toNat → n.toUInt8 = x := by
    rintro x n rfl
    exact UInt8.ofNat_toNat
  induction b using sextets.induct with
  | case1 a b c rest ih =>
    have hb := b.toNat_lt
    have hc := c.toNat_lt
    rw [sextets, pack, ih, hbyte a _ (by omega), hbyte b _ (by omega), hbyte c _ (by omega)]
  | case2 a b =>
    have hb := b.toNat_lt
    rw [sextets, pack, hbyte a _ (by omega), hbyte b _ (by omega)]
  | case3 a => rw [sextets, pack, hbyte a _ (by omega)]
  | case4 => rw [sextets, pack] <;> simp

/-! ### Digits -/

/-- A padding sign ends the digits, and a unit that is no digit is passed over. -/
theorem digits_cons (u : UInt16) (t : Text) : digits (u :: t) =
    if u &&& 0xFF = 61 then [] else (digitValue? (u &&& 0xFF)).toList ++ digits t := by
  rw [digits, List.map_cons, List.takeWhile_cons]
  split
  · rename_i h
    rw [if_neg (bne_iff_ne.mp h)]
    cases hd : digitValue? (u &&& 0xFF) with
    | none => rw [List.filterMap_cons_none hd]; rfl
    | some n => rw [List.filterMap_cons_some hd]; rfl
  · rename_i h
    rw [if_pos (by simpa using h)]
    rfl

/-- White space is no part of the digits, and is no padding. -/
theorem digitValue?_of_mem_asciiSpaces {u : UInt16} (hu : u ∈ asciiSpaces) :
    digitValue? (u &&& 0xFF) = none ∧ u &&& 0xFF ≠ 61 := by
  have hall : asciiSpaces.all (fun u =>
      decide (digitValue? (u &&& 0xFF) = none ∧ u &&& 0xFF ≠ 61)) = true := by decide
  exact of_decide_eq_true (List.all_eq_true.mp hall u hu)

theorem digits_filter (t : Text) : digits (t.filter (· ∉ asciiSpaces)) = digits t := by
  induction t with
  | nil => rfl
  | cons u t ih =>
    by_cases hu : u ∈ asciiSpaces
    · obtain ⟨hnone, hne⟩ := digitValue?_of_mem_asciiSpaces hu
      rw [List.filter_cons_of_neg (by simpa using hu), ih, digits_cons, if_neg hne, hnone]
      rfl
    · rw [List.filter_cons_of_pos (by simpa using hu), digits_cons, digits_cons, ih]

/-- **A digit stands for its place**, in both alphabets. -/
theorem digitValue?_getD : ∀ alphabet ∈ [standardAlphabet, urlAlphabet], ∀ n ∈ List.range 64,
    alphabet.getD n 0 &&& 0xFF = alphabet.getD n 0 ∧ alphabet.getD n 0 ≠ 61 ∧
      digitValue? (alphabet.getD n 0) = some n := by
  decide +kernel

theorem digits_padding (b : Bytes) : digits (padding b) = [] := by
  rw [padding]
  cases (3 - b.length % 3) % 3 with
  | zero => rfl
  | succ n =>
    rw [List.replicate_succ, digits_cons]
    rfl

section

variable {alphabet : Text} (h : alphabet ∈ [standardAlphabet, urlAlphabet])
include h

theorem digits_map_append {ns : List Nat} (hns : ∀ n ∈ ns, n < 64) (t : Text) :
    digits (ns.map (alphabet.getD · 0) ++ t) = ns ++ digits t := by
  induction ns with
  | nil => rfl
  | cons n ns ih =>
    obtain ⟨hlow, hne, hvalue⟩ :=
      digitValue?_getD alphabet h n (List.mem_range.mpr (hns n List.mem_cons_self))
    rw [List.map_cons, List.cons_append, digits_cons, hlow, if_neg hne, hvalue,
      ih fun m hm => hns m (List.mem_cons_of_mem n hm)]
    rfl

/-- **The digits of bytes are read as their sextets.** -/
theorem digits_encode (padded : Bool) (b : Bytes) :
    digits (encode alphabet padded b) = sextets b := by
  have hrest : digits (if padded then padding b else []) = [] := by
    cases padded with
    | true => exact digits_padding b
    | false => rfl
  rw [encode, digits_map_append h (sextets_lt b), hrest, List.append_nil]

/-- What the digits of bytes are made of: digits, and the padding sign. -/
theorem digit_or_padding_of_mem_encode {padded : Bool} {b : Bytes} {u : UInt16}
    (hu : u ∈ encode alphabet padded b) : (digitValue? u).isSome ∨ u = 61 := by
  rw [encode, List.mem_append] at hu
  rcases hu with hu | hu
  · obtain ⟨n, hn, rfl⟩ := List.mem_map.mp hu
    have hvalue := (digitValue?_getD alphabet h n (List.mem_range.mpr (sextets_lt b n hn))).2.2
    exact Or.inl (by rw [hvalue]; rfl)
  · cases padded with
    | true => exact Or.inr (List.eq_of_mem_replicate hu)
    | false => exact absurd hu List.not_mem_nil

end

/-! ### Every spelling is read back -/

namespace Spells

variable {s : Text} {b : Bytes} (h : Spells s b)
include h

theorem digits_eq : digits s = sextets b := by
  obtain ⟨alphabet, hmem, padded, hs⟩ := h
  rw [← digits_filter, hs, digits_encode hmem]

/-- **Every spelling of bytes is read as those bytes.** -/
theorem decode_eq : decode s = b := by
  rw [decode, h.digits_eq, pack_sextets]

/-- What a spelling is made of. -/
theorem of_mem {u : UInt16} (hu : u ∈ s) :
    u ∈ asciiSpaces ∨ (digitValue? u).isSome ∨ u = 61 := by
  obtain ⟨alphabet, hmem, padded, hs⟩ := h
  by_cases hspace : u ∈ asciiSpaces
  · exact Or.inl hspace
  · have hkept : u ∈ s.filter (· ∉ asciiSpaces) :=
      List.mem_filter.mpr ⟨hu, by simpa using hspace⟩
    rw [hs] at hkept
    exact Or.inr (digit_or_padding_of_mem_encode hmem hkept)

/-- A spelling of something is not empty. -/
theorem ne_nil (hb : b ≠ []) : s ≠ [] := by
  rintro rfl
  exact hb h.decode_eq.symm

end Spells

end LineAgents.Base64
