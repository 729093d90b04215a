import LineAgents.Proofs.Text.Utf8
import LineAgents.Text.Percent

/-!
# Percent encoding, read back

What is percent encoded can stand in a URL without adding anything to it: an encoding is made of
letters, digits and a few marks that mean nothing there, and of escapes
(`LineAgents.Percent.Encoded`). And nothing is lost: an encoding spells bytes
(`LineAgents.Percent.bytes?`), those bytes are the UTF-8 of the text, and so the text can be read
back (`LineAgents.Percent.decode?_of_encode?`). Two texts of one encoding are therefore one text.

A text is written code point by code point and read byte by byte. The two meet at the bytes of one
code point, which are read off the front of any text (`LineAgents.Percent.bytes?_encodePoint`).
-/

namespace LineAgents.Percent

/-! ### What an encoding is made of -/

/-- **A unit that stands for itself**: a letter or a digit, or one of nine marks. -/
def StandsForItself (u : UInt16) : Prop :=
  Text.isLetter u = true ∨ Text.isDigit u = true ∨ u ∈ Text.ofString "-_.!~*'()"

instance (u : UInt16) : Decidable (StandsForItself u) :=
  inferInstanceAs (Decidable (_ ∨ _ ∨ _))

/-- **An encoding**: units that stand for themselves, and escapes, which are two hexadecimal digits
after a percent sign. -/
inductive Encoded : Text → Prop
  | nil : Encoded []
  | unit {u : UInt16} {t : Text} (hu : StandsForItself u) (ht : Encoded t) : Encoded (u :: t)
  | escape {a b : UInt16} {t : Text} (ha : (Text.hexValue? a).isSome = true)
      (hb : (Text.hexValue? b).isSome = true) (ht : Encoded t) : Encoded (37 :: a :: b :: t)

theorem Encoded.append {s t : Text} (hs : Encoded s) (ht : Encoded t) : Encoded (s ++ t) := by
  induction hs with
  | nil => exact ht
  | unit hu _ ih => exact .unit hu ih
  | escape ha hb _ ih => exact .escape ha hb ih

/-- A hexadecimal digit is a digit or a letter. -/
theorem standsForItself_of_hexValue? {u : UInt16} (h : (Text.hexValue? u).isSome = true) :
    StandsForItself u := by
  rw [Text.hexValue?, Option.isSome_filter, Option.any_eq_true] at h
  obtain ⟨n, hn, -⟩ := h
  rw [Text.digitValue?] at hn
  split at hn
  · rename_i hdigit
    exact Or.inr (Or.inl hdigit)
  · split at hn
    · rename_i hlower
      exact Or.inl (by rw [Text.isLetter, hlower, Bool.or_true])
    · split at hn
      · rename_i hupper
        exact Or.inl (by rw [Text.isLetter, hupper, Bool.true_or])
      · cases hn

/-- **There is nothing else in an encoding** but the percent signs of its escapes. -/
theorem Encoded.of_mem {t : Text} (h : Encoded t) {u : UInt16} (hu : u ∈ t) :
    StandsForItself u ∨ u = 37 := by
  induction h with
  | nil => cases hu
  | unit hv _ ih =>
    rcases List.mem_cons.mp hu with rfl | hu
    · exact Or.inl hv
    · exact ih hu
  | escape ha hb _ ih =>
    rcases List.mem_cons.mp hu with rfl | hu
    · exact Or.inr rfl
    · rcases List.mem_cons.mp hu with rfl | hu
      · exact Or.inl (standsForItself_of_hexValue? ha)
      · rcases List.mem_cons.mp hu with rfl | hu
        · exact Or.inl (standsForItself_of_hexValue? hb)
        · exact ih hu

/-! ### Reading an encoding -/

/-- The byte of two hexadecimal digits. -/
def byteOfHex? (a b : UInt16) : Option UInt8 := do
  let high ← Text.hexValue? a
  let low ← Text.hexValue? b
  return (high * 16 + low).toUInt8

/-- **The bytes that an encoding spells**: an escape is the byte of its digits, and any other ASCII
character is its own byte. -/
def bytes? : Text → Option Bytes
  | [] => some []
  | 37 :: a :: b :: t => do return (← byteOfHex? a b) :: (← bytes? t)
  | u :: t => if u = 37 ∨ 0x80 ≤ u then none else (bytes? t).map (u.toUInt8 :: ·)

/-- **The text that an encoding stands for.** -/
def decode? (t : Text) : Option Text := (bytes? t).bind Utf8.decode?

/-! ### Escapes -/

theorem hexValue?_hexDigit {n : Nat} (h : n < 16) : Text.hexValue? (hexDigit n) = some n := by
  have hall : ∀ n < 16, Text.hexValue? (hexDigit n) = some n := by decide
  exact hall n h

theorem byteOfHex?_hexDigit (b : UInt8) :
    byteOfHex? (hexDigit (b.toNat / 16)) (hexDigit (b.toNat % 16)) = some b := by
  have hb : b.toNat < 256 := b.toNat_lt
  have hsum : b.toNat / 16 * 16 + b.toNat % 16 = b.toNat := by omega
  rw [byteOfHex?, hexValue?_hexDigit (by omega), hexValue?_hexDigit (by omega)]
  simp only [Option.pure_def, Option.bind_eq_bind, Option.bind_some, hsum]
  simp

theorem bytes?_escapeByte (b : UInt8) (t : Text) :
    bytes? (escapeByte b ++ t) = (bytes? t).map (b :: ·) := by
  change bytes? (37 :: _ :: _ :: t) = _
  rw [bytes?, byteOfHex?_hexDigit]
  cases bytes? t <;> rfl

theorem bytes?_flatMap_escapeByte (bs : Bytes) (t : Text) :
    bytes? (bs.flatMap escapeByte ++ t) = (bytes? t).map (bs ++ ·) := by
  induction bs with
  | nil => exact (congrFun Option.map_id (bytes? t)).symm
  | cons b bs ih =>
    rw [List.flatMap_cons, List.append_assoc, bytes?_escapeByte, ih, Option.map_map]
    rfl

theorem encoded_escapeByte (b : UInt8) : Encoded (escapeByte b) := by
  have hb : b.toNat < 256 := b.toNat_lt
  refine .escape ?_ ?_ .nil
  · rw [hexValue?_hexDigit (by omega), Option.isSome_some]
  · rw [hexValue?_hexDigit (by omega), Option.isSome_some]

/-! ### One code point -/

section Point

variable {c : Nat}

/-- An unreserved character is in ASCII, is no percent sign, and stands for itself. -/
theorem of_isUnreserved (h : isUnreserved c = true) :
    c < 0x80 ∧ c ≠ 37 ∧ StandsForItself c.toUInt16 := by
  have hascii : c < 0x80 := by
    simp only [isUnreserved, Bool.or_eq_true, Bool.and_eq_true, decide_eq_true_eq,
      List.contains_iff_mem, List.mem_cons, List.not_mem_nil, or_false] at h
    omega
  have hall : ∀ c < 0x80, isUnreserved c = true → c ≠ 37 ∧ StandsForItself c.toUInt16 := by
    decide +kernel
  exact ⟨hascii, hall c hascii h⟩

theorem bytes?_unit (h : isUnreserved c = true) (t : Text) :
    bytes? (c.toUInt16 :: t) = (bytes? t).map (c.toUInt8 :: ·) := by
  obtain ⟨hascii, hpercent, -⟩ := of_isUnreserved h
  have hnat : c.toUInt16.toNat = c := UInt16.toNat_ofNat_of_lt' (Nat.lt_trans hascii (by decide))
  have hne : c.toUInt16 ≠ 37 := fun heq => hpercent (by rw [← hnat, heq]; rfl)
  have hlt : ¬(0x80 : UInt16) ≤ c.toUInt16 := by
    rw [UInt16.le_iff_toNat_le, hnat]
    exact Nat.not_le.mpr hascii
  have hbyte : c.toUInt16.toUInt8 = c.toUInt8 := by
    apply UInt8.toNat.inj
    rw [UInt16.toNat_toUInt8, hnat]
    rfl
  rw [bytes?]
  · rw [if_neg (not_or.mpr ⟨hne, hlt⟩), hbyte]
  · exact fun a b s heq => absurd heq hne

/-- **One code point**: its bytes are read off the front of a text that begins with its
encoding. -/
theorem bytes?_encodePoint (c : Nat) (t : Text) :
    bytes? (encodePoint c ++ t) = (bytes? t).map (Utf8.encodePoint c ++ ·) := by
  rw [encodePoint]
  split
  · rename_i h
    rw [Utf8.encodePoint_one (of_isUnreserved h).1]
    exact bytes?_unit h t
  · exact bytes?_flatMap_escapeByte _ t

theorem encoded_encodePoint (c : Nat) : Encoded (encodePoint c) := by
  rw [encodePoint]
  split
  · rename_i h
    exact .unit (of_isUnreserved h).2.2 .nil
  · induction Utf8.encodePoint c with
    | nil => exact .nil
    | cons b bs ih => exact (encoded_escapeByte b).append ih

end Point

/-! ### A text -/

section

variable {s t q : Text}

/-- **A text without lone surrogates has an encoding**, and no other text has one. -/
theorem encode?_eq_some_iff :
    encode? t = some q ↔ t.wellFormed = true ∧ t.codePoints.flatMap encodePoint = q := by
  rw [encode?]
  split
  · rename_i h
    simp [h]
  · rename_i h
    simp [h]

theorem encoded_of_encode? (h : encode? t = some q) : Encoded q := by
  obtain ⟨-, rfl⟩ := encode?_eq_some_iff.mp h
  induction t.codePoints with
  | nil => exact .nil
  | cons c cs ih => exact (encoded_encodePoint c).append ih

/-- The bytes that an encoding spells are those of the text. -/
theorem bytes?_of_encode? (h : encode? t = some q) : bytes? q = some (Utf8.encode t) := by
  obtain ⟨-, rfl⟩ := encode?_eq_some_iff.mp h
  rw [Utf8.encode]
  induction t.codePoints with
  | nil => rfl
  | cons c cs ih =>
    rw [List.flatMap_cons, bytes?_encodePoint, ih]
    rfl

/-- **A text is read back from its encoding.** -/
theorem decode?_of_encode? (h : encode? t = some q) : decode? q = some t := by
  rw [decode?, bytes?_of_encode? h, Option.bind_some,
    Utf8.decode?_encode (encode?_eq_some_iff.mp h).1]

/-- Two texts of one encoding are one text. -/
theorem eq_of_encode?_eq (hs : encode? s = some q) (ht : encode? t = some q) : s = t :=
  Option.some_inj.mp ((decode?_of_encode? hs).symm.trans (decode?_of_encode? ht))

end

end LineAgents.Percent
