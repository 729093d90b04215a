import LineAgents.Proofs.Text.CodePoint
import LineAgents.Text.Utf8
import Mathlib.Tactic.SplitIfs

/-!
# What UTF-8 keeps

A text without lone surrogates survives being written as UTF-8 and read back, and the strict reader
accepts what was written: `LineAgents.Utf8.decode_encode` and `LineAgents.Utf8.decode?_encode`. The
argument goes one code point at a time. From the state `ready` the bytes of a scalar value lead back
to `ready` and give that value and nothing else (`LineAgents.Utf8.scanFrom_encodePoint`), so the
code points of the text come out in order; and a text is spelt by its code points
(`LineAgents.Text.ofCodePoints_codePoints`).

The second half is about cutting a byte sequence in two. Reading the halves apart and reading the
whole agree in two cases, and a reader that waits for the end of a character relies on both: the
first half ends where a character ends, or the second begins with a byte that continues nothing
(`LineAgents.Utf8.scan_append_of_ready`, `LineAgents.Utf8.scan_append_of_not_continuing`).
-/

namespace LineAgents

namespace Utf8

/-! ### One byte at the start of a character -/

section Reading

variable {b lo hi : UInt8} {acc n : Nat} {bs : Bytes}

theorem beq_eq_decide_toNat (b c : UInt8) : (b == c) = decide (b.toNat = c.toNat) := by
  rw [Bool.eq_iff_iff]
  simp [UInt8.toNat_inj]

theorem start_of_ascii (h : b.toNat < 0x80) : Reader.start b = ([some b.toNat], .ready) := by
  have h1 : b < 0x80 := h
  rw [Reader.start, if_pos h1]

theorem start_of_two (h : 0xC2 ≤ b.toNat) (h' : b.toNat < 0xE0) :
    Reader.start b = ([], .inside 1 0x80 0xBF (b.toNat - 0xC0)) := by
  rw [Reader.start]
  simp only [UInt8.lt_iff_toNat_lt, UInt8.toNat_ofNat]
  rw [if_neg (by omega), if_neg (by omega), if_pos (by omega)]

/-- After the lead of three bytes the second is kept from spelling a shorter form or a surrogate. -/
theorem start_of_three (h : 0xE0 ≤ b.toNat) (h' : b.toNat < 0xF0) :
    Reader.start b = ([], .inside 2 (if b.toNat = 0xE0 then 0xA0 else 0x80)
      (if b.toNat = 0xED then 0x9F else 0xBF) (b.toNat - 0xE0)) := by
  rw [Reader.start]
  simp only [UInt8.lt_iff_toNat_lt, beq_eq_decide_toNat, UInt8.toNat_ofNat]
  rw [if_neg (by omega), if_neg (by omega), if_neg (by omega)]
  by_cases h0 : b.toNat = 0xE0
  · simp [h0]
  by_cases hd : b.toNat = 0xED
  · simp [hd]
  · simp [h0, hd, h']

/-- After the lead of four bytes the second is kept from spelling a shorter form or a number above
the last code point. -/
theorem start_of_four (h : 0xF0 ≤ b.toNat) (h' : b.toNat < 0xF5) :
    Reader.start b = ([], .inside 3 (if b.toNat = 0xF0 then 0x90 else 0x80)
      (if b.toNat = 0xF4 then 0x8F else 0xBF) (b.toNat - 0xF0)) := by
  rw [Reader.start]
  simp only [UInt8.lt_iff_toNat_lt, beq_eq_decide_toNat, UInt8.toNat_ofNat]
  rw [if_neg (by omega), if_neg (by omega), if_neg (by omega)]
  by_cases h0 : b.toNat = 0xF0
  · simp [h0]
  by_cases h4 : b.toNat = 0xF4
  · simp [h4]
  · have h3 : b.toNat < 0xF4 := by omega
    have he : b.toNat ≠ 0xE0 ∧ b.toNat ≠ 0xED ∧ ¬b.toNat < 0xF0 := by omega
    simp [h0, h4, h3, he]

/-- Every other byte starts no character: one that continues one, one that could only lead to a
shorter form than its character has, or one that could only lead above the last code point. -/
theorem start_of_stray (h : 0x80 ≤ b.toNat ∧ b.toNat < 0xC2 ∨ 0xF5 ≤ b.toNat) :
    Reader.start b = ([none], .ready) := by
  rw [Reader.start]
  simp only [UInt8.lt_iff_toNat_lt, beq_eq_decide_toNat, UInt8.toNat_ofNat, decide_eq_true_eq]
  rw [if_neg (by omega)]
  rcases h with h | h
  · rw [if_pos (by omega)]
  · rw [if_neg (by omega), if_neg (by omega), if_neg (by omega), if_neg (by omega),
      if_neg (by omega), if_neg (by omega), if_neg (by omega), if_neg (by omega)]

/-! ### One byte inside a character -/

theorem scanFrom_inside_one (h : lo.toNat ≤ b.toNat) (h' : b.toNat ≤ hi.toNat) :
    scanFrom (.inside 1 lo hi acc) (b :: bs) =
      some (acc * 64 + (b.toNat - 0x80)) :: scanFrom .ready bs := by
  have hr : (decide (lo ≤ b) && decide (b ≤ hi)) = true := by
    simpa [UInt8.le_iff_toNat_le] using ⟨h, h'⟩
  simp [scanFrom, Reader.step, hr]

theorem scanFrom_inside_succ (h : lo.toNat ≤ b.toNat) (h' : b.toNat ≤ hi.toNat) :
    scanFrom (.inside (n + 2) lo hi acc) (b :: bs) =
      scanFrom (.inside (n + 1) 0x80 0xBF (acc * 64 + (b.toNat - 0x80))) bs := by
  have hr : (decide (lo ≤ b) && decide (b ≤ hi)) = true := by
    simpa [UInt8.le_iff_toNat_le] using ⟨h, h'⟩
  simp [scanFrom, Reader.step, hr]

end Reading

/-! ### A text written and read back -/

/-- A number below 256 is the value of a byte. -/
theorem exists_byte {n : Nat} (h : n < 256) : ∃ b : UInt8, n.toUInt8 = b ∧ b.toNat = n :=
  ⟨n.toUInt8, rfl, by simpa using h⟩

section Point

variable {c : Nat} (bs : Bytes)

/-! The bytes of a scalar value, by how many they are. -/

theorem encodePoint_one (h : c < 0x80) : encodePoint c = [c.toUInt8] := if_pos h

theorem encodePoint_two (h : 0x80 ≤ c) (h' : c < 0x800) :
    encodePoint c = [(0xC0 + c / 64).toUInt8, (0x80 + c % 64).toUInt8] := by
  rw [encodePoint, if_neg (Nat.not_lt.mpr h), if_pos h']

theorem encodePoint_three (h : 0x800 ≤ c) (h' : c < 0x10000) (hc : Text.isScalar c = true) :
    encodePoint c =
      [(0xE0 + c / 4096).toUInt8, (0x80 + c / 64 % 64).toUInt8, (0x80 + c % 64).toUInt8] := by
  rw [encodePoint, if_neg (by omega), if_neg (by omega), hc, if_neg (by simp), if_pos h']

theorem encodePoint_four (h : 0x10000 ≤ c) (hc : Text.isScalar c = true) :
    encodePoint c = [(0xF0 + c / 262144).toUInt8, (0x80 + c / 4096 % 64).toUInt8,
      (0x80 + c / 64 % 64).toUInt8, (0x80 + c % 64).toUInt8] := by
  rw [encodePoint, if_neg (by omega), if_neg (by omega), hc, if_neg (by simp),
    if_neg (Nat.not_lt.mpr h)]

/-- Two bytes, from `0x80` on. -/
theorem scanFrom_two (h : 0x80 ≤ c) (h' : c < 0x800) :
    scanFrom .ready ((0xC0 + c / 64).toUInt8 :: (0x80 + c % 64).toUInt8 :: bs) =
      some c :: scanFrom .ready bs := by
  obtain ⟨b, hb, hbn⟩ := exists_byte (n := 0xC0 + c / 64) (by omega)
  obtain ⟨b', hb', hbn'⟩ := exists_byte (n := 0x80 + c % 64) (by omega)
  have h80 : (0x80 : UInt8).toNat = 0x80 := rfl
  have hBF : (0xBF : UInt8).toNat = 0xBF := rfl
  have hvalue : (b.toNat - 0xC0) * 64 + (b'.toNat - 0x80) = c := by omega
  rw [hb, hb', scanFrom, Reader.step, start_of_two (by omega) (by omega), List.nil_append,
    scanFrom_inside_one (by omega) (by omega), hvalue]

/-- Three bytes, from `0x800` on; the range of the second leaves out the surrogates. -/
theorem scanFrom_three (h : 0x800 ≤ c) (h' : c < 0x10000) (hc : Text.isScalar c = true) :
    scanFrom .ready ((0xE0 + c / 4096).toUInt8 :: (0x80 + c / 64 % 64).toUInt8 ::
      (0x80 + c % 64).toUInt8 :: bs) = some c :: scanFrom .ready bs := by
  have hscalar := (Text.isScalar_iff c).mp hc
  obtain ⟨b, hb, hbn⟩ := exists_byte (n := 0xE0 + c / 4096) (by omega)
  obtain ⟨b', hb', hbn'⟩ := exists_byte (n := 0x80 + c / 64 % 64) (by omega)
  obtain ⟨b'', hb'', hbn''⟩ := exists_byte (n := 0x80 + c % 64) (by omega)
  have h80 : (0x80 : UInt8).toNat = 0x80 := rfl
  have hBF : (0xBF : UInt8).toNat = 0xBF := rfl
  have hlo : (if b.toNat = 0xE0 then 0xA0 else 0x80 : UInt8).toNat ≤ b'.toNat := by
    split
    · change 0xA0 ≤ b'.toNat
      omega
    · omega
  have hhi : b'.toNat ≤ (if b.toNat = 0xED then 0x9F else 0xBF : UInt8).toNat := by
    split
    · change b'.toNat ≤ 0x9F
      omega
    · omega
  have hvalue : ((b.toNat - 0xE0) * 64 + (b'.toNat - 0x80)) * 64 + (b''.toNat - 0x80) = c := by
    omega
  rw [hb, hb', hb'', scanFrom, Reader.step, start_of_three (by omega) (by omega), List.nil_append,
    scanFrom_inside_succ hlo hhi, scanFrom_inside_one (by omega) (by omega), hvalue]

/-- Four bytes, from `0x10000` on; the range of the second ends with the last code point. -/
theorem scanFrom_four (h : 0x10000 ≤ c) (hc : Text.isScalar c = true) :
    scanFrom .ready ((0xF0 + c / 262144).toUInt8 :: (0x80 + c / 4096 % 64).toUInt8 ::
      (0x80 + c / 64 % 64).toUInt8 :: (0x80 + c % 64).toUInt8 :: bs) =
      some c :: scanFrom .ready bs := by
  have hscalar := (Text.isScalar_iff c).mp hc
  obtain ⟨b, hb, hbn⟩ := exists_byte (n := 0xF0 + c / 262144) (by omega)
  obtain ⟨b', hb', hbn'⟩ := exists_byte (n := 0x80 + c / 4096 % 64) (by omega)
  obtain ⟨b'', hb'', hbn''⟩ := exists_byte (n := 0x80 + c / 64 % 64) (by omega)
  obtain ⟨d, hd, hdn⟩ := exists_byte (n := 0x80 + c % 64) (by omega)
  have h80 : (0x80 : UInt8).toNat = 0x80 := rfl
  have hBF : (0xBF : UInt8).toNat = 0xBF := rfl
  have hlo : (if b.toNat = 0xF0 then 0x90 else 0x80 : UInt8).toNat ≤ b'.toNat := by
    split
    · change 0x90 ≤ b'.toNat
      omega
    · omega
  have hhi : b'.toNat ≤ (if b.toNat = 0xF4 then 0x8F else 0xBF : UInt8).toNat := by
    split
    · change b'.toNat ≤ 0x8F
      omega
    · omega
  have hvalue : (((b.toNat - 0xF0) * 64 + (b'.toNat - 0x80)) * 64 + (b''.toNat - 0x80)) * 64 +
      (d.toNat - 0x80) = c := by
    omega
  rw [hb, hb', hb'', hd, scanFrom, Reader.step, start_of_four (by omega) (by omega),
    List.nil_append, scanFrom_inside_succ hlo hhi, scanFrom_inside_succ (by omega) (by omega),
    scanFrom_inside_one (by omega) (by omega), hvalue]

/-- **One scalar value**: from the start of a character its bytes give that value, and the reader is
at the start of a character again. -/
theorem scanFrom_encodePoint (hc : Text.isScalar c = true) :
    scanFrom .ready (encodePoint c ++ bs) = some c :: scanFrom .ready bs := by
  by_cases h1 : c < 0x80
  · obtain ⟨b, hb, hbn⟩ := exists_byte (n := c) (by omega)
    rw [encodePoint_one h1, hb, List.cons_append, scanFrom, Reader.step,
      start_of_ascii (by omega), hbn]
    rfl
  by_cases h2 : c < 0x800
  · rw [encodePoint_two (by omega) h2]
    exact scanFrom_two bs (by omega) h2
  by_cases h3 : c < 0x10000
  · rw [encodePoint_three (by omega) h3 hc]
    exact scanFrom_three bs (by omega) h3 hc
  · rw [encodePoint_four (by omega) hc]
    exact scanFrom_four bs (by omega) hc

end Point

/-- **Scalar values one after the other** are read as they were written. -/
theorem scan_flatMap_encodePoint {cs : List Nat} (h : ∀ c ∈ cs, Text.isScalar c = true) :
    scan (cs.flatMap encodePoint) = cs.map some := by
  induction cs with
  | nil => rfl
  | cons c cs ih =>
    rw [scan] at ih ⊢
    rw [List.flatMap_cons, scanFrom_encodePoint _ (h c List.mem_cons_self),
      ih fun d hd => h d (List.mem_cons_of_mem _ hd)]
    rfl

/-- **The characters of a written text are its code points.** -/
theorem scan_encode {t : Text} (h : t.wellFormed = true) :
    scan (encode t) = t.codePoints.map some :=
  scan_flatMap_encodePoint (List.all_eq_true.mp h)

/-- Scalar values one after the other are read as the text that they spell. -/
theorem decode_flatMap_encodePoint {cs : List Nat} (h : ∀ c ∈ cs, Text.isScalar c = true) :
    decode (cs.flatMap encodePoint) = Text.ofCodePoints cs := by
  rw [decode, scan_flatMap_encodePoint h, List.map_map]
  exact congrArg Text.ofCodePoints (List.map_id cs)

/-- **Nothing is lost**: a text without lone surrogates is read back from its bytes. -/
theorem decode_encode {t : Text} (h : t.wellFormed = true) : decode (encode t) = t :=
  (decode_flatMap_encodePoint (List.all_eq_true.mp h)).trans (Text.ofCodePoints_codePoints t)

/-- A list in which nothing is missing, as the list of what is there. -/
theorem mapM_id_eq (os : List (Option Nat)) :
    os.mapM id = if none ∈ os then none else some (os.map (·.getD replacement)) := by
  induction os with
  | nil => rfl
  | cons o os ih =>
    cases o with
    | none => simp
    | some c =>
      rw [List.mapM_cons, ih]
      by_cases hmissing : none ∈ os <;> simp [hmissing]

/-- **The strict reader beside the lenient one**: where no bytes are ill-formed the two give the
same text, and for other bytes the strict reader gives none. -/
theorem decode?_eq (bs : Bytes) :
    decode? bs = if none ∈ scan bs then none else some (decode bs) := by
  rw [decode?, mapM_id_eq, decode]
  split <;> rfl

/-- The strict reader accepts what was written. -/
theorem decode?_encode {t : Text} (h : t.wellFormed = true) : decode? (encode t) = some t := by
  rw [decode?_eq, if_neg (by simp [scan_encode h]), decode_encode h]

/-! ### Cutting a byte sequence in two -/

/-- The state after a byte sequence. -/
def Reader.run (s : Reader) : Bytes → Reader
  | [] => s
  | b :: bs => (s.step b).2.run bs

/-- The number of continuation bytes that a state waits for. -/
def Reader.left : Reader → Nat
  | .ready => 0
  | .inside left _ _ _ => left

/-- **A sound state** waits for something inside a character, and only for bytes that continue one;
no other state is ever reached. -/
def Reader.Sound : Reader → Prop
  | .ready => True
  | .inside left lo hi _ => 0 < left ∧ 0x80 ≤ lo.toNat ∧ hi.toNat < 0xC0

theorem Reader.sound_start (b : UInt8) : (Reader.start b).2.Sound := by
  rw [Reader.start]
  split_ifs <;> simp [Reader.Sound]

theorem Reader.Sound.step {s : Reader} (hs : s.Sound) (b : UInt8) : (s.step b).2.Sound := by
  cases s with
  | ready => exact sound_start b
  | inside left lo hi acc =>
    rw [Reader.step]
    split_ifs with hin hleft
    · trivial
    · exact ⟨by omega, by decide, by decide⟩
    · exact sound_start b

theorem Reader.Sound.run {s : Reader} (hs : s.Sound) (bs : Bytes) : (s.run bs).Sound := by
  induction bs generalizing s with
  | nil => exact hs
  | cons b bs ih => exact ih (hs.step b)

/-- A sound state that waits for nothing is the start of a character. -/
theorem Reader.Sound.eq_ready {s : Reader} (hs : s.Sound) (h : s.left = 0) : s = .ready := by
  cases s with
  | ready => rfl
  | inside left lo hi acc =>
    obtain rfl : left = 0 := h
    exact absurd hs.1 (by omega)

/-- Every byte that can continue a character brings its end nearer, also one out of range. -/
theorem Reader.left_step_le {s : Reader} {b : UInt8} (h : 0x80 ≤ b.toNat) (h' : b.toNat < 0xC0) :
    (s.step b).2.left ≤ s.left - 1 := by
  cases s with
  | ready =>
    rw [Reader.step, start_of_stray (Or.inl ⟨h, by omega⟩)]
    exact Nat.zero_le _
  | inside left lo hi acc =>
    rw [Reader.step]
    split_ifs with hin hleft
    · exact Nat.zero_le _
    · exact Nat.le_refl _
    · rw [start_of_stray (Or.inl ⟨h, by omega⟩)]
      exact Nat.zero_le _

/-- A byte that continues nothing ends what was there and starts anew. -/
theorem scanFrom_of_not_continuing {s : Reader} (hs : s.Sound) {b : UInt8}
    (hb : b.toNat < 0x80 ∨ 0xC0 ≤ b.toNat) (bs : Bytes) :
    scanFrom s (b :: bs) = s.finish ++ scanFrom .ready (b :: bs) := by
  cases s with
  | ready => rfl
  | inside left lo hi acc =>
    obtain ⟨-, hlo, hhi⟩ := hs
    have hout : (decide (lo ≤ b) && decide (b ≤ hi)) = false := by
      rw [Bool.and_eq_false_iff, decide_eq_false_iff_not, decide_eq_false_iff_not,
        UInt8.le_iff_toNat_le, UInt8.le_iff_toNat_le]
      omega
    simp [scanFrom, Reader.step, Reader.finish, hout]

/-- **Reading in two parts**: where the state after the first part ends what it has before the
second part is read, the whole reads as the two parts do. -/
theorem scanFrom_append {s : Reader} {as cs : Bytes}
    (h : scanFrom (s.run as) cs = (s.run as).finish ++ scanFrom .ready cs) :
    scanFrom s (as ++ cs) = scanFrom s as ++ scanFrom .ready cs := by
  induction as generalizing s with
  | nil => exact h
  | cons a as ih =>
    rw [List.cons_append, scanFrom, scanFrom, ih h, List.append_assoc]

/-- A cut after the end of a character. -/
theorem scan_append_of_ready {as : Bytes} (h : Reader.run .ready as = .ready) (cs : Bytes) :
    scan (as ++ cs) = scan as ++ scan cs := by
  refine scanFrom_append ?_
  rw [h]
  rfl

/-- A cut before a byte that continues nothing. -/
theorem scan_append_of_not_continuing (as : Bytes) {b : UInt8}
    (hb : b.toNat < 0x80 ∨ 0xC0 ≤ b.toNat) (cs : Bytes) :
    scan (as ++ b :: cs) = scan as ++ scan (b :: cs) :=
  scanFrom_append (scanFrom_of_not_continuing (Reader.Sound.run (s := .ready) trivial as) hb cs)

/-- Two parts that are read apart give their texts one after the other. -/
theorem decode_append {as cs : Bytes} (h : scan (as ++ cs) = scan as ++ scan cs) :
    decode (as ++ cs) = decode as ++ decode cs := by
  rw [decode, h, List.map_append, Text.ofCodePoints, List.flatMap_append]
  rfl

end Utf8

end LineAgents
