import LineAgents.Proofs.Text.Pieces
import LineAgents.Proofs.Text.Utf8
import LineAgents.Session.Lines
import Mathlib.Data.List.Induction
import Mathlib.Tactic.Push

/-!
# Which lines a byte stream has

The reader of lines takes one byte at a time; this file says what comes out at the end, without
mentioning the reader. Two definitions do it, one for each thing the reader carries along:

* `LineAgents.Lines.heldBack` is what the end of a stream leaves of an unfinished character, and
  `LineAgents.Lines.finished` is the stream without it;
* `LineAgents.Lines.split` cuts a text at its line ends: every line end is first written as one line
  feed (`LineAgents.Lines.unifyEnds`), and the pieces between line feeds are the lines, the last one
  only if it is not empty.

The lines of a stream are then the lines of the text that its finished part spells
(`LineAgents.Lines.ofBytes_eq_split`), the replacement character standing for ill-formed bytes.
-/

namespace LineAgents.Lines

/-! ### The end of a stream -/

/-- **What is held back at the end of a stream**: a byte that announces a character and what follows
of it, as long as that is not all of it. -/
def heldBack (bs : Bytes) : Bytes :=
  let continuing := (bs.reverse.takeWhile isContinuation).reverse
  match bs.reverse.dropWhile isContinuation with
  | lead :: _ => if continuing.length + 1 < announced lead then lead :: continuing else []
  | [] => []

/-- The stream without the unfinished character at its end. -/
def finished (bs : Bytes) : Bytes := bs.take (bs.length - (heldBack bs).length)

/-! ### Lines of a text -/

/-- The text with each of its line ends written as one line feed: a line feed, a carriage return, or
the two together; the units `ends` are line ends besides. -/
def unifyEnds (ends : List UInt16) : Text → Text
  | [] => []
  | 13 :: 10 :: t => 10 :: unifyEnds ends t
  | u :: t => (if u = 13 ∨ u ∈ ends then 10 else u) :: unifyEnds ends t

/-- **The lines of a text**; what follows the last line end is a line unless it is empty. -/
def split (ends : List UInt16) (t : Text) : List Text :=
  let pieces := Text.splitOn 10 (unifyEnds ends t)
  if pieces.getLast? = some [] then pieces.dropLast else pieces

/-! ### Bytes to units -/

theorem isContinuation_iff (b : UInt8) :
    isContinuation b = true ↔ 0x80 ≤ b.toNat ∧ b.toNat < 0xC0 := by
  simp [isContinuation, UInt8.le_iff_toNat_le, UInt8.lt_iff_toNat_lt]

/-- A byte that announces more than itself continues nothing. -/
theorem le_toNat_of_one_lt_announced {b : UInt8} (h : 1 < announced b) : 0xC0 ≤ b.toNat := by
  by_contra hlt
  have hb : b < 0xC0 := by
    rw [UInt8.lt_iff_toNat_lt]
    exact Nat.lt_of_not_le hlt
  rw [announced, if_pos hb] at h
  exact absurd h (Nat.lt_irrefl 1)

/-- A state waits for at most as many bytes as the lead announced. -/
theorem left_start_le (b : UInt8) : (Utf8.Reader.start b).2.left ≤ announced b - 1 := by
  rw [Utf8.Reader.start, announced]
  simp only [UInt8.lt_iff_toNat_lt, Utf8.beq_eq_decide_toNat, UInt8.toNat_ofNat]
  split_ifs <;> simp_all [Utf8.Reader.left] <;> omega

/-- **A character is over when all of it is there**, well-formed or not: the reader is at the start
of the next one. -/
theorem run_eq_ready {lead : UInt8} {cs : Bytes} (hcs : ∀ c ∈ cs, isContinuation c = true)
    (h : announced lead ≤ cs.length + 1) : Utf8.Reader.run .ready (lead :: cs) = .ready := by
  -- each continuation byte takes one from what is waited for, or ends the wait altogether
  have hleft : ∀ (cs : Bytes) (s : Utf8.Reader), (∀ c ∈ cs, isContinuation c = true) →
      (s.run cs).left ≤ s.left - cs.length := by
    intro cs
    induction cs with
    | nil => intro s _; exact Nat.le_refl _
    | cons c cs ih =>
      intro s hcs
      obtain ⟨h1, h2⟩ := (isContinuation_iff c).mp (hcs c List.mem_cons_self)
      have hstep := Utf8.Reader.left_step_le (s := s) h1 h2
      have hrest := ih (s.step c).2 fun d hd => hcs d (List.mem_cons_of_mem _ hd)
      rw [List.length_cons]
      exact Nat.le_trans hrest (by omega)
  refine Utf8.Reader.Sound.eq_ready (Utf8.Reader.Sound.run (s := .ready) trivial _) ?_
  have h1 := hleft cs (Utf8.Reader.start lead).2 hcs
  have h2 := left_start_le lead
  change ((Utf8.Reader.start lead).2.run cs).left = 0
  omega

/-- All units of a byte sequence, and what waits after it. -/
def takeBytes (waiting : Bytes) : Bytes → Text × Bytes
  | [] => ([], waiting)
  | b :: bs =>
    let (units, waiting') := takeByte waiting b
    let (more, waiting'') := takeBytes waiting' bs
    (units ++ more, waiting'')

theorem takeBytes_append (w as bs : Bytes) :
    takeBytes w (as ++ bs) = ((takeBytes w as).1 ++ (takeBytes (takeBytes w as).2 bs).1,
      (takeBytes (takeBytes w as).2 bs).2) := by
  induction as generalizing w with
  | nil => rfl
  | cons a as ih =>
    simp only [List.cons_append, takeBytes, ih, List.append_assoc]

/-- One more byte: it prolongs the unfinished character, finishes it, or begins another. -/
theorem heldBack_snoc (bs : Bytes) (b : UInt8) : heldBack (bs ++ [b]) =
    if isContinuation b = true then
      match heldBack bs with
      | [] => []
      | lead :: cs => if cs.length + 2 < announced lead then lead :: (cs ++ [b]) else []
    else if 1 < announced b then [b] else [] := by
  rw [heldBack, List.reverse_append]
  simp only [List.reverse_singleton, List.singleton_append]
  by_cases hb : isContinuation b = true
  · rw [List.takeWhile_cons_of_pos hb, List.dropWhile_cons_of_pos hb, if_pos hb, heldBack]
    cases hd : bs.reverse.dropWhile isContinuation with
    | nil => rfl
    | cons lead before =>
      simp only [List.reverse_cons, List.length_append, List.length_singleton]
      by_cases h1 : (bs.reverse.takeWhile isContinuation).reverse.length + 1 < announced lead
      · rw [if_pos h1]
      · rw [if_neg h1, if_neg (by omega)]
  · rw [List.takeWhile_cons_of_neg hb, List.dropWhile_cons_of_neg hb, if_neg hb]
    simp

/-- What is held back is a byte that announces more, and bytes that continue its character. -/
theorem of_heldBack_eq_cons {bs : Bytes} {lead : UInt8} {cs : Bytes}
    (h : heldBack bs = lead :: cs) :
    cs.length + 1 < announced lead ∧ ∀ c ∈ cs, isContinuation c = true := by
  rw [heldBack] at h
  cases hd : bs.reverse.dropWhile isContinuation with
  | nil =>
    rw [hd] at h
    exact absurd h (by simp)
  | cons lead' before =>
    simp only [hd] at h
    split at h
    case isFalse => exact absurd h (by simp)
    case isTrue hlt =>
      obtain ⟨rfl, rfl⟩ := List.cons.inj h
      refine ⟨hlt, fun c hc => ?_⟩
      exact List.all_eq_true.mp List.all_takeWhile c (List.mem_reverse.mp hc)

/-- The reader waits for what the end of the stream would leave. -/
theorem takeByte_heldBack (bs : Bytes) (b : UInt8) :
    (takeByte (heldBack bs) b).2 = heldBack (bs ++ [b]) := by
  have hstart : isContinuation b = true → ¬1 < announced b := fun hb h => by
    have h1 := le_toNat_of_one_lt_announced h
    have h2 := ((isContinuation_iff b).mp hb).2
    omega
  rw [heldBack_snoc]
  cases hw : heldBack bs with
  | nil =>
    rw [takeByte, startCharacter]
    by_cases hb : isContinuation b = true
    · rw [if_neg (hstart hb), if_pos hb]
    · rw [if_neg hb]
      split <;> rfl
  | cons lead cs =>
    by_cases hb : isContinuation b = true
    · simp only [takeByte, hb, if_true, List.length_cons]
      split <;> rfl
    · simp only [takeByte, hb, startCharacter, Bool.false_eq_true, if_false]
      split <;> rfl

/-- **What has been done with a byte sequence**: the units given are those of a first part that can
be read apart from everything after it, and the rest waits. -/
def Taken (bs : Bytes) (units : Text) (waiting : Bytes) : Prop :=
  ∃ done, bs = done ++ waiting ∧ units = Utf8.decode done ∧
    ∀ more, Utf8.scan (bs ++ more) = Utf8.scan done ++ Utf8.scan (waiting ++ more)

section Taken

variable {bs waiting : Bytes} {units : Text} {b : UInt8}

/-- One more byte may wait with the others. -/
theorem Taken.hold (h : Taken bs units waiting) (b : UInt8) :
    Taken (bs ++ [b]) units (waiting ++ [b]) := by
  obtain ⟨done, rfl, hunits, hmore⟩ := h
  exact ⟨done, by simp, hunits, fun more => by simpa using hmore (b :: more)⟩

/-- What waits may be read once it ends where a character ends. -/
theorem Taken.flush (h : Taken bs units waiting)
    (hready : Utf8.Reader.run .ready waiting = .ready) :
    Taken bs (units ++ Utf8.decode waiting) [] := by
  obtain ⟨done, hbs, rfl, hmore⟩ := h
  have hscan : Utf8.scan bs = Utf8.scan done ++ Utf8.scan waiting := by simpa using hmore []
  refine ⟨bs, by simp, ?_, fun more => ?_⟩
  · rw [hbs] at hscan
    rw [hbs, Utf8.decode_append hscan]
  · rw [hmore, Utf8.scan_append_of_ready hready, hscan, List.append_assoc]
    rfl

/-- What waits may be read once a byte comes that does not continue it. -/
theorem Taken.cut (h : Taken bs units waiting) (hb : isContinuation b ≠ true) :
    Taken (bs ++ [b]) (units ++ Utf8.decode waiting) [b] := by
  obtain ⟨done, hbs, rfl, hmore⟩ := h
  have hscan : Utf8.scan bs = Utf8.scan done ++ Utf8.scan waiting := by simpa using hmore []
  have hout : b.toNat < 0x80 ∨ 0xC0 ≤ b.toNat := by
    rw [Ne, isContinuation_iff] at hb
    omega
  refine ⟨bs, rfl, ?_, fun more => ?_⟩
  · rw [hbs] at hscan
    rw [hbs, Utf8.decode_append hscan]
  · rw [List.append_assoc]
    exact Utf8.scan_append_of_not_continuing bs hout more

/-- **One byte keeps the account straight.** -/
theorem Taken.snoc (h : Taken bs units (heldBack bs)) (b : UInt8) :
    Taken (bs ++ [b]) (units ++ (takeByte (heldBack bs) b).1) (heldBack (bs ++ [b])) := by
  rw [← takeByte_heldBack]
  have hone : ¬1 < announced b → Utf8.Reader.run .ready [b] = .ready := fun hb =>
    run_eq_ready (by simp) (by rw [List.length_nil]; omega)
  cases hw : heldBack bs with
  | nil =>
    -- nothing waits: the byte begins a character, and is read at once if it is all of it
    rw [hw] at h
    rw [takeByte, startCharacter]
    by_cases hb : 1 < announced b
    · rw [if_pos hb, List.append_nil]
      exact h.hold b
    · rw [if_neg hb]
      exact (h.hold b).flush (hone hb)
  | cons lead cs =>
    obtain ⟨-, hcs⟩ := of_heldBack_eq_cons hw
    rw [hw] at h
    by_cases hb : isContinuation b = true
    · -- the byte prolongs what waits, and all of it is read when it is long enough
      simp only [takeByte, hb, if_true]
      by_cases hlt : (lead :: cs).length + 1 < announced lead
      · rw [if_pos hlt, List.append_nil]
        exact h.hold b
      · rw [if_neg hlt]
        refine (h.hold b).flush (run_eq_ready ?_ ?_)
        · intro c hc
          rcases List.mem_append.mp hc with hc | hc
          · exact hcs c hc
          · rw [List.mem_singleton.mp hc]
            exact hb
        · rw [List.length_cons] at hlt
          have hlen : (cs ++ [b]).length = cs.length + 1 := List.length_append
          change announced lead ≤ (cs ++ [b]).length + 1
          omega
    · -- the byte cuts off what waits, and begins a character itself
      simp only [takeByte, hb, startCharacter, Bool.false_eq_true, if_false]
      have hcut := h.cut hb
      by_cases hann : 1 < announced b
      · rw [if_pos hann, List.append_nil]
        exact hcut
      · rw [if_neg hann, ← List.append_assoc]
        exact hcut.flush (hone hann)

end Taken

/-- **The units of a stream**: those that its finished part spells, and what is held back waits. -/
theorem takeBytes_eq (bs : Bytes) :
    takeBytes [] bs = (Utf8.decode (finished bs), heldBack bs) := by
  -- by induction on the last byte, since what is held back is found from the end
  have htaken : Taken bs (takeBytes [] bs).1 (heldBack bs) ∧ (takeBytes [] bs).2 = heldBack bs := by
    induction bs using List.reverseRecOn with
    | nil => exact ⟨⟨[], rfl, rfl, fun _ => rfl⟩, rfl⟩
    | append_singleton bs b ih =>
      obtain ⟨ih1, ih2⟩ := ih
      rw [takeBytes_append, ih2]
      refine ⟨?_, ?_⟩
      · simpa [takeBytes] using ih1.snoc b
      · simpa [takeBytes] using takeByte_heldBack bs b
  obtain ⟨⟨done, hbs, hunits, -⟩, hwaiting⟩ := htaken
  have hdone : finished bs = done := by
    have hlen : bs.length - (heldBack bs).length = done.length := by
      have h := congrArg List.length hbs
      rw [List.length_append] at h
      omega
    rw [finished, hlen]
    conv_lhs => rw [hbs]
    exact List.take_left
  rw [Prod.ext_iff]
  exact ⟨by rw [hunits, hdone], hwaiting⟩

/-! ### Units to lines -/

/-- Pieces with a text put before the first of them. -/
def extendFirst (p : Text) : List Text → List Text
  | [] => [p]
  | q :: pieces => (p ++ q) :: pieces

theorem extendFirst_nil (sep : UInt16) (t : Text) :
    extendFirst [] (Text.splitOn sep t) = Text.splitOn sep t := by
  cases h : Text.splitOn sep t with
  | nil => exact absurd h (Text.splitOn_ne_nil sep t)
  | cons q pieces => rfl

/-- Putting a text before another is putting both of them. -/
theorem extendFirst_extendFirst (p q : Text) (pieces : List Text) :
    extendFirst p (extendFirst q pieces) = extendFirst (p ++ q) pieces := by
  cases pieces with
  | nil => rfl
  | cons r pieces => simp [extendFirst]

theorem splitOn_cons_of_ne {sep u : UInt16} (h : u ≠ sep) (t : Text) :
    Text.splitOn sep (u :: t) = extendFirst [u] (Text.splitOn sep t) := by
  rw [Text.splitOn, if_neg (by simpa using h)]
  cases Text.splitOn sep t <;> rfl

/-- A unit that is no line end stays. -/
theorem unifyEnds_cons {u : UInt16} (h : u ≠ 13) (t : Text) :
    unifyEnds [] (u :: t) = u :: unifyEnds [] t := by
  rw [unifyEnds]
  · rw [if_neg (by simpa using h)]
  · intro t' hu
    exact absurd hu h

/-- **What is left of the units for an open line**: a line feed right after a carriage return
belongs to the line end before it. -/
def OpenLine.after (l : OpenLine) : Text → Text
  | 10 :: t => if l.afterReturn then t else 10 :: t
  | t => t

theorem OpenLine.after_cons {u : UInt16} (l : OpenLine) (h : u ≠ 10) (t : Text) :
    l.after (u :: t) = u :: t := by
  rw [after]
  intro t' hu
  exact h (List.cons.inj hu).1

theorem OpenLine.after_eq_self {l : OpenLine} (h : l.afterReturn = false) (t : Text) :
    l.after t = t := by
  rw [after.eq_def, h]
  split <;> rfl

/-- A carriage return is a line end, together with a line feed that follows. -/
theorem unifyEnds_return (l : OpenLine) (h : l.afterReturn = true) (t : Text) :
    unifyEnds [] (13 :: t) = 10 :: unifyEnds [] (l.after t) := by
  by_cases ht : ∃ t', t = 10 :: t'
  · obtain ⟨t', rfl⟩ := ht
    rw [unifyEnds, OpenLine.after, if_pos h]
  · rw [unifyEnds, if_pos (Or.inl rfl), OpenLine.after]
    · intro t' ht'
      exact ht ⟨t', ht'⟩
    · intro t' _ ht'
      exact ht ⟨t', ht'⟩

/-- **The pieces of a text**: the lines that its units end, and then the line that is left open. -/
theorem OpenLine.takeAll_pieces (l : OpenLine) (us : Text)
    (hl : l.afterReturn = true → l.reversed = []) :
    (l.takeAll us).1 ++ [(l.takeAll us).2.reversed.reverse] =
      extendFirst l.reversed.reverse (Text.splitOn 10 (unifyEnds [] (l.after us))) := by
  induction us generalizing l with
  | nil =>
    simp only [takeAll, after, unifyEnds, Text.splitOn, extendFirst, List.append_nil,
      List.nil_append]
  | cons u us ih =>
    by_cases h10 : u = 10
    · -- a line feed ends the line, unless the carriage return before it has done so
      subst h10
      have hopen := ih {} (fun h => absurd h (by decide))
      rw [after_eq_self rfl, show ({} : OpenLine).reversed.reverse = [] from rfl,
        extendFirst_nil] at hopen
      by_cases hr : l.afterReturn = true
      · simp only [takeAll, take, after, hr, hl hr, if_true, beq_self_eq_true, List.nil_append,
          List.reverse_nil, extendFirst_nil]
        exact hopen
      · simp only [takeAll, take, after, hr, if_false, if_true, beq_self_eq_true,
          List.append_assoc, Bool.false_eq_true]
        rw [hopen, unifyEnds_cons (by decide), Text.splitOn_cons_self]
        simp [extendFirst]
    · rw [after_cons l h10]
      by_cases h13 : u = 13
      · -- a carriage return ends the line at once
        subst h13
        have hopen := ih ⟨[], true⟩ (fun _ => rfl)
        rw [show (OpenLine.mk [] true).reversed.reverse = [] from rfl, extendFirst_nil] at hopen
        simp only [takeAll, take, show ((13 : UInt16) == 10) = false from rfl, if_false,
          beq_self_eq_true, if_true, List.append_assoc, Bool.false_eq_true]
        rw [hopen, unifyEnds_return ⟨[], true⟩ rfl, Text.splitOn_cons_self]
        simp [extendFirst]
      · -- any other unit joins the line
        have hopen := ih ⟨u :: l.reversed, false⟩ (fun h => absurd h (by simp))
        rw [after_eq_self rfl] at hopen
        simp only [takeAll, take, beq_eq_false_iff_ne.mpr h10, beq_eq_false_iff_ne.mpr h13,
          if_false, List.nil_append, Bool.false_eq_true]
        rw [hopen, unifyEnds_cons h13, splitOn_cons_of_ne h10, extendFirst_extendFirst,
          List.reverse_cons]

theorem OpenLine.takeAll_append (l : OpenLine) (us vs : Text) :
    l.takeAll (us ++ vs) = ((l.takeAll us).1 ++ ((l.takeAll us).2.takeAll vs).1,
      ((l.takeAll us).2.takeAll vs).2) := by
  induction us generalizing l with
  | nil => rfl
  | cons u us ih =>
    simp only [List.cons_append, takeAll, ih, List.append_assoc]

/-! ### The reader -/

/-- The reader turns bytes into units and units into lines, and neither knows of the other. -/
theorem Reader.feed_eq (r : Reader) (bs : Bytes) :
    r.feed bs = ((r.line.takeAll (takeBytes r.waiting bs).1).1,
      ⟨(takeBytes r.waiting bs).2, (r.line.takeAll (takeBytes r.waiting bs).1).2⟩) := by
  induction bs generalizing r with
  | nil => rfl
  | cons b bs ih =>
    simp only [feed, take, takeBytes, ih, OpenLine.takeAll_append]

theorem Reader.feed_append (r : Reader) (as bs : Bytes) :
    r.feed (as ++ bs) = ((r.feed as).1 ++ ((r.feed as).2.feed bs).1,
      ((r.feed as).2.feed bs).2) := by
  induction as generalizing r with
  | nil => rfl
  | cons a as ih =>
    simp only [List.cons_append, feed, ih, List.append_assoc]

/-- **The lines of a byte stream** are those of the text that its finished part spells. -/
theorem ofBytes_eq_split (bs : Bytes) : ofBytes bs = split [] (Utf8.decode (finished bs)) := by
  have hpieces := OpenLine.takeAll_pieces {} (Utf8.decode (finished bs))
    (fun h => absurd h (by decide))
  rw [show ({} : OpenLine).reversed.reverse = [] from rfl, extendFirst_nil,
    OpenLine.after_eq_self rfl] at hpieces
  rw [ofBytes, Reader.feed_eq, show ({} : Reader).waiting = [] from rfl, takeBytes_eq, split,
    ← hpieces]
  simp only [Reader.finish, List.getLast?_append, List.getLast?_singleton, Option.some_or,
    Option.some_inj, List.dropLast_concat, List.reverse_eq_nil_iff, List.isEmpty_iff]
  split
  · rw [List.append_nil]
  · rfl

/-! ### Lines that were written -/

/-- A text without carriage returns stays as it is. -/
theorem unifyEnds_append {l : Text} (h : 13 ∉ l) (t : Text) :
    unifyEnds [] (l ++ t) = l ++ unifyEnds [] t := by
  induction l with
  | nil => rfl
  | cons u l ih =>
    obtain ⟨hu, hl⟩ := not_or.mp (mt List.mem_cons.mpr h)
    rw [List.cons_append, unifyEnds_cons (Ne.symm hu), ih hl, List.cons_append]

/-- **Texts that hold no line end are lines** when each is followed by a line feed. -/
theorem split_flatMap_terminated {lines : List Text} (h : ∀ l ∈ lines, 10 ∉ l ∧ 13 ∉ l) :
    split [] (lines.flatMap (· ++ [10])) = lines := by
  have hpieces : Text.splitOn 10 (unifyEnds [] (lines.flatMap (· ++ [10]))) = lines ++ [[]] := by
    induction lines with
    | nil => rfl
    | cons l lines ih =>
      obtain ⟨h10, h13⟩ := h l List.mem_cons_self
      rw [List.flatMap_cons, List.append_assoc, unifyEnds_append h13, List.singleton_append,
        unifyEnds_cons (by decide), Text.splitOn_append_cons h10,
        ih fun l' hl' => h l' (List.mem_cons_of_mem _ hl'), List.cons_append]
  rw [split, hpieces]
  simp

/-- Nothing is held back after a line feed. -/
theorem finished_snoc_feed (bs : Bytes) : finished (bs ++ [10]) = bs ++ [10] := by
  have hheld : heldBack (bs ++ [10]) = [] := by
    rw [heldBack_snoc, if_neg (by decide), if_neg (by decide)]
  rw [finished, hheld, List.length_nil, Nat.sub_zero, List.take_length]

end LineAgents.Lines
