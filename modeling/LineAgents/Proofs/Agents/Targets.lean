import LineAgents.Agents.HealthCheck
import LineAgents.Proofs.Http.Address
import LineAgents.Proofs.Number.Integers

/-!
# Which targets name a host and a port

The target of a certificate check is documented as a host, with a colon and a port behind it if the
port is not the usual one. What reads it divides the target at all its colons, takes the first two
pieces, and takes the second as any form field is taken that should hold a number. So it reads every
target of the grammar as it is meant, and some more besides.

* `LineAgents.HealthCheck.Names` is the grammar, and `LineAgents.HealthCheck.Overreads` what is read
  without being in it: a third piece is not looked at, and a port may be spelled in any way that a
  number can be.
* `LineAgents.HealthCheck.hostPort_of_target` is the exact answer: these two and nothing else are
  accepted, and everything else is refused with the target in the message.
* An address of the newer protocol is full of colons, and is not refused either: of `2001:22::1` it
  is the host `2001` that is probed, on port 22 (`LineAgents.HealthCheck.hostPort_of_many_colons`).
-/

namespace LineAgents.HealthCheck

open Number (IsDigits digitValues valueOf)

/-! ### Ports -/

section

variable {t : Text} {n : ℕ}

/-- **Which texts spell a port**: those that are read as the same double as the port. -/
theorem port?_eq_some_iff :
    port? t = some n ↔ 1 ≤ n ∧ n ≤ 65535 ∧ Number.ofText t = Float.ofNat n := by
  have hzero : Number.value 0 = (0 : ℕ) := Number.value_ofNat (by norm_num)
  have hlast : Number.value 65535 = (65535 : ℕ) := Number.value_ofNat (by norm_num)
  rw [port?]
  generalize Number.ofText t = x
  constructor
  · intro h
    obtain ⟨htest, hn⟩ := Option.ite_none_right_eq_some.mp h
    rw [Bool.and_eq_true, Bool.and_eq_true, decide_eq_true_iff, Bool.not_eq_true',
      decide_eq_false_iff_not] at htest
    obtain ⟨⟨hinteger, hpos⟩, hmax⟩ := htest
    obtain ⟨hfinite, hmagnitude⟩ := Number.isInteger_iff.mp hinteger
    have hpos' := (Number.lt_iff_value_lt rfl hfinite).mp hpos
    have hmax' := mt (Number.lt_iff_value_lt rfl hfinite).mpr hmax
    rw [hzero, Number.value_eq] at hpos'
    rw [hlast, Number.value_eq] at hmax'
    cases hs : Number.signOf x with
    | negative =>
      rw [hs] at hpos'
      exact absurd hpos' (not_lt.mpr (neg_nonpos.mpr (Number.magnitude_nonneg x)))
    | positive =>
      rw [hs] at hpos' hmax'
      dsimp only at hpos' hmax'
      rw [hmagnitude, Nat.cast_lt] at hpos' hmax'
      obtain rfl := Option.some.inj hn
      exact ⟨hpos', by omega, Number.eq_ofNat_of_isInteger hinteger hs (by omega)⟩
  · rintro ⟨hlow, hhigh, rfl⟩
    have hn : n < 2 ^ 53 := by omega
    obtain ⟨hfinite, -, -⟩ := Number.fields_ofNat hn
    obtain ⟨hinteger, htrunc⟩ := Number.isInteger_ofNat hn
    have hpos : (0 : Float) < Float.ofNat n := by
      rw [Number.lt_iff_value_lt rfl hfinite, hzero, Number.value_ofNat hn, Nat.cast_lt]
      exact hlow
    have hmax : ¬(65535 : Float) < Float.ofNat n := by
      rw [Number.lt_iff_value_lt rfl hfinite, hlast, Number.value_ofNat hn, Nat.cast_lt]
      omega
    have htest : (Number.isInteger (Float.ofNat n) && decide (Float.ofNat n > 0) &&
        !decide (Float.ofNat n > 65535)) = true := by
      rw [hinteger, decide_eq_true hpos, decide_eq_false hmax]
      rfl
    rw [if_pos htest, htrunc]

/-- Digits spell the port that is their value in base ten. -/
theorem port?_of_isDigits (h : IsDigits t) (hne : t ≠ []) :
    port? t = some n ↔ 1 ≤ n ∧ n ≤ 65535 ∧ valueOf 10 (digitValues t) = n := by
  rw [port?_eq_some_iff, Number.ofText_of_isDigits h hne]
  refine and_congr_right fun _ => and_congr_right fun hn => ?_
  exact Number.ofDecimal_eq_ofNat_iff (by omega)

/-- **A port is found again in its digits.** -/
theorem port?_ofNat (hlow : 1 ≤ n) (hhigh : n ≤ 65535) : port? (Text.ofNat n) = some n :=
  (port?_of_isDigits (Number.isDigits_ofNat n) (Number.ofNat_ne_nil n)).mpr
    ⟨hlow, hhigh, Number.valueOf_ofNat n⟩

theorem port?_default : port? "443" = some 443 :=
  port?_ofNat (n := 443) (by norm_num) (by norm_num)

/-- Nothing at all is read as zero, and that is no port. -/
theorem port?_nil : port? [] = none := by decide

end

/-! ### Targets -/

/-- **The grammar of a target**: a host alone, which is probed on the usual port, or a host, a colon
and the digits of a port. -/
inductive Names : Text → Text → ℕ → Prop
  /-- A host without a port. -/
  | alone {host : Text} (hne : host ≠ []) (hcolon : 58 ∉ host) : Names host host 443
  /-- A host with a port. -/
  | withPort {host digits : Text} {port : ℕ} (hne : host ≠ []) (hcolon : 58 ∉ host)
    (hdigits : IsDigits digits) (hsome : digits ≠ [])
    (hvalue : valueOf 10 (digitValues digits) = port) (hlow : 1 ≤ port) (hhigh : port ≤ 65535) :
    Names (host ++ 58 :: digits) host port

/-- **What is read beyond the grammar**: a host, a colon and a text that counts as the number of
the port, when either that text is no run of digits or another colon follows it, with anything
behind. -/
def Overreads (target host : Text) (port : ℕ) : Prop :=
  ∃ portText rest, target = host ++ 58 :: (portText ++ rest) ∧ host ≠ [] ∧ 58 ∉ host ∧
    58 ∉ portText ∧ (rest = [] ∧ ¬IsDigits portText ∨ rest.head? = some 58) ∧
    1 ≤ port ∧ port ≤ 65535 ∧ Number.ofText portText = Float.ofNat port

section

variable {target host : Text} {port : ℕ}

/-- The host and the port that are accepted, of the two texts that are read. -/
theorem accept_iff {first portText : Text} {f : Failure} :
    (match first.isEmpty, port? portText with
      | false, some p => (.ok (first, p) : Except Failure (Text × ℕ))
      | _, _ => .error f) = .ok (host, port) ↔
    host ≠ [] ∧ first = host ∧ port? portText = some port := by
  cases first with
  | nil =>
    refine ⟨fun h => (by cases h), ?_⟩
    rintro ⟨hne, rfl, -⟩
    exact absurd rfl hne
  | cons u first =>
    cases port? portText with
    | none => exact ⟨fun h => (by cases h), fun h => (by cases h.2.2)⟩
    | some p =>
      constructor
      · intro h
        obtain ⟨rfl, rfl⟩ := Prod.mk.inj (Except.ok.inj h)
        exact ⟨List.cons_ne_nil u first, rfl, rfl⟩
      · rintro ⟨-, rfl, hp⟩
        obtain rfl := Option.some.inj hp
        rfl

/-- What is accepted, by the pieces between the colons. -/
theorem hostPort_eq_ok_iff : hostPort target = .ok (host, port) ↔
    host ≠ [] ∧ (Text.splitOn 58 target = [host] ∧ port = 443 ∨
      ∃ portText pieces, Text.splitOn 58 target = host :: portText :: pieces ∧
        port? portText = some port) := by
  rw [hostPort]
  cases hsplit : Text.splitOn 58 target with
  | nil => exact absurd hsplit (Text.splitOn_ne_nil 58 target)
  | cons first pieces =>
    cases pieces with
    | nil =>
      refine accept_iff.trans (and_congr_right fun _ => ?_)
      rw [port?_default]
      constructor
      · rintro ⟨rfl, hport⟩
        exact Or.inl ⟨rfl, (Option.some.inj hport).symm⟩
      · rintro (⟨hone, rfl⟩ | ⟨_, _, hmore, -⟩)
        · exact ⟨(List.cons.inj hone).1, rfl⟩
        · cases hmore
    | cons portText pieces =>
      refine accept_iff.trans (and_congr_right fun _ => ?_)
      constructor
      · rintro ⟨rfl, hport⟩
        exact Or.inr ⟨portText, pieces, rfl, hport⟩
      · rintro (⟨hone, -⟩ | ⟨_, _, hmore, hport⟩)
        · cases hone
        · cases hmore
          exact ⟨rfl, hport⟩

/-- What is not accepted is refused. -/
theorem hostPort_cases (target : Text) : (∃ host port, hostPort target = .ok (host, port)) ∨
    hostPort target = .error (.validation ("Invalid TLS target: " ++ target)) := by
  rw [hostPort]
  dsimp only
  split
  · exact Or.inl ⟨_, _, rfl⟩
  · exact Or.inr rfl

/-- A colon is no digit. -/
theorem digits_notMem_colon {digits : Text} (h : IsDigits digits) : 58 ∉ digits := by
  intro hmem
  exact absurd (h 58 hmem) (by decide)

/-- A target of the grammar has no more than one colon. -/
theorem Names.count_colon_le (h : Names target host port) : List.count 58 target ≤ 1 := by
  cases h with
  | alone hne hcolon =>
    rw [List.count_eq_zero_of_not_mem hcolon]
    exact Nat.zero_le 1
  | withPort hne hcolon hdigits =>
    rw [List.count_append, List.count_eq_zero_of_not_mem hcolon, List.count_cons_self,
      List.count_eq_zero_of_not_mem (digits_notMem_colon hdigits)]

/-- **A target of the grammar is read as it is meant.** -/
theorem hostPort_of_names (h : Names target host port) : hostPort target = .ok (host, port) := by
  rw [hostPort_eq_ok_iff]
  cases h with
  | alone hne hcolon => exact ⟨hne, Or.inl ⟨Text.splitOn_of_notMem hcolon, rfl⟩⟩
  | withPort hne hcolon hdigits hsome hvalue hlow hhigh =>
    refine ⟨hne, Or.inr ⟨_, [], ?_, (port?_of_isDigits hdigits hsome).mpr ⟨hlow, hhigh, hvalue⟩⟩⟩
    rw [Text.splitOn_append_cons hcolon, Text.splitOn_of_notMem (digits_notMem_colon hdigits)]

theorem hostPort_of_overreads (h : Overreads target host port) :
    hostPort target = .ok (host, port) := by
  obtain ⟨portText, rest, rfl, hne, hcolon, hcolon', hrest, hport⟩ := h
  have hpieces : ∃ pieces, Text.splitOn 58 (portText ++ rest) = portText :: pieces := by
    cases rest with
    | nil => exact ⟨[], by rw [List.append_nil, Text.splitOn_of_notMem hcolon']⟩
    | cons u rest =>
      have hu : u = 58 := by simpa using hrest
      exact ⟨_, by rw [hu, Text.splitOn_append_cons hcolon']⟩
  obtain ⟨pieces, hpieces⟩ := hpieces
  refine hostPort_eq_ok_iff.mpr ⟨hne, Or.inr ⟨portText, pieces, ?_, port?_eq_some_iff.mpr hport⟩⟩
  rw [Text.splitOn_append_cons hcolon, hpieces]

/-- **Nothing else is accepted.** -/
theorem names_or_overreads (h : hostPort target = .ok (host, port)) :
    Names target host port ∨ Overreads target host port := by
  obtain ⟨hne, ⟨hsplit, rfl⟩ | ⟨portText, pieces, hsplit, hport⟩⟩ := hostPort_eq_ok_iff.mp h
  · obtain ⟨hcolon, rfl⟩ := Text.splitOn_eq_singleton_iff.mp hsplit
    exact Or.inl (.alone hne hcolon)
  · obtain ⟨hcolon, rest, rfl, hrest⟩ := Text.splitOn_eq_cons_cons_iff.mp hsplit
    cases pieces with
    | nil =>
      obtain ⟨hcolon', rfl⟩ := Text.splitOn_eq_singleton_iff.mp hrest
      by_cases hdigits : IsDigits rest
      · have hsome : rest ≠ [] := by
          rintro rfl
          rw [port?_nil] at hport
          cases hport
        obtain ⟨hlow, hhigh, hvalue⟩ := (port?_of_isDigits hdigits hsome).mp hport
        exact Or.inl (.withPort hne hcolon hdigits hsome hvalue hlow hhigh)
      · exact Or.inr ⟨rest, [], by rw [List.append_nil], hne, hcolon, hcolon',
          Or.inl ⟨rfl, hdigits⟩, port?_eq_some_iff.mp hport⟩
    | cons piece pieces =>
      obtain ⟨hcolon', behind, rfl, -⟩ := Text.splitOn_eq_cons_cons_iff.mp hrest
      exact Or.inr ⟨portText, 58 :: behind, rfl, hne, hcolon, hcolon', Or.inr rfl,
        port?_eq_some_iff.mp hport⟩

/-- **Which targets are accepted, and as what.** Those of the grammar are, and those that are read
beyond it; every other target is refused. -/
theorem hostPort_of_target (target : Text) :
    (∀ host port, hostPort target = .ok (host, port) ↔
      Names target host port ∨ Overreads target host port) ∧
    ((∀ host port, ¬Names target host port ∧ ¬Overreads target host port) ↔
      hostPort target = .error (.validation ("Invalid TLS target: " ++ target))) := by
  have hiff : ∀ host port, hostPort target = .ok (host, port) ↔
      Names target host port ∨ Overreads target host port := fun host port =>
    ⟨names_or_overreads, fun h => h.elim hostPort_of_names hostPort_of_overreads⟩
  refine ⟨hiff, fun h => ?_, fun h host port => ?_⟩
  · rcases hostPort_cases target with ⟨host, port, hok⟩ | herror
    · exact absurd ((hiff host port).mp hok) (not_or.mpr (h host port))
    · exact herror
  · rw [← not_or, ← hiff host port, h]
    exact fun hok => by cases hok

end

/-- A port in hexadecimal is read, though it is not in the grammar. -/
example : Overreads "example.com:0x50" "example.com" 80 :=
  ⟨Text.ofString "0x50", [], rfl, List.cons_ne_nil _ _, by decide, by decide,
    Or.inl ⟨rfl, fun h => absurd (h 120 (by decide)) (by decide)⟩, by norm_num, by norm_num, rfl⟩

/-- **An address with many colons is probed in part.** Its first piece is taken for the host and its
second for the port, though no target of the grammar has more than one colon. -/
theorem hostPort_of_many_colons :
    hostPort "2001:22::1" = .ok (Text.ofString "2001", 22) ∧
      ¬∃ host port, Names "2001:22::1" host port := by
  constructor
  · exact hostPort_eq_ok_iff.mpr ⟨List.cons_ne_nil _ _,
      Or.inr ⟨Text.ofNat 22, [[], [49]], rfl, port?_ofNat (by norm_num) (by norm_num)⟩⟩
  · rintro ⟨host, port, h⟩
    exact absurd h.count_colon_le (by decide)

end LineAgents.HealthCheck
