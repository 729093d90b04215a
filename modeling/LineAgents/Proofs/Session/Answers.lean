import LineAgents.Proofs.Session.Serve
import LineAgents.Proofs.Text.Blank

/-!
# One answer for each request

What a session writes is said here without the session. The lines of the input fall into three
parts: blank ones, requests (`LineAgents.Session.requests`) and the others
(`LineAgents.Session.malformed`). A service goes through them in order, and
`LineAgents.Service.answers` are the lines that it writes, `LineAgents.Service.after` the state that
it leaves.

Where the handler and the log have nothing in common (`LineAgents.Service.beside`), the two can be
told apart: the answers are those of the handler to the requests alone
(`LineAgents.Service.getElem?_answers_beside`), and the log has one note for each malformed line
(`LineAgents.Service.after_beside`). The main result puts this together with the lines of a byte
stream and with the end of a session
(`LineAgents.Session.serve_answers_each_request`).
-/

namespace LineAgents

/-! ### Blank lines -/

/-- A blank line is no JSON text. -/
theorem Json.parse?_eq_none_of_allBlank {t : Text} (h : t.allBlank = true) : parse? t = none := by
  have hvalue : takeValue? (t.length + 1) t = none := by
    rw [takeValue?]
    cases hs : skipSpace t with
    | nil => rfl
    | cons u r =>
      have hu : Text.isBlank u = true := by
        refine List.all_eq_true.mp h u (List.Sublist.subset (List.dropWhile_sublist isSpace) ?_)
        rw [← skipSpace, hs]
        exact List.mem_cons_self
      rw [Text.isBlank_iff] at hu
      -- every mark that a value can begin with lies between the two groups of blanks
      have hne : ∀ n : UInt16, 33 < n.toNat → n.toNat < 0xA0 → u ≠ n := fun n h1 h2 h => by
        rw [h] at hu
        generalize n.toNat = m at *
        omega
      have hdigit : Text.isDigit u = false := by
        simp only [Text.isDigit, Bool.and_eq_false_iff, decide_eq_false_iff_not,
          UInt16.le_iff_toNat_le, UInt16.toNat_ofNat]
        generalize u.toNat = m at *
        omega
      have hnumber : takeNumber? (u :: r) = none := by
        rw [takeNumber?]
        · rw [takeUnsigned?, takeWhole?, Number.takeDigits, List.takeWhile_cons, hdigit]
          rfl
        · exact fun r' h => hne 45 (by decide) (by decide) (List.cons.inj h).1
      split
      case h_7 => rw [hnumber]; rfl
      all_goals
        rename_i heq
        exact absurd (List.cons.inj heq).1 (hne _ (by decide) (by decide))
  rw [parse?, hvalue]

/-- A blank line is no request. -/
theorem Request.decode?_eq_none_of_allBlank {line : Text} (h : line.allBlank = true) :
    decode? line = none := by
  rw [decode?, Json.parse?_eq_none_of_allBlank h]

/-- A request is not on a blank line. -/
theorem Request.not_allBlank_of_decode? {line : Text} {r : Request} (h : decode? line = some r) :
    line.allBlank = false := by
  rw [Bool.eq_false_iff]
  intro hb
  rw [decode?_eq_none_of_allBlank hb] at h
  exact absurd h (by simp)

/-! ### The lines of a session -/

namespace Session

/-- **The requests** among lines. -/
def requests (lines : List Text) : List Request := lines.filterMap Request.decode?

/-- **The malformed lines** among lines: those of which trimming leaves something and which are no
requests. -/
def malformed (lines : List Text) : List Text :=
  lines.filter fun l => l.trim != [] && (Request.decode? l).isNone

variable {line : Text}

theorem requests_cons_of_some {r : Request} (h : Request.decode? line = some r)
    (lines : List Text) : requests (line :: lines) = r :: requests lines :=
  List.filterMap_cons_some h

theorem requests_cons_of_none (h : Request.decode? line = none) (lines : List Text) :
    requests (line :: lines) = requests lines :=
  List.filterMap_cons_none h

theorem malformed_cons_of_blank (h : line.allBlank = true) (lines : List Text) :
    malformed (line :: lines) = malformed lines := by
  rw [malformed, List.filter_cons_of_neg]
  · rfl
  · rw [(Text.trim_eq_nil_iff line).mpr h]
    simp

theorem malformed_cons_of_some {r : Request} (h : Request.decode? line = some r)
    (lines : List Text) : malformed (line :: lines) = malformed lines := by
  rw [malformed, List.filter_cons_of_neg]
  · rfl
  · rw [h]
    simp

theorem malformed_cons_of_none (hb : line.allBlank = false) (h : Request.decode? line = none)
    (lines : List Text) : malformed (line :: lines) = line :: malformed lines := by
  have htrim : line.trim ≠ [] := fun ht => by
    rw [Text.trim_eq_nil_iff, hb] at ht
    exact Bool.false_ne_true ht
  rw [malformed, List.filter_cons_of_pos]
  · rfl
  · rw [h]
    simpa using htrim

theorem requests_append (lines lines' : List Text) :
    requests (lines ++ lines') = requests lines ++ requests lines' :=
  List.filterMap_append

end Session

namespace Service

variable {σ : Type}

/-- The state that a service is in after a line. -/
def afterLine (v : Service σ) (s : σ) (line : Text) : σ :=
  if line.allBlank then s
  else match Request.decode? line with
    | some r => (v.handler.respond r s).2
    | none => v.log (Session.droppedNote line) s

/-- The state that a service is in after lines. -/
def after (v : Service σ) (lines : List Text) (s : σ) : σ := lines.foldl v.afterLine s

/-- The lines that a service writes for lines. -/
def answers (v : Service σ) : List Text → σ → List Text
  | [], _ => []
  | line :: lines, s =>
    ((Request.decode? line).map fun r => (v.handler.respond r s).1.encode ++ [10]).toList ++
      answers v lines (v.afterLine s line)

variable {v : Service σ} {line : Text} {s : σ}

theorem afterLine_blank (h : line.allBlank = true) : v.afterLine s line = s := by
  rw [afterLine, if_pos h]

theorem afterLine_request {r : Request} (h : Request.decode? line = some r) :
    v.afterLine s line = (v.handler.respond r s).2 := by
  rw [afterLine, Request.not_allBlank_of_decode? h, if_neg Bool.false_ne_true, h]

theorem afterLine_malformed (hb : line.allBlank = false) (h : Request.decode? line = none) :
    v.afterLine s line = v.log (Session.droppedNote line) s := by
  rw [afterLine, if_neg (by simp [hb]), h]

theorem answers_cons_of_some {r : Request} (h : Request.decode? line = some r)
    (lines : List Text) : v.answers (line :: lines) s =
      ((v.handler.respond r s).1.encode ++ [10]) ::
        v.answers lines (v.handler.respond r s).2 := by
  rw [answers, h, afterLine_request h]
  rfl

theorem answers_cons_of_none (h : Request.decode? line = none) (lines : List Text) :
    v.answers (line :: lines) s = v.answers lines (v.afterLine s line) := by
  rw [answers, h]
  rfl

theorem after_append (v : Service σ) (lines lines' : List Text) (s : σ) :
    v.after (lines ++ lines') s = v.after lines' (v.after lines s) :=
  List.foldl_append

/-- The answers to lines, and then to others in the state that the first ones left. -/
theorem answers_append (v : Service σ) (lines lines' : List Text) (s : σ) :
    v.answers (lines ++ lines') s = v.answers lines s ++ v.answers lines' (v.after lines s) := by
  induction lines generalizing s with
  | nil => rfl
  | cons line lines ih => rw [List.cons_append, answers, ih, answers, List.append_assoc]; rfl

theorem length_answers (v : Service σ) (lines : List Text) (s : σ) :
    (v.answers lines s).length = (Session.requests lines).length := by
  induction lines generalizing s with
  | nil => rfl
  | cons line lines ih =>
    cases h : Request.decode? line with
    | none => rw [answers_cons_of_none h, Session.requests_cons_of_none h, ih]
    | some r =>
      rw [answers_cons_of_some h, Session.requests_cons_of_some h, List.length_cons,
        List.length_cons, ih]

end Service

/-! ### The account of lines, when the output takes everything -/

namespace Session

variable {σ : Type}

theorem Account.answer_of_accepting (v : Service σ) (r : Request) (state : σ)
    (written : List Text) (tally : Tally) :
    answer v (fun _ => none) r { state, written, tally } =
      { state := (v.handler.respond r state).2
        written := written ++ [(v.handler.respond r state).1.encode ++ [10]]
        tally := { tally with answered := tally.answered + 1 } } :=
  rfl

/-- **What lines amount to** when every write succeeds. -/
theorem Account.foldl_take (v : Service σ) (lines : List Text) (state : σ) (written : List Text)
    (tally : Tally) : lines.foldl (take v fun _ => none) { state, written, tally } =
      { state := v.after lines state
        written := written ++ v.answers lines state
        tally :=
          { received := tally.received + ((requests lines).length + (malformed lines).length)
            answered := tally.answered + (requests lines).length
            dropped := tally.dropped + (malformed lines).length } } := by
  induction lines generalizing state written tally with
  | nil =>
    rw [Service.answers, List.append_nil]
    rfl
  | cons line lines ih =>
    rw [List.foldl_cons, Service.after, List.foldl_cons, ← Service.after]
    cases h : Request.decode? line with
    | some r =>
      -- a request is on no blank line, so it is counted and answered
      have hb := Request.not_allBlank_of_decode? h
      rw [take_request rfl hb h, answer_of_accepting, ih, requests_cons_of_some h,
        malformed_cons_of_some h, Service.answers_cons_of_some h, Service.afterLine_request h]
      simp only [List.append_assoc, List.singleton_append, List.length_cons,
        Account.mk.injEq, Tally.mk.injEq, and_true, true_and]
      omega
    | none =>
      by_cases hb : line.allBlank = true
      · rw [take_blank hb, ih, requests_cons_of_none h, malformed_cons_of_blank hb,
          Service.answers_cons_of_none h, Service.afterLine_blank hb]
      · rw [Bool.not_eq_true] at hb
        rw [take_malformed rfl hb h, ih, requests_cons_of_none h, malformed_cons_of_none hb h,
          Service.answers_cons_of_none h, Service.afterLine_malformed hb h]
        simp only [List.length_cons, Account.mk.injEq, Tally.mk.injEq, and_true, true_and]
        omega

/-- **A session whose output takes everything** finishes, with what its lines amount to. -/
theorem serve_of_accepting (v : Service σ) (chunks : List Bytes) (state : σ) :
    let lines := Lines.split [] (Utf8.decode (Lines.finished chunks.flatten))
    let s := serve v (fun _ => none) chunks state
    s.phase = .finished ∧ s.state = v.after lines state ∧ s.written = v.answers lines state ∧
      s.tally =
        { received := (requests lines).length + (malformed lines).length
          answered := (requests lines).length
          dropped := (malformed lines).length } := by
  intro lines s
  have houtlook := outlook_serve v (fun _ => none) chunks state
  rw [Account.foldl_take, Lines.ofBytes_eq_split] at houtlook
  have hphase : s.phase = .finished := by
    have h := phase_serve v (fun _ => none) chunks state
    rw [houtlook] at h
    exact h
  rw [outlook, hphase, account] at houtlook
  simp only [Account.mk.injEq, Nat.zero_add, List.nil_append, and_true] at houtlook
  exact ⟨hphase, houtlook⟩

end Session

/-! ### A handler beside a log -/

section Beside

variable {σ τ : Type}

/-- The state that a handler is in after requests. -/
def Handler.after (h : Handler σ) (rs : List Request) (s : σ) : σ :=
  rs.foldl (fun s r => (h.respond r s).2) s

/-- **A handler and a log that have nothing in common.** -/
def Service.beside (h : Handler σ) (log : Text → τ → τ) : Service (σ × τ) where
  handler :=
    { card := h.card
      positions := h.positions
      compute := fun params s =>
        ((h.compute params s.1).1, ((h.compute params s.1).2, s.2)) }
  log line s := (s.1, log line s.2)

namespace Service

variable (h : Handler σ) (log : Text → τ → τ)

theorem respond_beside (r : Request) (s : σ × τ) :
    (beside h log).handler.respond r s = ((h.respond r s.1).1, ((h.respond r s.1).2, s.2)) := by
  rw [Handler.respond, Handler.respond]
  split
  · rfl
  · split <;> rfl

/-- **The handler sees the requests alone, and the log the malformed lines.** -/
theorem after_beside (lines : List Text) (s : σ × τ) : (beside h log).after lines s =
    (h.after (Session.requests lines) s.1,
      (Session.malformed lines).foldl (fun t line => log (Session.droppedNote line) t) s.2) := by
  induction lines generalizing s with
  | nil => rfl
  | cons line lines ih =>
    rw [after, List.foldl_cons, ← after, ih]
    cases hr : Request.decode? line with
    | some r =>
      rw [afterLine_request hr, respond_beside, Session.requests_cons_of_some hr,
        Session.malformed_cons_of_some hr]
      rfl
    | none =>
      rw [Session.requests_cons_of_none hr]
      by_cases hb : line.allBlank = true
      · rw [afterLine_blank hb, Session.malformed_cons_of_blank hb]
      · rw [Bool.not_eq_true] at hb
        rw [afterLine_malformed hb hr, Session.malformed_cons_of_none hb hr]
        rfl

theorem fst_afterLine_beside {line : Text} (hr : Request.decode? line = none) (s : σ × τ) :
    ((beside h log).afterLine s line).1 = s.1 := by
  rw [afterLine, hr]
  split <;> rfl

/-- **The answers are those of the handler**, each in the state that the requests before it left. -/
theorem getElem?_answers_beside (lines : List Text) (s : σ × τ) (k : Nat) :
    ((beside h log).answers lines s)[k]? = (Session.requests lines)[k]?.map fun r =>
      (h.respond r (h.after ((Session.requests lines).take k) s.1)).1.encode ++ [10] := by
  induction lines generalizing s k with
  | nil => rfl
  | cons line lines ih =>
    cases hr : Request.decode? line with
    | some r =>
      rw [answers_cons_of_some hr, Session.requests_cons_of_some hr, respond_beside]
      cases k with
      | zero => rfl
      | succ k =>
        rw [List.getElem?_cons_succ, ih, List.getElem?_cons_succ, List.take_succ_cons]
        rfl
    | none =>
      rw [answers_cons_of_none hr, Session.requests_cons_of_none hr, ih,
        fst_afterLine_beside h log hr]

end Service

end Beside

/-! ### One answer for each request -/

namespace Session

/-- **Every request of a byte stream is answered by one line, in order**, whatever the handler does:
the answer is the response of the handler in the state that the requests before it left. A malformed
line is noted once and changes nothing else, a blank one changes nothing at all, and the tally
counts the three as they are.

The lines of the stream end at a line feed, at a carriage return, or at the two together; what
follows the last of them is a line unless it is empty, and an unfinished character at the end of the
stream is no part of it. -/
theorem serve_answers_each_request {σ τ : Type} (h : Handler σ) (log : Text → τ → τ)
    (chunks : List Bytes) (s₀ : σ) (t₀ : τ) :
    let lines := Lines.split [] (Utf8.decode (Lines.finished chunks.flatten))
    let rs := requests lines
    let s := serve (.beside h log) (fun _ => none) chunks (s₀, t₀)
    s.phase = .finished ∧
    s.written.length = rs.length ∧
    (∀ k, s.written[k]? = rs[k]?.map fun r =>
      (h.respond r (h.after (rs.take k) s₀)).1.encode ++ [10]) ∧
    s.state = (h.after rs s₀,
      (malformed lines).foldl (fun t line => log (droppedNote line) t) t₀) ∧
    s.outcome = .ok
      { received := rs.length + (malformed lines).length
        answered := rs.length
        dropped := (malformed lines).length } := by
  intro lines rs s
  obtain ⟨hphase, hstate, hwritten, htally⟩ := serve_of_accepting (.beside h log) chunks (s₀, t₀)
  refine ⟨hphase, ?_, fun k => ?_, ?_, ?_⟩
  · rw [hwritten]
    exact Service.length_answers _ lines _
  · rw [hwritten]
    exact Service.getElem?_answers_beside h log lines (s₀, t₀) k
  · rw [hstate]
    exact Service.after_beside h log lines (s₀, t₀)
  · rw [outcome, hphase, ← htally]

/-- Neither a line separator nor an unfinished character at the end of the stream makes a line of
its own: two objects with a line separator between them are one malformed line, and an object with
two bytes of a longer character after it is a request. -/
theorem separators_end_no_line :
    let idle : Handler Unit :=
      { card := ⟨[]⟩, positions := [], compute := fun _ s => (.ok .undefined, s) }
    let written := fun bs : Bytes =>
      (serve (.beside idle fun _ t => t) (fun _ => none) [bs] ((), ())).written
    let separated : Bytes := Utf8.encode [123, 125, 0x2028, 123, 125, 10]
    let unfinished : Bytes := [123, 125, 0xE2, 0x82]
    (requests (Lines.split [0x2028, 0x2029] (Utf8.decode separated))).length = 2 ∧
    (written separated).length = 0 ∧
    (requests (Lines.split [] (Utf8.decode unfinished))).length = 0 ∧
    (written unfinished).length = 1 := by
  decide

end Session

end LineAgents
