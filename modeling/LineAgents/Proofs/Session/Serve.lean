import LineAgents.Proofs.Session.Lines
import LineAgents.Session.Machine

/-!
# What a session amounts to

A session waits for three things, and lines arrive while it waits. This file takes the waiting out
of it. An **account** (`LineAgents.Session.Account`) is what a session has to show: the state it has
come to, what it has written, what it has counted, and the failure that ended it, if one did. A line
changes an account by `LineAgents.Session.Account.take`, which knows no phases.

The link is the **outlook** of a session (`LineAgents.Session.outlook`): the account that it comes
to if everything at hand is completed and nothing more arrives. It is the one thing that the proofs
follow through a run:

* the completion of a computation and the answer of the output leave the outlook as it is, since
  both were in it (`LineAgents.Session.outlook_step_of_due`);
* lines that arrive are taken into it one after the other, whatever the session is busy with
  (`LineAgents.Session.outlook_arrive`).

So the account of a whole run is the fold of `LineAgents.Session.Account.take` over the lines of the
input (`LineAgents.Session.outlook_serve`), and the bound on the steps that
`LineAgents.Session.advance` may take is enough for nothing to be left
(`LineAgents.Session.due?_serve`).
-/

namespace LineAgents.Session

variable {σ : Type}

/-! ### Accounts -/

/-- **What a session has to show.** -/
structure Account (σ : Type) where
  state : σ
  written : List Text := []
  tally : Tally := {}
  failure : Option Failure := none

namespace Account

/-- The output is given a line. -/
def write (out : Output) (line : Text) (a : Account σ) : Account σ :=
  match out a.tally.answered with
  | some f => { a with failure := some f }
  | none => { a with written := a.written ++ [line], tally.answered := a.tally.answered + 1 }

/-- A request is answered. -/
def answer (v : Service σ) (out : Output) (r : Request) (a : Account σ) : Account σ :=
  let (response, state) := v.handler.respond r a.state
  write out (response.encode ++ [10]) { a with state := state }

/-- **A line is taken**: a blank one is passed over, a request is answered, any other is noted. Once
a write has failed nothing is done any more. -/
def take (v : Service σ) (out : Output) (a : Account σ) (line : Text) : Account σ :=
  if a.failure.isSome || line.allBlank then a
  else
    let a := { a with tally.received := a.tally.received + 1 }
    match Request.decode? line with
    | some r => a.answer v out r
    | none =>
      { a with
        state := v.log (droppedNote line) a.state
        tally.dropped := a.tally.dropped + 1 }

variable {v : Service σ} {out : Output} {a : Account σ} {line : Text}

theorem take_blank (h : line.allBlank = true) : a.take v out line = a := by
  rw [take, h, Bool.or_true, if_pos rfl]

theorem take_request {r : Request} (ha : a.failure = none) (hb : line.allBlank = false)
    (h : Request.decode? line = some r) :
    a.take v out line =
      answer v out r { a with tally.received := a.tally.received + 1 } := by
  simp only [take, ha, hb, h, Option.isSome_none, Bool.or_self, Bool.false_eq_true, if_false]

theorem take_malformed (ha : a.failure = none) (hb : line.allBlank = false)
    (h : Request.decode? line = none) :
    a.take v out line = { a with
      state := v.log (droppedNote line) a.state
      tally.received := a.tally.received + 1
      tally.dropped := a.tally.dropped + 1 } := by
  simp only [take, ha, hb, h, Option.isSome_none, Bool.or_self, Bool.false_eq_true, if_false]

/-- After a failure nothing is done any more. -/
theorem foldl_take_of_failure (h : a.failure.isSome = true) (lines : List Text) :
    lines.foldl (take v out) a = a := by
  induction lines with
  | nil => rfl
  | cons line lines ih => rw [List.foldl_cons, take, h, Bool.true_or, if_pos rfl, ih]

end Account

/-! ### The outlook of a session -/

/-- What a session has to show so far. -/
def account (s : Session σ) : Account σ where
  state := s.state
  written := s.written
  tally := s.tally

/-- **What a session will have to show** once all that is at hand is completed. -/
def outlook (v : Service σ) (out : Output) (s : Session σ) : Account σ :=
  match s.phase with
  | .reading => s.waiting.foldl (Account.take v out) s.account
  | .computing r => s.waiting.foldl (Account.take v out) (s.account.answer v out r)
  | .writing line => s.waiting.foldl (Account.take v out) (s.account.write out line)
  | .finished => s.account
  | .failed f => { s.account with failure := some f }

variable {v : Service σ} {out : Output} {s : Session σ}

/-- A request that is begun will be answered, and the lines behind it taken after that. -/
theorem outlook_begin (r : Request) (s : Session σ) : (begin v r s).outlook v out =
    s.waiting.foldl (Account.take v out) (s.account.answer v out r) := by
  rw [begin]
  split <;> rfl

/-- **Lines that are gone through** are taken one after the other. -/
theorem outlook_settle (lines : List Text) (s : Session σ) : (settle v lines s).outlook v out =
    lines.foldl (Account.take v out) s.account := by
  induction lines generalizing s with
  | nil =>
    rw [settle, List.foldl_nil]
    cases s.closed <;> rfl
  | cons line rest ih =>
    rw [settle, List.foldl_cons]
    by_cases hb : line.allBlank = true
    · rw [if_pos hb, ih, Account.take_blank hb]
    · rw [if_neg hb]
      rw [Bool.not_eq_true] at hb
      cases h : Request.decode? line with
      | some r => rw [outlook_begin, Account.take_request rfl hb h]; rfl
      | none => rw [ih, Account.take_malformed rfl hb h]; rfl

/-- The session after the output has taken the line that was being written. -/
def wrote (s : Session σ) (line : Text) : Session σ :=
  { s with written := s.written ++ [line], tally.answered := s.tally.answered + 1 }

/-- **The steps that can be due**: a computation completes, or the output takes a line or refuses
it. -/
theorem step_cases_of_due {e : Happening} (h : s.due? out = some e) :
    (∃ r, s.phase = .computing r ∧ s.step v e = s.answer v r) ∨
    (∃ line, s.phase = .writing line ∧ out s.tally.answered = none ∧
      s.step v e = settle v s.waiting (s.wrote line)) ∨
    ∃ line f, s.phase = .writing line ∧ out s.tally.answered = some f ∧
      s.step v e = { s with phase := .failed f } := by
  rw [due?] at h
  cases hp : s.phase with
  | computing r =>
    simp only [hp, Option.some.injEq] at h
    subst h
    exact Or.inl ⟨r, rfl, by rw [step, hp]⟩
  | writing line =>
    simp only [hp, Option.some.injEq] at h
    subst h
    cases out s.tally.answered with
    | none => exact Or.inr (Or.inl ⟨line, rfl, rfl, by simp only [step, hp, wrote]⟩)
    | some f => exact Or.inr (Or.inr ⟨line, f, rfl, rfl, by rw [step, hp]⟩)
  | reading => simp [hp] at h
  | finished => simp [hp] at h
  | failed f => simp [hp] at h

/-- **A step that is due changes nothing**: it was in the outlook already. -/
theorem outlook_step_of_due {e : Happening} (h : s.due? out = some e) :
    (s.step v e).outlook v out = s.outlook v out := by
  rcases step_cases_of_due (v := v) h with
    ⟨r, hp, hstep⟩ | ⟨line, hp, ho, hstep⟩ | ⟨line, f, hp, ho, hstep⟩
  · simp only [hstep, outlook, hp]
    rfl
  · rw [hstep, outlook_settle]
    simp only [outlook, hp, wrote, account, Account.write, ho]
  · -- the refusal loses the lines that wait, and the account passes over them too
    simp only [hstep, outlook, hp, account, Account.write, ho]
    rw [Account.foldl_take_of_failure rfl]

/-- **Lines that arrive** are taken in their turn, whatever the session is busy with. -/
theorem outlook_arrive (h : s.phase ≠ .finished) (lines : List Text) :
    (arrive v lines s).outlook v out = lines.foldl (Account.take v out) (s.outlook v out) := by
  rw [arrive]
  cases hp : s.phase with
  | reading =>
    -- the lines that wait come before those that arrive
    have hs : s.outlook v out = s.waiting.foldl (Account.take v out) s.account := by
      simp only [outlook, hp]
    rw [hs, ← List.foldl_append]
    exact outlook_settle (s.waiting ++ lines) s
  | computing r => simp only [outlook, hp, List.foldl_append]; rfl
  | writing line => simp only [outlook, hp, List.foldl_append]; rfl
  | finished => exact absurd hp h
  | failed f =>
    -- nothing is taken after a failure, on either side
    simp only [outlook, hp]
    rw [Account.foldl_take_of_failure rfl]
    rfl

/-! ### Every step that is due -/

/-- **How many steps can be due** one after the other: two for each line that waits, and those that
the line under way still needs. -/
def rank (s : Session σ) : Nat :=
  match s.phase with
  | .computing _ => 2 * s.waiting.length + 2
  | .writing _ => 2 * s.waiting.length + 1
  | _ => 0

theorem rank_settle_le (lines : List Text) (s : Session σ) :
    (settle v lines s).rank ≤ 2 * lines.length := by
  induction lines generalizing s with
  | nil =>
    rw [settle]
    cases s.closed <;> exact Nat.le_refl 0
  | cons line rest ih =>
    have hlen : (line :: rest).length = rest.length + 1 := List.length_cons
    rw [settle]
    split
    · exact Nat.le_trans (ih _) (by omega)
    · split
      · -- a request stops the run through the lines, with at most two steps of its own to come
        rw [begin, answer]
        split
        · change 2 * rest.length + 2 ≤ _
          omega
        · change 2 * rest.length + 1 ≤ _
          omega
      · exact Nat.le_trans (ih _) (by omega)

/-- A step that is due brings the end nearer. -/
theorem rank_step_lt_of_due {e : Happening} (h : s.due? out = some e) :
    (s.step v e).rank < s.rank := by
  rcases step_cases_of_due (v := v) h with
    ⟨r, hp, hstep⟩ | ⟨line, hp, -, hstep⟩ | ⟨line, f, hp, -, hstep⟩
  · have hrank : s.rank = 2 * s.waiting.length + 2 := by simp only [rank, hp]
    rw [hstep, hrank]
    exact Nat.lt_succ_self _
  · have hrank : s.rank = 2 * s.waiting.length + 1 := by simp only [rank, hp]
    rw [hstep, hrank]
    exact Nat.lt_succ_of_le (rank_settle_le s.waiting _)
  · have hrank : s.rank = 2 * s.waiting.length + 1 := by simp only [rank, hp]
    rw [hstep, hrank]
    exact Nat.succ_pos _

theorem due?_eq_none_of_rank (h : s.rank = 0) : s.due? out = none := by
  rw [rank] at h
  cases hp : s.phase with
  | computing r => simp [hp] at h
  | writing line => simp [hp] at h
  | reading => simp [due?, hp]
  | finished => simp [due?, hp]
  | failed f => simp [due?, hp]

/-- **Draining completes everything at hand**, when it may take enough steps. -/
theorem due?_drain {n : Nat} (h : s.rank ≤ n) : (drain v out n s).due? out = none := by
  induction n generalizing s with
  | zero => exact due?_eq_none_of_rank (Nat.le_zero.mp h)
  | succ n ih =>
    -- one step costs one of the `n + 1`, and lowers the rank by one at least
    rw [drain]
    cases hd : s.due? out with
    | none => exact hd
    | some e => exact ih (Nat.le_of_lt_succ (Nat.lt_of_lt_of_le (rank_step_lt_of_due hd) h))

/-- Nothing is late after an advance. -/
theorem due?_advance (s : Session σ) (e : Happening) : (advance v out s e).due? out = none := by
  refine due?_drain ?_
  rw [rank]
  split <;> omega

/-! ### The end of the input -/

/-- What holds between any two steps: a session that reads has no line waiting, one that has
finished has seen the end of its input, and one that has seen it does not read. -/
structure Settled (s : Session σ) : Prop where
  reading : s.phase = .reading → s.waiting = [] ∧ s.closed = false
  finished : s.phase = .finished → s.closed = true

theorem settled_settle (lines : List Text) (s : Session σ) : (settle v lines s).Settled := by
  induction lines generalizing s with
  | nil =>
    rw [settle]
    cases hc : s.closed with
    | true => exact ⟨fun h => by simp at h, fun _ => rfl⟩
    | false => exact ⟨fun _ => ⟨rfl, rfl⟩, fun h => by simp at h⟩
  | cons line rest ih =>
    rw [settle]
    split
    · exact ih _
    · split
      · rw [begin, answer]
        split <;> exact ⟨fun h => by simp at h, fun h => by simp at h⟩
      · exact ih _

theorem settled_arrive (h : s.phase = .finished → s.closed = true) (lines : List Text) :
    (arrive v lines s).Settled := by
  rw [arrive]
  cases hp : s.phase with
  | reading => exact settled_settle _ _
  | finished => exact ⟨fun hr => by simp at hr, fun _ => h hp⟩
  | _ => exact ⟨fun hr => by simp_all, fun hf => by simp_all⟩

theorem settled_step_of_due {e : Happening} (h : s.due? out = some e) :
    (s.step v e).Settled := by
  rcases step_cases_of_due (v := v) h with ⟨r, -, hstep⟩ | ⟨line, -, -, hstep⟩ | ⟨_, f, -, -, hstep⟩
  · rw [hstep, answer]
    exact ⟨fun hr => by simp at hr, fun hf => by simp at hf⟩
  · rw [hstep]
    exact settled_settle _ _
  · rw [hstep]
    exact ⟨fun hr => by simp at hr, fun hf => by simp at hf⟩

/-- Going through lines reads nothing. -/
theorem input_settle (lines : List Text) (s : Session σ) :
    (settle v lines s).reader = s.reader ∧ (settle v lines s).closed = s.closed := by
  induction lines generalizing s with
  | nil => exact ⟨rfl, rfl⟩
  | cons line rest ih =>
    rw [settle]
    split
    · exact ih s
    · split
      · rw [begin, answer]
        split <;> exact ⟨rfl, rfl⟩
      · exact ih _

theorem input_arrive (lines : List Text) (s : Session σ) :
    (arrive v lines s).reader = s.reader ∧ (arrive v lines s).closed = s.closed := by
  rw [arrive]
  split
  · exact input_settle _ s
  · exact ⟨rfl, rfl⟩

theorem input_step_of_due {e : Happening} (h : s.due? out = some e) :
    (s.step v e).reader = s.reader ∧ (s.step v e).closed = s.closed := by
  rcases step_cases_of_due (v := v) h with ⟨r, -, hstep⟩ | ⟨line, -, -, hstep⟩ | ⟨_, f, -, -, hstep⟩
  · rw [hstep]
    exact ⟨rfl, rfl⟩
  · rw [hstep]
    exact input_settle s.waiting _
  · rw [hstep]
    exact ⟨rfl, rfl⟩

/-- What every step that is due keeps is kept by draining. -/
theorem drain_induction {P : Session σ → Prop}
    (hstep : ∀ (s : Session σ) (e : Happening), s.due? out = some e → P s → P (s.step v e))
    (n : Nat) (h : P s) : P (drain v out n s) := by
  induction n generalizing s with
  | zero => exact h
  | succ n ih =>
    rw [drain]
    cases hd : s.due? out with
    | none => exact h
    | some e => exact ih (hstep s e hd h)

/-- **What holds of a session that has been served some bytes**: its reader has taken them, and its
outlook is what their lines amount to. -/
structure Served (v : Service σ) (out : Output) (state : σ) (bs : Bytes) (s : Session σ) :
    Prop where
  settled : s.Settled
  unclosed : s.closed = false
  reader : s.reader = (({} : Lines.Reader).feed bs).2
  outlook : s.outlook v out =
    (({} : Lines.Reader).feed bs).1.foldl (Account.take v out) { state := state }

theorem served_nil (v : Service σ) (out : Output) (state : σ) :
    Served v out state [] { state := state } where
  settled := ⟨fun _ => ⟨rfl, rfl⟩, fun h => by simp at h⟩
  unclosed := rfl
  reader := rfl
  outlook := rfl

section Served

variable {state : σ} {bs : Bytes}

theorem Served.not_finished (h : Served v out state bs s) : s.phase ≠ .finished := fun hp => by
  have hclosed := h.settled.finished hp
  rw [h.unclosed] at hclosed
  exact Bool.false_ne_true hclosed

/-- A chunk arrives. -/
theorem Served.step_chunk (h : Served v out state bs s) (chunk : Bytes) :
    Served v out state (bs ++ chunk) (s.step v (.chunk chunk)) := by
  have hstep : s.step v (.chunk chunk) =
      arrive v (s.reader.feed chunk).1 { s with reader := (s.reader.feed chunk).2 } := rfl
  have hinput := input_arrive (v := v) (s.reader.feed chunk).1
    { s with reader := (s.reader.feed chunk).2 }
  have houtlook : (s.step v (.chunk chunk)).outlook v out =
      (s.reader.feed chunk).1.foldl (Account.take v out) (s.outlook v out) :=
    outlook_arrive (s := { s with reader := (s.reader.feed chunk).2 }) h.not_finished _
  rw [← hstep] at hinput
  refine ⟨?_, hinput.2.trans h.unclosed, ?_, ?_⟩
  · exact settled_arrive (s := { s with reader := (s.reader.feed chunk).2 }) h.settled.finished _
  · rw [hinput.1, Lines.Reader.feed_append, ← h.reader]
  · rw [houtlook, h.outlook, Lines.Reader.feed_append, List.foldl_append, ← h.reader]

/-- A step that is due serves no bytes. -/
theorem Served.step_due (h : Served v out state bs s) {e : Happening} (hd : s.due? out = some e) :
    Served v out state bs (s.step v e) := by
  obtain ⟨hreader, hclosed⟩ := input_step_of_due (v := v) hd
  exact ⟨settled_step_of_due hd, hclosed.trans h.unclosed, hreader.trans h.reader,
    (outlook_step_of_due hd).trans h.outlook⟩

/-- **A chunk more.** -/
theorem Served.chunk (h : Served v out state bs s) (chunk : Bytes) :
    Served v out state (bs ++ chunk) (advance v out s (.chunk chunk)) :=
  drain_induction (fun _ _ hd h => h.step_due hd) _ (h.step_chunk chunk)

/-- **What holds of a session once its input has ended**: its outlook is what all the lines of the
stream amount to. -/
structure Ended (v : Service σ) (out : Output) (state : σ) (bs : Bytes) (s : Session σ) :
    Prop where
  settled : s.Settled
  closed : s.closed = true
  outlook : s.outlook v out = (Lines.ofBytes bs).foldl (Account.take v out) { state := state }

/-- The input ends. -/
theorem Served.step_close (h : Served v out state bs s) :
    Ended v out state bs (s.step v .close) := by
  have houtlook : (s.step v .close).outlook v out =
      s.reader.finish.foldl (Account.take v out) (s.outlook v out) :=
    outlook_arrive (s := { s with reader := {}, closed := true }) h.not_finished _
  refine ⟨?_, ?_, ?_⟩
  · exact settled_arrive (s := { s with reader := {}, closed := true }) (fun _ => rfl) _
  · exact (input_arrive s.reader.finish { s with reader := {}, closed := true }).2
  · rw [houtlook, h.outlook, ← List.foldl_append, h.reader]
    rfl

/-- A step that is due keeps to the lines of the stream. -/
theorem Ended.step_due (h : Ended v out state bs s) {e : Happening} (hd : s.due? out = some e) :
    Ended v out state bs (s.step v e) :=
  ⟨settled_step_of_due hd, (input_step_of_due hd).2.trans h.closed,
    (outlook_step_of_due hd).trans h.outlook⟩

/-- **The end of the input.** -/
theorem Served.close (h : Served v out state bs s) :
    Ended v out state bs (advance v out s .close) :=
  drain_induction (fun _ _ hd h => h.step_due hd) _ h.step_close

end Served

theorem served_foldl (v : Service σ) (out : Output) (state : σ) (chunks : List Bytes) :
    Served v out state chunks.flatten
      (chunks.foldl (fun s bs => advance v out s (.chunk bs)) { state := state }) := by
  have hfold : ∀ (bs : Bytes) (s : Session σ), Served v out state bs s →
      Served v out state (bs ++ chunks.flatten)
        (chunks.foldl (fun s bs => advance v out s (.chunk bs)) s) := by
    induction chunks with
    | nil =>
      intro bs s h
      rw [List.flatten_nil, List.append_nil]
      exact h
    | cons chunk chunks ih =>
      intro bs s h
      rw [List.flatten_cons, ← List.append_assoc]
      exact ih _ _ (h.chunk chunk)
  exact hfold [] _ (served_nil v out state)

/-- **What a served session amounts to**: its lines, taken one after the other. -/
theorem outlook_serve (v : Service σ) (out : Output) (chunks : List Bytes) (state : σ) :
    (serve v out chunks state).outlook v out =
      (Lines.ofBytes chunks.flatten).foldl (Account.take v out) { state := state } :=
  (served_foldl v out state chunks).close.outlook

/-- Nothing is late at the end of a served session. -/
theorem due?_serve (v : Service σ) (out : Output) (chunks : List Bytes) (state : σ) :
    (serve v out chunks state).due? out = none :=
  due?_advance _ _

/-- **What a session shows at its end**: its account, with the failure that ended it if one did. -/
def shown (s : Session σ) : Account σ where
  state := s.state
  written := s.written
  tally := s.tally
  failure := match s.phase with
    | .failed f => some f
    | _ => none

theorem outcome_eq (s : Session σ) : s.outcome = match s.shown.failure with
    | none => .ok s.shown.tally
    | some f => .error f := by
  rw [outcome]
  cases hp : s.phase <;> simp only [shown, hp]

/-- **A session is at its end** when its input has ended and nothing is due: it has finished, or a
write has failed, and it shows its outlook. -/
theorem Settled.at_end (h : s.Settled) (hclosed : s.closed = true) (hdue : s.due? out = none) :
    s.shown = s.outlook v out ∧ s.phase = match (s.outlook v out).failure with
      | none => .finished
      | some f => .failed f := by
  cases hp : s.phase with
  | reading =>
    have hopen := (h.reading hp).2
    rw [hclosed] at hopen
    exact absurd hopen (by decide)
  | computing r => simp [due?, hp] at hdue
  | writing line => simp [due?, hp] at hdue
  | finished => simp only [shown, outlook, hp, account, and_self]
  | failed f => simp only [shown, outlook, hp, account, and_self]

/-- A served session is at its end. -/
theorem at_end_serve (v : Service σ) (out : Output) (chunks : List Bytes) (state : σ) :
    (serve v out chunks state).shown = (serve v out chunks state).outlook v out ∧
      (serve v out chunks state).phase =
        match ((serve v out chunks state).outlook v out).failure with
        | none => .finished
        | some f => .failed f := by
  have hended := (served_foldl v out state chunks).close
  exact hended.settled.at_end hended.closed (due?_serve v out chunks state)

/-- **A served session comes to its end**: it has finished, or a write has failed. -/
theorem phase_serve (v : Service σ) (out : Output) (chunks : List Bytes) (state : σ) :
    (serve v out chunks state).phase =
      match ((serve v out chunks state).outlook v out).failure with
      | none => .finished
      | some f => .failed f :=
  (at_end_serve v out chunks state).2

/-- **What a served session shows** is its lines, taken one after the other. -/
theorem shown_serve (v : Service σ) (out : Output) (chunks : List Bytes) (state : σ) :
    (serve v out chunks state).shown =
      (Lines.ofBytes chunks.flatten).foldl (Account.take v out) { state := state } :=
  (at_end_serve v out chunks state).1.trans (outlook_serve v out chunks state)

end LineAgents.Session
