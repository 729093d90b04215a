import LineAgents.Proofs.Session.Diary

/-!
# Runs in any order

What comes from outside comes when it comes: a chunk arrives while a computation is under way, the
input ends while a line is being written, and what is awaited may take any time. A **run**
(`LineAgents.Session.Run`) is a session that such happenings have moved, in any order in which they
can come: input as long as it has not ended, and the one step that is due whenever it comes.

Whatever the order, the marks of a run are the first ones of the diary of the lines that have
arrived (`LineAgents.Session.Run.marks_append_ahead`), each line that has arrived was gone through
or waits (`LineAgents.Session.Run.goneThrough`), and every run can come to an end
(`LineAgents.Session.Run.exists_end`), at which it shows what the session shows in which nothing was
ever late (`LineAgents.Session.Run.shown_eq_serve`). The main result says what this means for the
requests (`LineAgents.Session.Run.in_turn`): they are dealt with in turn.

For the proofs a chunk and the end of the input are alike, since both bring lines, so that an
induction over runs has two steps to deal with (`LineAgents.Session.Run.arrive_or_due`).
-/

namespace LineAgents

variable {σ : Type}

namespace Session

variable {v : Service σ} {out : Output} {s : Session σ}

/-! ### What a session has gone through -/

/-- **The account of the lines that a session has gone through**, the one under way included. -/
def through (v : Service σ) (out : Output) (s : Session σ) : Account σ :=
  match s.phase with
  | .reading => s.account
  | .computing r => s.account.answer v out r
  | .writing line => s.account.write out line
  | .finished => s.account
  | .failed f => { s.account with failure := some f }

/-- **A session has gone through lines**, with what they amount to from an account on, and those
that it has not gone through wait. -/
def GoneThrough (v : Service σ) (out : Output) (a : Account σ) (lines : List Text)
    (s : Session σ) : Prop :=
  ∃ gone, lines = gone ++ s.waiting ∧ s.through v out = gone.foldl (Account.take v out) a

/-- What waits is gone through later, together with lines that arrive behind it. -/
theorem GoneThrough.append {a : Account σ} {lines lines' : List Text} {s' : Session σ}
    (h : s.GoneThrough v out a lines)
    (h' : s'.GoneThrough v out (s.through v out) (s.waiting ++ lines')) :
    s'.GoneThrough v out a (lines ++ lines') := by
  obtain ⟨gone, rfl, hthrough⟩ := h
  obtain ⟨gone', hgone', hthrough'⟩ := h'
  refine ⟨gone ++ gone', ?_, ?_⟩
  · rw [List.append_assoc, hgone', List.append_assoc]
  · rw [hthrough', hthrough, List.foldl_append]

theorem through_begin (v : Service σ) (out : Output) (r : Request) (s : Session σ) :
    (begin v r s).through v out = s.account.answer v out r ∧
      (begin v r s).waiting = s.waiting := by
  rw [begin]
  split <;> exact ⟨rfl, rfl⟩

/-- Going through lines stops behind the first request. -/
theorem goneThrough_settle (lines : List Text) (s : Session σ) :
    (settle v lines s).GoneThrough v out s.account lines := by
  induction lines generalizing s with
  | nil =>
    refine ⟨[], ?_, ?_⟩
    · rw [settle]
      rfl
    · rw [settle, List.foldl_nil]
      cases s.closed <;> rfl
  | cons line rest ih =>
    rw [settle]
    by_cases hb : line.allBlank = true
    · obtain ⟨gone, hgone, hthrough⟩ := ih s
      rw [if_pos hb]
      refine ⟨line :: gone, congrArg (line :: ·) hgone, ?_⟩
      rw [hthrough, List.foldl_cons, Account.take_blank hb]
    · rw [if_neg hb]
      rw [Bool.not_eq_true] at hb
      cases h : Request.decode? line with
      | some r =>
        obtain ⟨hthrough, hwaiting⟩ := through_begin v out r
          { s with tally.received := s.tally.received + 1, waiting := rest }
        refine ⟨[line], congrArg (line :: ·) hwaiting.symm, ?_⟩
        rw [List.foldl_cons, Account.take_request rfl hb h]
        exact hthrough
      | none =>
        obtain ⟨gone, hgone, hthrough⟩ := ih
          { s with
            tally.received := s.tally.received + 1
            state := v.log (droppedNote line) s.state
            tally.dropped := s.tally.dropped + 1 }
        refine ⟨line :: gone, congrArg (line :: ·) hgone, ?_⟩
        rw [hthrough, List.foldl_cons, Account.take_malformed rfl hb h]
        rfl

/-- Lines that arrive are gone through when the session reads, behind those that wait, and wait
otherwise. -/
theorem goneThrough_arrive (lines : List Text) (s : Session σ) :
    (arrive v lines s).GoneThrough v out (s.through v out) (s.waiting ++ lines) := by
  rw [arrive]
  cases hp : s.phase with
  | reading =>
    have hs : s.through v out = s.account := by simp only [through, hp]
    rw [hs]
    exact goneThrough_settle (s.waiting ++ lines) s
  | _ => exact ⟨[], rfl, by simp only [through, hp]; rfl⟩

/-- A step that is due goes through lines that wait, once the output has taken the line before. -/
theorem goneThrough_step_of_due {e : Happening} (h : s.due? out = some e) :
    (s.step v e).GoneThrough v out (s.through v out) s.waiting := by
  rcases step_cases_of_due (v := v) h with
    ⟨r, hp, hstep⟩ | ⟨line, hp, ho, hstep⟩ | ⟨line, f, hp, ho, hstep⟩
  · refine ⟨[], by rw [hstep]; rfl, ?_⟩
    simp only [hstep, through, hp]
    rfl
  · have hs : s.through v out = (s.wrote line).account := by
      simp only [through, hp, account, Account.write, ho, wrote]
    rw [hs, hstep]
    exact goneThrough_settle s.waiting (s.wrote line)
  · refine ⟨[], by rw [hstep]; rfl, ?_⟩
    simp only [hstep, through, hp, account, Account.write, ho]
    rfl

theorem isSome_due?_begin (v : Service σ) (out : Output) (r : Request) (s : Session σ) :
    ((begin v r s).due? out).isSome = true := by
  rw [begin]
  split <;> rfl

/-- Lines that are gone through wait only behind a request. -/
theorem waiting_settle_or_due (out : Output) (lines : List Text) (s : Session σ) :
    (settle v lines s).waiting = [] ∨ ((settle v lines s).due? out).isSome = true := by
  induction lines generalizing s with
  | nil => exact Or.inl rfl
  | cons line rest ih =>
    rw [settle]
    split
    · exact ih s
    · split
      · exact Or.inr (isSome_due?_begin v out _ _)
      · exact ih _

/-- Lines that arrive wait only while a step is due, or when the session will take none any more. -/
theorem waiting_arrive_or_due (hfinished : s.phase ≠ .finished) (hfailed : ∀ f, s.phase ≠ .failed f)
    (out : Output) (lines : List Text) :
    (arrive v lines s).waiting = [] ∨ ((arrive v lines s).due? out).isSome = true := by
  rw [arrive]
  cases hp : s.phase with
  | reading => exact waiting_settle_or_due out _ s
  | computing r => exact Or.inr rfl
  | writing line => exact Or.inr rfl
  | finished => exact absurd hp hfinished
  | failed f => exact absurd hp (hfailed f)

/-- The account of the lines that were gone through has an answer more than the session has written
when a step is due, and none more otherwise. -/
theorem exists_pending (h : ∀ f, s.phase ≠ .failed f) : ∃ pending : Option Text,
    pending.isSome = (s.due? accepting).isSome ∧
    (s.through v accepting).written = s.written ++ pending.toList ∧
    (s.through v accepting).tally =
      { s.tally with answered := s.tally.answered + pending.toList.length } := by
  cases hp : s.phase with
  | reading => exact ⟨none, by simp [due?, hp], by simp [through, hp, account]⟩
  | computing r =>
    refine ⟨some (v.reply r s.state), by simp [due?, hp], ?_⟩
    simp only [through, hp]
    exact ⟨rfl, rfl⟩
  | writing line =>
    refine ⟨some line, by simp [due?, hp], ?_⟩
    simp only [through, hp]
    exact ⟨rfl, rfl⟩
  | finished => exact ⟨none, by simp [due?, hp], by simp [through, hp, account]⟩
  | failed f => exact absurd hp (h f)

/-! ### What is written -/

theorem written_settle (lines : List Text) (s : Session σ) :
    (settle v lines s).written = s.written := by
  induction lines generalizing s with
  | nil => rfl
  | cons line rest ih =>
    rw [settle]
    split
    · exact ih s
    · split
      · rw [begin]
        split <;> rfl
      · exact ih _

theorem filterMap_taken_entered (p : Phase) : p.entered.filterMap Mark.taken? = [] := by
  cases p <;> rfl

/-- Lines that arrive are not written before a step is due. -/
theorem written_arrive (lines : List Text) (s : Session σ) :
    (arrive v lines s).written = s.written ++ (arrival v lines s).filterMap Mark.taken? := by
  rw [arrive, arrival]
  cases s.phase with
  | reading =>
    change (settle v _ s).written = s.written ++ (arrive v lines s).phase.entered.filterMap _
    rw [written_settle, filterMap_taken_entered, List.append_nil]
  | _ => exact (List.append_nil _).symm

/-- **What a step that is due writes** is what its marks say is taken. -/
theorem written_step_of_due {e : Happening} (h : s.due? out = some e) :
    (s.step v e).written = s.written ++ (s.marks v e).filterMap Mark.taken? := by
  rcases marks_cases_of_due (v := v) h with
    ⟨r, -, hstep, hmarks⟩ | ⟨line, -, -, hstep, hmarks⟩ | ⟨line, f, -, -, hstep, hmarks⟩
  · have htaken : (s.marks v e).filterMap Mark.taken? = [] := by
      rw [hmarks]
      exact filterMap_taken_entered _
    rw [htaken, hstep, List.append_nil]
    rfl
  · have htaken : (s.marks v e).filterMap Mark.taken? = [line] := by
      rw [hmarks]
      exact congrArg (line :: ·) (filterMap_taken_entered _)
    rw [htaken, hstep, written_settle]
    rfl
  · rw [hmarks, hstep]
    exact (List.append_nil _).symm

/-! ### Runs -/

/-- **A run of a session**, with the bytes that have arrived and the marks that it has left: chunks
and the end of the input come when they come, and so does what is awaited. -/
inductive Run (v : Service σ) (out : Output) (state : σ) : Bytes → List Mark → Session σ → Prop
  | start : Run v out state [] [] { state := state }
  | chunk {bs : Bytes} {ms : List Mark} {s : Session σ} (h : Run v out state bs ms s)
      (hopen : s.closed = false) (bytes : Bytes) :
      Run v out state (bs ++ bytes) (ms ++ s.marks v (.chunk bytes)) (s.step v (.chunk bytes))
  | close {bs : Bytes} {ms : List Mark} {s : Session σ} (h : Run v out state bs ms s)
      (hopen : s.closed = false) :
      Run v out state bs (ms ++ s.marks v .close) (s.step v .close)
  | due {bs : Bytes} {ms : List Mark} {s : Session σ} (h : Run v out state bs ms s) {e : Happening}
      (hdue : s.due? out = some e) :
      Run v out state bs (ms ++ s.marks v e) (s.step v e)

namespace Run

variable {state : σ} {bs : Bytes} {ms : List Mark}

/-- The step that is due is taken. -/
theorem next (h : Run v out state bs ms s) (hdue : (s.due? out).isSome = true) :
    Run v out state bs (ms ++ s.marks v ((s.due? out).get hdue))
      (s.step v ((s.due? out).get hdue)) :=
  h.due (Option.some_get hdue).symm

/-- **What has arrived is served**, whether or not the input has ended. -/
theorem served (h : Run v out state bs ms s) :
    Served v out state bs s ∨ Ended v out state bs s := by
  induction h with
  | start => exact Or.inl (served_nil v out state)
  | chunk _ hopen bytes ih =>
    rcases ih with hs | hs
    · exact Or.inl (hs.step_chunk bytes)
    · exact absurd hs.closed (by simp [hopen])
  | close _ hopen ih =>
    rcases ih with hs | hs
    · exact Or.inr hs.step_close
    · exact absurd hs.closed (by simp [hopen])
  | due _ hdue ih =>
    rcases ih with hs | hs
    · exact Or.inl (hs.step_due hdue)
    · exact Or.inr (hs.step_due hdue)

theorem served_of_open (h : Run v out state bs ms s) (hopen : s.closed = false) :
    Served v out state bs s := by
  rcases h.served with hs | hs
  · exact hs
  · exact absurd hs.closed (by simp [hopen])

theorem ended_of_closed (h : Run v out state bs ms s) (hclosed : s.closed = true) :
    Ended v out state bs s := by
  rcases h.served with hs | hs
  · exact absurd hs.unclosed (by simp [hclosed])
  · exact hs

end Run

end Session

/-- **The lines that have arrived** with bytes, and with the end of the input if it has come. -/
def Lines.arrived (bs : Bytes) (ended : Bool) : List Text :=
  if ended then ofBytes bs else (({} : Reader).feed bs).1

namespace Session.Run

variable {v : Service σ} {out : Output} {state : σ} {bs : Bytes} {ms : List Mark} {s : Session σ}

/-- **The outlook of a run** is what the lines that have arrived amount to. -/
theorem outlook_eq (h : Run v out state bs ms s) : s.outlook v out =
    (Lines.arrived bs s.closed).foldl (Account.take v out) { state := state } := by
  cases hclosed : s.closed with
  | false => exact (h.served_of_open hclosed).outlook
  | true => exact (h.ended_of_closed hclosed).outlook

/-- A chunk brings the lines that it ends. -/
theorem arrived_chunk (h : Run v out state bs ms s) (hopen : s.closed = false) (bytes : Bytes) :
    Lines.arrived (bs ++ bytes) (s.step v (.chunk bytes)).closed =
      Lines.arrived bs s.closed ++ (s.reader.feed bytes).1 := by
  have hs := h.served_of_open hopen
  rw [(hs.step_chunk bytes).unclosed, hopen, hs.reader]
  exact congrArg Prod.fst (Lines.Reader.feed_append _ _ _)

/-- The end of the input brings the line that has not ended. -/
theorem arrived_close (h : Run v out state bs ms s) (hopen : s.closed = false) :
    Lines.arrived bs (s.step v .close).closed =
      Lines.arrived bs s.closed ++ s.reader.finish := by
  have hs := h.served_of_open hopen
  rw [hs.step_close.closed, hopen, hs.reader]
  rfl

/-- **What every run has**: what is there at the start, and is kept when lines arrive, with a chunk
or with the end of the input, and by the steps that are due. -/
theorem arrive_or_due {P : List Text → List Mark → Session σ → Prop}
    (start : P [] [] { state := state })
    (arrive : ∀ {bs ms} {s : Session σ}, Run v out state bs ms s → s.phase ≠ .finished →
      P (Lines.arrived bs s.closed) ms s →
      ∀ (lines : List Text) (reader : Lines.Reader) (closed : Bool),
        P (Lines.arrived bs s.closed ++ lines)
          (ms ++ arrival v lines { s with reader := reader, closed := closed })
          (Session.arrive v lines { s with reader := reader, closed := closed }))
    (due : ∀ {lines ms} {s : Session σ} {e : Happening}, s.due? out = some e → P lines ms s →
      P lines (ms ++ s.marks v e) (s.step v e))
    (h : Run v out state bs ms s) : P (Lines.arrived bs s.closed) ms s := by
  induction h with
  | start => exact start
  | chunk h hopen bytes ih =>
    rw [h.arrived_chunk hopen bytes]
    exact arrive h (h.served_of_open hopen).not_finished ih _ _ _
  | close h hopen ih =>
    rw [h.arrived_close hopen]
    exact arrive h (h.served_of_open hopen).not_finished ih _ _ _
  | due h hdue ih =>
    rw [(input_step_of_due (v := v) hdue).2]
    exact due hdue ih

/-- **Every line that has arrived was gone through or waits.** -/
theorem goneThrough (h : Run v out state bs ms s) :
    s.GoneThrough v out { state := state } (Lines.arrived bs s.closed) := by
  refine h.arrive_or_due (P := fun lines _ s => s.GoneThrough v out { state := state } lines)
    ⟨[], rfl, rfl⟩ (fun {_ _ s} _ _ ih lines reader closed => ?_) (fun {lines _ s e} hdue ih => ?_)
  · exact ih.append (goneThrough_arrive lines { s with reader := reader, closed := closed })
  · -- nothing arrives
    rw [← List.append_nil lines]
    refine ih.append ?_
    rw [List.append_nil]
    exact goneThrough_step_of_due hdue

/-- An output that takes everything lets no session fail. -/
theorem not_failed (h : Run v accepting state bs ms s) (f : Failure) : s.phase ≠ .failed f := by
  intro hp
  have houtlook := h.outlook_eq
  rw [Account.foldl_take] at houtlook
  simp only [outlook, hp] at houtlook
  exact absurd (congrArg Account.failure houtlook) (by simp)

/-- The lines that have arrived lead to the state of the outlook. -/
theorem state_outlook (h : Run v accepting state bs ms s) :
    (s.outlook v accepting).state = v.after (Lines.arrived bs s.closed) state := by
  rw [h.outlook_eq, Account.foldl_take]

/-- **The marks of a run**, with what is ahead, are the diary of the lines that have arrived. -/
theorem marks_append_ahead (h : Run v accepting state bs ms s) :
    ms ++ s.ahead v = v.diary (Lines.arrived bs s.closed) state := by
  refine h.arrive_or_due (P := fun lines ms s => ms ++ s.ahead v = v.diary lines state)
    rfl (fun {_ _ s} hs hfinished ih lines reader closed => ?_) (fun hdue ih => ?_)
  · rw [Service.diary_append, ← ih, ← hs.state_outlook, List.append_assoc, List.append_assoc]
    exact congrArg _ (arrival_append_ahead (s := { s with reader := reader, closed := closed })
      hfinished hs.not_failed lines)
  · rw [List.append_assoc, marks_append_ahead_of_due hdue, ih]

/-- The lines that a session has written are those that its marks say were taken. -/
theorem filterMap_taken (h : Run v out state bs ms s) :
    ms.filterMap Mark.taken? = s.written := by
  refine h.arrive_or_due (P := fun _ ms s => ms.filterMap Mark.taken? = s.written)
    rfl (fun {_ _ s} _ _ ih lines reader closed => ?_) (fun hdue ih => ?_)
  · rw [List.filterMap_append, ih]
    exact (written_arrive lines { s with reader := reader, closed := closed }).symm
  · rw [List.filterMap_append, ih, ← written_step_of_due hdue]

/-- **Lines wait only while a step is due.** -/
theorem waiting_or_due (h : Run v accepting state bs ms s) :
    s.waiting = [] ∨ (s.due? accepting).isSome = true := by
  refine h.arrive_or_due (P := fun _ _ s => s.waiting = [] ∨ (s.due? accepting).isSome = true)
    (Or.inl rfl) (fun {_ _ s} hs hfinished _ lines reader closed => ?_) (fun {_ _ s e} hdue _ => ?_)
  · exact waiting_arrive_or_due (s := { s with reader := reader, closed := closed })
      hfinished hs.not_failed accepting lines
  · rcases step_cases_of_due (v := v) hdue with
      ⟨r, -, hstep⟩ | ⟨line, -, -, hstep⟩ | ⟨line, f, -, hrefused, -⟩
    · rw [hstep]
      exact Or.inr rfl
    · rw [hstep]
      exact waiting_settle_or_due accepting s.waiting _
    · exact absurd hrefused (by simp)

/-- **What was gone through is counted and answered** as it should be, but for the answer that is
under way. -/
theorem exists_gone (h : Run v accepting state bs ms s) :
    ∃ gone, Lines.arrived bs s.closed = gone ++ s.waiting ∧
      s.tally =
        { received := (requests gone).length + (malformed gone).length
          answered := s.written.length
          dropped := (malformed gone).length } ∧
      ∃ pending : Option Text, pending.isSome = (s.due? accepting).isSome ∧
        v.answers gone state = s.written ++ pending.toList := by
  obtain ⟨gone, hlines, hthrough⟩ := h.goneThrough
  obtain ⟨pending, hpending, hwritten, htally⟩ := exists_pending (v := v) h.not_failed
  rw [hthrough, Account.foldl_take] at hwritten htally
  simp only [List.nil_append] at hwritten
  simp only [Nat.zero_add, Tally.mk.injEq] at htally
  obtain ⟨hreceived, hanswered, hdropped⟩ := htally
  -- the answers and the requests are as many, so what is written was counted
  have hlength := congrArg List.length hwritten
  rw [Service.length_answers, List.length_append] at hlength
  have hwrote : s.written.length = s.tally.answered :=
    Nat.add_right_cancel (hlength.symm.trans hanswered)
  refine ⟨gone, hlines, ?_, pending, hpending, hwritten⟩
  rw [hreceived, hdropped, hwrote]

/-- **A run at its end** shows what the session shows in which nothing was late and all the input
was there at the start, whatever the output does. -/
theorem shown_eq_serve (h : Run v out state bs ms s) (hclosed : s.closed = true)
    (hdue : s.due? out = none) : s.shown = (serve v out [bs] state).shown := by
  have hended := h.ended_of_closed hclosed
  rw [(hended.settled.at_end hclosed hdue).1, hended.outlook, shown_serve, List.flatten_singleton]

/-- A run at its end has finished, when the output takes everything. -/
theorem phase_of_end (h : Run v accepting state bs ms s) (hclosed : s.closed = true)
    (hdue : s.due? accepting = none) : s.phase = .finished := by
  have hended := h.ended_of_closed hclosed
  have hphase := (hended.settled.at_end (v := v) hclosed hdue).2
  rw [hended.outlook, Account.foldl_take] at hphase
  exact hphase

/-- **Every run can come to its end** by the steps that are due. -/
theorem exists_end (h : Run v out state bs ms s) : ∃ ms' s', Run v out state bs (ms ++ ms') s' ∧
    s'.closed = s.closed ∧ s'.due? out = none := by
  induction hn : s.rank using Nat.strong_induction_on generalizing ms s with
  | _ n ih =>
    subst hn
    cases hdue : s.due? out with
    | none => exact ⟨[], s, by rwa [List.append_nil], rfl, hdue⟩
    | some e =>
      obtain ⟨ms', s', hrun, hclosed, hend⟩ :=
        ih _ (rank_step_lt_of_due (v := v) hdue) (h.due hdue) rfl
      refine ⟨s.marks v e ++ ms', s', ?_, ?_, hend⟩
      · rwa [← List.append_assoc]
      · rw [hclosed, (input_step_of_due hdue).2]

/-- **Requests are dealt with in turn**, in whatever order chunks, the end of the input and what is
awaited come. At every moment of a run at most one computation is under way; when a computation
begins, the lines taken so far are the answers to all requests before it; every line that has
arrived was gone through, and counted and answered as it should be, or waits, and lines wait only
while a step is due. Every run can come to its end, and there it has written and counted what the
session has in which all the input was there at the start and nothing was late, and has come to the
same state. -/
theorem in_turn (h : Run v accepting state bs ms s) :
    let lines := Lines.arrived bs s.closed
    (∀ i, (ms.take i).countP Mark.isBegun ≤ (ms.take i).countP Mark.isComputed + 1) ∧
    (∀ i r, ms[i]? = some (.begun r) → ∃ k, (requests lines)[k]? = some r ∧
      (ms.take i).filterMap Mark.taken? = (v.answers lines state).take k) ∧
    ms.filterMap Mark.taken? = s.written ∧
    (∃ gone, lines = gone ++ s.waiting ∧
      (s.waiting = [] ∨ (s.due? accepting).isSome = true) ∧
      s.tally =
        { received := (requests gone).length + (malformed gone).length
          answered := s.written.length
          dropped := (malformed gone).length } ∧
      ∃ pending : Option Text, pending.isSome = (s.due? accepting).isSome ∧
        v.answers gone state = s.written ++ pending.toList) ∧
    (∃ ms' s', Run v accepting state bs (ms ++ ms') s' ∧ s'.closed = s.closed ∧
      s'.due? accepting = none) ∧
    (s.closed = true → s.due? accepting = none →
      let s' := serve v accepting [bs] state
      s.phase = .finished ∧ s.written = s'.written ∧ s.state = s'.state ∧
        s.outcome = s'.outcome) := by
  intro lines
  have hmarks : ms ++ s.ahead v = v.diary lines state := h.marks_append_ahead
  -- what is in the marks stands at the same place in the diary
  have htake : ∀ {i}, i ≤ ms.length → ms.take i = (v.diary lines state).take i := by
    intro i hi
    rw [← hmarks, List.take_append_of_le_length hi]
  refine ⟨fun i => ?_, fun i r hi => ?_, h.filterMap_taken, ?_, h.exists_end,
    fun hclosed hdue => ?_⟩
  · rcases Nat.le_total i ms.length with hle | hle
    · rw [htake hle]
      exact v.countP_isBegun_take_diary lines state i
    · rw [List.take_of_length_le hle, ← List.take_length (l := ms), htake (Nat.le_refl _)]
      exact v.countP_isBegun_take_diary lines state ms.length
  · obtain ⟨hlt, -⟩ := List.getElem?_eq_some_iff.mp hi
    rw [htake (Nat.le_of_lt hlt)]
    refine Service.getElem?_diary_begun ?_
    rw [← hmarks, List.getElem?_append_left hlt, hi]
  · obtain ⟨gone, hlines, htally, hpending⟩ := h.exists_gone
    exact ⟨gone, hlines, h.waiting_or_due, htally, hpending⟩
  · have hshown := h.shown_eq_serve hclosed hdue
    refine ⟨h.phase_of_end hclosed hdue, congrArg Account.written hshown,
      congrArg Account.state hshown, ?_⟩
    rw [outcome_eq, outcome_eq, hshown]

/-- Two computations: the second request is cut in two, its end arrives during the first
computation, and the input ends while the first answer is being written. -/
theorem in_turn_of_late_chunk :
    let v : Service Nat :=
      { handler := { card := ⟨[]⟩, positions := [], compute := fun _ n => (.ok .undefined, n + 1) }
        log := fun _ n => n }
    let request : Bytes := Utf8.encode "\x7b\"method\":\"compute\"\x7d\n"
    let bs : Bytes := request ++ request.take 5 ++ request.drop 5
    ∃ ms s, Run v accepting 0 bs ms s ∧ s.closed = true ∧ s.due? accepting = none ∧
      ms.countP Mark.isBegun = 2 ∧ s.written.length = 2 ∧
      (∀ i, (ms.take i).countP Mark.isBegun ≤ (ms.take i).countP Mark.isComputed + 1) ∧
      s.phase = .finished ∧ s.written = (serve v accepting [bs] 0).written ∧
      s.state = (serve v accepting [bs] 0).state ∧
      s.outcome = (serve v accepting [bs] 0).outcome := by
  intro v request bs
  have hstart : Run v accepting 0 [] [] { state := 0 } := .start
  have hcut := hstart.chunk (by decide +kernel) (request ++ request.take 5)
  have hlate := hcut.chunk (by decide +kernel) (request.drop 5)
  have hcomputed := hlate.next (by decide +kernel)
  have hclosed := hcomputed.close (by decide +kernel)
  have htaken := hclosed.next (by decide +kernel)
  have hsecond := htaken.next (by decide +kernel)
  have hend := hsecond.next (by decide +kernel)
  obtain ⟨honce, -, -, -, -, hserve⟩ := hend.in_turn
  refine ⟨_, _, hend, ?_, ?_, ?_, ?_, honce, hserve ?_ ?_⟩
  all_goals decide +kernel

end Session.Run

end LineAgents
