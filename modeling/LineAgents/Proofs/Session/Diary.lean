import LineAgents.Proofs.Session.Answers

/-!
# The diary of lines

A session leaves **marks** while it moves (`LineAgents.Session.Mark`): a computation begins and is
completed, a line is offered to the output and is taken by it. The marks of a step are those of what
the step completes and of the phase that it enters (`LineAgents.Session.marks`).

Without any waiting the marks of lines would be their **diary** (`LineAgents.Service.diary`), in
which each request is dealt with in full before the next: computations do not overlap in it
(`LineAgents.Service.countP_isBegun_take_diary`), and one begins behind the answers to the requests
before it (`LineAgents.Service.getElem?_diary_begun`).

What links the two is what is still **ahead** of a session (`LineAgents.Session.ahead`), the marks
that it will leave if everything at hand is completed. A step that is due takes its marks from there
(`LineAgents.Session.marks_append_ahead_of_due`), and lines that arrive add theirs at the end
(`LineAgents.Session.arrival_append_ahead`).
-/

namespace LineAgents

variable {σ : Type}

/-! ### Marks -/

/-- **A mark**: what is seen of a request on the way to its answer. -/
inductive Session.Mark where
  | begun (request : Request)
  | computed (request : Request)
  | offered (line : Text)
  | taken (line : Text)

namespace Session.Mark

/-- A computation begins. -/
def isBegun : Mark → Bool
  | .begun _ => true
  | _ => false

/-- A computation is completed. -/
def isComputed : Mark → Bool
  | .computed _ => true
  | _ => false

/-- The line that the output has taken. -/
def taken? : Mark → Option Text
  | .taken line => some line
  | _ => none

end Session.Mark

/-- The mark of entering a phase. -/
def Phase.entered : Phase → List Session.Mark
  | .computing r => [.begun r]
  | .writing line => [.offered line]
  | _ => []

namespace Session

/-- The marks of lines that arrive: a session that reads goes through them at once. -/
def arrival (v : Service σ) (lines : List Text) (s : Session σ) : List Mark :=
  match s.phase with
  | .reading => (arrive v lines s).phase.entered
  | _ => []

/-- **The marks of a step**: of what it completes, and of the phase it enters. -/
def marks (v : Service σ) (s : Session σ) : Happening → List Mark
  | .chunk bytes =>
    let (lines, reader) := s.reader.feed bytes
    arrival v lines { s with reader := reader }
  | .close => arrival v s.reader.finish { s with reader := {}, closed := true }
  | .computed => match s.phase with
    | .computing r => .computed r :: (s.step v .computed).phase.entered
    | _ => []
  | .taken => match s.phase with
    | .writing line => .taken line :: (s.step v .taken).phase.entered
    | _ => []
  | .refused _ => []

end Session

/-! ### The diary of lines -/

namespace Service

/-- The line that answers a request. -/
def reply (v : Service σ) (r : Request) (s : σ) : Text :=
  (v.handler.respond r s).1.encode ++ [10]

/-- **The marks of a request that is dealt with in full.** -/
def dealing (v : Service σ) (r : Request) (s : σ) : List Session.Mark :=
  (if r.method = Handler.computeMethod then [.begun r, .computed r] else []) ++
    [.offered (v.reply r s), .taken (v.reply r s)]

/-- **The diary of lines**: their requests dealt with one after the other. -/
def diary (v : Service σ) : List Text → σ → List Session.Mark
  | [], _ => []
  | line :: lines, s =>
    (match Request.decode? line with
      | some r => v.dealing r s
      | none => []) ++ diary v lines (v.afterLine s line)

variable {v : Service σ} {line : Text} {s : σ}

theorem diary_cons_of_some {r : Request} (h : Request.decode? line = some r) (lines : List Text) :
    v.diary (line :: lines) s = v.dealing r s ++ v.diary lines (v.handler.respond r s).2 := by
  rw [diary, h, afterLine_request h]

theorem diary_cons_of_none (h : Request.decode? line = none) (lines : List Text) :
    v.diary (line :: lines) s = v.diary lines (v.afterLine s line) := by
  rw [diary, h, List.nil_append]

theorem diary_append (v : Service σ) (lines lines' : List Text) (s : σ) :
    v.diary (lines ++ lines') s = v.diary lines s ++ v.diary lines' (v.after lines s) := by
  induction lines generalizing s with
  | nil => rfl
  | cons line lines ih => rw [List.cons_append, diary, ih, diary, List.append_assoc]; rfl

theorem countP_dealing (v : Service σ) (r : Request) (s : σ) :
    (v.dealing r s).countP Session.Mark.isBegun =
      (v.dealing r s).countP Session.Mark.isComputed := by
  rw [dealing]
  split <;> rfl

theorem countP_take_dealing_le (v : Service σ) (r : Request) (s : σ) (i : Nat) :
    ((v.dealing r s).take i).countP Session.Mark.isBegun ≤
      ((v.dealing r s).take i).countP Session.Mark.isComputed + 1 := by
  have hone : (v.dealing r s).countP Session.Mark.isBegun ≤ 1 := by
    rw [dealing]
    split
    · exact Nat.le_refl 1
    · exact Nat.zero_le 1
  have htake := (List.take_sublist i (v.dealing r s)).countP_le (p := Session.Mark.isBegun)
  omega

/-- **Computations do not overlap in a diary**, wherever it is cut. -/
theorem countP_isBegun_take_diary (v : Service σ) (lines : List Text) (s : σ) (i : Nat) :
    ((v.diary lines s).take i).countP Session.Mark.isBegun ≤
      ((v.diary lines s).take i).countP Session.Mark.isComputed + 1 := by
  induction lines generalizing s i with
  | nil =>
    rw [diary, List.take_nil]
    exact Nat.zero_le _
  | cons line lines ih =>
    cases h : Request.decode? line with
    | none =>
      rw [diary_cons_of_none h]
      exact ih _ _
    | some r =>
      rw [diary_cons_of_some h, List.take_append]
      rcases Nat.le_total i (v.dealing r s).length with hi | hi
      · -- the cut falls into the marks of the first request
        rw [Nat.sub_eq_zero_of_le hi, List.take_zero, List.append_nil]
        exact countP_take_dealing_le v r s i
      · have hrest := ih (v.handler.respond r s).2 (i - (v.dealing r s).length)
        rw [List.take_of_length_le hi, List.countP_append, List.countP_append, countP_dealing]
        omega

theorem getElem?_dealing_begun {r r' : Request} {i : Nat}
    (h : (v.dealing r s)[i]? = some (.begun r')) : i = 0 ∧ r' = r := by
  rw [dealing] at h
  split at h
  · rcases i with _ | _ | _ | _ | i <;> simp_all
  · rcases i with _ | _ | i <;> simp_all

theorem filterMap_taken_dealing (v : Service σ) (r : Request) (s : σ) :
    (v.dealing r s).filterMap Session.Mark.taken? = [v.reply r s] := by
  rw [dealing]
  split <;> rfl

/-- **A computation of a diary begins behind the answers to the requests before it.** -/
theorem getElem?_diary_begun {lines : List Text} {i : Nat} {r : Request}
    (h : (v.diary lines s)[i]? = some (.begun r)) :
    ∃ k, (Session.requests lines)[k]? = some r ∧
      ((v.diary lines s).take i).filterMap Session.Mark.taken? = (v.answers lines s).take k := by
  induction lines generalizing s i with
  | nil => simp [diary] at h
  | cons line lines ih =>
    cases hr : Request.decode? line with
    | none =>
      rw [diary_cons_of_none hr] at h ⊢
      rw [Session.requests_cons_of_none hr, answers_cons_of_none hr]
      exact ih h
    | some r' =>
      rw [diary_cons_of_some hr] at h ⊢
      rw [Session.requests_cons_of_some hr, answers_cons_of_some hr]
      rcases Nat.lt_or_ge i (v.dealing r' s).length with hi | hi
      · rw [List.getElem?_append_left hi] at h
        obtain ⟨rfl, rfl⟩ := getElem?_dealing_begun h
        exact ⟨0, rfl, rfl⟩
      · -- the first request has been dealt with in full
        rw [List.getElem?_append_right hi] at h
        obtain ⟨k, hk, htaken⟩ := ih h
        refine ⟨k + 1, hk, ?_⟩
        rw [List.take_append, List.take_of_length_le hi, List.filterMap_append, htaken,
          filterMap_taken_dealing, List.take_succ_cons]
        rfl

end Service

namespace Session

/-! ### What is ahead of a session -/

/-- **The marks ahead of a session**, if all that is at hand is completed and nothing is refused. -/
def ahead (v : Service σ) (s : Session σ) : List Mark :=
  match s.phase with
  | .reading => v.diary s.waiting s.state
  | .computing r =>
    .computed r :: .offered (v.reply r s.state) :: .taken (v.reply r s.state) ::
      v.diary s.waiting (v.handler.respond r s.state).2
  | .writing line => .taken line :: v.diary s.waiting s.state
  | _ => []

variable {v : Service σ} {out : Output} {s : Session σ}

/-- The output that takes every line. -/
abbrev accepting : Output := fun _ => none

theorem entered_append_ahead_answer (v : Service σ) (r : Request) (s : Session σ) :
    (s.answer v r).phase.entered ++ (s.answer v r).ahead v =
      .offered (v.reply r s.state) :: .taken (v.reply r s.state) ::
        v.diary s.waiting (v.handler.respond r s.state).2 :=
  rfl

theorem entered_append_ahead_begin (v : Service σ) (r : Request) (s : Session σ) :
    (begin v r s).phase.entered ++ (begin v r s).ahead v =
      v.dealing r s.state ++ v.diary s.waiting (v.handler.respond r s.state).2 := by
  rw [begin, Service.dealing]
  split <;> rfl

/-- **Lines that are gone through** leave the marks of their diary, now or later. -/
theorem entered_append_ahead_settle (v : Service σ) (lines : List Text) (s : Session σ) :
    (settle v lines s).phase.entered ++ (settle v lines s).ahead v = v.diary lines s.state := by
  induction lines generalizing s with
  | nil =>
    rw [settle]
    cases s.closed <;> rfl
  | cons line rest ih =>
    rw [settle]
    by_cases hb : line.allBlank = true
    · rw [if_pos hb, ih, Service.diary_cons_of_none (Request.decode?_eq_none_of_allBlank hb),
        Service.afterLine_blank hb]
    · rw [if_neg hb]
      rw [Bool.not_eq_true] at hb
      cases h : Request.decode? line with
      | some r =>
        rw [Service.diary_cons_of_some h]
        exact entered_append_ahead_begin v r _
      | none =>
        rw [Service.diary_cons_of_none h, Service.afterLine_malformed hb h]
        exact ih _

/-- **The marks of the steps that can be due**: of a computation that completes and the answer that
is offered then, of a line that is taken and what is entered behind it, none of a refusal. -/
theorem marks_cases_of_due {e : Happening} (h : s.due? out = some e) :
    (∃ r, s.phase = .computing r ∧ s.step v e = s.answer v r ∧
      s.marks v e = .computed r :: (s.answer v r).phase.entered) ∨
    (∃ line, s.phase = .writing line ∧ out s.tally.answered = none ∧
      s.step v e = settle v s.waiting (s.wrote line) ∧
      s.marks v e = .taken line :: (settle v s.waiting (s.wrote line)).phase.entered) ∨
    ∃ line f, s.phase = .writing line ∧ out s.tally.answered = some f ∧
      s.step v e = { s with phase := .failed f } ∧ s.marks v e = [] := by
  rcases step_cases_of_due (v := v) h with
    ⟨r, hp, hstep⟩ | ⟨line, hp, ho, hstep⟩ | ⟨line, f, hp, ho, hstep⟩
  · simp only [due?, hp, Option.some.injEq] at h
    subst h
    exact Or.inl ⟨r, hp, hstep, by simp only [marks, hp, hstep]⟩
  · simp only [due?, hp, ho, Option.some.injEq] at h
    subst h
    exact Or.inr (Or.inl ⟨line, hp, ho, hstep, by simp only [marks, hp, hstep]⟩)
  · simp only [due?, hp, ho, Option.some.injEq] at h
    subst h
    exact Or.inr (Or.inr ⟨line, f, hp, ho, hstep, rfl⟩)

/-- **A step that is due takes its marks from what is ahead.** -/
theorem marks_append_ahead_of_due {e : Happening} (h : s.due? accepting = some e) :
    s.marks v e ++ (s.step v e).ahead v = s.ahead v := by
  rcases marks_cases_of_due (v := v) h with
    ⟨r, hp, hstep, hmarks⟩ | ⟨line, hp, -, hstep, hmarks⟩ | ⟨line, f, -, hrefused, -⟩
  · rw [hmarks, hstep, List.cons_append, entered_append_ahead_answer]
    simp only [ahead, hp]
  · rw [hmarks, hstep, List.cons_append, entered_append_ahead_settle]
    simp only [ahead, hp, wrote]
  · exact absurd hrefused (by simp)

/-- **Lines that arrive** leave their marks behind all that was ahead already. -/
theorem arrival_append_ahead (hfinished : s.phase ≠ .finished) (hfailed : ∀ f, s.phase ≠ .failed f)
    (lines : List Text) : arrival v lines s ++ (arrive v lines s).ahead v =
      s.ahead v ++ v.diary lines (s.outlook v accepting).state := by
  rw [arrival, arrive]
  cases hp : s.phase with
  | reading =>
    have hstate : (s.outlook v accepting).state = v.after s.waiting s.state := by
      simp only [outlook, hp, account, Account.foldl_take]
    simp only [ahead, hp]
    rw [hstate, ← Service.diary_append]
    exact entered_append_ahead_settle v (s.waiting ++ lines) s
  | computing r =>
    have hstate : (s.outlook v accepting).state =
        v.after s.waiting (v.handler.respond r s.state).2 := by
      simp only [outlook, hp, account, Account.answer_of_accepting, Account.foldl_take]
    simp only [ahead, hstate, hp, Service.diary_append]
    rfl
  | writing line =>
    have hstate : (s.outlook v accepting).state = v.after s.waiting s.state := by
      simp only [outlook, hp, account, Account.write, Account.foldl_take]
    simp only [ahead, hstate, hp, Service.diary_append]
    rfl
  | finished => exact absurd hp hfinished
  | failed f => exact absurd hp (hfailed f)

end Session

end LineAgents
