import LineAgents.Proofs.Session.Answers

/-!
# When the output refuses a line

The output may refuse a line, and a session then ends with the failure that it was given
(`LineAgents.Session.refusing` is the output that takes `n` lines and refuses the next). Up to there
the session is the one whose output takes everything, and nothing happens after it: the lines behind
the request whose answer was refused are neither decoded nor noted nor given to the handler, even
when they had arrived. Where fewer lines are written than the output takes, the two sessions are the
same (`LineAgents.Session.serve_refusing`).

The proof follows the account of the lines. Before the refusal the output has no say
(`LineAgents.Session.Account.foldl_take_of_taken`), the request in question is found by the number
of requests before it (`LineAgents.Session.exists_of_getElem?_requests`), and after a failure an
account takes no line.
-/

namespace LineAgents.Session

variable {σ : Type}

/-- **The output that takes so many lines and refuses the next.** -/
def refusing (n : Nat) (f : Failure) : Output := fun taken => if taken = n then some f else none

/-! ### Before the refusal -/

theorem Account.answer_of_taken (v : Service σ) {out : Output} (r : Request) (a : Account σ)
    (h : out a.tally.answered = none) : a.answer v out r = a.answer v (fun _ => none) r := by
  simp only [answer, write, h]

/-- **The output has no say in what it takes**: as long as it refuses none of the answers, lines
amount to what they amount to when every write succeeds. -/
theorem Account.foldl_take_of_taken (v : Service σ) {out : Output} (lines : List Text) (state : σ)
    (written : List Text) (tally : Tally)
    (h : ∀ k < (requests lines).length, out (tally.answered + k) = none) :
    lines.foldl (take v out) { state, written, tally } =
      lines.foldl (take v fun _ => none) { state, written, tally } := by
  induction lines generalizing state written tally with
  | nil => rfl
  | cons line lines ih =>
    rw [List.foldl_cons, List.foldl_cons]
    cases hr : Request.decode? line with
    | some r =>
      have hb := Request.not_allBlank_of_decode? hr
      rw [requests_cons_of_some hr, List.length_cons] at h
      have hfirst : take v out { state, written, tally } line =
          take v (fun _ => none) { state, written, tally } line := by
        rw [take_request rfl hb hr, take_request rfl hb hr]
        exact answer_of_taken v r _ (h 0 (Nat.succ_pos _))
      rw [hfirst, take_request rfl hb hr, answer_of_accepting]
      -- the answers that are left come after one more
      refine ih _ _ _ fun k hk => ?_
      rw [← h (k + 1) (Nat.succ_lt_succ hk)]
      exact congrArg out (Nat.succ_add_eq_add_succ tally.answered k)
    | none =>
      rw [requests_cons_of_none hr] at h
      by_cases hb : line.allBlank = true
      · rw [take_blank hb, take_blank hb]
        exact ih state written tally h
      · rw [Bool.not_eq_true] at hb
        rw [take_malformed rfl hb hr, take_malformed rfl hb hr]
        exact ih _ _ _ h

/-! ### The request whose answer is refused -/

/-- **The request of a number stands on a line**, behind lines that hold the requests before it. -/
theorem exists_of_getElem?_requests {lines : List Text} {k : Nat} {r : Request}
    (h : (requests lines)[k]? = some r) : ∃ before line after,
      lines = before ++ line :: after ∧ Request.decode? line = some r ∧
        (requests before).length = k := by
  obtain ⟨hk, hget⟩ := List.getElem?_eq_some_iff.mp h
  have hsplit : requests lines =
      (requests lines).take k ++ r :: (requests lines).drop (k + 1) := by
    rw [← hget, List.getElem_cons_drop, List.take_append_drop]
  obtain ⟨before, rest, rfl, hbefore, hrest⟩ := List.filterMap_eq_append_iff.mp hsplit
  obtain ⟨blanks, line, after, rfl, hnone, hline, -⟩ := List.filterMap_eq_cons_iff.mp hrest
  have hblanks : requests blanks = [] := List.filterMap_eq_nil_iff.mpr hnone
  refine ⟨before ++ blanks, line, after, (List.append_assoc ..).symm, hline, ?_⟩
  rw [requests_append, hblanks, List.append_nil]
  change (List.filterMap Request.decode? before).length = k
  rw [hbefore, List.length_take, Nat.min_eq_left (Nat.le_of_lt hk)]

theorem Account.answer_of_refused (v : Service σ) {out : Output} {f : Failure} (r : Request)
    (a : Account σ) (h : out a.tally.answered = some f) :
    a.answer v out r =
      { a with
        state := (v.handler.respond r a.state).2
        failure := some f } := by
  simp only [answer, write, h]

/-- **A refusal ends the account**: the request is answered but for the writing, and the lines
behind it are not taken. -/
theorem Account.foldl_take_refusing (v : Service σ) (f : Failure) (before after : List Text)
    {line : Text} {r : Request} (hr : Request.decode? line = some r) (state : σ) :
    (before ++ line :: after).foldl (take v (refusing (requests before).length f))
        { state := state } =
      { state := v.after (before ++ [line]) state
        written := v.answers before state
        tally :=
          { received := (requests before).length + (malformed before).length + 1
            answered := (requests before).length
            dropped := (malformed before).length }
        failure := some f } := by
  have hb := Request.not_allBlank_of_decode? hr
  have hbefore : before.foldl (take v (refusing (requests before).length f)) { state := state } =
      before.foldl (take v fun _ => none) { state := state } := by
    refine foldl_take_of_taken v before state [] {} fun k hk => if_neg ?_
    change 0 + k ≠ _
    omega
  have hrefused : refusing (requests before).length f (0 + (requests before).length) = some f :=
    if_pos (Nat.zero_add _)
  rw [List.foldl_append, List.foldl_cons, hbefore, foldl_take, take_request rfl hb hr,
    answer_of_refused v r _ hrefused, foldl_take_of_failure rfl, Service.after_append]
  simp only [Service.after, List.foldl_cons, List.foldl_nil, Service.afterLine_request hr,
    Nat.zero_add, List.nil_append]

/-! ### A session whose output refuses a line -/

/-- **A refused line ends a session with the failure of the refusal.** The lines written before are
the first ones of the session whose output takes everything; the state is the one after the request
whose answer was refused, so no line behind that request was given to the handler or noted, and none
of them was counted. A session that writes no more lines than the output takes is not changed. -/
theorem serve_refusing (v : Service σ) (n : Nat) (f : Failure) (chunks : List Bytes) (state : σ) :
    let lines := Lines.split [] (Utf8.decode (Lines.finished chunks.flatten))
    let s := serve v (refusing n f) chunks state
    let free := serve v (fun _ => none) chunks state
    (n < free.written.length ∧ s.outcome = .error f ∧ s.written = free.written.take n ∧
      ∃ before line after r, lines = before ++ line :: after ∧
        (requests before).length = n ∧ Request.decode? line = some r ∧
        s.state = v.after (before ++ [line]) state ∧
        s.tally =
          { received := n + (malformed before).length + 1
            answered := n
            dropped := (malformed before).length }) ∨
    (free.written.length ≤ n ∧ s.outcome = free.outcome ∧ s.written = free.written ∧
      s.state = free.state) := by
  intro lines s free
  have hshown : s.shown = lines.foldl (Account.take v (refusing n f)) { state := state } := by
    rw [shown_serve, Lines.ofBytes_eq_split]
  have hfree : free.shown = lines.foldl (Account.take v fun _ => none) { state := state } := by
    rw [shown_serve, Lines.ofBytes_eq_split]
  have hwritten : free.written = v.answers lines state :=
    (serve_of_accepting v chunks state).2.2.1
  have hlength : free.written.length = (requests lines).length := by
    rw [hwritten, Service.length_answers]
  cases hget : (requests lines)[n]? with
  | none =>
    have hle := List.getElem?_eq_none_iff.mp hget
    have hsame : s.shown = free.shown := by
      rw [hshown, hfree]
      refine Account.foldl_take_of_taken v lines state [] {} fun k hk => if_neg ?_
      change 0 + k ≠ n
      omega
    refine Or.inr ⟨hlength ▸ hle, ?_, congrArg Account.written hsame, congrArg Account.state hsame⟩
    rw [outcome_eq, outcome_eq, hsame]
  | some r =>
    obtain ⟨before, line, after, hlines, hr, hbefore⟩ := exists_of_getElem?_requests hget
    have hlt := (List.getElem?_eq_some_iff.mp hget).1
    rw [hlines, ← hbefore, Account.foldl_take_refusing v f before after hr state] at hshown
    refine Or.inl ⟨hlength ▸ hlt, ?_, ?_, before, line, after, r, hlines, hbefore, hr, ?_, ?_⟩
    · rw [outcome_eq, hshown]
    · rw [hwritten, hlines, Service.answers_append, ← hbefore,
        ← Service.length_answers v before state, List.take_left]
      exact congrArg Account.written hshown
    · exact congrArg Account.state hshown
    · rw [← hbefore]
      exact congrArg Account.tally hshown

end LineAgents.Session
