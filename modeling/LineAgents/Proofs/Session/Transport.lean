import LineAgents.Proofs.Session.Answers

/-!
# Sessions of two services side by side

Two services may do the same to different states, one of which is made of the other by a map. The
map **carries** one service to the other (`LineAgents.Service.Carries`) when the log and the
handlers respect it; what the handlers answer may differ. Then it carries the state that lines leave
from one to the other, and the answers to one request are those of the two handlers in states that
correspond (`LineAgents.Service.Carries.exists_answers`). So two sessions over one input end alike,
with corresponding states (`LineAgents.Service.Carries.serve`).
-/

namespace LineAgents

variable {σ τ : Type}

/-- **A map carries a service** to another when the log and the handlers respect it. -/
structure Service.Carries (f : τ → σ) (v' : Service τ) (v : Service σ) : Prop where
  log : ∀ line t, v.log line (f t) = f (v'.log line t)
  state : ∀ r t, (v.handler.respond r (f t)).2 = f (v'.handler.respond r t).2

namespace Service.Carries

variable {f : τ → σ} {v' : Service τ} {v : Service σ} (h : Carries f v' v)
include h

/-- One line. -/
theorem afterLine (t : τ) (line : Text) : v.afterLine (f t) line = f (v'.afterLine t line) := by
  cases hr : Request.decode? line with
  | some r => rw [afterLine_request hr, afterLine_request hr, h.state]
  | none =>
    by_cases hb : line.allBlank = true
    · rw [afterLine_blank hb, afterLine_blank hb]
    · rw [Bool.not_eq_true] at hb
      rw [afterLine_malformed hb hr, afterLine_malformed hb hr, h.log]

/-- **All lines.** -/
theorem after (lines : List Text) (t : τ) : v.after lines (f t) = f (v'.after lines t) := by
  induction lines generalizing t with
  | nil => rfl
  | cons line lines ih =>
    rw [Service.after, List.foldl_cons, h.afterLine]
    exact ih _

/-- **The answers to one request** are those of the handlers in states that correspond. -/
theorem exists_answers {lines : List Text} {k : Nat} {r : Request}
    (hr : (Session.requests lines)[k]? = some r) (t : τ) : ∃ t',
      (v'.answers lines t)[k]? = some ((v'.handler.respond r t').1.encode ++ [10]) ∧
      (v.answers lines (f t))[k]? = some ((v.handler.respond r (f t')).1.encode ++ [10]) := by
  induction lines generalizing k t with
  | nil => simp [Session.requests] at hr
  | cons line lines ih =>
    cases hl : Request.decode? line with
    | none =>
      rw [Session.requests_cons_of_none hl] at hr
      rw [answers_cons_of_none hl, answers_cons_of_none hl, h.afterLine]
      exact ih hr _
    | some r' =>
      rw [Session.requests_cons_of_some hl] at hr
      rw [answers_cons_of_some hl, answers_cons_of_some hl, h.state]
      cases k with
      | zero =>
        obtain rfl : r' = r := Option.some_inj.mp hr
        exact ⟨t, rfl, rfl⟩
      | succ k => exact ih hr _

/-- **All answers**, when the handlers answer alike in states that correspond. -/
theorem answers_eq (hanswer : ∀ r t, (v.handler.respond r (f t)).1 = (v'.handler.respond r t).1)
    (lines : List Text) (t : τ) : v.answers lines (f t) = v'.answers lines t := by
  refine List.ext_getElem? fun k => ?_
  cases hr : (Session.requests lines)[k]? with
  | none =>
    have hle := List.getElem?_eq_none_iff.mp hr
    rw [List.getElem?_eq_none (by rwa [Service.length_answers]),
      List.getElem?_eq_none (by rwa [Service.length_answers])]
  | some r =>
    obtain ⟨t', hleft, hright⟩ := h.exists_answers hr t
    rw [hleft, hright, hanswer]

/-- **Two sessions over one input**, when the outputs take everything: they end alike, in states
that correspond. -/
theorem serve (chunks : List Bytes) (t : τ) :
    let lines := Lines.split [] (Utf8.decode (Lines.finished chunks.flatten))
    let s := Session.serve v (fun _ => none) chunks (f t)
    let s' := Session.serve v' (fun _ => none) chunks t
    s.outcome = s'.outcome ∧ s.state = f s'.state ∧
      s.written.length = (Session.requests lines).length ∧
      s'.written.length = (Session.requests lines).length ∧
      ∀ (k : Nat) (r : Request), (Session.requests lines)[k]? = some r → ∃ t',
        s'.written[k]? = some ((v'.handler.respond r t').1.encode ++ [10]) ∧
        s.written[k]? = some ((v.handler.respond r (f t')).1.encode ++ [10]) := by
  intro lines s s'
  obtain ⟨hphase, hstate, hwritten, htally⟩ := Session.serve_of_accepting v chunks (f t)
  obtain ⟨hphase', hstate', hwritten', htally'⟩ := Session.serve_of_accepting v' chunks t
  refine ⟨?_, ?_, ?_, ?_, fun k r hr => ?_⟩
  · rw [Session.outcome, Session.outcome, hphase, hphase', htally, htally']
  · rw [hstate, hstate', h.after]
  · rw [hwritten, Service.length_answers]
  · rw [hwritten', Service.length_answers]
  · rw [hwritten, hwritten']
    exact h.exists_answers hr t

/-- Two sessions over one input write the same when the handlers answer alike. -/
theorem serve_written (hanswer : ∀ r t, (v.handler.respond r (f t)).1 = (v'.handler.respond r t).1)
    (chunks : List Bytes) (t : τ) :
    (Session.serve v (fun _ => none) chunks (f t)).written =
      (Session.serve v' (fun _ => none) chunks t).written := by
  obtain ⟨-, -, hwritten, -⟩ := Session.serve_of_accepting v chunks (f t)
  obtain ⟨-, -, hwritten', -⟩ := Session.serve_of_accepting v' chunks t
  rw [hwritten, hwritten', h.answers_eq hanswer]

end Service.Carries

end LineAgents
