import LineAgents.Outside.Certificate
import Mathlib.Data.List.Induction
import Mathlib.Data.List.Nodup

/-!
# The first event settles a probe

A probe hears every kind of event once, and three things can go wrong between events that come in
any order and any number: a late event may change the answer, a connection may be ended or destroyed
twice, and an event that has something to do to the connection may not do it because an answer is
there already. None of them does (`LineAgents.Certificate.probe_settled_by_first`).

Events are told apart by what they do to the connection (`LineAgents.Certificate.Signal.action?`);
the text of an error makes no difference. What a probe has heard, has answered and has done after
some events is said by `LineAgents.Certificate.State.Follows` in terms of the events alone. An event
whose kind was heard before changes nothing (`LineAgents.Certificate.State.hear_of_heard`), one
whose kind is new is noted and tries to settle the answer
(`LineAgents.Certificate.State.hear_of_new`), and both ways the state goes on to follow the events
(`LineAgents.Certificate.State.Follows.hear`).
-/

namespace LineAgents.Certificate

/-! ### Kinds of events -/

/-- What an event does to the connection, if anything. -/
def Signal.action? : Signal → Option Action
  | .secure => some .finish
  | .timeout => some .destroy
  | .error _ => none

theorem Signal.action?_eq_finish_iff {e : Signal} : e.action? = some .finish ↔ e = .secure := by
  cases e <;> simp [action?]

theorem Signal.action?_eq_destroy_iff {e : Signal} : e.action? = some .destroy ↔ e = .timeout := by
  cases e <;> simp [action?]

variable {p : Probe} {validTo : Option Text}

/-- The answer that an event gives to a probe that has none. -/
def verdict (p : Probe) (validTo : Option Text) : Signal → Except Failure Text
  | .secure => answerOf p validTo
  | .timeout => .error (timeoutFailure p)
  | .error message => .error (.outside ("TLS error: " ++ message))

/-- The answer is an end of validity exactly after a secure connection whose certificate says
it. -/
theorem verdict_eq_ok_iff {e : Signal} {t : Text} :
    verdict p validTo e = .ok t ↔ e = .secure ∧ validTo = some t ∧ t ≠ [] := by
  cases e with
  | secure =>
    rw [verdict, answerOf.eq_def]
    split
    · simp
    · constructor
      · exact nofun
      · rintro ⟨-, h, hne⟩
        exact absurd (Option.some.inj h).symm hne
    · rename_i t' hne
      constructor
      · rintro ⟨⟩
        exact ⟨rfl, rfl, fun h => hne h⟩
      · rintro ⟨-, h, -⟩
        rw [Option.some.inj h]
  | timeout => exact ⟨nofun, nofun⟩
  | error message => exact ⟨nofun, nofun⟩

/-- Every other answer blames the outside. -/
theorem verdict_cases (p : Probe) (validTo : Option Text) (e : Signal) :
    (∃ t, verdict p validTo e = .ok t) ∨
      ∃ message, verdict p validTo e = .error (.outside message) := by
  cases e with
  | secure =>
    rw [verdict, answerOf.eq_def]
    split
    · exact Or.inr ⟨_, rfl⟩
    · exact Or.inr ⟨_, rfl⟩
    · exact Or.inl ⟨_, rfl⟩
  | timeout => exact Or.inr ⟨_, rfl⟩
  | error message => exact Or.inr ⟨_, rfl⟩

namespace State

variable {s : State} {e : Signal} {signals : List Signal}

/-! ### One event -/

/-- Whether an event of this kind was heard. -/
def heard (s : State) : Signal → Bool
  | .secure => s.heardSecure
  | .timeout => s.heardTimeout
  | .error _ => s.heardError

/-- The state in which an event is noted, and what it does to the connection is done. -/
def note (s : State) : Signal → State
  | .secure => { s with heardSecure := true, actions := s.actions ++ [.finish] }
  | .timeout => { s with heardTimeout := true, actions := s.actions ++ [.destroy] }
  | .error _ => { s with heardError := true }

theorem hear_of_heard (h : s.heard e = true) : s.hear p validTo e = s := by
  cases e <;> exact if_pos h

theorem hear_of_new (h : s.heard e = false) :
    s.hear p validTo e = (s.note e).settle (verdict p validTo e) := by
  cases e <;> exact if_neg (Bool.eq_false_iff.mp h)

@[simp] theorem answer_settle (s : State) (a : Except Failure Text) :
    (s.settle a).answer = s.answer.or (some a) := by
  rw [settle]
  split <;> simp [*]

@[simp] theorem actions_settle (s : State) (a : Except Failure Text) :
    (s.settle a).actions = s.actions := by
  rw [settle]
  split <;> rfl

@[simp] theorem heard_settle (s : State) (a : Except Failure Text) :
    (s.settle a).heard = s.heard := by
  rw [settle]
  split
  · rfl
  · funext e
    cases e <;> rfl

@[simp] theorem answer_note (s : State) (e : Signal) : (s.note e).answer = s.answer := by
  cases e <;> rfl

@[simp] theorem actions_note (s : State) (e : Signal) :
    (s.note e).actions = s.actions ++ e.action?.toList := by
  cases e <;> simp [note, Signal.action?]

/-- Noting an event is hearing its kind. -/
@[simp] theorem heard_note (s : State) (e e' : Signal) :
    (s.note e).heard e' = true ↔ s.heard e' = true ∨ e'.action? = e.action? := by
  cases e <;> cases e' <;> simp [note, heard, Signal.action?]

/-! ### What a state knows of the events -/

/-- **A state follows the events**: it has heard their kinds, the first of them has settled its
answer, and every kind of action that they ask for was taken once. -/
structure Follows (p : Probe) (validTo : Option Text) (signals : List Signal) (s : State) :
    Prop where
  heard_iff (e : Signal) : s.heard e = true ↔ e.action? ∈ signals.map Signal.action?
  answer_eq : s.answer = signals.head?.map (verdict p validTo)
  nodup : s.actions.Nodup
  mem_iff (a : Action) : a ∈ s.actions ↔ some a ∈ signals.map Signal.action?

theorem follows_nil : Follows p validTo [] {} where
  heard_iff e := by cases e <;> simp [heard]
  answer_eq := rfl
  nodup := List.nodup_nil
  mem_iff a := by simp

/-- **One more event**, of a kind that was heard before or not. -/
theorem Follows.hear (h : Follows p validTo signals s) (e : Signal) :
    Follows p validTo (signals ++ [e]) (s.hear p validTo e) := by
  have hkinds (k : Option Action) : k ∈ (signals ++ [e]).map Signal.action? ↔
      k ∈ signals.map Signal.action? ∨ k = e.action? := by
    rw [List.map_append, List.mem_append, List.map_singleton, List.mem_singleton]
  cases hheard : s.heard e with
  | true =>
    have hmem := (h.heard_iff e).mp hheard
    have hold (k : Option Action) :
        k ∈ (signals ++ [e]).map Signal.action? ↔ k ∈ signals.map Signal.action? := by
      rw [hkinds, or_iff_left_of_imp]
      rintro rfl
      exact hmem
    rw [hear_of_heard hheard]
    refine ⟨fun e' => ?_, ?_, h.nodup, fun a => ?_⟩
    · rw [hold, h.heard_iff]
    · have hne : signals ≠ [] := by
        rintro rfl
        cases hmem
      rw [h.answer_eq, List.head?_append_of_ne_nil signals hne]
    · rw [hold, h.mem_iff]
  | false =>
    have hnew : e.action? ∉ signals.map Signal.action? := by
      rw [← h.heard_iff, hheard]
      exact Bool.false_ne_true
    rw [hear_of_new hheard]
    refine ⟨fun e' => ?_, ?_, ?_, fun a => ?_⟩
    · rw [heard_settle, heard_note, h.heard_iff, hkinds]
    · rw [answer_settle, answer_note, h.answer_eq]
      cases signals <;> rfl
    · rw [actions_settle, actions_note]
      cases haction : e.action? with
      | none =>
        rw [Option.toList_none, List.append_nil]
        exact h.nodup
      | some a =>
        rw [haction, ← h.mem_iff] at hnew
        exact h.nodup.append (List.nodup_singleton a) (List.disjoint_singleton.mpr hnew)
    · rw [actions_settle, actions_note, List.mem_append, h.mem_iff, hkinds, Option.mem_toList,
        @eq_comm _ (some a)]

/-- **Whatever the events are**, a probe follows them. -/
theorem follows_probe (p : Probe) (validTo : Option Text) (signals : List Signal) :
    Follows p validTo signals (probe p validTo signals) := by
  induction signals using List.reverseRecOn with
  | nil => exact follows_nil
  | append_singleton signals e ih =>
    rw [probe, List.foldl_append]
    exact ih.hear e

end State

/-! ### All events -/

/-- **The first event settles a probe.** Before any event there is no answer; from the first event
on the answer is the same, whatever the later events are: the end of validity exactly if that event
is the secure connection and the certificate says an end of validity that is not empty, and
otherwise a failure of the outside. After any events, the connection was ended at most once and
destroyed at most once: it was ended exactly if it was secure at some time, and destroyed exactly if
it took too long at some time. -/
theorem probe_settled_by_first (p : Probe) (validTo : Option Text) :
    (probe p validTo []).answer = none ∧
    (∀ first : Signal, ∃ r : Except Failure Text,
      (∀ later, (probe p validTo (first :: later)).answer = some r) ∧
      (∀ t, r = .ok t ↔ first = .secure ∧ validTo = some t ∧ t ≠ []) ∧
      ((∃ t, r = .ok t) ∨ ∃ message, r = .error (.outside message))) ∧
    ∀ signals : List Signal,
      let s := probe p validTo signals
      s.actions.count .finish ≤ 1 ∧ s.actions.count .destroy ≤ 1 ∧
      (.finish ∈ s.actions ↔ .secure ∈ signals) ∧
      (.destroy ∈ s.actions ↔ .timeout ∈ signals) := by
  refine ⟨rfl, fun first => ?_, fun signals => ?_⟩
  · refine ⟨verdict p validTo first, fun later => ?_, fun t => verdict_eq_ok_iff,
      verdict_cases p validTo first⟩
    exact (State.follows_probe p validTo (first :: later)).answer_eq
  · have h := State.follows_probe p validTo signals
    refine ⟨List.nodup_iff_count_le_one.mp h.nodup _, List.nodup_iff_count_le_one.mp h.nodup _,
      ?_, ?_⟩
    · rw [h.mem_iff, List.mem_map]
      simp [Signal.action?_eq_finish_iff]
    · rw [h.mem_iff, List.mem_map]
      simp [Signal.action?_eq_destroy_iff]

/-- Late events do what they have to do to the connection, each once, and change no answer. -/
example (p : Probe) (message : Text) :
    let s := probe p (some (Text.ofString "Mar 10 12:00:00 2027 GMT"))
      [.secure, .timeout, .error message, .secure, .timeout]
    s.answer = some (.ok (Text.ofString "Mar 10 12:00:00 2027 GMT")) ∧
      s.actions = [.finish, .destroy] := ⟨rfl, rfl⟩

end LineAgents.Certificate
