import LineAgents.Outside.World
import Mathlib.Data.List.Forall2

/-!
# What a program can do

A program asks and goes on with the answer, so what it does depends on the outside. What it does
**whatever** the outside answers is said by `LineAgents.Program.Always`: all the ways in which a
program can go through its questions, as long as an answer that is a failure is one of the permitted
kind, satisfy a condition on what was done and on how it ended. A run in a world is one of these
ways (`LineAgents.Program.Always.run`), where what has to be permitted are the failures that the
program met there (`LineAgents.World.failuresMet`).

Most programs have a simple shape: they look at what they were given, ask a few things, and make an
answer of what comes back. Such a program is **careful** (`LineAgents.Program.Careful`). Its
questions follow a plan, which says for each what it may be. Its failures are of two sorts, one for
what goes wrong before anything was asked and one for what goes wrong at any time, and apart from
these it only passes on what the outside gave it for an answer. The rules for careful programs
follow the way programs are put together, so that a program is shown to be careful by going through
its text.
-/

namespace LineAgents

/-! ### What was done outside -/

/-- The events that reach beyond the process. -/
def Event.externalOf (es : List Event) : List Event := es.filter Event.isExternal

/-- A plan: for each question in turn, which one it may be. -/
abbrev Plan := List (Event → Prop)

/-- **Events follow a plan** when those that reach beyond the process are, in order, what some of
the plan allows. -/
def Plan.Allows (plan : Plan) (es : List Event) : Prop :=
  List.SublistForall₂ (fun e may => may e) (Event.externalOf es) plan

theorem Event.externalOf_append (es es' : List Event) :
    externalOf (es ++ es') = externalOf es ++ externalOf es' :=
  List.filter_append es es'

namespace Plan

variable {plan plan' : Plan} {es es' : List Event}

theorem allows_nil (plan : Plan) : plan.Allows [] := List.SublistForall₂.nil

theorem Allows.length_le (h : plan.Allows es) : (Event.externalOf es).length ≤ plan.length := by
  obtain ⟨chosen, hforall, hsublist⟩ := List.sublistForall₂_iff.mp h
  rw [hforall.length_eq]
  exact hsublist.length_le

theorem allows_nil_iff : Plan.Allows [] es ↔ Event.externalOf es = [] := by
  constructor
  · exact fun h => List.eq_nil_of_length_eq_zero (Nat.le_zero.mp h.length_le)
  · intro h
    rw [Allows, h]
    exact List.SublistForall₂.nil

/-- One plan after the other. -/
theorem Allows.append (h : plan.Allows es) (h' : plan'.Allows es') :
    Plan.Allows (plan ++ plan') (es ++ es') := by
  obtain ⟨chosen, hforall, hsublist⟩ := List.sublistForall₂_iff.mp h
  obtain ⟨chosen', hforall', hsublist'⟩ := List.sublistForall₂_iff.mp h'
  rw [Allows, Event.externalOf_append]
  exact List.sublistForall₂_iff.mpr
    ⟨chosen ++ chosen', List.rel_append hforall hforall', hsublist.append hsublist'⟩

theorem Allows.of_append_left (h : plan.Allows es) (plan' : Plan) :
    Plan.Allows (plan ++ plan') es := by
  have happend := h.append (allows_nil plan')
  rwa [List.append_nil] at happend

/-- Events that stay inside the process need no plan. -/
theorem Allows.after_nil (h : Plan.Allows [] es) (h' : plan.Allows es') :
    plan.Allows (es ++ es') :=
  h.append h'

theorem allows_singleton {may : Event → Prop} {e : Event} (h : may e) : Plan.Allows [may] [e] := by
  rw [Allows, Event.externalOf]
  cases he : e.isExternal with
  | true =>
    rw [List.filter_cons_of_pos he]
    exact List.SublistForall₂.cons h List.SublistForall₂.nil
  | false =>
    rw [List.filter_cons_of_neg (by simp [he])]
    exact List.SublistForall₂.nil

end Plan

namespace Program

variable {α β : Type} {P : Failure → Prop}

/-! ### Whatever the outside answers -/

/-- An answer that is no failure but of the permitted kind. -/
def Permits (P : Failure → Prop) (answer : Except Failure β) : Prop :=
  ∀ f, answer = .error f → P f

/-- **What a program always does**: whatever the outside answers, when it fails only as `P` permits,
what the program has done and how it has ended satisfy `Q`. -/
def Always (P : Failure → Prop) : Program α → (List Event → Except Failure α → Prop) → Prop
  | .done r, Q => Q [] r
  | .send q next, Q => ∀ r, Permits P r → Always P (next r) fun es o => Q (.sent q :: es) o
  | .run c next, Q => ∀ r, Permits P r → Always P (next r) fun es o => Q (.ran c :: es) o
  | .probe t next, Q => ∀ r, Permits P r → Always P (next r) fun es o => Q (.probed t :: es) o
  | .now next, Q => ∀ t, Always P (next t) fun es o => Q (.read t :: es) o
  | .log l next, Q => Always P next fun es o => Q (.logged l :: es) o

theorem Always.mono {p : Program α} {Q Q' : List Event → Except Failure α → Prop}
    (h : p.Always P Q) (hQ : ∀ es o, Q es o → Q' es o) : p.Always P Q' := by
  induction p generalizing Q Q' with
  | done r => exact hQ [] r h
  | send q next ih => exact fun r hr => ih r (h r hr) fun es => hQ (.sent q :: es)
  | run c next ih => exact fun r hr => ih r (h r hr) fun es => hQ (.ran c :: es)
  | probe t next ih => exact fun r hr => ih r (h r hr) fun es => hQ (.probed t :: es)
  | now next ih => exact fun t => ih t (h t) fun es => hQ (.read t :: es)
  | log l next ih => exact ih h fun es => hQ (.logged l :: es)

/-- **One program after the other** does what the first does, and then what the second does with
its outcome. -/
theorem always_andThen {p : Program α} {f : Except Failure α → Program β}
    {Q : List Event → Except Failure β → Prop} :
    (p.andThen f).Always P Q ↔
      p.Always P fun es o => (f o).Always P fun es' o' => Q (es ++ es') o' := by
  induction p generalizing Q with
  | done r => exact Iff.rfl
  | send q next ih => exact forall_congr' fun r => imp_congr_right fun _ => ih r
  | run c next ih => exact forall_congr' fun r => imp_congr_right fun _ => ih r
  | probe t next ih => exact forall_congr' fun r => imp_congr_right fun _ => ih r
  | now next ih => exact forall_congr' fun t => ih t
  | log l next ih => exact ih

/-- A program that goes on after a value goes on from there, and ends with a failure. -/
theorem always_bind {p : Program α} {f : α → Program β} {Q : List Event → Except Failure β → Prop}
    (h : p.Always P fun es o => match o with
      | .ok a => (f a).Always P fun es' o' => Q (es ++ es') o'
      | .error e => Q es (.error e)) : (p >>= f).Always P Q := by
  refine always_andThen.mpr (h.mono fun es o ho => ?_)
  cases o with
  | ok a => exact ho
  | error e =>
    change Q (es ++ []) (.error e)
    rwa [List.append_nil]

end Program

/-! ### Runs in a world -/

section Met

variable {α β : Type}

/-- The failure that an answer is, if it is one. -/
def failureOf : Except Failure β → List Failure
  | .ok _ => []
  | .error f => [f]

/-- **The failures that a program meets in a world**: those among the answers it is given. -/
def World.failuresMet : Program α → World → List Failure
  | .done _, _ => []
  | .send q next, w =>
    let (r, w') := w.nextReply q
    failureOf r ++ failuresMet (next r) w'
  | .run c next, w =>
    let (r, w') := w.nextOutcome c
    failureOf r ++ failuresMet (next r) w'
  | .probe p next, w =>
    let (r, w') := w.nextCertificate p
    failureOf r ++ failuresMet (next r) w'
  | .now next, w =>
    let (t, w') := w.nextTime
    failuresMet (next t) w'
  | .log _ next, w => failuresMet next w

theorem Program.permits_of_mem {P : Failure → Prop} {answer : Except Failure β}
    {rest : List Failure} (h : ∀ f ∈ failureOf answer ++ rest, P f) :
    Program.Permits P answer ∧ ∀ f ∈ rest, P f := by
  refine ⟨?_, fun f hf => h f (List.mem_append_right _ hf)⟩
  rintro f rfl
  exact h f (List.mem_append_left rest List.mem_cons_self)

/-- **A run in a world is one of the ways a program can go.** -/
theorem Program.Always.run {P : Failure → Prop} {p : Program α}
    {Q : List Event → Except Failure α → Prop} (h : p.Always P Q) (w : World)
    (hw : ∀ f ∈ w.failuresMet p, P f) : Q (w.run p).events (w.run p).outcome := by
  induction p generalizing Q w with
  | done r => exact h
  | send q next ih =>
    obtain ⟨hanswer, hrest⟩ := Program.permits_of_mem hw
    exact ih _ (h _ hanswer) _ hrest
  | run c next ih =>
    obtain ⟨hanswer, hrest⟩ := Program.permits_of_mem hw
    exact ih _ (h _ hanswer) _ hrest
  | probe t next ih =>
    obtain ⟨hanswer, hrest⟩ := Program.permits_of_mem hw
    exact ih _ (h _ hanswer) _ hrest
  | now next ih => exact ih _ (h _) _ hw
  | log l next ih => exact ih h w hw

end Met

namespace Program

variable {α β : Type}

/-! ### Careful programs -/

/-- **A careful program**: its questions follow a plan, and when it fails it has asked nothing yet,
and the failure is one of the early ones; or the failure is one of the late ones; or it is one that
the outside gave for an answer. -/
def Careful (early late : Failure → Prop) (plan : Plan) (p : Program α) : Prop :=
  ∀ P : Failure → Prop, p.Always P fun es o => plan.Allows es ∧
    ∀ f, o = .error f → (Event.externalOf es = [] ∧ early f) ∨ late f ∨ P f

/-- No failure: what is early about a program that has asked already. -/
def never : Failure → Prop := fun _ => False

/-- Any failure: of a program of which only the questions matter. -/
def anything : Failure → Prop := fun _ => True

section Rules

variable {early late late' : Failure → Prop} {plan plan' : Plan} {p : Program α}
  {f : α → Program β}

/-- A program that asks nothing is careful about the failures it ends with. -/
theorem careful_lift {r : Except Failure α} (h : ∀ f, r = .error f → early f ∨ late f) :
    (lift r).Careful early late plan :=
  fun _ => ⟨plan.allows_nil, fun f hf =>
    (h f hf).elim (fun hearly => Or.inl ⟨rfl, hearly⟩) fun hlate => Or.inr (Or.inl hlate)⟩

theorem careful_pure (a : α) : (pure a : Program α).Careful early late plan :=
  careful_lift (r := .ok a) (by simp)

theorem careful_throw {e : Failure} (h : early e ∨ late e) :
    (throw e : Program α).Careful early late plan := by
  refine careful_lift fun f hf => ?_
  obtain rfl := Except.error.inj hf
  exact h

/-- A note in the log is no question. -/
theorem careful_log {line : Text} (hp : p.Careful early late plan) :
    (Program.log line p).Careful early late plan := by
  have hlogged : Plan.Allows [] [.logged line] := Plan.allows_nil_iff.mpr rfl
  exact fun P => (hp P).mono fun es o ho => ⟨hlogged.after_nil ho.1, ho.2⟩

/-- A question passes on the failure that answers it. -/
theorem careful_fetch {q : Http.Request} {may : Event → Prop} (h : may (.sent q)) :
    (fetch q).Careful early late [may] :=
  fun _ _ hr => ⟨Plan.allows_singleton h, fun f hf => Or.inr (Or.inr (hr f hf))⟩

theorem careful_execute {c : Command} {may : Event → Prop} (h : may (.ran c)) :
    (execute c).Careful early late [may] :=
  fun _ _ hr => ⟨Plan.allows_singleton h, fun f hf => Or.inr (Or.inr (hr f hf))⟩

theorem careful_certificate {t : Probe} {may : Event → Prop} (h : may (.probed t)) :
    (certificate t).Careful early late [may] :=
  fun _ _ hr => ⟨Plan.allows_singleton h, fun f hf => Or.inr (Or.inr (hr f hf))⟩

/-- Reading the clock is no question. -/
theorem careful_clock : clock.Careful early late plan := by
  intro P t
  have hread : Plan.Allows [] [.read t] := Plan.allows_nil_iff.mpr rfl
  exact ⟨hread.after_nil plan.allows_nil, fun f hf => by simp at hf⟩

/-- **A check comes first**: it may fail early, and so may what follows it. -/
theorem careful_check {r : Except Failure α} (herror : ∀ e, r = .error e → early e ∨ late e)
    (hok : ∀ a, r = .ok a → (f a).Careful early late plan) :
    (lift r >>= f).Careful early late plan := by
  cases r with
  | error e => exact careful_throw (herror e rfl)
  | ok a => exact hok a rfl

/-- **After a question** nothing is early any more. -/
theorem Careful.bind (hp : p.Careful early late plan)
    (hf : ∀ a, (f a).Careful never late plan') :
    (p >>= f).Careful early late (plan ++ plan') := by
  refine fun P => always_bind ((hp P).mono fun es o ho => ?_)
  obtain ⟨hplan, hfails⟩ := ho
  cases o with
  | error e => exact ⟨hplan.of_append_left plan', fun g hg => hfails g (by simpa using hg)⟩
  | ok a =>
    -- a failure of the second program comes too late to be early
    refine (hf a P).mono fun es' o' ho' => ⟨hplan.append ho'.1, fun g hg => ?_⟩
    exact Or.inr ((ho'.2 g hg).resolve_left And.right)

/-- What follows the last question of a plan asks nothing. -/
theorem Careful.last (hp : p.Careful early late plan) (hf : ∀ a, (f a).Careful never late []) :
    (p >>= f).Careful early late plan := by
  have h := hp.bind hf
  rwa [List.append_nil] at h

/-- **A program whose every failure is made good** fails with nothing but what comes instead. -/
theorem Careful.recover {g : Failure → Program α} (hp : p.Careful early late plan)
    (hg : ∀ e, (g e).Careful never late' []) : (p.recover g).Careful never late' plan := by
  refine fun P => always_andThen.mpr ((hp P).mono fun es o ho => ?_)
  cases o with
  | ok a =>
    refine ⟨?_, fun f hf => by simp at hf⟩
    rw [List.append_nil]
    exact ho.1
  | error e =>
    refine (hg e P).mono fun es' o' ho' => ⟨?_, fun f hf => ?_⟩
    · have happend := ho.1.append ho'.1
      rwa [List.append_nil] at happend
    · exact Or.inr ((ho'.2 f hf).resolve_left And.right)

end Rules

/-- **A run of a careful program** in a world. -/
theorem Careful.run {early late : Failure → Prop} {plan : Plan} {p : Program α}
    (h : p.Careful early late plan) (w : World) :
    plan.Allows (w.run p).events ∧ ∀ f, (w.run p).outcome = .error f →
      (Event.externalOf (w.run p).events = [] ∧ early f) ∨ late f ∨ f ∈ w.failuresMet p :=
  (h (· ∈ w.failuresMet p)).run w fun _ hf => hf

end Program

end LineAgents
