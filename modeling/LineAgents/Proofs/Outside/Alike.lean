import LineAgents.Outside.World

/-!
# Programs that differ in a credential

A credential travels in the header `Authorization` of a request. Seen with that header **veiled**
(`LineAgents.Http.Request.veiled`), a request shows everything else: its URL, its method, its body,
its time limit, and which headers it has in which order. Two programs are **alike**
(`LineAgents.Program.Alike`) when they ask the same, as far as can be seen with the veil on, and go
on alike whatever the answer is, down to the same value or the same failure.

Programs that are put together from alike parts are alike, and in a world whose answers do not
depend on the header they cannot be told apart (`LineAgents.Program.Alike.looksLike`): they end in
the same way, leave the same world behind, and have done the same things but for what is veiled.
-/

namespace LineAgents

/-! ### The veil -/

/-- The header that carries a credential. -/
def Http.credentialHeader : Text := "Authorization"

/-- **A request with its credential veiled**: the header is there, but its value is not shown. -/
def Http.Request.veiled (q : Http.Request) : Http.Request :=
  { q with
    headers := q.headers.map fun hs =>
      hs.map fun h => if h.1 == credentialHeader then (h.1, []) else h }

/-- An event with the credential of a request veiled. -/
def Event.veiled : Event → Event
  | .sent q => .sent q.veiled
  | e => e

/-- **Two runs look alike** with the veil on: they end in the same way, leave the same world behind,
and have done the same on the way. -/
structure Run.LooksLike {α : Type} (r r' : Run α) : Prop where
  outcome : r.outcome = r'.outcome
  world : r.world = r'.world
  events : r.events.map Event.veiled = r'.events.map Event.veiled

theorem Run.LooksLike.after {α : Type} {r r' : Run α} (h : r.LooksLike r') {e e' : Event}
    (he : e.veiled = e'.veiled) : (World.after e r).LooksLike (World.after e' r') where
  outcome := h.outcome
  world := h.world
  events := by
    change e.veiled :: r.events.map Event.veiled = e'.veiled :: r'.events.map Event.veiled
    rw [he, h.events]

namespace Program

variable {α β : Type}

/-! ### Alike programs -/

/-- **Two programs are alike**: they do the same, but for what the veil hides. -/
inductive Alike : Program α → Program α → Prop where
  | done (r : Except Failure α) : Alike (.done r) (.done r)
  | send {q q' : Http.Request} {next next' : Except Failure Http.Reply → Program α}
      (hq : q.veiled = q'.veiled) (h : ∀ r, Alike (next r) (next' r)) :
      Alike (.send q next) (.send q' next')
  | run {c : Command} {next next' : Except Failure CommandOutcome → Program α}
      (h : ∀ r, Alike (next r) (next' r)) : Alike (.run c next) (.run c next')
  | probe {t : Probe} {next next' : Except Failure Text → Program α}
      (h : ∀ r, Alike (next r) (next' r)) : Alike (.probe t next) (.probe t next')
  | now {next next' : Float → Program α} (h : ∀ t, Alike (next t) (next' t)) :
      Alike (.now next) (.now next')
  | log {line : Text} {next next' : Program α} (h : Alike next next') :
      Alike (.log line next) (.log line next')

namespace Alike

theorem refl (p : Program α) : Alike p p := by
  induction p with
  | done r => exact .done r
  | send q next ih => exact .send rfl ih
  | run c next ih => exact .run ih
  | probe t next ih => exact .probe ih
  | now next ih => exact .now ih
  | log line next ih => exact .log ih

variable {p p' : Program α}

theorem andThen {f f' : Except Failure α → Program β} (h : p.Alike p')
    (hf : ∀ r, (f r).Alike (f' r)) : (p.andThen f).Alike (p'.andThen f') := by
  induction h with
  | done r => exact hf r
  | send hq _ ih => exact .send hq ih
  | run _ ih => exact .run ih
  | probe _ ih => exact .probe ih
  | now _ ih => exact .now ih
  | log _ ih => exact .log ih

/-- **Alike programs that go on alike after a value are alike.** -/
theorem bind {f f' : α → Program β} (h : p.Alike p') (hf : ∀ a, (f a).Alike (f' a)) :
    (p >>= f).Alike (p' >>= f') := by
  refine h.andThen fun r => ?_
  cases r with
  | ok a => exact hf a
  | error e => exact .done _

theorem recover {g g' : Failure → Program α} (h : p.Alike p') (hg : ∀ e, (g e).Alike (g' e)) :
    (p.recover g).Alike (p'.recover g') := by
  refine h.andThen fun r => ?_
  cases r with
  | ok a => exact .done _
  | error e => exact hg e

/-- Requests that differ in their credentials are alike. -/
theorem fetch {q q' : Http.Request} (h : q.veiled = q'.veiled) :
    (Program.fetch q).Alike (Program.fetch q') :=
  .send h fun r => .done r

/-! ### Runs of alike programs -/

/-- The world answers a request by its URL at most. -/
theorem nextReply_eq {q q' : Http.Request} (h : q.veiled = q'.veiled) (w : World) :
    w.nextReply q = w.nextReply q' := by
  have hurl : q.veiled.url = q'.veiled.url := by rw [h]
  change q.url = q'.url at hurl
  rw [World.nextReply, World.nextReply, hurl]

/-- **Runs of alike programs cannot be told apart** with the veil on. -/
theorem looksLike (h : p.Alike p') (w : World) : (w.run p).LooksLike (w.run p') := by
  -- on how the programs are alike; an answer is used up with each question, so for every world
  induction h generalizing w with
  | done r => exact ⟨rfl, rfl, rfl⟩
  | @send q q' next next' hq _ ih =>
    rw [World.run, World.run, nextReply_eq hq]
    exact (ih _ _).after (congrArg Event.sent hq)
  | run _ ih => exact (ih _ _).after rfl
  | probe _ ih => exact (ih _ _).after rfl
  | now _ ih => exact (ih _ _).after rfl
  | log _ ih => exact (ih _).after rfl

end Alike

end Program

end LineAgents
