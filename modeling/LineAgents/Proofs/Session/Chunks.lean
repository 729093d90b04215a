import LineAgents.Proofs.Session.Serve

/-!
# How a stream is cut does not matter

A stream arrives in chunks, and a cut may fall anywhere: in a character, between a carriage return
and its line feed, in the middle of a request. A session that is served the same bytes in other
chunks does the same (`LineAgents.Session.serve_eq_of_flatten_eq`).

To say what a session does besides writing, its service is **watched**
(`LineAgents.Service.watched`): the state keeps a list of signs, one for each computation the
handler was asked for and one for each note in the log, in the order in which they came. Watching
changes nothing else (`LineAgents.Session.unwatched_serve`).
-/

namespace LineAgents

variable {σ : Type}

/-! ### Watched services -/

/-- **What a service is seen to do**: it is asked for a computation, or makes a note. -/
inductive Sign where
  | called (params : Fields)
  | noted (line : Text)

/-- **A service that is watched**: the signs it gives are kept beside its state. -/
def Service.watched (v : Service σ) : Service (σ × List Sign) where
  handler :=
    { card := v.handler.card
      positions := v.handler.positions
      compute := fun params s =>
        let (outcome, state) := v.handler.compute params s.1
        (outcome, (state, s.2 ++ [.called params])) }
  log line s := (v.log line s.1, s.2 ++ [.noted line])

/-- A watched handler gives the same response and leaves the same state. -/
theorem Service.respond_watched (v : Service σ) (r : Request) (s : σ × List Sign) :
    (v.watched.handler.respond r s).1 = (v.handler.respond r s.1).1 ∧
      (v.watched.handler.respond r s).2.1 = (v.handler.respond r s.1).2 := by
  rw [Handler.respond, Handler.respond]
  split
  · exact ⟨rfl, rfl⟩
  · split <;> exact ⟨rfl, rfl⟩

namespace Session

namespace Account

/-- The account without the signs. -/
def unwatched (a : Account (σ × List Sign)) : Account σ := { a with state := a.state.1 }

variable {v : Service σ} {out : Output}

theorem unwatched_answer (r : Request) (a : Account (σ × List Sign)) :
    (a.answer v.watched out r).unwatched = a.unwatched.answer v out r := by
  obtain ⟨hresponse, hstate⟩ := v.respond_watched r a.state
  simp only [answer, write, unwatched, hresponse]
  cases out a.tally.answered <;> simp only [hstate]

/-- **Watching changes nothing**, line by line. -/
theorem unwatched_take (a : Account (σ × List Sign)) (line : Text) :
    (a.take v.watched out line).unwatched = a.unwatched.take v out line := by
  rw [take, take]
  have hfailure : a.unwatched.failure = a.failure := rfl
  rw [hfailure]
  split
  · rfl
  · cases Request.decode? line with
    | some r => exact unwatched_answer r _
    | none => rfl

theorem unwatched_foldl_take (lines : List Text) (a : Account (σ × List Sign)) :
    (lines.foldl (take v.watched out) a).unwatched = lines.foldl (take v out) a.unwatched := by
  induction lines generalizing a with
  | nil => rfl
  | cons line lines ih => rw [List.foldl_cons, List.foldl_cons, ih, unwatched_take]

end Account

/-- **A watched session is the session itself**, but for the signs. -/
theorem unwatched_serve (v : Service σ) (out : Output) (chunks : List Bytes) (state : σ)
    (signs : List Sign) :
    (serve v.watched out chunks (state, signs)).shown.unwatched =
      (serve v out chunks state).shown := by
  rw [shown_serve, shown_serve]
  exact Account.unwatched_foldl_take _ _

/-! ### Other chunks -/

/-- Sessions that show the same have the same outcome. -/
theorem outcome_eq_of_shown_eq {τ : Type} {s : Session σ} {s' : Session τ}
    (htally : s.shown.tally = s'.shown.tally) (hfailure : s.shown.failure = s'.shown.failure) :
    s.outcome = s'.outcome := by
  rw [outcome_eq, outcome_eq, htally, hfailure]

/-- **How a stream is cut into chunks does not matter**: with the same bytes in all, a session
writes the same, the handler is asked for the same computations and the same notes are made in the
same order, the same state is left behind, and the outcome is the same, whatever the output does.
The first three equations say that a watched session is the session of the service itself. -/
theorem serve_eq_of_flatten_eq (v : Service σ) (out : Output) (state : σ)
    {chunks chunks' : List Bytes} (h : chunks.flatten = chunks'.flatten) :
    let s := serve v.watched out chunks (state, [])
    let s' := serve v.watched out chunks' (state, [])
    (s.written = (serve v out chunks state).written ∧
      s.state.1 = (serve v out chunks state).state ∧
      s.outcome = (serve v out chunks state).outcome) ∧
    s.written = s'.written ∧ s.state.1 = s'.state.1 ∧ s.state.2 = s'.state.2 ∧
      s.outcome = s'.outcome := by
  intro s s'
  have hself : s.shown.unwatched = (serve v out chunks state).shown :=
    unwatched_serve v out chunks state []
  have hshown : s.shown = s'.shown := by
    rw [shown_serve, shown_serve, h]
  refine ⟨⟨?_, ?_, ?_⟩, ?_, ?_, ?_, ?_⟩
  · exact congrArg Account.written hself
  · exact congrArg Account.state hself
  · exact outcome_eq_of_shown_eq (congrArg Account.tally hself) (congrArg Account.failure hself)
  · exact congrArg Account.written hshown
  · exact congrArg (fun a => a.state.1) hshown
  · exact congrArg (fun a => a.state.2) hshown
  · exact outcome_eq_of_shown_eq (congrArg Account.tally hshown) (congrArg Account.failure hshown)

/-- Cuts in a character, in the middle of a line end and in a request, and an empty chunk, against
the stream in one piece. -/
theorem serve_eq_of_cut_character :
    let v : Service Unit :=
      { handler := { card := ⟨[]⟩, positions := [], compute := fun _ s => (.ok .undefined, s) }
        log := fun _ s => s }
    let out : Output := fun _ => none
    let stream : Bytes := [123, 125, 0xE2, 0x82, 0xAC, 13, 10, 123, 125, 13, 10]
    let cut : List Bytes := [[123, 125, 0xE2], [], [0x82, 0xAC, 13], [10, 123], [125, 13, 10]]
    let s := serve v.watched out cut ((), [])
    let s' := serve v.watched out [stream] ((), [])
    cut.flatten = [stream].flatten ∧
      (s.written = (serve v out cut ()).written ∧ s.state.1 = (serve v out cut ()).state ∧
        s.outcome = (serve v out cut ()).outcome) ∧
      s.written = s'.written ∧ s.state.1 = s'.state.1 ∧ s.state.2 = s'.state.2 ∧
        s.outcome = s'.outcome := by
  intro v out stream cut
  have hflatten : cut.flatten = [stream].flatten := by decide
  exact ⟨hflatten, serve_eq_of_flatten_eq v out () hflatten⟩

end Session

end LineAgents
