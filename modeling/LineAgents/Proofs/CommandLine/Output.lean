import LineAgents.Proofs.Agents.Enrichment
import LineAgents.Proofs.CommandLine.Invocation
import LineAgents.Proofs.Protocol.Response
import LineAgents.Proofs.Session.Transport

/-!
# The output is for responses alone

A process that serves an agent writes one line for each request, and nothing besides
(`LineAgents.CommandLine.conduct_run_output`). Whatever else it has to say goes to the log, and the
log has no say in anything: a process whose log is quiet does the same as one whose log is not.

The proof takes the log lines out of a trace (`LineAgents.Trace.unlogged`). A program kept in a
**silent** journal, one without lines, does to a trace without log lines what it does in any other
journal to the trace as it is (`LineAgents.Trace.extend_unlogged`). So do the card, the handler and
the notes of an agent, hence its sessions (`LineAgents.CommandLine.serve_silent`), hence all that
two environments can lead to that differ in the variable for the log
(`LineAgents.CommandLine.unlogged_withAgent`).
-/

namespace LineAgents

/-! ### Taking the log out of a trace -/

/-- The journal without lines. -/
def Journal.silent : Journal := fun _ => none

theorem Journal.of_quiet (part : Text) : Journal.of true part = Journal.silent := rfl

/-- Whether an event is no log line. -/
def Event.isUnlogged : Event → Bool
  | .logged _ => false
  | _ => true

/-- A silent journal keeps what is no log line, whatever another journal has made of it. -/
theorem Event.filter_isUnlogged (j : Journal) (es : List Event) :
    (es.filterMap (keptBy? j)).filter isUnlogged = es.filterMap (keptBy? Journal.silent) := by
  rw [← List.filterMap_eq_filter, List.filterMap_filterMap]
  refine List.filterMap_congr fun e _ => ?_
  cases e with
  | logged message => cases h : j message <;> simp [keptBy?, h, isUnlogged, Journal.silent]
  | _ => rfl

/-- The trace without its log lines. -/
def Trace.unlogged (t : Trace) : Trace := { t with events := t.events.filter Event.isUnlogged }

theorem Trace.unlogged_log (t : Trace) (line : Text) : (t.log line).unlogged = t.unlogged := by
  rw [log, unlogged, unlogged, List.filter_append]
  exact congrArg (Trace.mk t.world) (List.append_nil _)

/-- **A program in a silent journal** ends as it does in any journal, and leaves the same trace but
for the log. -/
theorem Trace.extend_unlogged {α : Type} (t : Trace) (p : Program α) (j : Journal) :
    t.unlogged.extend (p.through Journal.silent) =
      ((t.extend (p.through j)).1, (t.extend (p.through j)).2.unlogged) := by
  simp only [extend, World.run_through, unlogged, List.filter_append, Event.filter_isUnlogged]

namespace CommandLine

/-! ### Agents in a silent journal -/

namespace Opened

/-- The agent with a silent journal. -/
def silent (o : Opened) : Opened := { o with journal := Journal.silent }

variable (o : Opened)

theorem card_silent (t : Trace) :
    o.silent.card t.unlogged = ((o.card t).1, (o.card t).2.unlogged) :=
  t.extend_unlogged _ o.journal

theorem note_silent (message : Text) (t : Trace) :
    o.silent.note message t.unlogged = (o.note message t).unlogged := by
  have hsilent : o.silent.note message t.unlogged = t.unlogged := rfl
  rw [hsilent, note]
  split
  · exact (t.unlogged_log _).symm
  · rfl

theorem respond_silent (card : Card) (r : Request) (t : Trace) :
    (o.silent.service card).handler.respond r t.unlogged =
      (((o.service card).handler.respond r t).1,
        ((o.service card).handler.respond r t).2.unlogged) := by
  rw [Handler.respond, Handler.respond]
  split
  · rfl
  · split
    · simp only [service, Capability.handler, silent, Trace.extend_unlogged _ _ o.journal]
    · rfl

/-- A session of the agent, with its log taken out, is one of the agent with a silent journal. -/
theorem carries_silent (card : Card) :
    Service.Carries Trace.unlogged (o.service card) (o.silent.service card) where
  log line t := o.note_silent line t
  state r t := congrArg Prod.snd (o.respond_silent card r t)

/-- **A card is made in any case.** -/
theorem exists_card (t : Trace) : ∃ card t', o.card t = (.ok card, t') := by
  obtain ⟨capability, embedder, journal⟩ := o
  rw [card, Trace.extend, World.run_through]
  cases embedder with
  | none => exact ⟨_, _, rfl⟩
  | some embed =>
    dsimp only
    rw [Card.run_build]
    exact ⟨_, _, rfl⟩

end Opened

/-- What a process did, without the log. -/
def Conduct.unlogged (c : Conduct) : Conduct := { c with trace := c.trace.unlogged }

theorem Conduct.logged_unlogged (c : Conduct) : c.unlogged.logged = [] := by
  refine List.filterMap_eq_nil_iff.mpr fun e he => ?_
  cases e with
  | logged line => exact absurd (List.mem_filter.mp he).2 Bool.false_ne_true
  | _ => rfl

theorem close_silent (o : Opened) {s s' : Session Trace} (houtcome : s.outcome = s'.outcome)
    (hwritten : s.written = s'.written) (hstate : s.state = s'.state.unlogged) :
    close o.silent s = (close o s').unlogged := by
  rw [close, close, houtcome, hwritten, hstate]
  cases s'.outcome with
  | ok tally =>
    dsimp only
    rw [o.note_silent, Conduct.unlogged]
  | error f => rfl

/-- **Serving with a silent journal** is serving, without the log. -/
theorem serve_silent (o : Opened) (chunks : List Bytes) (t : Trace) :
    serve o.silent chunks t.unlogged = (serve o chunks t).unlogged := by
  obtain ⟨card, t', hcard⟩ := o.exists_card t
  have hsilent : o.silent.card t.unlogged = (.ok card, t'.unlogged) := by
    rw [o.card_silent, hcard]
  rw [serve, hsilent, serve, hcard]
  dsimp only
  rw [o.note_silent]
  obtain ⟨houtcome, hstate, -⟩ := (o.carries_silent card).serve chunks (o.note (readyNote card) t')
  refine close_silent o houtcome ?_ hstate
  exact (o.carries_silent card).serve_written
    (fun r t => by rw [o.respond_silent]) chunks (o.note (readyNote card) t')

/-! ### What is written -/

/-- **A line that answers a request**: a response with the id of the request, which has no line end
in it, on a line of its own. -/
def IsAnswer (r : Request) (line : Text) : Prop :=
  ∃ result error, let text := (⟨r.id, result, error⟩ : Response).encode
    line = text ++ [10] ∧ 10 ∉ text ∧ 13 ∉ text

/-- The text of a response has no line end in it. -/
theorem printable_encode (r : Response) : Json.Printable r.encode := by
  rw [Response.encode]
  split
  · exact Json.printable_render _
  · exact Json.printable_render _

theorem isAnswer_respond {σ : Type} (h : Handler σ) (r : Request) (s : σ) :
    IsAnswer r ((h.respond r s).1.encode ++ [10]) := by
  have hid : ∃ result error, (h.respond r s).1 = ⟨r.id, result, error⟩ := by
    rcases h.respond_cases r s with ⟨v, -, hr⟩ | ⟨m, -, hr⟩
    · exact ⟨v, .null, hr.1⟩
    · exact ⟨.null, m, hr.1⟩
  obtain ⟨result, error, hr⟩ := hid
  exact ⟨result, error, by rw [hr], (printable_encode _).not_mem_lineEnd⟩

/-- **Every request among lines is answered by one line.** -/
theorem isAnswer_answers {σ : Type} (v : Service σ) (lines : List Text) (s : σ) :
    List.Forall₂ IsAnswer (Session.requests lines) (v.answers lines s) := by
  induction lines generalizing s with
  | nil => exact .nil
  | cons line lines ih =>
    cases hr : Request.decode? line with
    | none =>
      rw [Session.requests_cons_of_none hr, Service.answers_cons_of_none hr]
      exact ih _
    | some r =>
      rw [Session.requests_cons_of_some hr, Service.answers_cons_of_some hr]
      exact .cons (isAnswer_respond v.handler r s) (ih _)

/-- **An agent that is served writes the answers of its session**, and nothing before or after
them. -/
theorem exists_written_serve (o : Opened) (chunks : List Bytes) (t : Trace) :
    ∃ card t', (serve o chunks t).written = (o.service card).answers
      (Lines.split [] (Utf8.decode (Lines.finished chunks.flatten))) t' := by
  obtain ⟨card, t', hcard⟩ := o.exists_card t
  obtain ⟨-, -, hwritten, -⟩ := Session.serve_of_accepting (o.service card) chunks
    (o.note (readyNote card) t')
  refine ⟨card, o.note (readyNote card) t', ?_⟩
  rw [← hwritten, serve, hcard]
  dsimp only
  rw [close]
  split <;> rfl

/-! ### The command that serves an agent -/

variable {tools : Tools} {readers : Readers}

/-- **What is opened in two environments** that differ in the variable for the log is the same but
for the journal. -/
theorem map_silent_openAgent {env env' : Environment}
    (h : env.SameBut Settings.quietVariable env') (key : Text) :
    (openAgent readers env key).map Opened.silent =
      (openAgent readers env' key).map Opened.silent := by
  rw [openAgent, openAgent]
  cases hagent : (Registry.default readers).get? key with
  | none => rfl
  | some agent =>
    rw [Settings.load_of_sameBut (Or.inr rfl) h]
    cases hs : Settings.load env' with
    | error f => rfl
    | ok s =>
      have henabled : (s.withSwitches env).embeddingsEnabled = s.embeddingsEnabled :=
        (h.flag_eq (by decide)).trans (Settings.switches_of_load hs).1.symm
      have hembedder : embedderOf (s.withSwitches env) = embedderOf s := by
        rw [embedderOf, henabled]
        rfl
      change Except.ok (Opened.silent ⟨agent (s.withSwitches env), embedderOf (s.withSwitches env),
        _⟩) = _
      rw [Registry.agent_withSwitches hagent, hembedder]
      rfl

/-- Where the log is quiet, an agent has a silent journal. -/
theorem silent_of_openAgent {env : Environment} {key : Text} {o : Opened}
    (ho : openAgent readers env key = .ok o) (hquiet : env.flag Settings.quietVariable = true) :
    o.silent = o := by
  rw [openAgent] at ho
  cases hagent : (Registry.default readers).get? key with
  | none =>
    rw [hagent] at ho
    cases ho
  | some agent =>
    cases hs : Settings.load env with
    | error f =>
      rw [hagent, hs] at ho
      cases ho
    | ok s =>
      rw [hagent, hs] at ho
      cases ho
      rw [(Settings.switches_of_load hs).2.1, hquiet, Journal.of_quiet]
      rfl

/-- The command that serves an agent serves what is opened. -/
theorem conduct_run_of_head (htools : tools.ReadsRun) {key : Text} (hkey : key.head? ≠ some 45)
    (env : Environment) (chunks : List Bytes) (w : World) :
    conduct tools [Text.ofString "run", key] env chunks w =
      withAgent tools.toReaders env key ⟨w, []⟩ fun o => serve o chunks := by
  rw [conduct, htools key hkey]
  rfl

/-- **A process that serves an agent, without its log**, is one that serves it with a silent
journal. -/
theorem unlogged_withAgent (readers : Readers) (env : Environment) (key : Text)
    (chunks : List Bytes) (w : World) :
    (withAgent readers env key ⟨w, []⟩ fun o => serve o chunks).unlogged =
      match (openAgent readers env key).map Opened.silent with
      | .ok o => serve o chunks ⟨w, []⟩
      | .error ending => ⟨ending, [], ⟨w, []⟩⟩ := by
  rw [withAgent]
  cases openAgent readers env key with
  | error ending => rfl
  | ok o => exact (serve_silent o chunks ⟨w, []⟩).symm

/-- Where the log is quiet there is no log to take out. -/
theorem unlogged_withAgent_of_quiet {env : Environment}
    (hquiet : env.flag Settings.quietVariable = true) (key : Text) (chunks : List Bytes)
    (w : World) :
    (withAgent readers env key ⟨w, []⟩ fun o => serve o chunks).unlogged =
      withAgent readers env key ⟨w, []⟩ fun o => serve o chunks := by
  rw [unlogged_withAgent, withAgent]
  cases ho : openAgent readers env key with
  | error ending => rfl
  | ok o =>
    rw [Except.map, silent_of_openAgent ho hquiet]

/-- **A process that serves an agent shows nothing on its output but what it writes.** -/
theorem output_withAgent (readers : Readers) (env : Environment) (key : Text)
    (chunks : List Bytes) (t : Trace) :
    let c := withAgent readers env key t fun o => serve o chunks
    c.output = c.written.flatten := by
  -- if it stops before it serves, then with an error, which is no output
  have hending : ∀ c : Conduct, (∀ why, c.ending = .stopped why → why.isError = true) →
      c.output = c.written.flatten := by
    intro c hc
    rw [Conduct.output]
    cases hcending : c.ending with
    | stopped why => simp only [hc why hcending, if_true, List.append_nil]
    | _ => exact List.append_nil _
  refine hending _ fun why hwhy => ?_
  cases hagent : (Registry.default readers).get? key with
  | none =>
    rw [withAgent, openAgent, hagent] at hwhy
    cases hwhy
    rfl
  | some agent =>
    cases hs : Settings.load env with
    | error f =>
      rw [withAgent, openAgent, hagent, hs] at hwhy
      cases hwhy
    | ok s =>
      rw [withAgent, openAgent, hagent, hs] at hwhy
      dsimp only at hwhy
      rw [serve] at hwhy
      split at hwhy
      · cases hwhy
      · rw [close] at hwhy
        split at hwhy <;> cases hwhy

/-- **The output is for responses alone**, with whatever tools that read the command. A process that
is to serve an agent, whatever it is called, writes nothing to its output besides its lines. There
are none if there is no such agent or the settings are refused; otherwise they are those of its
session, one for each request of the input, each of them an answer to that request. In two
environments that differ in the variable for the log, the same is written, the same is done, the
same world is left behind and the process ends in the same way; where that variable quiets the log,
nothing is logged. -/
theorem conduct_run_output (htools : tools.ReadsRun) {key : Text} (hkey : key.head? ≠ some 45)
    (env : Environment) (chunks : List Bytes) (w : World) :
    let lines := Lines.split [] (Utf8.decode (Lines.finished chunks.flatten))
    let c := conduct tools [Text.ofString "run", key] env chunks w
    c.output = c.written.flatten ∧
      (match (Registry.default tools.toReaders).get? key, Settings.load env with
        | some agent, .ok s =>
          let o : Opened := ⟨agent s, embedderOf s, .of s.quiet ("agent:" ++ key)⟩
          List.Forall₂ IsAnswer (Session.requests lines) c.written ∧
            ∃ card t, c.written = (o.service card).answers lines t
        | _, _ => c.written = []) ∧
      ∀ env', env.SameBut Settings.quietVariable env' →
        let c' := conduct tools [Text.ofString "run", key] env' chunks w
        c.written = c'.written ∧ c.actions = c'.actions ∧ c.trace.world = c'.trace.world ∧
          c.ending = c'.ending ∧ (env.flag Settings.quietVariable = true → c.logged = []) := by
  intro lines c
  have hc : c = withAgent tools.toReaders env key ⟨w, []⟩ fun o => serve o chunks :=
    conduct_run_of_head htools hkey env chunks w
  refine ⟨?_, ?_, fun env' hsame => ?_⟩
  · rw [hc]
    exact output_withAgent tools.toReaders env key chunks ⟨w, []⟩
  · rw [withAgent, openAgent] at hc
    cases hagent : (Registry.default tools.toReaders).get? key with
    | none =>
      rw [hagent] at hc
      rw [hc]
    | some agent =>
      cases hs : Settings.load env with
      | error f =>
        rw [hagent, hs] at hc
        rw [hc]
      | ok s =>
        rw [hagent, hs] at hc
        obtain ⟨card, t, hwritten⟩ := exists_written_serve
          ⟨agent s, embedderOf s, .of s.quiet ("agent:" ++ key)⟩ chunks ⟨w, []⟩
        rw [hc]
        refine ⟨?_, card, t, hwritten⟩
        rw [hwritten]
        exact isAnswer_answers _ lines t
  · intro c'
    have hc' : c' = withAgent tools.toReaders env' key ⟨w, []⟩ fun o => serve o chunks :=
      conduct_run_of_head htools hkey env' chunks w
    -- without their logs the two processes do the same
    have hunlogged : c.unlogged = c'.unlogged := by
      rw [hc, hc', unlogged_withAgent, unlogged_withAgent, map_silent_openAgent hsame]
    have hwritten := congrArg Conduct.written hunlogged
    have hending := congrArg Conduct.ending hunlogged
    refine ⟨hwritten, congrArg (·.trace.events) hunlogged, congrArg (·.trace.world) hunlogged,
      hending, fun hquiet => ?_⟩
    have hself : c.unlogged = c := by
      rw [hc, unlogged_withAgent_of_quiet hquiet]
    rw [← hself]
    exact c.logged_unlogged

/-- A malformed line and a request, where the log is quiet and where it is not: one line is written
either way, and three are logged or none. -/
theorem conduct_run_output_of_two_lines :
    let env : Environment := [(Settings.quietVariable, Text.ofString "TRUE")]
    let chunk : Bytes := Utf8.encode "nonsense\n\x7b\"id\":1,\"method\":\"initialize\"\x7d"
    let quiet := conduct .standard [Text.ofString "run", Text.ofString "calc"] env [chunk] {}
    let loud := conduct .standard [Text.ofString "run", Text.ofString "calc"] [] [chunk] {}
    Tools.standard.ReadsRun ∧ (Text.ofString "calc").head? ≠ some 45 ∧
      env.SameBut Settings.quietVariable [] ∧
      env.flag Settings.quietVariable = true ∧ quiet.output = quiet.written.flatten ∧
      quiet.written = loud.written ∧ quiet.actions = loud.actions ∧ quiet.written.length = 1 ∧
      quiet.logged = [] ∧ loud.logged.length = 3 := by
  intro env chunk quiet loud
  have hkey : (Text.ofString "calc").head? ≠ some 45 := by decide
  have hsame : env.SameBut Settings.quietVariable [] := fun other hother => by
    rw [Environment.value?, lookup_cons_ite, if_neg hother]
    rfl
  have hquiet : env.flag Settings.quietVariable = true := by decide
  obtain ⟨houtput, -, hpair⟩ := conduct_run_output Tools.readsRun_standard hkey env [chunk] {}
  obtain ⟨hwritten, hactions, -, -, hlogged⟩ := hpair [] hsame
  exact ⟨Tools.readsRun_standard, hkey, hsame, hquiet, houtput, hwritten, hactions,
    by decide +kernel, hlogged hquiet, by decide +kernel⟩

end CommandLine

end LineAgents
