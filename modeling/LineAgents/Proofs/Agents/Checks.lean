import LineAgents.Proofs.Agents.Targets
import LineAgents.Proofs.Outside.Behaviour
import LineAgents.Proofs.Outside.Sequence
import LineAgents.Proofs.Params.Checked

/-!
# What a health check asks, and what it tells

The monitor hands a target that anyone may choose to a command, to a client or to a socket, so it
matters what reaches them. Which of the three it is, and with what, is decided before anything is
done (`LineAgents.HealthCheck.question`), and the agent asks that and nothing else, whatever it is
told (`LineAgents.HealthCheck.externalOf_run`). So the form of its actions is a property of one
function: `LineAgents.HealthCheck.run_wellFormed` says that no target becomes an option of the
command, and that no probe goes to what is no port.

What it tells of a request is how long it took, and whether that was too long.

* `LineAgents.HealthCheck.run_judged`: with a threshold the answer has a verdict, which compares the
  time between two readings of the clock with the threshold, but only if the threshold is not zero.
* `LineAgents.HealthCheck.run_of_zero_threshold`: a threshold of zero counts as none, so the answer
  has no verdict though one was asked for.
-/

namespace LineAgents.HealthCheck

open Params (View Found present numberOf?)

/-! ### What is asked for -/

/-- **The kind of check that parameters ask for**, in lower case: a ping, when it is left open. -/
def kindOf? (params : Fields) : Option Text :=
  match present (params.get? "kind") with
  | none => some (Text.ofString "ping")
  | some v => v.text?.map Text.toLower

/-- **What a check asks of the outside**, if its target is acceptable for it. -/
def question (kind target : Text) : Option Event :=
  if kind = "ping" then
    if target.head? = some 45 then none
    else some (.ran { file := "ping", args := ["-c", "3", target], timeout := 15000 })
  else if kind = "http" then some (.sent { url := target, timeout := some 10000 })
  else if kind = "tls" then
    (hostPort target).toOption.map fun named =>
      .probed { host := named.1, port := named.2, timeout := 5000 }
  else none

/-- **A well-formed action** of a check: a ping of the target, which is no option; a plain request
to it; or a probe of a host on a port. -/
def WellFormed (kind target : Text) : Event → Prop
  | .ran c => kind = "ping" ∧ c.file = "ping" ∧
      c.args = [Text.ofString "-c", Text.ofString "3", target] ∧ target ≠ [] ∧
      target.head? ≠ some 45
  | .sent q => kind = "http" ∧ q.url = target ∧ q.method = none ∧ q.headers = none ∧ q.body = none
  | .probed p => kind = "tls" ∧ hostPort target = .ok (p.host, p.port) ∧ p.host ≠ [] ∧
      58 ∉ p.host ∧ 1 ≤ p.port ∧ p.port ≤ 65535
  | .read _ | .logged _ => False

section

variable {kind target : Text}

/-- A host and a port that are accepted are a host and a port. -/
theorem named_of_hostPort {host : Text} {port : ℕ} (h : hostPort target = .ok (host, port)) :
    host ≠ [] ∧ 58 ∉ host ∧ 1 ≤ port ∧ port ≤ 65535 := by
  rcases names_or_overreads h with hnames | ⟨_, _, -, hne, hcolon, -, -, hlow, hhigh, -⟩
  · cases hnames with
    | alone hne hcolon => exact ⟨hne, hcolon, by norm_num, by norm_num⟩
    | withPort hne hcolon _ _ _ hlow hhigh => exact ⟨hne, hcolon, hlow, hhigh⟩
  · exact ⟨hne, hcolon, hlow, hhigh⟩

/-- **Every question is well-formed.** -/
theorem wellFormed_of_question {e : Event} (hne : target ≠ []) (h : question kind target = some e) :
    WellFormed kind target e := by
  unfold question at h
  split_ifs at h with hping hoption hhttp htls
  · obtain rfl := Option.some.inj h
    exact ⟨hping, rfl, rfl, hne, hoption⟩
  · obtain rfl := Option.some.inj h
    exact ⟨hhttp, rfl, rfl, rfl, rfl⟩
  · cases hnamed : hostPort target with
    | error f =>
      rw [hnamed] at h
      cases h
    | ok named =>
      rw [hnamed] at h
      obtain rfl := Option.some.inj h
      exact ⟨htls, hnamed, named_of_hostPort hnamed⟩

/-! ### What a check does -/

/-- What the result of a check holds before it is judged: a latency, if it was a request, and no
verdict. -/
def Unjudged (kind : Text) (result : Fields) : Prop :=
  result.get? "slow" = none ∧ (kind ≠ "http" → result.number? "latency_ms" = none)

/-- What is told of a reply. -/
def timed (r : Http.Reply) (latency : Float) : Fields := [
  (Text.ofString "status", .ofNat r.status),
  (Text.ofString "latency_ms", .num latency),
  if r.ok then (Text.ofString "body_snippet", .str (r.text.take snippetLength))
  else (Text.ofString "error", .str r.text)]

theorem get?_slow_timed (r : Http.Reply) (latency : Float) :
    (timed r latency).get? "slow" = none := by
  rw [timed]
  split <;> rfl

/-- **A check asks its question and nothing else**, and its result is not judged yet. -/
theorem always_check (kind target : Text) :
    (check kind target).Always Program.anything fun es o =>
      Event.externalOf es = (question kind target).toList ∧
        ∀ result, o = .ok result → Unjudged kind result := by
  unfold check question
  split_ifs with hping hoption hhttp htls
  · -- a target that would be an option
    rw [ping, if_pos hoption]
    exact ⟨rfl, nofun⟩
  · rw [ping, if_neg hoption]
    intro r _
    cases r with
    | error f => exact ⟨rfl, nofun⟩
    | ok outcome =>
      refine ⟨rfl, fun result hresult => ?_⟩
      obtain rfl := Except.ok.inj hresult
      exact ⟨rfl, fun _ => rfl⟩
  · intro start r _
    cases r with
    | error f => exact ⟨rfl, nofun⟩
    | ok reply =>
      intro finish
      refine ⟨rfl, fun result hresult => ?_⟩
      obtain rfl : timed reply (finish - start) = result := Except.ok.inj hresult
      exact ⟨get?_slow_timed _ _, fun hother => absurd hhttp hother⟩
  · rw [tls]
    cases hostPort target with
    | error f => exact ⟨rfl, nofun⟩
    | ok named =>
      intro r _
      cases r with
      | error f => exact ⟨rfl, nofun⟩
      | ok validTo =>
        dsimp only [Program.andThen]
        split
        · intro now
          refine ⟨rfl, fun result hresult => ?_⟩
          obtain rfl := Except.ok.inj hresult
          exact ⟨rfl, fun _ => rfl⟩
        · refine ⟨rfl, fun result hresult => ?_⟩
          obtain rfl := Except.ok.inj hresult
          exact ⟨rfl, fun _ => rfl⟩
  · exact ⟨rfl, nofun⟩

end

/-! ### Acceptable parameters -/

section

variable {params p : Fields} {kind target : Text}

/-- The names of the parameters are no members that every object has. -/
theorem names_plain : ∀ name ∈ [Text.ofString "target", Text.ofString "kind",
    Text.ofString "threshold_ms"], name ∉ Params.objectMembers ∧ name ≠ Params.ancestorName := by
  decide

/-- **What acceptable parameters give**: a target that is not empty, a kind of check, and a number
for a threshold if anything. -/
theorem given_of_parse (hparams : Ordered params)
    (hancestor : params.get? Params.ancestorName = none) (hp : schema.parse params = .ok p) :
    params.get? "target" = some (.str (p.text "target")) ∧ p.text "target" ≠ [] ∧
      kindOf? params = some (Text.toLower (p.text "kind")) ∧
      p.number? "threshold_ms" = (present (params.get? "threshold_ms")).bind numberOf? := by
  have hnames : (schema.map (·.name)).Nodup := by decide
  have htarget : ({ name := "target", rule := .required "target" "target is required" } :
      Params.Field) ∈ schema := List.mem_cons_self
  have hkind : ({
      name := "kind"
      rule := .text none (some kindMessage) none
      default? := some (.str "ping") } : Params.Field) ∈ schema :=
    List.mem_cons_of_mem _ List.mem_cons_self
  have hthreshold : ({ name := "threshold_ms", rule := .number "threshold_ms", optional := true } :
      Params.Field) ∈ schema :=
    List.mem_cons_of_mem _ (List.mem_cons_of_mem _ List.mem_cons_self)
  obtain ⟨s, hs, htext, hne⟩ :=
    Params.Schema.exists_text_of_parse hnames hp htarget (by decide)
  have hgiven := (View.find_eq_given_iff hparams hancestor (names_plain _ (by simp))).mp hs
  refine ⟨?_, ?_, ?_, ?_⟩
  · rw [htext, Params.eq_some_of_present hgiven]
  · rw [htext]
    exact hne rfl
  · rw [kindOf?]
    obtain ⟨habsent, hdefault⟩ | ⟨k, hk, hfound⟩ :=
      Params.Schema.text_default_cases hnames hp hkind (by decide)
    · cases hv : present (params.get? "kind") with
      | none =>
        rw [hdefault]
        decide
      | some v =>
        rw [View.find_of_present hparams (by decide) hv] at habsent
        cases habsent
    · rw [(View.find_eq_given_iff hparams hancestor (names_plain _ (by simp))).mp hk, hfound]
      rfl
  · rw [Params.Schema.number?_of_parse hnames hp hthreshold (by decide),
      View.number?_eq hparams hancestor (names_plain _ (by simp))]

/-- **Parameters that are acceptable**: a target that is not empty, and of the rest nothing that is
of another type. -/
theorem exists_parse (hparams : Ordered params)
    (hancestor : params.get? Params.ancestorName = none)
    (htarget : params.get? "target" = some (.str target)) (hne : target ≠ [])
    (hkind : kindOf? params = some kind)
    (hthreshold : ∀ v, present (params.get? "threshold_ms") = some v → ∃ x, numberOf? v = some x) :
    ∃ p, schema.parse params = .ok p := by
  refine Params.Schema.exists_parse_of_forall_check ?_
  rw [schema, List.forall_mem_cons, List.forall_mem_cons, List.forall_mem_singleton]
  dsimp only
  refine ⟨?_, ?_, ?_⟩
  · rw [View.find_of_present hparams (by decide) (by rw [htarget]; rfl),
      Params.Field.check_of_mandatory, Params.Rule.check_required hne]
    exact ⟨_, rfl⟩
  · rw [kindOf?] at hkind
    cases hv : present (params.get? "kind") with
    | none =>
      rw [View.find_of_missing hparams hancestor (names_plain _ (by simp)) hv]
      exact ⟨_, rfl⟩
    | some v =>
      rw [hv] at hkind
      rw [View.find_of_present hparams (by decide) hv]
      cases v with
      | str s => exact ⟨_, rfl⟩
      | _ => cases hkind
  · cases hv : present (params.get? "threshold_ms") with
    | none =>
      rw [View.find_of_missing hparams hancestor (names_plain _ (by simp)) hv]
      exact ⟨_, rfl⟩
    | some v =>
      obtain ⟨x, hx⟩ := hthreshold v hv
      have hfound : Found.given v ≠ .absent := nofun
      rw [View.find_of_present hparams (by decide) hv, Params.Field.check_of_optional _ _ hfound]
      refine ⟨some (.num x), ?_⟩
      rw [Params.Rule.check, hx]
      rfl

/-! ### The agent -/

/-- **The agent is its check, judged**, once its parameters are acceptable. -/
theorem run_compute (hp : schema.parse params = .ok p) (w : World) :
    (w.run (capability.compute params)).events =
      (w.run (check (Text.toLower (p.text "kind")) (p.text "target"))).events ∧
    (w.run (capability.compute params)).outcome =
      (w.run (check (Text.toLower (p.text "kind")) (p.text "target"))).outcome.map
        fun result => .obj (judge (p.number? "threshold_ms") result) := by
  have hcompute : capability.compute params =
      check (Text.toLower (p.text "kind")) (p.text "target") >>= fun result =>
        pure (.obj (judge (p.number? "threshold_ms") result)) := by
    change Program.lift (schema.parse params) >>= _ = _
    rw [hp]
    rfl
  rw [hcompute]
  generalize check (Text.toLower (p.text "kind")) (p.text "target") = c
  cases houtcome : (w.run c).outcome with
  | error f =>
    rw [World.run_bind_of_error houtcome]
    exact ⟨rfl, rfl⟩
  | ok result =>
    rw [World.run_bind_of_ok houtcome]
    exact ⟨List.append_nil _, rfl⟩

/-- **What the agent asks** is the question of its check, whatever it is told. -/
theorem externalOf_run (hp : schema.parse params = .ok p) (w : World) :
    Event.externalOf (w.run (capability.compute params)).events =
      (question (Text.toLower (p.text "kind")) (p.text "target")).toList := by
  rw [(run_compute hp w).1]
  exact ((always_check _ _).run w fun _ _ => trivial).1

/-- **Every action of the monitor is well-formed.** The parameters alone decide what it is, and
there is no more than one: a ping of the target, with arguments that cannot be taken for options; a
plain request to the target; or a probe of a host without a colon on a port. Which of the three it
can be is decided by the kind of check, in lower case. -/
theorem run_wellFormed (hparams : Ordered params)
    (hancestor : params.get? Params.ancestorName = none) :
    ∃ asked : Option Event,
      (∀ w : World, Event.externalOf (w.run (capability.compute params)).events = asked.toList) ∧
      ∀ e ∈ asked, ∃ kind target, kindOf? params = some kind ∧
        params.get? "target" = some (.str target) ∧ WellFormed kind target e := by
  cases hp : schema.parse params with
  | error f =>
    refine ⟨none, fun w => ?_, nofun⟩
    change Event.externalOf (w.run (Program.lift (schema.parse params) >>= _)).events = _
    rw [hp]
    rfl
  | ok p =>
    obtain ⟨htarget, hne, hkind, -⟩ := given_of_parse hparams hancestor hp
    exact ⟨_, externalOf_run hp, fun e he => ⟨_, _, hkind, htarget, wellFormed_of_question hne he⟩⟩

end

/-- A probe on a port that is given, with the kind in upper case. -/
theorem run_wellFormed_of_probe :
    let params : Fields := [
      (Text.ofString "target", .str "example.com:8443"), (Text.ofString "kind", .str "TLS")]
    let probe : Event := .probed { host := "example.com", port := 8443, timeout := 5000 }
    Ordered params ∧ params.get? Params.ancestorName = none ∧
      (∀ w : World, Event.externalOf (w.run (capability.compute params)).events = [probe]) ∧
      WellFormed "tls" "example.com:8443" probe := by
  intro params probe
  have hparams : Ordered params := by decide
  have hancestor : params.get? Params.ancestorName = none := rfl
  obtain ⟨asked, hasked, hwell⟩ := run_wellFormed hparams hancestor
  have hprobe : asked = some probe := by
    have hlist : asked.toList = [probe] := (hasked {}).symm
    cases asked with
    | none => cases hlist
    | some e => rw [(List.cons.inj hlist).1]
  obtain ⟨kind, target, hkind, htarget, he⟩ := hwell probe hprobe
  obtain rfl : Text.ofString "tls" = kind := Option.some.inj hkind
  obtain rfl : Text.ofString "example.com:8443" = target := Json.str.inj (Option.some.inj htarget)
  exact ⟨hparams, hancestor, fun w => by rw [hasked w, hprobe]; rfl, he⟩

/-! ### Verdicts -/

section

variable {params : Fields} {kind : Text} {w : World} {r : Http.Reply}
  {rest : List (Except Failure Http.Reply)}

/-- **A request is timed** between two readings of the clock. -/
theorem run_http (url : Text) (hw : w.replies = .ok r :: rest) : ∃ start finish : Float,
    (w.run (http url)).events =
      [.read start, .sent { url := url, timeout := some 10000 }, .read finish] ∧
    (w.run (http url)).outcome = .ok (timed r (finish - start)) := by
  have hstart : (w.run Program.clock).outcome = .ok w.nextTime.1 := rfl
  have hkept : (w.run Program.clock).world.replies = .ok r :: rest := by
    change w.nextTime.2.replies = _
    rw [World.nextTime]
    split
    · exact hw
    · exact hw
  have hreply : ((w.run Program.clock).world.run
      (Program.fetch { url := url, timeout := some 10000 })).outcome = .ok r := by
    change (World.nextReply _ _).1 = _
    rw [World.nextReply, hkept]
  rw [http, World.run_bind_of_ok hstart, World.run_bind_of_ok hreply, World.run_bind_of_ok rfl]
  exact ⟨_, _, rfl, rfl⟩

/-- The verdict on a latency, with a threshold: none if the threshold is zero. -/
theorem get?_judge_timed (limit latency : Float) (r : Http.Reply) :
    (judge (some limit) (timed r latency)).get? "latency_ms" = some (.num latency) ∧
      (judge (some limit) (timed r latency)).get? "slow" =
        if limit == 0 then none else some (.bool (decide (latency > limit))) := by
  have hlatency : (timed r latency).number? "latency_ms" = some latency := rfl
  unfold judge
  rw [hlatency]
  dsimp only
  split
  · exact ⟨rfl, get?_slow_timed r latency⟩
  · refine ⟨rfl, ?_⟩
    rw [Fields.get?, List.lookup_append, show (timed r latency).lookup (Text.ofString "slow") = none
      from get?_slow_timed r latency]
    rfl

/-- Without a threshold, or without a latency, there is no verdict. -/
theorem get?_judge_of_unjudged {threshold : Option Float} {result : Fields}
    (h : Unjudged kind result) (hnone : threshold = none ∨ kind ≠ "http") :
    (judge threshold result).get? "slow" = none := by
  have hkept : judge threshold result = result := by
    unfold judge
    rcases hnone with rfl | hkind
    · rfl
    · rw [h.2 hkind]
      cases threshold <;> rfl
  rw [hkept]
  exact h.1

/-- **The verdict on a request.** When a threshold is given and the request is answered, whatever
the status, the latency is the time between the readings of the clock before it and after it; the
verdict says whether that is more than the threshold, and is there for every threshold but zero.
Without a threshold, and for a check of another kind, there is no verdict in any result. -/
theorem run_judged (hparams : Ordered params)
    (hancestor : params.get? Params.ancestorName = none) :
    (∀ (v : Json) (limit : Float) (target : Text) (w : World) (r : Http.Reply)
      (rest : List (Except Failure Http.Reply)),
      params.get? "threshold_ms" = some v → numberOf? v = some limit →
      kindOf? params = some (Text.ofString "http") →
      params.get? "target" = some (.str target) → target ≠ [] → w.replies = .ok r :: rest →
      ∃ (start finish : Float) (result : Fields),
        (w.run (capability.compute params)).outcome = .ok (.obj result) ∧
        (w.run (capability.compute params)).events =
          [.read start, .sent { url := target, timeout := some 10000 }, .read finish] ∧
        result.get? "latency_ms" = some (.num (finish - start)) ∧
        result.get? "slow" =
          if limit == 0 then none else some (.bool (decide (finish - start > limit)))) ∧
    ∀ (w : World) (result : Fields),
      present (params.get? "threshold_ms") = none ∨
        kindOf? params ≠ some (Text.ofString "http") →
      (w.run (capability.compute params)).outcome = .ok (.obj result) →
      result.get? "slow" = none := by
  constructor
  · intro v limit target w r rest hv hlimit hkind htarget hne hw
    have hthreshold : present (params.get? "threshold_ms") = some v := by
      rw [hv, Params.present_some]
      cases v with
      | null => cases hlimit
      | _ => rfl
    obtain ⟨p, hp⟩ := exists_parse hparams hancestor htarget hne hkind fun u hu => by
      rw [hthreshold] at hu
      exact ⟨limit, Option.some.inj hu ▸ hlimit⟩
    obtain ⟨htarget', -, hkind', hnumber⟩ := given_of_parse hparams hancestor hp
    obtain rfl : target = p.text "target" :=
      Json.str.inj (Option.some.inj (htarget.symm.trans htarget'))
    have hhttp : Text.toLower (p.text "kind") = Text.ofString "http" :=
      Option.some.inj (hkind'.symm.trans hkind)
    have hcheck : check (Text.toLower (p.text "kind")) (p.text "target") =
        http (p.text "target") := by
      rw [hhttp]
      rfl
    rw [hthreshold, Option.bind_some, hlimit] at hnumber
    obtain ⟨start, finish, hevents, houtcome⟩ := run_http (p.text "target") hw
    obtain ⟨hevents', houtcome'⟩ := run_compute hp w
    rw [hcheck, hevents] at hevents'
    rw [hcheck, houtcome, hnumber] at houtcome'
    obtain ⟨hlatency, hslow⟩ := get?_judge_timed limit (finish - start) r
    exact ⟨start, finish, _, houtcome', hevents', hlatency, hslow⟩
  · intro w result hnone hresult
    cases hp : schema.parse params with
    | error f =>
      change (w.run (Program.lift (schema.parse params) >>= _)).outcome = _ at hresult
      rw [hp] at hresult
      cases hresult
    | ok p =>
      obtain ⟨-, -, hkind, hnumber⟩ := given_of_parse hparams hancestor hp
      rw [(run_compute hp w).2] at hresult
      have hunjudged := ((always_check (Text.toLower (p.text "kind")) (p.text "target")).run w
        fun _ _ => trivial).2
      cases houtcome :
          (w.run (check (Text.toLower (p.text "kind")) (p.text "target"))).outcome with
      | error f =>
        rw [houtcome] at hresult
        cases hresult
      | ok told =>
        rw [houtcome] at hresult
        obtain rfl := Json.obj.inj (Except.ok.inj hresult)
        refine get?_judge_of_unjudged (hunjudged told houtcome) ?_
        rw [hnumber]
        refine hnone.imp (fun hmissing => ?_) fun hother hhttp => hother ?_
        · rw [hmissing]
          rfl
        · rw [hkind, hhttp]

end

/-- A threshold that is a numeral, and a status that is an error; and no threshold at all. -/
theorem run_judged_of_numeral :
    let params : Fields := [
      (Text.ofString "target", .str "https://example.com"), (Text.ofString "kind", .str "HTTP"),
      (Text.ofString "threshold_ms", .str "200")]
    let without : Fields := [
      (Text.ofString "target", .str "https://example.com"), (Text.ofString "kind", .str "HTTP"),
      (Text.ofString "threshold_ms", .null)]
    let w : World := { replies := [.ok { status := 503 }], times := [1000, 1250] }
    Ordered params ∧ params.get? Params.ancestorName = none ∧
      numberOf? (.str "200") = some 200 ∧
      (∃ (start finish : Float) (result : Fields),
        (w.run (capability.compute params)).outcome = .ok (.obj result) ∧
        (w.run (capability.compute params)).events =
          [.read start, .sent { url := "https://example.com", timeout := some 10000 },
            .read finish] ∧
        result.get? "latency_ms" = some (.num (finish - start)) ∧
        result.get? "slow" = some (.bool (decide (finish - start > 200)))) ∧
      ∃ result : Fields, (w.run (capability.compute without)).outcome = .ok (.obj result) ∧
        result.get? "slow" = none := by
  intro params without w
  have hparams : Ordered params := by decide
  have hlimit : numberOf? (.str "200") = some 200 := rfl
  obtain ⟨start, finish, result, houtcome, hevents, hlatency, hslow⟩ :=
    (run_judged hparams rfl).1 (.str "200") 200 "https://example.com" w _ _ rfl hlimit rfl rfl
      (List.cons_ne_nil _ _) rfl
  have hordered : Ordered without := by decide
  exact ⟨hparams, rfl, hlimit, ⟨start, finish, result, houtcome, hevents, hlatency, hslow⟩,
    _, rfl, (run_judged hordered rfl).2 w _ (Or.inl rfl) rfl⟩

/-- **A threshold of zero counts as none.** The request takes a quarter of a second, and that is
more than zero, but the result does not say so. -/
theorem run_of_zero_threshold :
    let params : Fields := [
      (Text.ofString "target", .str "http://x"), (Text.ofString "kind", .str "http"),
      (Text.ofString "threshold_ms", .num 0)]
    let w : World := { replies := [.ok { status := 200 }], times := [1000, 1250] }
    numberOf? (.num 0) = some 0 ∧ (0 : Float) < 1250 - 1000 ∧
      ∃ result : Fields,
        (w.run (capability.compute params)).outcome = .ok (.obj result) ∧
        (w.run (capability.compute params)).events =
          [.read 1000, .sent { url := "http://x", timeout := some 10000 }, .read 1250] ∧
        result.get? "latency_ms" = some (.num (1250 - 1000)) ∧ result.get? "slow" = none := by
  intro params w
  exact ⟨rfl, by decide, _, rfl, rfl, rfl, rfl⟩

end LineAgents.HealthCheck
