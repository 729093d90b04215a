import LineAgents.Agents.WebhookCall
import LineAgents.Proofs.Http.Headers
import LineAgents.Proofs.Json.Reading
import LineAgents.Proofs.Outside.Sequence
import LineAgents.Proofs.Params.Checked

/-!
# Calls as they are sent

The webhook agent sends what the parameters ask for, once, or it refuses to. All of it is in one
description of the request (`LineAgents.WebhookCall.exists_of_sent`), and two questions are asked of
that description here.

* **What becomes of the body.** A body that is missing or `null` is none; a text goes as it is; any
  other value goes as a JSON text that is read back as the value, under the content type of JSON. No
  body goes with the method `GET`, in whatever case that is written: such a call is refused before
  anything is sent (`LineAgents.WebhookCall.run_of_body`).
* **Whether every header is sent once.** The content type of a body in JSON is set over the headers
  of the caller, and takes the place of the caller's own when that is spelt in the same way. A
  caller's `content-type` stays, and HTTP gets two content types. This is the one thing that can go
  wrong (`LineAgents.WebhookCall.headers_of_sent`), and it does
  (`LineAgents.WebhookCall.content_type_twice`).
-/

namespace LineAgents.WebhookCall

open Params (present View Schema ancestorName labelText? labelFields?)

/-! ### Bodies -/

/-- The content type of a body in JSON, as a header. -/
def jsonType : Text × Text := (Text.ofString "Content-Type", Text.ofString "application/json")

/-- A body that is `null` is no body. -/
theorem prepare_present (body : Option Json) : prepare (present body) = prepare body := by
  rcases body with - | v
  · rfl
  · cases v <;> rfl

/-- A body that is neither `null` nor a text is sent as its JSON text. -/
theorem prepare_of_value {v : Json} (hnull : v.isNull = false) (htext : v.text? = none) :
    prepare (some v) = ⟨some v.render, [jsonType]⟩ := by
  cases v with
  | null => cases hnull
  | str s => cases htext
  | _ => rfl

/-- A body is sent unless it is `null`. -/
theorem isSome_content {v : Json} (hnull : v.isNull = false) :
    (prepare (some v)).content.isSome = true := by
  cases v with
  | null => cases hnull
  | _ => rfl

/-- **The body that parameters ask for**, unless it is missing or `null`. -/
def givenBody (params : Fields) : Option Json :=
  match (View.of params).find "body" with
  | .given v => present (some v)
  | _ => none

/-- The body goes as JSON: it is given, and it is no text. -/
def SendsJson (params : Fields) : Prop := ∃ v, givenBody params = some v ∧ v.text? = none

theorem isNull_of_givenBody {params : Fields} {v : Json} (h : givenBody params = some v) :
    v.isNull = false := by
  rw [givenBody] at h
  split at h
  · simpa using (Option.filter_eq_some_iff.mp h).2
  · cases h

/-- Only a body in JSON brings a header with it. -/
theorem headers_prepare {params : Fields} (h : ¬SendsJson params) :
    (prepare (givenBody params)).headers = [] := by
  cases hbody : givenBody params with
  | none => rfl
  | some v =>
    cases v with
    | null => rfl
    | str s => rfl
    | _ => exact absurd ⟨_, hbody, rfl⟩ h

/-- **The headers that parameters ask for**, each value as text; `__proto__` names no header. -/
def givenHeaders (params : Fields) : Http.Headers :=
  match (View.of params).find "headers" with
  | .given (.obj fields) =>
    (fields.filter (·.1 != ancestorName)).filterMap fun f =>
      (labelText? f.2).map fun s => (f.1, s)
  | _ => []

/-! ### What the checked parameters hold -/

section

variable {params p : Fields}

theorem present_body_of_parse (h : schema.parse params = .ok p) :
    present (p.get? "body") = givenBody params := by
  have hcheck := Schema.check_of_parse (by decide) h
    (f := { name := "body", rule := .any, optional := true })
    (.tail _ (.tail _ (.tail _ (.head _)))) (by decide)
  rw [givenBody]
  cases hfound : (View.of params).find "body" with
  | absent =>
    rw [hfound] at hcheck
    exact congrArg present (Except.ok.inj hcheck).symm
  | given v =>
    rw [hfound] at hcheck
    exact congrArg present (Except.ok.inj hcheck).symm
  | function =>
    rw [hfound] at hcheck
    exact congrArg present (Except.ok.inj hcheck).symm

theorem filterMap_of_mapM {α β : Type} {g : α → Option β} {l : List α} {l' : List β}
    (h : l.mapM g = some l') : l.filterMap g = l' := by
  induction l generalizing l' with
  | nil => exact Option.some_inj.mp h
  | cons a l ih =>
    rw [List.mapM_cons] at h
    obtain ⟨b, hb, h⟩ := Option.bind_eq_some_iff.mp h
    obtain ⟨bs, hbs, h⟩ := Option.bind_eq_some_iff.mp h
    rw [List.filterMap_cons_some hb, ih hbs]
    exact Option.some_inj.mp h

/-- The texts of accepted labels are those of the values. -/
theorem texts_of_labelFields? {fields fs : Fields} (h : labelFields? fields = some fs) :
    (fs.filterMap fun f => f.2.text?.map fun s => (f.1, s)) =
      (fields.filter (·.1 != ancestorName)).filterMap fun f =>
        (labelText? f.2).map fun s => (f.1, s) := by
  obtain ⟨gs, hgs, rfl⟩ := Option.map_eq_some_iff.mp h
  rw [← filterMap_of_mapM hgs, List.filter_filterMap, List.filterMap_filterMap,
    List.filterMap_filter]
  refine List.filterMap_congr fun f _ => ?_
  cases labelText? f.2 with
  | none => simp
  | some s =>
    rw [Option.map_some, Option.map_some, Option.filter_some]
    split
    · rfl
    · rfl

theorem headersOf_of_parse (h : schema.parse params = .ok p) :
    headersOf p = givenHeaders params := by
  have hcheck := Schema.check_of_parse (by decide) h
    (f := { name := "headers", rule := .labels "headers must be an object", optional := true })
    (.tail _ (.tail _ (.head _))) (by decide)
  rw [headersOf, givenHeaders]
  cases hfound : (View.of params).find "headers" with
  | absent =>
    rw [hfound] at hcheck
    rw [← Except.ok.inj hcheck]
  | function =>
    rw [hfound] at hcheck
    cases hcheck
  | given v =>
    have hgiven : Params.Found.given v ≠ .absent := nofun
    rw [hfound, Params.Field.check_of_optional _ _ hgiven] at hcheck
    obtain ⟨w, hw, hget⟩ := Params.exists_of_map_some_eq_ok hcheck
    rw [hget]
    cases v with
    | obj fields =>
      rw [Params.Rule.check] at hw
      split at hw
      · rename_i fs hfs
        obtain rfl := Except.ok.inj hw
        exact texts_of_labelFields? hfs
      · cases hw
    | _ => cases hw

end

/-! ### The request -/

/-- The request that checked parameters ask for, if it may be sent. -/
def requestFor (p : Fields) : Except Failure Http.Request :=
  let method := Text.toUpper (p.text "method")
  let payload := prepare (p.get? "body")
  if !methods.contains method then
    .error (.unsupported ("method must be one of " ++ Text.join ", " methods))
  else if method = "GET" ∧ payload.content.isSome then
    .error (.validation "body is not allowed with GET")
  else .ok {
    url := p.text "url"
    method := some method
    headers := some (mergeHeaders (headersOf p) payload.headers)
    body := payload.content
    timeout := some 20000 }

/-- **The request that parameters ask for.** -/
def request (params : Fields) : Except Failure Http.Request := schema.parse params >>= requestFor

/-- **The agent in two steps**: the request is made, and its reply is reported. -/
theorem compute_eq (params : Fields) : capability.compute params =
    Program.lift (request params) >>= fun q => Program.fetch q >>= fun r => pure (report r) := by
  change (Program.lift (schema.parse params) >>= act) = _
  rw [request]
  cases schema.parse params with
  | error f => rfl
  | ok p =>
    change act p = Program.lift (requestFor p) >>= _
    rw [act, requestFor]
    dsimp only
    split
    · rfl
    · split
      · rfl
      · rfl

theorem sent_iff {params : Fields} {w : World} {q : Http.Request} :
    .sent q ∈ (w.run (capability.compute params)).events ↔ request params = .ok q := by
  rw [compute_eq]
  exact World.sent_mem_question_iff fun r => ⟨.ok (report r), rfl⟩

theorem events_of_request {params : Fields} {q : Http.Request} (h : request params = .ok q)
    (w : World) : (w.run (capability.compute params)).events = [.sent q] := by
  rw [compute_eq]
  refine (World.events_run_question (fun r => ⟨.ok (report r), rfl⟩) w).trans ?_
  rw [h]
  rfl

/-- The method that parameters ask for, in capitals: `GET` when it is left open. -/
def givenMethod (params : Fields) : Text :=
  Text.toUpper (((View.of params).text? "method").getD "GET")

/-- **Parameters that are accepted**: those of the schema, with one of the methods, and without a
body if that is `GET`. -/
def Accepts (params : Fields) : Prop :=
  (∃ p, schema.parse params = .ok p) ∧ givenMethod params ∈ methods ∧
    (givenMethod params = "GET" → givenBody params = none)

section

variable {params : Fields}

/-- The parts of the request are found in the parameters. -/
theorem requestFor_of_parse {p : Fields} (h : schema.parse params = .ok p) :
    Text.toUpper (p.text "method") = givenMethod params ∧
      prepare (p.get? "body") = prepare (givenBody params) ∧
      headersOf p = givenHeaders params := by
  refine ⟨congrArg Text.toUpper ?_, ?_, headersOf_of_parse h⟩
  · exact Schema.text_of_parse_default (by decide) h (.tail _ (.head _)) (by decide)
  · rw [← prepare_present, present_body_of_parse h]

theorem content_eq_none_iff :
    (prepare (givenBody params)).content = none ↔ givenBody params = none := by
  cases hbody : givenBody params with
  | none => exact iff_of_true rfl rfl
  | some v =>
    have hcontent := isSome_content (isNull_of_givenBody hbody)
    exact iff_of_false (Option.isSome_iff_ne_none.mp hcontent) nofun

/-- **The request, if the parameters are accepted.** -/
theorem request_of_accepts (h : Accepts params) :
    ∃ q, request params = .ok q ∧ q.method = some (givenMethod params) ∧
      q.headers =
        some (mergeHeaders (givenHeaders params) (prepare (givenBody params)).headers) ∧
      q.body = (prepare (givenBody params)).content := by
  obtain ⟨⟨p, hp⟩, hmethod, hbody⟩ := h
  obtain ⟨hupper, hpayload, hheaders⟩ := requestFor_of_parse hp
  have hlegal : ¬(givenMethod params = "GET" ∧
      (prepare (givenBody params)).content.isSome = true) := by
    rintro ⟨hget, hsome⟩
    rw [content_eq_none_iff.mpr (hbody hget)] at hsome
    cases hsome
  refine ⟨{
    url := p.text "url"
    method := some (givenMethod params)
    headers :=
      some (mergeHeaders (givenHeaders params) (prepare (givenBody params)).headers)
    body := (prepare (givenBody params)).content
    timeout := some 20000 }, ?_, rfl, rfl, rfl⟩
  rw [request, hp]
  change requestFor p = _
  rw [requestFor, hupper, hpayload, hheaders, if_neg (by simpa using hmethod), if_neg hlegal]

/-- Other parameters are refused. -/
theorem accepts_of_request {q : Http.Request} (h : request params = .ok q) : Accepts params := by
  obtain ⟨p, hp, h⟩ := Params.exists_of_bind_eq_ok h
  obtain ⟨hupper, hpayload, -⟩ := requestFor_of_parse hp
  rw [requestFor, hupper, hpayload] at h
  split at h
  · cases h
  · rename_i hmethod
    split at h
    · cases h
    · rename_i hbody
      refine ⟨⟨p, hp⟩, by simpa using hmethod, fun hget => content_eq_none_iff.mp ?_⟩
      simpa [hget] using hbody

/-- **What is sent**: one request, if the parameters are accepted, by what they ask for. -/
theorem exists_of_sent {w : World} {q : Http.Request}
    (h : .sent q ∈ (w.run (capability.compute params)).events) :
    Accepts params ∧ (w.run (capability.compute params)).events = [.sent q] ∧
      q.method = some (givenMethod params) ∧
      q.headers =
        some (mergeHeaders (givenHeaders params) (prepare (givenBody params)).headers) ∧
      q.body = (prepare (givenBody params)).content := by
  have hrequest := sent_iff.mp h
  have haccepts := accepts_of_request hrequest
  obtain ⟨q', hq', hparts⟩ := request_of_accepts haccepts
  obtain rfl := Except.ok.inj (hrequest.symm.trans hq')
  exact ⟨haccepts, events_of_request hrequest w, hparts⟩

theorem exists_sent_iff (w : World) :
    (∃ q, .sent q ∈ (w.run (capability.compute params)).events) ↔ Accepts params := by
  constructor
  · rintro ⟨q, hq⟩
    exact (exists_of_sent hq).1
  · intro h
    obtain ⟨q, hq, -⟩ := request_of_accepts h
    exact ⟨q, sent_iff.mpr hq⟩

end

/-! ### What a body becomes -/

section

variable {params : Fields}

/-- Without a record behind the parameters, the body is what they hold. -/
theorem givenBody_eq (hparams : Ordered params) (hancestor : params.get? ancestorName = none) :
    givenBody params = present (params.get? "body") := by
  rw [givenBody, View.find_of hparams.nodup hancestor]
  have hpresent := Params.present_present (params.get? "body")
  cases hbody : present (params.get? "body") with
  | some v =>
    rw [hbody] at hpresent
    exact hpresent
  | none => rfl

/-- A body that is given and not `null` is the body, whatever is behind the parameters. -/
theorem givenBody_of_present (hparams : Ordered params) {v : Json}
    (hbody : params.get? "body" = some v) (hnull : v.isNull = false) :
    givenBody params = some v := by
  have hv : present (some v) = some v := Params.present_some hnull
  have hfound : (View.of params).find "body" = .given v :=
    View.find_of_present hparams (by decide) (by rw [hbody, hv])
  rw [givenBody, hfound]
  exact hv

/-- **A body does not go with `GET`.** -/
theorem run_of_get {v : Json} (hbody : givenBody params = some v)
    (hget : givenMethod params = "GET") (w : World) :
    ∃ message, w.run (capability.compute params) = ⟨.error (.validation message), w, []⟩ := by
  obtain ⟨message, hmessage⟩ : ∃ message, request params = .error (.validation message) := by
    rw [request]
    cases hp : schema.parse params with
    | error f =>
      -- something else is wrong with the parameters, and is found first
      obtain ⟨message, rfl⟩ := Schema.exists_of_parse_eq_error hp
      exact ⟨message, rfl⟩
    | ok p =>
      obtain ⟨hupper, hpayload, -⟩ := requestFor_of_parse hp
      have hcontent : (prepare (givenBody params)).content.isSome = true := by
        rw [hbody]
        exact isSome_content (isNull_of_givenBody hbody)
      refine ⟨"body is not allowed with GET", ?_⟩
      change requestFor p = _
      rw [requestFor, hupper, hpayload, hget, if_neg (by decide), if_pos ⟨rfl, hcontent⟩]
  refine ⟨message, ?_⟩
  rw [compute_eq, hmessage]
  rfl

/-- **What becomes of a body.** A request is sent if the parameters are accepted. It has one of five
methods, in capitals, and no body if that is `GET`. A body that is missing or `null` gives a request
without one, a text is the body as it is, and any other value is sent as a text that is JSON for the
same value, for an equal one if it has no negative zeros; then the content type is that of JSON,
whatever the caller has under this name. With the method `GET`, given in any case or left open, a
body is refused and nothing is sent. -/
theorem run_of_body (hparams : Ordered params) (w : World) :
    ((∃ q, .sent q ∈ (w.run (capability.compute params)).events) ↔ Accepts params) ∧
    (params.get? ancestorName = none →
      ∀ q, .sent q ∈ (w.run (capability.compute params)).events →
        (∃ m ∈ Text.ofStrings ["GET", "POST", "PUT", "PATCH", "DELETE"],
          q.method = some m ∧ (m = "GET" → q.body = none)) ∧
        (present (params.get? "body") = none → q.body = none) ∧
        (∀ s, params.get? "body" = some (.str s) → q.body = some s) ∧
        ∀ v, params.get? "body" = some v → v.isNull = false → v.text? = none →
          (∃ t v', q.body = some t ∧ Json.parse? t = some v' ∧
            (v.Tidy (fun x => Number.isFinite x = true) → v'.Same v) ∧
            (v.Tidy Number.Plain → v' = v)) ∧
          ∃ sent, q.headers = some sent ∧
            sent.lookup (Text.ofString "Content-Type") = some (Text.ofString "application/json")) ∧
    ∀ v, params.get? "body" = some v → v.isNull = false →
      ((∃ m, params.get? "method" = some (.str m) ∧ Text.toUpper m = "GET") ∨
        params.get? ancestorName = none ∧ present (params.get? "method") = none) →
      ∃ message, (w.run (capability.compute params)).outcome = .error (.validation message) ∧
        (w.run (capability.compute params)).events = [] := by
  refine ⟨exists_sent_iff w, fun hancestor q hq => ?_, fun v hv hnull hmethod => ?_⟩
  · obtain ⟨⟨-, hm, hget⟩, -, hmethod, hheaders, hbody⟩ := exists_of_sent hq
    have hgiven := givenBody_eq hparams hancestor
    refine ⟨⟨_, hm, hmethod, fun h => ?_⟩, fun hnone => ?_, fun s hs => ?_,
      fun v hv hnull htext => ?_⟩
    · rw [hbody, hget h]
      rfl
    · rw [hbody, hgiven, hnone]
      rfl
    · rw [hbody, hgiven, hs]
      rfl
    · -- the header of the content type comes with the JSON text, and is set last
      have hpayload : prepare (givenBody params) = ⟨some v.render, [jsonType]⟩ := by
        rw [hgiven, prepare_present, hv, prepare_of_value hnull htext]
      rw [hpayload] at hbody hheaders
      refine ⟨⟨v.render, v.reread, hbody, Json.parse?_render v, ?_, ?_⟩, _, hheaders, ?_⟩
      · exact Json.same_reread
      · exact Json.reread_eq_of_plain
      · exact (lookup_setNamed _ _ _ _).trans (if_pos rfl)
  · have hget : givenMethod params = "GET" := by
      rw [givenMethod]
      rcases hmethod with ⟨m, hm, hupper⟩ | ⟨hancestor, hmissing⟩
      · rw [View.text?_of_given (View.find_of_present hparams (by decide) (by rw [hm]; rfl))]
        exact hupper
      · rw [View.text?, View.find_of_missing hparams hancestor (by decide) hmissing]
        rfl
    obtain ⟨message, hrun⟩ := run_of_get (givenBody_of_present hparams hv hnull) hget w
    rw [hrun]
    exact ⟨message, rfl, rfl⟩

end

/-- A body that comes back as it was, and an empty text that does not go with `GET`. -/
theorem run_of_body_of_calls :
    let body : Json := .obj [(Text.ofString "on", .arr [.bool true, .null, .num 1.5])]
    let post : Fields := [(Text.ofString "url", .str "http://x"),
      (Text.ofString "method", .str "post"), (Text.ofString "body", body)]
    let get : Fields := [(Text.ofString "url", .str "http://x"),
      (Text.ofString "method", .str "gEt"), (Text.ofString "body", .str [])]
    let w := World.unreachable 1 0
    Ordered post ∧ post.get? ancestorName = none ∧
      (∃ q, .sent q ∈ (w.run (capability.compute post)).events ∧
        ∃ t, q.body = some t ∧ Json.parse? t = some body) ∧
      Ordered get ∧ ∃ message, (w.run (capability.compute get)).outcome =
        .error (.validation message) ∧ (w.run (capability.compute get)).events = [] := by
  intro body post get w
  have hpost : Ordered post := by decide
  have hget : Ordered get := by decide
  have hplain : body.Tidy Number.Plain := by decide +kernel
  have haccepts : Accepts post :=
    ⟨Schema.exists_parse_of_all rfl, by decide, fun hget => absurd hget (by decide)⟩
  obtain ⟨q, hq⟩ := (exists_sent_iff w).mpr haccepts
  obtain ⟨-, -, -, hbody⟩ := (run_of_body hpost w).2.1 rfl q hq
  obtain ⟨⟨t, v, ht, hv, -, hsame⟩, -⟩ := hbody body rfl rfl rfl
  refine ⟨hpost, rfl, ⟨q, hq, t, ht, hsame hplain ▸ hv⟩, hget, ?_⟩
  exact (run_of_body hget w).2.2 (.str []) rfl rfl (Or.inl ⟨"gEt", rfl, by decide⟩)

/-! ### Headers, once each -/

/-- Another spelling of the name of the content type. -/
def RespellsType (name : Text) : Prop :=
  Http.foldName name = Http.foldName jsonType.1 ∧ name ≠ jsonType.1

instance (name : Text) : Decidable (RespellsType name) := inferInstanceAs (Decidable (_ ∧ _))

section

open Http.Headers (Distinct named)

variable {params : Fields}

/-- **Every header is sent once**, to HTTP, when those of the caller are distinct, unless the body
goes as JSON and one of them spells the name of the content type in another way. Accepted parameters
make one request. The content type of a body in JSON is then the only one; all other headers of the
caller are sent as they are, each by itself; and nothing else is sent. -/
theorem headers_of_sent (hdistinct : Distinct (givenHeaders params)) (w : World) :
    ((∃ q, .sent q ∈ (w.run (capability.compute params)).events) ↔ Accepts params) ∧
    ∀ q, .sent q ∈ (w.run (capability.compute params)).events →
      ∃ sent, q.headers = some sent ∧ (w.run (capability.compute params)).events = [.sent q] ∧
        (Distinct sent ↔
          ¬(SendsJson params ∧ ∃ h ∈ givenHeaders params, RespellsType h.1)) ∧
        (SendsJson params → Distinct sent → named "Content-Type" sent =
          [(Text.ofString "Content-Type", Text.ofString "application/json")]) ∧
        (∀ h ∈ givenHeaders params,
          ¬(SendsJson params ∧ Http.foldName h.1 = Http.foldName "Content-Type") →
            named h.1 sent = [h]) ∧
        ∀ h ∈ sent, h ∈ givenHeaders params ∨ SendsJson params ∧
          h = (Text.ofString "Content-Type", Text.ofString "application/json") := by
  refine ⟨exists_sent_iff w, fun q hsent => ?_⟩
  obtain ⟨-, hevents, -, hheaders, -⟩ := exists_of_sent hsent
  refine ⟨_, hheaders, hevents, ?_⟩
  -- a body in JSON sets one header over those of the caller, and any other body sets none
  by_cases hjson : SendsJson params
  · obtain ⟨v, hv, htext⟩ := id hjson
    rw [hv, prepare_of_value (isNull_of_givenBody hv) htext]
    change (Distinct (setNamed jsonType.1 jsonType.2 _) ↔ _) ∧ _
    refine ⟨?_, fun _ h => ?_, fun h hh hother => ?_, fun h hh => ?_⟩
    · rw [Http.Headers.distinct_setNamed_iff hdistinct, and_iff_right hjson]
      constructor
      · rintro hspelt ⟨h, hh, hfold, hne⟩
        exact hne (hspelt h hh hfold)
      · intro hnone h hh hfold
        by_contra hne
        exact hnone ⟨h, hh, hfold, hne⟩
    · exact Http.Headers.named_of_mem h (mem_setNamed_self jsonType.1 jsonType.2 _)
    · exact (Http.Headers.named_setNamed (fun heq => hother ⟨hjson, heq.symm⟩) _ _).trans
        (Http.Headers.named_of_mem hdistinct hh)
    · exact (mem_setNamed hh).symm.imp_right fun heq => ⟨hjson, heq⟩
  · rw [headers_prepare hjson]
    change (Distinct (givenHeaders params) ↔ _) ∧ _
    refine ⟨iff_of_true hdistinct fun h => hjson h.1, fun h => absurd h hjson,
      fun h hh _ => Http.Headers.named_of_mem hdistinct hh, fun h hh => Or.inl hh⟩

end

/-- Headers of which one spells the content type as the body does. -/
theorem headers_of_sent_of_same_spelling :
    let params : Fields := [(Text.ofString "url", .str "http://x"),
      (Text.ofString "method", .str "put"),
      (Text.ofString "headers", .obj [(Text.ofString "Content-Type", .str "text/plain"),
        (Text.ofString "X-Debug", .bool true)]),
      (Text.ofString "body", .arr [.null])]
    ∃ q, .sent q ∈ ((World.unreachable 1 0).run (capability.compute params)).events ∧
      Http.Headers.Distinct (givenHeaders params) ∧
      ∃ sent, q.headers = some sent ∧ Http.Headers.Distinct sent ∧
        Http.Headers.named "Content-Type" sent =
          [(Text.ofString "Content-Type", Text.ofString "application/json")] ∧
        Http.Headers.named "X-Debug" sent =
          [(Text.ofString "X-Debug", Text.ofString "true")] := by
  intro params
  have hdistinct : Http.Headers.Distinct (givenHeaders params) := by decide
  have hspelt : ∀ h ∈ givenHeaders params, ¬RespellsType h.1 := by decide
  have haccepts : Accepts params :=
    ⟨Schema.exists_parse_of_all rfl, by decide, fun hget => absurd hget (by decide)⟩
  obtain ⟨q, hq⟩ := (exists_sent_iff (World.unreachable 1 0)).mpr haccepts
  obtain ⟨sent, hsent, -, hiff, htype, hkept, -⟩ := (headers_of_sent hdistinct _).2 q hq
  have hsentdistinct : Http.Headers.Distinct sent :=
    hiff.mpr fun ⟨_, h, hh, hrespelt⟩ => hspelt h hh hrespelt
  exact ⟨q, hq, hdistinct, sent, hsent, hsentdistinct, htype ⟨_, rfl, rfl⟩ hsentdistinct,
    hkept (Text.ofString "X-Debug", Text.ofString "true") (by decide) fun h =>
      absurd h.2 (by decide)⟩

/-- **A content type in another spelling is sent beside the one of the body.** -/
theorem content_type_twice :
    let params : Fields := [(Text.ofString "url", .str "http://x"),
      (Text.ofString "method", .str "POST"),
      (Text.ofString "headers", .obj [(Text.ofString "content-type", .str "text/plain")]),
      (Text.ofString "body", .obj [(Text.ofString "a", .num 1)])]
    Http.Headers.Distinct (givenHeaders params) ∧ ∃ q,
      ((World.unreachable 1 0).run (capability.compute params)).events = [.sent q] ∧
      ∃ sent, q.headers = some sent ∧ ¬Http.Headers.Distinct sent ∧
        Http.Headers.named "content-type" sent =
          [(Text.ofString "content-type", Text.ofString "text/plain"),
            (Text.ofString "Content-Type", Text.ofString "application/json")] := by
  intro params
  have haccepts : Accepts params :=
    ⟨Schema.exists_parse_of_all rfl, by decide, fun hget => absurd hget (by decide)⟩
  obtain ⟨q, hq⟩ := (exists_sent_iff (World.unreachable 1 0)).mpr haccepts
  obtain ⟨-, hevents, -, hheaders, -⟩ := exists_of_sent hq
  exact ⟨by decide, q, hevents, _, hheaders, by decide, by decide⟩

end LineAgents.WebhookCall
