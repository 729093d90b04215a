import LineAgents.Agents.HomeAutomation
import LineAgents.Proofs.Http.Address
import LineAgents.Proofs.Number.Digits
import LineAgents.Proofs.Outside.Sequence
import LineAgents.Proofs.Params.Checked

/-!
# Where a call of the home agent goes

The home agent sends a credential with every call, so it matters where its calls go: to the state of
an entity or to a service of a domain, under the address of the server. The URL says so, as long as
the names in it are names. They are put there as they are, without any encoding, and a URL does not
show where a name begins and ends.

* The URL is the address of the server and behind it the endpoint, and each name of the endpoint is
  read as one segment of the path exactly when all names are **plain** as they are taken
  (`LineAgents.HomeAutomation.url_of_sent`). A domain that is not given is read off the entity; that
  of a plain entity is plain too, unless it spells the points of a segment that leads up
  (`LineAgents.HomeAutomation.plain_domainOf_iff`).
* A name with a slash in it is several segments, and one of them may lead up: with the entity
  `../config` the credential goes to another part of the server
  (`LineAgents.HomeAutomation.entity_leads_out`).
-/

namespace LineAgents.HomeAutomation

open Params (View Schema)

/-! ### Endpoints -/

/-- **Where a call goes** under the address of the server: to the state of an entity, or to a
service of a domain. -/
inductive Endpoint where
  | state (entity : Text)
  | service (domain name : Text)

namespace Endpoint

/-- The names in an endpoint. -/
def names : Endpoint → List Text
  | .state entity => [entity]
  | .service domain name => [domain, name]

/-- The segments of an endpoint: two that are fixed, and the names. -/
def segments : Endpoint → List Text
  | .state entity => [Text.ofString "api", Text.ofString "states", entity]
  | .service domain name => [Text.ofString "api", Text.ofString "services", domain, name]

/-- What is fixed is plain. -/
theorem forall_plain_segments_iff (e : Endpoint) :
    (∀ s ∈ Http.taken e.segments, Http.Plain s) ↔ ∀ s ∈ Http.taken e.names, Http.Plain s := by
  have hapi : Http.Plain (Http.kept "api") := by decide
  have hfixed : Http.Plain (Http.kept "states") ∧ Http.Plain (Http.kept "services") := by decide
  cases e with
  | state entity =>
    change (∀ s ∈ [Http.kept "api", Http.kept "states", Http.keptLast entity], Http.Plain s) ↔ _
    rw [List.forall_mem_cons, List.forall_mem_cons, and_iff_right hapi, and_iff_right hfixed.1]
    rfl
  | service domain name =>
    change (∀ s ∈ [Http.kept "api", Http.kept "services", Http.kept domain, Http.keptLast name],
      Http.Plain s) ↔ _
    rw [List.forall_mem_cons, List.forall_mem_cons, and_iff_right hapi, and_iff_right hfixed.2]
    rfl

theorem stateUrl_eq (base entity : Text) :
    stateUrl base entity = base ++ Http.ofSegments (state entity).segments := by
  rw [stateUrl, segments, Http.ofSegments, List.flatMap_cons, List.flatMap_cons,
    List.flatMap_singleton, List.append_assoc]
  rfl

theorem serviceUrl_eq (base domain name : Text) :
    serviceUrl base domain name = base ++ Http.ofSegments (service domain name).segments := by
  rw [serviceUrl, segments, Http.ofSegments, List.flatMap_cons, List.flatMap_cons,
    List.flatMap_cons, List.flatMap_singleton, List.append_assoc, List.append_assoc,
    List.append_assoc]
  rfl

end Endpoint

/-- The text found under a name, or another one if none is found or an empty one. -/
def givenOr (params : Fields) (name default : Text) : Text :=
  (((View.of params).text? name).filter (· != [])).getD default

/-- The action that parameters ask for: to get the state, when it is left open. -/
def givenAction (params : Fields) : Text :=
  Text.toLower (((View.of params).text? "action").getD "get_state")

/-- **What the action asks for**: the endpoint, if it is a known action. -/
def endpointOf (params : Fields) (entity : Text) : Option Endpoint :=
  if givenAction params = "get_state" ∨ givenAction params = "set_state" then some (.state entity)
  else if givenAction params = "call_service" then
    some (.service (givenOr params "domain" (domainOf entity)) (givenOr params "service" "turn_on"))
  else none

/-- **Parameters that are accepted**: those of the schema, with a credential and a known action. -/
def Accepts (settingsToken : Text) (params : Fields) : Prop :=
  (∃ p, schema.parse params = .ok p) ∧ givenOr params "token" settingsToken ≠ [] ∧
    givenAction params ∈ Text.ofStrings ["get_state", "set_state", "call_service"]

/-! ### The request -/

/-- What the agent makes of a reply. -/
def answer (r : Http.Reply) : Program Json := do
  if r.ok then
    let body ← .lift (bodyOf r)
    return .obj [(Text.ofString "status", .ofNat r.status), (Text.ofString "body", body)]
  else throw (.outside ("HTTP " ++ r.statusText ++ ": " ++ r.text))

theorem exists_answer_eq (r : Http.Reply) : ∃ outcome, answer r = .lift outcome := by
  rw [answer]
  split
  · cases bodyOf r with
    | error f => exact ⟨.error f, rfl⟩
    | ok body => exact ⟨_, rfl⟩
  · exact ⟨_, rfl⟩

/-- The request of one call. -/
def requestAt (url method token : Text) (payload : Option Json) : Http.Request where
  url := url
  method := some method
  headers := some [
    (Text.ofString "Authorization", "Bearer " ++ token),
    (Text.ofString "Content-Type", Text.ofString "application/json")]
  body := payload.map Json.render
  timeout := some 15000

/-- The request that checked parameters ask for, with a credential. -/
def requestFor (p : Fields) (token : Text) : Except Failure Http.Request :=
  let base := Text.dropTrailing 47 (p.text "base_url")
  let entity := p.text "entity_id"
  let action := Text.toLower (p.text "action")
  if action = "get_state" then .ok (requestAt (stateUrl base entity) "GET" token none)
  else if action = "set_state" then
    .ok (requestAt (stateUrl base entity) "POST" token
      (some (.obj [(Text.ofString "state", (p.get? "value").getD .null)])))
  else if action = "call_service" then
    .ok (requestAt
      (serviceUrl base (textOr p "domain" (domainOf entity)) (textOr p "service" "turn_on"))
      "POST" token (some (servicePayload entity (p.get? "value"))))
  else .error (.unsupported "Unknown action. Use get_state, set_state, or call_service.")

/-- **The request that parameters ask for.** -/
def request (settingsToken : Text) (params : Fields) : Except Failure Http.Request := do
  let p ← schema.parse params
  let token := textOr p "token" settingsToken
  if token.isEmpty then .error (.validation "HOME_ASSISTANT_TOKEN is not set")
  else requestFor p token

/-- What is asked with a credential. -/
theorem act_eq (p : Fields) (token : Text) : act p token =
    Program.lift (requestFor p token) >>= fun q => Program.fetch q >>= answer := by
  rw [act, requestFor]
  split
  · rfl
  · split
    · rfl
    · split
      · rfl
      · rfl

/-- **The agent in two steps**: the request is made, and its reply is the answer. -/
theorem compute_eq (settingsToken : Text) (params : Fields) :
    (capability settingsToken).compute params =
      Program.lift (request settingsToken params) >>= fun q => Program.fetch q >>= answer := by
  change (Program.lift (schema.parse params) >>= fun p =>
    if (textOr p "token" settingsToken).isEmpty then
      throw (Failure.validation "HOME_ASSISTANT_TOKEN is not set")
    else act p (textOr p "token" settingsToken)) = _
  rw [request]
  cases schema.parse params with
  | error f => rfl
  | ok p =>
    change (if (textOr p "token" settingsToken).isEmpty then _ else _) =
      Program.lift (if (textOr p "token" settingsToken).isEmpty then _ else _) >>= _
    split
    · rfl
    · exact act_eq p _

/-! ### What the checked parameters hold -/

section

variable {params p : Fields}

/-- The texts that may be left open are those that are found, unless they are empty. -/
theorem textOr_of_parse {name : Text} (default : Text) (h : schema.parse params = .ok p)
    (hname : name ∈ Text.ofStrings ["token", "domain", "service"]) :
    textOr p name default = givenOr params name default := by
  have hfield : { name := name, rule := .plain, optional := true } ∈ schema ∧
      name ≠ Params.ancestorName := by
    simp only [Text.ofStrings, List.map_cons, List.map_nil, List.mem_cons, List.not_mem_nil,
      or_false] at hname
    rcases hname with rfl | rfl | rfl
    · exact ⟨.tail _ (.tail _ (.tail _ (.tail _ (.head _)))), by decide⟩
    · exact ⟨.tail _ (.tail _ (.tail _ (.tail _ (.tail _ (.head _))))), by decide⟩
    · exact ⟨.tail _ (.tail _ (.tail _ (.tail _ (.tail _ (.tail _ (.head _)))))), by decide⟩
  rw [textOr, givenOr, Schema.text?_of_parse (by decide) h hfield.1 hfield.2]
  cases (View.of params).text? name with
  | none => rfl
  | some t => cases t <;> rfl

theorem action_of_parse (h : schema.parse params = .ok p) :
    Text.toLower (p.text "action") = givenAction params :=
  congrArg Text.toLower
    (Schema.text_of_parse_default (by decide) h (.tail _ (.tail _ (.head _))) (by decide))

/-- Where a request goes, and what it carries. -/
theorem exists_of_requestFor (hp : schema.parse params = .ok p) {token : Text} {q : Http.Request}
    (h : requestFor p token = .ok q) :
    ∃ e, endpointOf params (p.text "entity_id") = some e ∧
      q.url = Text.dropTrailing 47 (p.text "base_url") ++ Http.ofSegments e.segments ∧
      q.headers = some [(Text.ofString "Authorization", "Bearer " ++ token),
        (Text.ofString "Content-Type", Text.ofString "application/json")] := by
  rw [requestFor, action_of_parse hp] at h
  rw [endpointOf]
  split at h
  · rename_i hget
    obtain rfl := Except.ok.inj h
    exact ⟨_, if_pos (Or.inl hget), Endpoint.stateUrl_eq _ _, rfl⟩
  · rename_i hget
    split at h
    · rename_i hset
      obtain rfl := Except.ok.inj h
      exact ⟨_, if_pos (Or.inr hset), Endpoint.stateUrl_eq _ _, rfl⟩
    · rename_i hset
      split at h
      · rename_i hservice
        obtain rfl := Except.ok.inj h
        refine ⟨_, ?_, Endpoint.serviceUrl_eq _ _ _, rfl⟩
        rw [if_neg (not_or.mpr ⟨hget, hset⟩), if_pos hservice,
          textOr_of_parse _ hp (by decide), textOr_of_parse _ hp (by decide)]
      · cases h

/-- A known action has a request. -/
theorem exists_requestFor_eq (hp : schema.parse params = .ok p) (token : Text)
    (h : givenAction params ∈ Text.ofStrings ["get_state", "set_state", "call_service"]) :
    ∃ q, requestFor p token = .ok q := by
  rw [requestFor, action_of_parse hp]
  simp only [Text.ofStrings, List.map_cons, List.map_nil, List.mem_cons, List.not_mem_nil,
    or_false] at h
  rcases h with h | h | h
  · exact ⟨_, if_pos h⟩
  · rw [h, if_neg (by decide), if_pos rfl]
    exact ⟨_, rfl⟩
  · rw [h, if_neg (by decide), if_neg (by decide), if_pos rfl]
    exact ⟨_, rfl⟩

/-- Only a known action has an endpoint. -/
theorem givenAction_mem {entity : Text} {e : Endpoint} (h : endpointOf params entity = some e) :
    givenAction params ∈ Text.ofStrings ["get_state", "set_state", "call_service"] := by
  rw [endpointOf] at h
  split at h
  · rename_i hstate
    rcases hstate with hget | hset
    · exact hget ▸ .head _
    · exact hset ▸ .tail _ (.head _)
  · split at h
    · rename_i hservice
      exact hservice ▸ .tail _ (.tail _ (.head _))
    · cases h

end

section

variable {settingsToken : Text} {params : Fields}

/-- A request is made of checked parameters and a credential. -/
theorem request_eq_ok_iff {q : Http.Request} : request settingsToken params = .ok q ↔
    ∃ p, schema.parse params = .ok p ∧ givenOr params "token" settingsToken ≠ [] ∧
      requestFor p (givenOr params "token" settingsToken) = .ok q := by
  have htoken {p : Fields} (hp : schema.parse params = .ok p) :
      textOr p "token" settingsToken = givenOr params "token" settingsToken :=
    textOr_of_parse settingsToken hp (by decide)
  constructor
  · intro h
    obtain ⟨p, hp, h⟩ := Params.exists_of_bind_eq_ok h
    change (if (textOr p "token" settingsToken).isEmpty then _ else requestFor p _) = .ok q at h
    rw [htoken hp] at h
    split at h
    · cases h
    · rename_i hset
      exact ⟨p, hp, by simpa using hset, h⟩
  · rintro ⟨p, hp, hset, h⟩
    rw [request, hp]
    change (if (textOr p "token" settingsToken).isEmpty then _ else requestFor p _) = .ok q
    rw [htoken hp, if_neg (by simpa using hset), h]

/-- **A request is sent exactly when the parameters are accepted.** -/
theorem exists_sent_iff (w : World) :
    (∃ q, .sent q ∈ (w.run ((capability settingsToken).compute params)).events) ↔
      Accepts settingsToken params := by
  rw [compute_eq]
  simp only [World.sent_mem_question_iff exists_answer_eq, request_eq_ok_iff]
  constructor
  · rintro ⟨q, p, hp, hset, h⟩
    obtain ⟨e, he, -⟩ := exists_of_requestFor hp h
    exact ⟨⟨p, hp⟩, hset, givenAction_mem he⟩
  · rintro ⟨⟨p, hp⟩, hset, haction⟩
    obtain ⟨q, hq⟩ := exists_requestFor_eq hp _ haction
    exact ⟨q, p, hp, hset, hq⟩

end

/-! ### Plain names -/

/-- **The domain of a plain entity is plain**, unless it spells one point or two. It has no point of
its own, so it can stay or lead up only in the other spelling. -/
theorem plain_domainOf_iff {entity : Text} (h : Http.Plain (Http.kept entity)) :
    Http.Plain (Http.kept (domainOf entity)) ↔
      (Http.kept (domainOf entity)).map Text.asciiLower ∉ Text.ofStrings ["%2e", "%2e%2e"] := by
  have hmem : ∀ u ∈ Http.kept (domainOf entity), u ∈ Http.kept entity := fun u hu =>
    ((List.takeWhile_sublist _).filter _).mem hu
  -- a point is kept in lower case, and there is none before the first
  have hpoint : (46 : UInt16) ∉ (Http.kept (domainOf entity)).map Text.asciiLower := by
    intro hu
    obtain ⟨v, hv, hlower⟩ := List.mem_map.mp hu
    have hv46 : v = 46 := by
      rw [Text.asciiLower] at hlower
      split at hlower
      · rename_i hletter
        grind
      · exact hlower
    have hfirst := List.mem_takeWhile_imp (List.mem_of_mem_filter hv)
    rw [hv46] at hfirst
    exact absurd hfirst (by decide)
  have hne : ∀ t : Text, 46 ∈ t → (Http.kept (domainOf entity)).map Text.asciiLower ≠ t :=
    fun t ht heq => hpoint (heq ▸ ht)
  obtain ⟨⟨hslash, hback, hquery, hfragment⟩, -⟩ := h
  rw [Http.Plain, and_iff_right ⟨mt (hmem 47) hslash, mt (hmem 92) hback, mt (hmem 63) hquery,
    mt (hmem 35) hfragment⟩, Http.isHere, Http.isUp]
  have hone := hne "." (by decide)
  have htwo := hne ".." (by decide)
  have hbefore := hne ".%2e" (by decide)
  have hbehind := hne "%2e." (by decide)
  simp [Text.ofStrings, hone, htwo, hbefore, hbehind]

/-- A plain entity whose domain leads up. -/
example : Http.Plain (Http.kept "%2E%2e.x") ∧
    ¬Http.Plain (Http.kept (domainOf "%2E%2e.x")) := by
  decide

theorem plain_givenOr {take : Text → Text} {params : Fields} {name default : Text}
    (h : ∀ s, (View.of params).text? name = some s → Http.Plain (take s))
    (hdefault : Http.Plain (take default)) :
    Http.Plain (take (givenOr params name default)) := by
  rw [givenOr]
  cases hs : (View.of params).text? name with
  | none => exact hdefault
  | some s =>
    rw [Option.filter_some]
    split
    · exact h s hs
    · exact hdefault

/-- **A name that is plain wherever it stands**: at the end of a URL, and before its end. -/
def PlainAnywhere (s : Text) : Prop := Http.Plain (Http.keptLast s) ∧ Http.Plain (Http.kept s)

/-- Endpoints have plain names when the texts that are given are plain. -/
theorem plain_names {params : Fields} {entity : Text} {e : Endpoint}
    (he : endpointOf params entity = some e) (hentity : PlainAnywhere entity)
    (hgiven : ∀ name ∈ Text.ofStrings ["domain", "service"], ∀ s,
      (View.of params).text? name = some s → PlainAnywhere s)
    (hdomain : (Http.kept (domainOf entity)).map Text.asciiLower ∉
      Text.ofStrings ["%2e", "%2e%2e"]) :
    ∀ name ∈ Http.taken e.names, Http.Plain name := by
  rw [endpointOf] at he
  split at he
  · obtain rfl := Option.some_inj.mp he
    exact List.forall_mem_singleton.mpr hentity.1
  · split at he
    · obtain rfl := Option.some_inj.mp he
      refine List.forall_mem_cons.mpr ⟨?_, List.forall_mem_singleton.mpr ?_⟩
      · exact plain_givenOr (fun s hs => (hgiven _ (.head _) s hs).2)
          ((plain_domainOf_iff hentity.2).mpr hdomain)
      · exact plain_givenOr (fun s hs => (hgiven _ (.tail _ (.head _)) s hs).1) (by decide)
    · cases he

/-- **A call goes where the parameters say, by their names as they are.** Accepted parameters make
one request. Its URL is the address of the server without the slashes at its end, and behind it the
endpoint that the action asks for; the credential is sent there and nowhere else. The names of the
endpoint are read as segments of the path, one each, exactly when all of them are plain as they are
taken. They are plain when the texts given for entity, domain and service are, unless the domain of
the entity spells a point or two. -/
theorem url_of_sent (settingsToken : Text) (params : Fields) (w : World) :
    ((∃ q, .sent q ∈ (w.run ((capability settingsToken).compute params)).events) ↔
      Accepts settingsToken params) ∧
    ∀ q, .sent q ∈ (w.run ((capability settingsToken).compute params)).events →
      ∃ (base entity : Text) (slashes : ℕ) (e : Endpoint),
        (w.run ((capability settingsToken).compute params)).events = [.sent q] ∧
        (View.of params).find "base_url" = .given (.str (base ++ List.replicate slashes 47)) ∧
        base.getLast? ≠ some 47 ∧
        (View.of params).find "entity_id" = .given (.str entity) ∧
        endpointOf params entity = some e ∧
        q.url = base ++ Http.ofSegments e.segments ∧
        q.headers = some [
          (Text.ofString "Authorization", "Bearer " ++ givenOr params "token" settingsToken),
          (Text.ofString "Content-Type", Text.ofString "application/json")] ∧
        (Http.Spells (Http.ofSegments e.segments) e.segments ↔
          ∀ name ∈ Http.taken e.names, Http.Plain name) ∧
        ((∀ name ∈ Text.ofStrings ["entity_id", "domain", "service"], ∀ s,
          (View.of params).text? name = some s → PlainAnywhere s) →
          (Http.kept (domainOf entity)).map Text.asciiLower ∉ Text.ofStrings ["%2e", "%2e%2e"] →
            ∀ name ∈ Http.taken e.names, Http.Plain name) := by
  refine ⟨exists_sent_iff w, fun q hsent => ?_⟩
  rw [compute_eq, World.sent_mem_question_iff exists_answer_eq] at hsent
  obtain ⟨p, hp, -, hq⟩ := request_eq_ok_iff.mp hsent
  obtain ⟨address, haddress, hbase, -⟩ :=
    Schema.exists_text_of_parse (by decide) hp (.head _) (by decide)
  obtain ⟨entity, hentity, hname, -⟩ :=
    Schema.exists_text_of_parse (by decide) hp (.tail _ (.head _)) (by decide)
  -- the address that is given differs from the base by the slashes at its end
  obtain ⟨slashes, hslashes⟩ := Number.dropTrailing_append 47 address
  obtain ⟨e, he, hurl, hheaders⟩ := exists_of_requestFor hp hq
  rw [hname] at he
  rw [hbase] at hurl
  refine ⟨Text.dropTrailing 47 address, entity, slashes, e, ?_, hslashes ▸ haddress,
    Number.getLast?_dropTrailing 47 address, hentity, he, hurl, hheaders, ?_,
    fun hgiven => ?_⟩
  · rw [compute_eq, World.events_run_question exists_answer_eq, hsent]
    rfl
  · exact Http.spells_ofSegments_iff.trans e.forall_plain_segments_iff
  · exact plain_names he (hgiven _ (.head _) entity (View.text?_of_given hentity))
      fun name hmem => hgiven name (.tail _ hmem)

/-- A service of the domain that the entity is in. -/
theorem url_of_sent_of_light :
    let params : Fields := [(Text.ofString "base_url", .str "http://ha//"),
      (Text.ofString "entity_id", .str "light.kitchen"),
      (Text.ofString "action", .str "Call_Service")]
    let e := Endpoint.service "light" "turn_on"
    ∃ q, .sent q ∈ ((World.unreachable 1 0).run ((capability "k").compute params)).events ∧
      endpointOf params "light.kitchen" = some e ∧
      (∃ base, q.url = base ++ Http.ofSegments e.segments) ∧
      Http.Spells (Http.ofSegments e.segments) e.segments := by
  intro params e
  obtain ⟨q, hq⟩ := (exists_sent_iff (World.unreachable 1 0)).mpr
    (show Accepts "k" params from ⟨Schema.exists_parse_of_all rfl, by decide, by decide⟩)
  obtain ⟨base, entity, -, e', -, -, -, hentity, he', hurl, -, hspells, -⟩ :=
    (url_of_sent "k" params _).2 q hq
  have hfound : (View.of params).find "entity_id" = .given (.str "light.kitchen") := rfl
  have he : endpointOf params "light.kitchen" = some e := rfl
  rw [hfound] at hentity
  obtain rfl := Json.str.inj (Params.Found.given.inj hentity)
  obtain rfl := Option.some_inj.mp (he.symm.trans he')
  exact ⟨q, hq, he, ⟨base, hurl⟩, hspells.mpr (by decide)⟩

/-- **An entity can lead out of its endpoint**, and the credential goes with it. -/
theorem entity_leads_out :
    let params : Fields := [(Text.ofString "base_url", .str "http://ha/"),
      (Text.ofString "entity_id", .str "../config")]
    let e := Endpoint.state "../config"
    ∃ q, ((World.unreachable 1 0).run ((capability "k").compute params)).events = [.sent q] ∧
      endpointOf params "../config" = some e ∧
      q.url = Text.ofString "http://ha/api/states/../config" ∧
      q.headers = some [(Text.ofString "Authorization", Text.ofString "Bearer k"),
        (Text.ofString "Content-Type", Text.ofString "application/json")] ∧
      (∀ path, Http.follow path (Http.segmentsOf (Http.ofSegments e.segments)) =
        path ++ Text.ofStrings ["api", "config"]) ∧
      ¬Http.Spells (Http.ofSegments e.segments) e.segments := by
  intro params e
  have hsegments : Http.segmentsOf (Http.ofSegments e.segments) =
      Text.ofStrings ["api", "states", "..", "config"] := by decide
  have hfollow : ∀ path, Http.follow path (Http.segmentsOf (Http.ofSegments e.segments)) =
      path ++ Text.ofStrings ["api", "config"] := by
    intro path
    rw [hsegments]
    change (path ++ [Text.ofString "api"] ++ [Text.ofString "states"]).dropLast ++
      [Text.ofString "config"] = _
    rw [List.dropLast_concat]
    exact List.append_assoc _ _ _
  refine ⟨_, rfl, rfl, rfl, rfl, hfollow, fun hspells => ?_⟩
  have hnames := (hspells.2 []).symm.trans (hfollow [])
  exact absurd hnames (by decide)

end LineAgents.HomeAutomation
