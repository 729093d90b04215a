import LineAgents.Http.Client
import LineAgents.Proofs.Json.Order

/-!
# Sending a request

What a client makes of a request is one fetch, and what it makes of the fetch is a reply or a
failure of the network. Two things are lost on the way.

The headers of an exchange come one after the other, and a name may come more than once. A reply has
each name once, with the value that came last (`LineAgents.Http.lookup_collectHeaders_iff`), and one
name it cannot have at all. So all that came is in the reply exactly when that name did not come and
no name came with two values (`LineAgents.Http.forall_lookup_collectHeaders_iff`). Nothing else is
in the reply (`LineAgents.Http.Defaults.send_of_exchange`).

The time limit of a request counts until the body is read, and an exchange may break in two places:
before there are headers, or later. In the first place a failure that means the limit was reached is
told apart from the others and reported with the limit; in the second it is reported as any other
failure is, by its own reason (`LineAgents.Http.Defaults.send_of_breaks`).

* A record of the fetches changes nothing of what is sent
  (`LineAgents.Http.Defaults.send_recorded`), and it shows that a request is fetched once, and not
  at all if its time limit is refused.
* `LineAgents.Http.Defaults.send_of_exchange` says what the reply is when nothing breaks, and
  `LineAgents.Http.Defaults.send_of_breaks` what the failure is when something does.
* The first of two cookies is lost (`LineAgents.Http.Defaults.send_of_two_cookies`), and a time
  limit that is reached while the body is read is not named
  (`LineAgents.Http.Defaults.send_of_slow_body`).
-/

namespace LineAgents.Http

/-! ### The headers of a reply -/

section Headers

variable {name v : Text} {hs : List (Text × Text)} {h : Text × Text}

/-- **The last value of a name** among headers in the order of their arrival. -/
def IsLast (name v : Text) (hs : List (Text × Text)) : Prop :=
  ∃ before after, hs = before ++ (name, v) :: after ∧ ∀ h ∈ after, h.1 ≠ name

theorem lookup_reverse_iff : hs.reverse.lookup name = some v ↔ IsLast name v hs := by
  rw [List.lookup_eq_some_iff]
  constructor
  · rintro ⟨after, before, hsplit, hafter⟩
    refine ⟨before.reverse, after.reverse, ?_, fun h hh => ?_⟩
    · rw [← List.reverse_reverse hs, hsplit, List.reverse_append, List.reverse_cons,
        List.append_assoc, List.singleton_append]
    · exact (bne_iff_ne.mp (hafter h (List.mem_reverse.mp hh))).symm
  · rintro ⟨before, after, rfl, hafter⟩
    refine ⟨after.reverse, before.reverse, ?_, fun h hh => ?_⟩
    · rw [List.reverse_append, List.reverse_cons, List.append_assoc, List.singleton_append]
    · exact bne_iff_ne.mpr (hafter h (List.mem_reverse.mp hh)).symm

theorem IsLast.mem (h : IsLast name v hs) : (name, v) ∈ hs := by
  obtain ⟨before, after, rfl, -⟩ := h
  exact List.mem_append_right before List.mem_cons_self

/-- A name that came has a last value. -/
theorem exists_isLast (hmem : h ∈ hs) : ∃ v, IsLast h.1 v hs := by
  cases hlookup : hs.reverse.lookup h.1 with
  | some v => exact ⟨v, lookup_reverse_iff.mp hlookup⟩
  | none =>
    have hne := List.lookup_eq_none_iff.mp hlookup h (List.mem_reverse.mpr hmem)
    exact absurd rfl (bne_iff_ne.mp hne)

/-- **The headers of a reply by name**: the last value of every name but one. -/
theorem lookup_collectHeaders_iff :
    (collectHeaders hs).lookup name = some v ↔ name ≠ "__proto__" ∧ IsLast name v hs := by
  rw [collectHeaders, lookup_collectNamed, ← List.filter_reverse, lookup_filter (· != "__proto__"),
    ← lookup_reverse_iff]
  by_cases hname : name = "__proto__"
  · rw [if_neg (by simpa using hname)]
    exact iff_of_false nofun fun h => h.1 hname
  · rw [if_pos (bne_iff_ne.mpr hname)]
    exact (and_iff_right hname).symm

theorem nodup_collectHeaders (hs : List (Text × Text)) : ((collectHeaders hs).map (·.1)).Nodup :=
  (ordered_collectNamed _).nodup

/-- Every header of a reply is one that came. -/
theorem mem_of_mem_collectHeaders (hmem : h ∈ collectHeaders hs) : h ∈ hs :=
  (List.mem_filter.mp (mem_of_mem_collectNamed hmem)).1

/-- **No header is lost** exactly when the one name did not come, and no name came with two
values. -/
theorem forall_lookup_collectHeaders_iff :
    (∀ h ∈ hs, (collectHeaders hs).lookup h.1 = some h.2) ↔
      (∀ h ∈ hs, h.1 ≠ "__proto__") ∧ ∀ h ∈ hs, ∀ g ∈ hs, g.1 = h.1 → g.2 = h.2 := by
  constructor
  · intro hkept
    refine ⟨fun h hh => (lookup_collectHeaders_iff.mp (hkept h hh)).1, fun h hh g hg heq => ?_⟩
    have hsame := hkept g hg
    rw [heq, hkept h hh] at hsame
    exact (Option.some_inj.mp hsame).symm
  · rintro ⟨hnames, hvalues⟩ h hh
    -- the last value of its name is the value of the header itself
    obtain ⟨v, hlast⟩ := exists_isLast hh
    obtain rfl : v = h.2 := hvalues h hh (h.1, v) hlast.mem rfl
    exact lookup_collectHeaders_iff.mpr ⟨hnames h hh, hlast⟩

end Headers

/-! ### The fetches that are made -/

/-- **The same network with a record** of the fetches that are made. -/
def Network.recorded {σ : Type} (net : Network σ) : Network (σ × List Fetch) where
  refusal? := net.refusal?
  exchange f s := ((net.exchange f s.1).1, (net.exchange f s.1).2, s.2 ++ [f])

/-- A network on which every fetch meets the same, whatever its time limit. -/
def Network.constant (met : Except Failure Exchange) : Network Unit where
  refusal? _ := none
  exchange _ s := (met, s)

/-- **The places where an exchange may break.** -/
inductive Place where
  | beforeHeaders
  | insideBody

/-- **An exchange that breaks** with a failure at a place. -/
inductive Breaks (e : Failure) : Place → Except Failure Exchange → Prop
  | beforeHeaders : Breaks e .beforeHeaders (.error e)
  | insideBody {x : Exchange} (h : x.body = .error e) : Breaks e .insideBody (.ok x)

/-- The failure that means a time limit was reached goes by its name. -/
theorem isTimeout_iff {e : Failure} :
    isTimeout e = true ↔ e.name? = some (Text.ofString "TimeoutError") := by
  cases e with
  | verdict kind message =>
    have hname : Text.ofString "HandlerError" ≠ Text.ofString "TimeoutError" := by decide
    exact iff_of_false Bool.false_ne_true fun h => hname (Option.some_inj.mp h)
  | error name message cause => exact beq_iff_eq.trans Option.some_inj.symm
  | value v => exact iff_of_false Bool.false_ne_true nofun

namespace Defaults

section

variable {σ : Type} {d : Defaults} {net : Network σ} {q : Request} {s : σ} {e : Failure}

/-- A time limit that can be kept leads to a fetch. -/
theorem send_of_kept (hkept : net.refusal? (q.timeout.getD d.timeout) = none) (s : σ) :
    d.send net q s =
      ((d.fetchOf q).result (net.exchange (d.fetchOf q) s).1,
        (net.exchange (d.fetchOf q) s).2) := by
  rw [send]
  simp only [fetchOf, hkept]

theorem send_of_refused (hrefused : net.refusal? (q.timeout.getD d.timeout) = some e) (s : σ) :
    d.send net q s = ((d.fetchOf q).result (.error e), s) := by
  rw [send]
  simp only [fetchOf, hrefused]

/-- **A request is fetched once**, if its time limit is not refused, and a record of that changes
nothing else. -/
theorem send_recorded (d : Defaults) (net : Network σ) (q : Request) (s : σ) (fs : List Fetch) :
    d.send net.recorded q (s, fs) = ((d.send net q s).1, (d.send net q s).2,
      fs ++ if (net.refusal? (q.timeout.getD d.timeout)).isSome then [] else [d.fetchOf q]) := by
  cases hrefusal : net.refusal? (q.timeout.getD d.timeout) with
  | some e =>
    have hrecorded : net.recorded.refusal? (q.timeout.getD d.timeout) = some e := hrefusal
    rw [send_of_refused hrefusal, send_of_refused hrecorded, Option.isSome_some, if_pos rfl,
      List.append_nil]
  | none =>
    have hrecorded : net.recorded.refusal? (q.timeout.getD d.timeout) = none := hrefusal
    rw [send_of_kept hrefusal, send_of_kept hrecorded]
    rfl

/-! ### What comes back -/

/-- **The reply to a request** whose exchange does not break. Its status and its body are those of
the exchange. Its headers have each name once, they are all headers that came, and a name has the
value that came last with it, but for the one name; so nothing that came is lost exactly when that
name did not come and no name came with two values. -/
theorem send_of_exchange {x : Exchange} {body : Bytes} (d : Defaults) (net : Network σ)
    (q : Request) (s : σ) (hkept : net.refusal? (q.timeout.getD d.timeout) = none)
    (hmet : (net.exchange (d.fetchOf q) s).1 = .ok x) (hbody : x.body = .ok body) :
    ∃ reply, (d.send net q s).1 = .ok reply ∧ reply.status = x.status ∧ reply.body = body ∧
      (reply.headers.map (·.1)).Nodup ∧ (∀ h ∈ reply.headers, h ∈ x.headers) ∧
      (∀ name v, reply.headers.lookup name = some v ↔
        name ≠ "__proto__" ∧ IsLast name v x.headers) ∧
      ((∀ h ∈ x.headers, reply.headers.lookup h.1 = some h.2) ↔
        (∀ h ∈ x.headers, h.1 ≠ "__proto__") ∧
          ∀ h ∈ x.headers, ∀ g ∈ x.headers, g.1 = h.1 → g.2 = h.2) := by
  refine ⟨{ status := x.status, headers := collectHeaders x.headers, body := body }, ?_, rfl, rfl,
    nodup_collectHeaders _, fun h => mem_of_mem_collectHeaders,
    fun name v => lookup_collectHeaders_iff, forall_lookup_collectHeaders_iff⟩
  rw [send_of_kept hkept, hmet, Fetch.result, hbody]

/-- **The failure of a request** whose exchange breaks. The request was fetched once, and the
failure is one of the network. A failure that means the time limit was reached is reported with the
limit in force if there were no headers yet; every other one, and one that comes while the body is
read, is reported with its own reason. -/
theorem send_of_breaks {place : Place} (d : Defaults) (net : Network σ) (q : Request) (s : σ)
    (fs : List Fetch) (e : Failure) (hkept : net.refusal? (q.timeout.getD d.timeout) = none)
    (hbreaks : Breaks e place (net.exchange (d.fetchOf q) s).1) :
    ∃ reason : Text, d.send net.recorded q (s, fs) =
        (.error (.outside ("Network error: " ++ reason)), (net.exchange (d.fetchOf q) s).2,
          fs ++ [d.fetchOf q]) ∧
      (place = .beforeHeaders ∧ e.name? = some (Text.ofString "TimeoutError") →
        reason = "timed out after " ++ Number.toText (q.timeout.getD d.timeout) ++ "ms") ∧
      (¬(place = .beforeHeaders ∧ e.name? = some (Text.ofString "TimeoutError")) →
        reason = e.reason) := by
  rw [send_recorded, send_of_kept hkept, hkept, Option.isSome_none, if_neg Bool.false_ne_true]
  generalize (net.exchange (d.fetchOf q) s).1 = met at hbreaks
  cases hbreaks with
  | beforeHeaders =>
    refine ⟨_, rfl, ?_, ?_⟩
    · rintro ⟨-, hname⟩
      rw [if_pos (isTimeout_iff.mpr hname)]
      rfl
    · intro hother
      rw [if_neg fun htimeout => hother ⟨rfl, isTimeout_iff.mp htimeout⟩]
  | @insideBody x hbody =>
    refine ⟨e.reason, ?_, nofun, fun _ => rfl⟩
    rw [Fetch.result, hbody]
    rfl

end

/-- A name that comes twice with one value is not lost. -/
theorem send_of_same_cookie :
    let x : Exchange := { status := 204, headers := [("set-cookie", "a"), ("set-cookie", "a")] }
    ∃ reply, (send ⟨1000, "a"⟩ (Network.constant (.ok x)) { url := "u" } ()).1 = .ok reply ∧
      ∀ h ∈ x.headers, reply.headers.lookup h.1 = some h.2 := by
  intro x
  obtain ⟨reply, hreply, -, -, -, -, -, hkept⟩ :=
    send_of_exchange (x := x) ⟨1000, "a"⟩ (Network.constant (.ok x)) { url := "u" } () rfl rfl rfl
  exact ⟨reply, hreply, hkept.mpr (by decide)⟩

/-- **Of two cookies the first is lost**, and so is a header of the one name. -/
theorem send_of_two_cookies :
    let x : Exchange := {
      status := 200
      headers := [("set-cookie", "a=1"), ("set-cookie", "b=2"), ("__proto__", "c")] }
    ∃ reply, (send ⟨1000, "a"⟩ (Network.constant (.ok x)) { url := "u" } ()).1 = .ok reply ∧
      reply.headers.lookup (Text.ofString "set-cookie") = some (Text.ofString "b=2") ∧
      reply.headers.lookup (Text.ofString "__proto__") = none ∧
      ¬∀ h ∈ x.headers, reply.headers.lookup h.1 = some h.2 :=
  ⟨_, rfl, by decide, by decide, by decide⟩

/-- A time limit that is reached before there are headers is named; it is the one of the client
where the request leaves it open. -/
theorem send_of_slow_headers :
    (send ⟨Float.ofNat 250, "a"⟩
      (Network.constant (.error (.named "TimeoutError" "aborted"))).recorded
      { url := "u" } ((), [])).1 = .error (.outside "Network error: timed out after 250ms") := by
  obtain ⟨reason, hsend, htimeout, -⟩ := send_of_breaks ⟨Float.ofNat 250, "a"⟩
    (Network.constant (.error (.named "TimeoutError" "aborted"))) { url := "u" } () []
    (.named "TimeoutError" "aborted") rfl .beforeHeaders
  rw [hsend, htimeout ⟨rfl, rfl⟩]
  rfl

/-- **A time limit that is reached while the body is read is not named.** -/
theorem send_of_slow_body :
    let x : Exchange := { status := 200, body := .error (.named "TimeoutError" "aborted") }
    (send ⟨1000, "a"⟩ (Network.constant (.ok x)) { url := "u", timeout := some 9 } ()).1 =
      .error (.outside "Network error: aborted") ∧
    Text.ofString "Network error: aborted" ≠ "Network error: timed out after 9ms" :=
  ⟨rfl, by decide⟩

end Defaults

end LineAgents.Http
