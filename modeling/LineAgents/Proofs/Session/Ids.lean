import LineAgents.Proofs.Json.Reading
import LineAgents.Proofs.Session.Objects

/-!
# The id of an answer

A client knows an answer by its id, so the id of a request has to come back as it was sent. On its
way it is read from the line of the request, handed on with the response whatever the handler does,
written, and read again by the client. Only the last two steps can change it, and only in its
numbers: an answer **keeps** the id of a line (`LineAgents.Session.KeepsId`) as far as the numbers
of the id have a text of their own. A numeral beyond the range of doubles is read as an infinity,
which is written `null`, and such an id is lost (`LineAgents.Session.id_beyond_range`); every other
id arrives as the same value.

The main result is about the lines of a whole session
(`LineAgents.Session.serve_keeps_ids`): each line that is a request is answered by one line, which
keeps its id.
-/

namespace LineAgents

namespace Session

/-! ### Ids of lines -/

/-- The member `id` of the object on a line. -/
def idOf? (line : Text) : Option Json := (Json.parse? line).bind fun v => v.get? "id"

/-- **An answer keeps the id of a line**: it has the id `null` if the line has none; otherwise the
id of the answer is the same value exactly when all numbers of the id are finite, and it is equal
exactly when no number of it is a negative zero either. -/
def KeepsId (line answer : Text) : Prop :=
  match idOf? line with
  | none => idOf? answer = some .null
  | some id => ∃ id', idOf? answer = some id' ∧
      (id'.Same id ↔ id.Tidy fun x => Number.isFinite x = true) ∧
      (id' = id ↔ id.Tidy Number.Plain)

/-- A request is read from the members of an object. -/
theorem exists_of_decode? {line : Text} {r : Request} (h : Request.decode? line = some r) :
    ∃ fs : Fields, Json.parse? line = some (.obj fs) ∧ r = .ofFields fs := by
  rw [Request.decode?] at h
  split at h
  · rename_i fs heq
    exact ⟨fs, heq, (Option.some_inj.mp h).symm⟩
  · cases h

variable {σ : Type}

/-- The id of an answer is that of the request, written and read again. -/
theorem idOf?_encode_respond (h : Handler σ) (r : Request) (s : σ) :
    idOf? (h.respond r s).1.encode = some r.id.reread := by
  obtain ⟨result, error, hparse⟩ := h.exists_parse?_encode_respond r s
  rw [idOf?, hparse]
  rfl

/-- **Whatever a handler does with a request, the answer keeps the id** of the line that the request
was on. -/
theorem keepsId_respond (h : Handler σ) {line : Text} {r : Request}
    (hr : Request.decode? line = some r) (s : σ) : KeepsId line (h.respond r s).1.encode := by
  obtain ⟨fs, hparse, rfl⟩ := exists_of_decode? hr
  have hline : idOf? line = fs.get? "id" := by
    rw [idOf?, hparse]
    rfl
  have hanswer := idOf?_encode_respond h (.ofFields fs) s
  cases hid : fs.get? "id" with
  | none =>
    rw [KeepsId, hline, hid, hanswer, Request.ofFields, hid, Option.getD_none, Json.reread]
  | some id =>
    have htidy : id.Tidy Json.anyNumber := Json.tidy_of_get? (Json.tidy_of_parse? hparse) hid
    have hrequest : (Request.ofFields fs).id = id := by rw [Request.ofFields, hid, Option.getD_some]
    rw [hrequest] at hanswer
    rw [KeepsId, hline, hid]
    exact ⟨_, hanswer, Json.same_reread_iff htidy, Json.reread_eq_iff htidy⟩

/-! ### The lines of a session -/

/-- **The lines that are requests**, among lines. -/
def accepted (lines : List Text) : List Text :=
  lines.filter fun line => (Request.decode? line).isSome

/-- The requests are on the lines that are accepted, in order. -/
theorem map_decode?_accepted (lines : List Text) :
    (accepted lines).map Request.decode? = (requests lines).map some := by
  induction lines with
  | nil => rfl
  | cons line lines ih =>
    cases hr : Request.decode? line with
    | none =>
      rw [requests_cons_of_none hr, accepted, List.filter_cons_of_neg (by simp [hr])]
      exact ih
    | some r =>
      rw [requests_cons_of_some hr, accepted, List.filter_cons_of_pos (by simp [hr]),
        List.map_cons, List.map_cons, hr]
      exact congrArg _ ih

theorem length_accepted (lines : List Text) :
    (accepted lines).length = (requests lines).length := by
  have h := congrArg List.length (map_decode?_accepted lines)
  rwa [List.length_map, List.length_map] at h

/-- **The id comes back.** A handler that is given the request on a line makes an answer that keeps
the id of the line, in whatever state it is; and a session whose output takes everything writes one
answer for each line that is a request, in order, which keeps the id of the line. -/
theorem serve_keeps_ids (v : Service σ) :
    (∀ (line : Text) (r : Request) (s : σ), Request.decode? line = some r →
      KeepsId line (v.handler.respond r s).1.encode) ∧
    ∀ (chunks : List Bytes) (state : σ),
      let lines := Lines.split [] (Utf8.decode (Lines.finished chunks.flatten))
      let s := serve v (fun _ => none) chunks state
      s.written.length = (accepted lines).length ∧
      ∀ (k : Nat) (line : Text), (accepted lines)[k]? = some line →
        ∃ answer, s.written[k]? = some (answer ++ [10]) ∧ KeepsId line answer := by
  refine ⟨fun line r s hr => keepsId_respond v.handler hr s, fun chunks state => ?_⟩
  intro lines s
  obtain ⟨-, -, hwritten, -⟩ := serve_of_accepting v chunks state
  refine ⟨?_, fun k line hk => ?_⟩
  · rw [hwritten, Service.length_answers, length_accepted]
  · -- the request at this place is the one on the line
    have hdecode := congrArg (·[k]?) (map_decode?_accepted lines)
    simp only [List.getElem?_map, hk, Option.map_some] at hdecode
    obtain ⟨r, hrequest, hr⟩ := Option.map_eq_some_iff.mp hdecode.symm
    obtain ⟨s', hanswer⟩ := v.exists_getElem?_answers (s := state) hrequest
    exact ⟨_, by rw [hwritten]; exact hanswer, keepsId_respond v.handler hr.symm s'⟩

/-- A negative zero, half of a surrogate pair and a name that looks special in an id, and the line
of such an id in a stream. -/
theorem serve_keeps_ids_of_odd_id :
    let idle : Handler Unit :=
      { card := ⟨[]⟩, positions := [], compute := fun _ s => (.ok .undefined, s) }
    let v : Service (Unit × Unit) := .beside idle fun _ t => t
    let line : Text := "\x7b\"id\":[-0,\"\\ud800\",\x7b\"__proto__\":7\x7d]\x7d"
    let s := serve v (fun _ => none) [Utf8.encode (line ++ [10])] ((), ())
    (∃ r, Request.decode? line = some r ∧ KeepsId line (v.handler.respond r ((), ())).1.encode) ∧
      s.written.length = 1 ∧ ∃ answer, s.written[0]? = some (answer ++ [10]) ∧
        KeepsId line answer := by
  intro idle v line s
  have hline : (Request.decode? line).isSome = true := by decide +kernel
  have hlines : accepted (Lines.split [] (Utf8.decode (Lines.finished
      [Utf8.encode (line ++ [10])].flatten))) = [line] := by decide +kernel
  obtain ⟨r, hr⟩ := Option.isSome_iff_exists.mp hline
  obtain ⟨hanswer, hserve⟩ := serve_keeps_ids v
  obtain ⟨hlength, hwritten⟩ := hserve [Utf8.encode (line ++ [10])] ((), ())
  rw [hlines] at hlength hwritten
  -- from here on it does not matter which line it is
  clear_value line
  exact ⟨⟨r, hr, hanswer line r ((), ()) hr⟩, hlength, hwritten 0 line rfl⟩

/-- **An id beyond the range of doubles is lost**: the line has it, and its answer has `null`, which
is another value. -/
theorem id_beyond_range :
    let idle : Handler Unit :=
      { card := ⟨[]⟩, positions := [], compute := fun _ s => (.ok .undefined, s) }
    let v : Service (Unit × Unit) := .beside idle fun _ t => t
    let line : Text := "\x7b\"id\":1e999\x7d"
    let answer : Text := "\x7b\"id\":null,\"result\":null,\"error\":\"Method not found\"\x7d"
    (Request.decode? line).isSome = true ∧ (idOf? line).bind Json.number? = some Number.infinity ∧
      (serve v (fun _ => none) [Utf8.encode (line ++ [10])] ((), ())).written = [answer ++ [10]] ∧
      ∀ id id', idOf? line = some id → idOf? answer = some id' → ¬id'.Same id := by
  intro idle v line answer
  have hnumber : (idOf? line).bind Json.number? = some Number.infinity := by decide +kernel
  have hnull : (idOf? answer).map Json.isNull = some true := by decide +kernel
  refine ⟨by decide +kernel, hnumber, by decide +kernel, fun id id' hid hid' hsame => ?_⟩
  rw [hid] at hnumber
  rw [hid'] at hnull
  cases id with
  | num x =>
    cases id' with
    | null =>
      rw [Json.Same, Json.mapNumbers, Json.mapNumbers] at hsame
      cases hsame
    | _ => cases hnull
  | _ => cases hnumber

end Session

end LineAgents
