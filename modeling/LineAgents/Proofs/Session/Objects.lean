import LineAgents.Proofs.Protocol.Response
import LineAgents.Proofs.Session.Answers

/-!
# One object, one request

A client that writes each object on a line of its own is answered once for each, under the id of the
object, whatever characters the strings of the object hold
(`LineAgents.Session.serve_objects`). What has to fit together for that is the writer of values and
the reader of lines: the text of a value has neither of the line ends in it and no lone surrogate
(`LineAgents.Json.printable_render`), so that cutting the stream at line ends gives the texts back
(`LineAgents.Lines.split_decode_of_printable`), and each of them is read as the object it was.
-/

namespace LineAgents

/-! ### A stream of printable lines -/

namespace Lines

theorem encode_snoc_feed {t : Text} (h : t.wellFormed = true) :
    Utf8.encode (t ++ [10]) = Utf8.encode t ++ [10] := by
  rw [Utf8.encode, Utf8.encode, Text.codePoints_append h, List.flatMap_append]
  rfl

/-- **Printable texts are the lines of the stream** that has them one after the other, each with a
line feed. -/
theorem split_decode_of_printable {lines : List Text} (h : ∀ l ∈ lines, Json.Printable l) :
    split [] (Utf8.decode (finished (Utf8.encode (lines.flatMap (· ++ [10]))))) = lines := by
  have hwhole : ∀ ls : List Text, (∀ l ∈ ls, Json.Printable l) →
      Text.wellFormed (ls.flatMap (· ++ [10])) = true := by
    intro ls
    induction ls with
    | nil => exact fun _ => rfl
    | cons l ls ih =>
      intro hls
      rw [List.flatMap_cons]
      exact Text.wellFormed_append
        (Text.wellFormed_append (hls l List.mem_cons_self).wellFormed (by decide))
        (ih fun l' hl' => hls l' (List.mem_cons_of_mem l hl'))
  have hfinished : finished (Utf8.encode (lines.flatMap (· ++ [10]))) =
      Utf8.encode (lines.flatMap (· ++ [10])) := by
    rcases List.eq_nil_or_concat lines with rfl | ⟨before, last, rfl⟩
    · rfl
    · have hlast := (h last (by simp)).wellFormed
      have hbefore := hwhole before fun l hl => h l (by simp [hl])
      rw [List.concat_eq_append, List.flatMap_append, List.flatMap_singleton, ← List.append_assoc,
        encode_snoc_feed (Text.wellFormed_append hbefore hlast), finished_snoc_feed]
  rw [hfinished, Utf8.decode_encode (hwhole lines h)]
  exact split_flatMap_terminated fun l hl => (h l hl).not_mem_lineEnd

end Lines

/-! ### The request that an object is -/

namespace Json

variable {p : Float → Prop}

/-- The value of a field of a tidy object is tidy, and so is the `null` in place of one. -/
theorem TidyFields.getD_get? {fs : Fields} (h : TidyFields p fs) (name : Text) :
    Tidy p ((fs.get? name).getD .null) := by
  rw [Fields.get?]
  cases hv : fs.lookup name with
  | none =>
    rw [Option.getD_none, Tidy]
    all_goals simp
  | some v =>
    obtain ⟨before, after, rfl, -⟩ := List.lookup_eq_some_iff.mp hv
    exact tidyFields_iff.mp h (name, v) (by simp)

end Json

namespace Request

/-- The request that is read where an object was written. -/
def ofObject (fs : Fields) : Request := ofFields (Json.mapNumbersFields Number.unsignZero fs)

/-- **The text of a tidy object is a request.** -/
theorem decode?_render {fs : Fields} (h : (Json.obj fs).Tidy fun x => Number.isFinite x = true) :
    decode? (Json.obj fs).render = some (ofObject fs) := by
  rw [decode?, Json.parse?_render, Json.reread_eq_mapNumbers (fun x hx => hx) _ h,
    Json.mapNumbers, ofObject]

/-- The id of the request is that of the object. -/
theorem id_ofObject (fs : Fields) :
    (ofObject fs).id = ((fs.get? "id").getD .null).mapNumbers Number.unsignZero := by
  change ((Json.mapNumbersFields Number.unsignZero fs).lookup (Text.ofString "id")).getD .null = _
  rw [Json.lookup_mapNumbersFields, Fields.get?]
  cases fs.lookup (Text.ofString "id") with
  | none => rw [Option.map_none, Option.getD_none, Json.mapNumbers]
  | some v => rfl

/-- Reading the id once more changes nothing. -/
theorem reread_id_ofObject {fs : Fields}
    (h : (Json.obj fs).Tidy fun x => Number.isFinite x = true) :
    (ofObject fs).id.reread = (ofObject fs).id := by
  rw [Json.Tidy] at h
  have hid : (ofObject fs).id = ((fs.get? "id").getD .null).reread := by
    rw [id_ofObject, Json.reread_eq_mapNumbers (fun x hx => hx) _ (h.2.getD_get? "id")]
  rw [hid]
  exact Json.reread_eq_self (fun x hx => hx)
    (Json.tidy_reread (fun x hx => Number.unsignZero_finite hx) _)

end Request

/-! ### One object, one request -/

namespace Service

variable {σ : Type}

/-- The answers of a service are those of its handler, each in some state. -/
theorem exists_getElem?_answers (v : Service σ) {lines : List Text} {s : σ} {k : Nat} {r : Request}
    (h : (Session.requests lines)[k]? = some r) :
    ∃ s', (v.answers lines s)[k]? = some ((v.handler.respond r s').1.encode ++ [10]) := by
  induction lines generalizing s k with
  | nil => simp [Session.requests] at h
  | cons line lines ih =>
    cases hr : Request.decode? line with
    | none =>
      rw [Session.requests_cons_of_none hr] at h
      rw [answers_cons_of_none hr]
      exact ih h
    | some r' =>
      rw [Session.requests_cons_of_some hr] at h
      rw [answers_cons_of_some hr]
      cases k with
      | zero =>
        rw [List.getElem?_cons_zero, Option.some_inj] at h
        rw [List.getElem?_cons_zero, h]
        exact ⟨s, rfl⟩
      | succ k =>
        rw [List.getElem?_cons_succ] at h ⊢
        exact ih h

end Service

namespace Session

theorem requests_objects {objects : List Fields}
    (h : ∀ fs ∈ objects, (Json.obj fs).Tidy fun x => Number.isFinite x = true) :
    requests (objects.map fun fs => (Json.obj fs).render) = objects.map Request.ofObject := by
  induction objects with
  | nil => rfl
  | cons fs objects ih =>
    rw [List.map_cons, requests_cons_of_some (Request.decode?_render (h fs List.mem_cons_self)),
      ih fun gs hgs => h gs (List.mem_cons_of_mem fs hgs), List.map_cons]

theorem malformed_objects {objects : List Fields}
    (h : ∀ fs ∈ objects, (Json.obj fs).Tidy fun x => Number.isFinite x = true) :
    malformed (objects.map fun fs => (Json.obj fs).render) = [] := by
  induction objects with
  | nil => rfl
  | cons fs objects ih =>
    rw [List.map_cons, malformed_cons_of_some (Request.decode?_render (h fs List.mem_cons_self)),
      ih fun gs hgs => h gs (List.mem_cons_of_mem fs hgs)]

/-- **One object on a line is one request**, whatever its strings hold: every object is answered,
nothing is dropped, and the answer to an object is an object under the same id, a number of it
having lost its sign if it was a negative zero, or under `null` if there was none. -/
theorem serve_objects {σ : Type} (v : Service σ) (objects : List Fields) (chunks : List Bytes)
    (state : σ) (htidy : ∀ fs ∈ objects, (Json.obj fs).Tidy fun x => Number.isFinite x = true)
    (hchunks : chunks.flatten =
      Utf8.encode (objects.flatMap fun fs => (Json.obj fs).render ++ [10])) :
    let s := serve v (fun _ => none) chunks state
    s.phase = .finished ∧
    s.outcome = .ok { received := objects.length, answered := objects.length, dropped := 0 } ∧
    s.written.length = objects.length ∧
    ∀ (k : Nat) (fs : Fields), objects[k]? = some fs → ∃ line members,
      s.written[k]? = some (line ++ [10]) ∧
      Json.parse? line = some (.obj members) ∧
      Fields.get? members "id" =
        some (((fs.get? "id").getD .null).mapNumbers Number.unsignZero) := by
  intro s
  obtain ⟨hphase, -, hwritten, htally⟩ := serve_of_accepting v chunks state
  have hlines : Lines.split [] (Utf8.decode (Lines.finished chunks.flatten)) =
      objects.map fun fs => (Json.obj fs).render := by
    have hprintable : ∀ l ∈ objects.map fun fs => (Json.obj fs).render, Json.Printable l := by
      intro l hl
      obtain ⟨fs, -, rfl⟩ := List.mem_map.mp hl
      exact Json.printable_render _
    rw [hchunks, ← Lines.split_decode_of_printable hprintable, List.flatMap_map]
  rw [hlines] at hwritten htally
  rw [requests_objects htidy, malformed_objects htidy, List.length_map] at htally
  refine ⟨hphase, ?_, ?_, fun k fs hk => ?_⟩
  · rw [outcome, hphase, htally]
    rfl
  · rw [hwritten, Service.length_answers, requests_objects htidy, List.length_map]
  · have hrequest : (requests (objects.map fun fs => (Json.obj fs).render))[k]? =
        some (Request.ofObject fs) := by
      rw [requests_objects htidy, List.getElem?_map, hk, Option.map_some]
    obtain ⟨s', hanswer⟩ := v.exists_getElem?_answers (s := state) hrequest
    obtain ⟨result, error, hparse⟩ :=
      v.handler.exists_parse?_encode_respond (Request.ofObject fs) s'
    refine ⟨_, _, by rw [hwritten, hanswer], hparse, ?_⟩
    rw [Request.reread_id_ofObject (htidy fs (List.mem_of_getElem? hk)), Request.id_ofObject]
    rfl

/-- Two objects on two lines are two requests, and a line separator and a line feed in a string of
the first do not make more of them. -/
theorem serve_objects_of_two :
    let idle : Handler Unit :=
      { card := ⟨[]⟩, positions := [], compute := fun _ s => (.ok .undefined, s) }
    let objects : List Fields :=
      [[(Text.ofString "id", .num 7), (Text.ofString "method", .str [0x2028, 10])], []]
    let sent := Utf8.encode (objects.flatMap fun fs => (Json.obj fs).render ++ [10])
    let s := serve (.beside idle fun _ t => t) (fun _ => none) [sent.take 9, sent.drop 9] ((), ())
    s.phase = .finished ∧
    s.outcome = .ok { received := 2, answered := 2, dropped := 0 } ∧
    s.written.length = 2 ∧
    ∀ (k : Nat) (fs : Fields), objects[k]? = some fs → ∃ line members,
      s.written[k]? = some (line ++ [10]) ∧
      Json.parse? line = some (.obj members) ∧
      Fields.get? members "id" =
        some (((fs.get? "id").getD .null).mapNumbers Number.unsignZero) := by
  intro idle objects sent
  refine serve_objects _ objects [sent.take 9, sent.drop 9] ((), ()) (by decide +kernel) ?_
  rw [List.flatten_cons, List.flatten_cons, List.flatten_nil, List.append_nil,
    List.take_append_drop]

end Session

end LineAgents
