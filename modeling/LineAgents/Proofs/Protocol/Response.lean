import LineAgents.Proofs.Json.Tidy
import LineAgents.Proofs.Text.Utf8
import LineAgents.Protocol.Handler

/-!
# The line of a response

Every response is written as one object with three members, `id`, `result` and `error`
(`LineAgents.Response.envelope`), and this file says what a client can rely on.

* Whatever a handler does with a request, the line is such an object: it carries the id of the
  request, and there is a result or an error, never both (`LineAgents.Handler.encode_respond`). The
  two ways in which a computation can let the client down come together here: it fails, or it
  returns something that has no JSON form. The error is a text that says something, unless whoever
  raised it put something else in the place of its message: that is told as it stands
  (`LineAgents.Failure.SpeaksOddly`), and the client may find a number there
  (`LineAgents.Handler.encode_respond_of_number`).
* A response whose id and result are tidy values arrives as it was sent: its line holds no line end
  and no lone surrogate, survives UTF-8, and is read back as the same three members
  (`LineAgents.Response.encode_faithful`).
-/

namespace LineAgents

/-! ### JSON values as results -/

namespace Value

mutual

theorem serializable_ofJson : ∀ v : Json, serializable (ofJson v) = true
  | .null => by rw [ofJson]; rfl
  | .bool b => by rw [ofJson]; rfl
  | .num x => by rw [ofJson]; rfl
  | .str s => by rw [ofJson]; rfl
  | .arr items => by
    rw [ofJson, serializable]
    exact serializableItems_ofItems items
  | .obj fields => by
    rw [ofJson, serializable]
    exact serializableFields_ofFields fields

theorem serializableItems_ofItems : ∀ vs : List Json, serializableItems (ofItems vs) = true
  | [] => by rw [ofItems, serializableItems]
  | v :: vs => by
    rw [ofItems, serializableItems, serializable_ofJson v, serializableItems_ofItems vs]
    rfl

theorem serializableFields_ofFields : ∀ fs : List (Text × Json),
    serializableFields (ofFields fs) = true
  | [] => by rw [ofFields, serializableFields]
  | (name, v) :: fs => by
    rw [ofFields, ofField, serializableFields, serializableField, serializable_ofJson v,
      serializableFields_ofFields fs]
    rfl

end

mutual

/-- **A JSON value is its own JSON form.** -/
theorem toJson?_ofJson : ∀ v : Json, toJson? (ofJson v) = some v
  | .null => by rw [ofJson, toJson?]
  | .bool b => by rw [ofJson, toJson?]
  | .num x => by rw [ofJson, toJson?]
  | .str s => by rw [ofJson, toJson?]
  | .arr items => by rw [ofJson, toJson?, itemsToJson_ofItems items]
  | .obj fields => by rw [ofJson, toJson?, fieldsToJson_ofFields fields]

theorem itemsToJson_ofItems : ∀ vs : List Json, itemsToJson (ofItems vs) = vs
  | [] => by rw [ofItems, itemsToJson]
  | v :: vs => by
    rw [ofItems, itemsToJson, toJson?_ofJson v, itemsToJson_ofItems vs]
    rfl

theorem fieldsToJson_ofFields : ∀ fs : List (Text × Json), fieldsToJson (ofFields fs) = fs
  | [] => by rw [ofFields, fieldsToJson]
  | (name, v) :: fs => by
    rw [ofFields, ofField, fieldsToJson, fieldToJson, toJson?_ofJson v, fieldsToJson_ofFields fs]
    rfl

end

/-- A value that is there and has a JSON form has one to show. -/
theorem exists_toJson? {v : Value} (h : v.serializable = true) (hv : v ≠ .undefined) :
    ∃ j, v.toJson? = some j := by
  cases v with
  | undefined => exact absurd rfl hv
  | bigint n => rw [serializable] at h; exact absurd h Bool.false_ne_true
  | circular => rw [serializable] at h; exact absurd h Bool.false_ne_true
  | null => exact ⟨.null, by rw [toJson?]⟩
  | bool b => exact ⟨.bool b, by rw [toJson?]⟩
  | num x => exact ⟨.num x, by rw [toJson?]⟩
  | str s => exact ⟨.str s, by rw [toJson?]⟩
  | arr items => exact ⟨_, by rw [toJson?]⟩
  | obj fields => exact ⟨_, by rw [toJson?]⟩

end Value

/-! ### The object of a response -/

namespace Response

/-- **The object that a response is written as.** -/
def envelope (id result error : Json) : Json :=
  .obj [(Text.ofString "id", id), (Text.ofString "result", result), (Text.ofString "error", error)]

/-- The names of the members are in order, whatever the members are. -/
theorem ordered_envelope (id result error : Json) :
    Ordered [(Text.ofString "id", id), (Text.ofString "result", result),
      (Text.ofString "error", error)] := by
  have hnames : [Text.ofString "id", Text.ofString "result", Text.ofString "error"].Pairwise
      fun a b => a ≠ b ∧ writtenBefore b a = false := by
    decide
  exact hnames

/-- The object is read back member by member. -/
theorem reread_envelope (id result error : Json) :
    (envelope id result error).reread = envelope id.reread result.reread error.reread := by
  rw [envelope, Json.reread, Json.rereadFields_cons, Json.rereadFields_cons,
    Json.rereadFields_cons, Json.rereadFields, Json.ofPairs, Fields.ofPairs,
    collectNamed_eq_self (ordered_envelope _ _ _), envelope]

/-- The text of the object. -/
theorem render_envelope (id result error : Json) : (envelope id result error).render =
    "\x7b\"id\":" ++ id.render ++ ",\"result\":" ++ result.render ++
      ",\"error\":" ++ error.render ++ "\x7d" := by
  rw [envelope, Json.render, Json.renderFields_cons_cons, Json.renderFields_cons_cons,
    Json.renderFields, Json.renderField, Json.renderField, Json.renderField]
  simp only [List.append_assoc, List.cons_append]
  rfl

/-- A result and an error with JSON forms are written as those forms. -/
theorem encode_of_serializable {r : Response} (hresult : r.result.serializable = true)
    (herror : r.error.serializable = true) {v e : Json} (hv : r.result.toJson? = some v)
    (he : r.error.toJson? = some e) : r.encode = (envelope r.id v e).render := by
  rw [encode, if_pos (by rw [hresult, herror]; rfl), toJson, Value.fieldToJson, Value.fieldToJson,
    hv, he]
  rfl

/-- A result or an error without a JSON form is answered by an error. -/
theorem encode_of_not_serializable {r : Response}
    (h : (r.result.serializable && r.error.serializable) = false) :
    r.encode = (envelope r.id .null (.str notSerializable)).render := by
  rw [encode, h, if_neg Bool.false_ne_true, toJson, Value.fieldToJson, Value.fieldToJson,
    Value.toJson?, Value.toJson?]
  rfl

end Response

/-! ### What a client is told of a failure -/

/-- **A value that is told as it stands and is no text**: `true`, a number other than zero, or a
list or an object with a JSON form. Whatever else there is to tell, a client is told it as a text,
as `null`, or not at all. -/
def Value.isForeign : Value → Bool
  | .bool b => b
  | .num x => Number.isFinite x && !(x == 0)
  | .arr items => serializableItems items
  | .obj fields => serializableFields fields
  | _ => false

namespace Failure

/-- **A failure that does not speak in words**: an error whose message was replaced by a value that
is told as it stands and is no text. -/
def SpeaksOddly (f : Failure) : Prop := ∃ m, f.message? = some m ∧ m.isForeign = true

/-- **A failure is never silent.** -/
theorem counts_told (f : Failure) : f.told.counts = true := by
  have hcounts : ∀ m : Value, (if m.counts then m else .str unknown : Value).counts = true := by
    intro m
    cases hm : m.counts with
    | true => rw [if_pos rfl, hm]
    | false => rw [if_neg Bool.false_ne_true]; decide
  cases f <;> exact hcounts _

/-- What does not count is not foreign either. -/
theorem isForeign_eq_false_of_not_counts {v : Value} (h : v.counts = false) :
    v.isForeign = false := by
  cases v with
  | bool b => exact h
  | num x =>
    rw [Value.counts, Bool.not_eq_false', Bool.or_eq_true] at h
    rw [Value.isForeign]
    rcases h with h | h
    · rw [h, Bool.not_true, Bool.and_false]
    · rw [Bool.eq_false_of_not_eq_true fun hx => Number.not_isNaN hx h, Bool.false_and]
  | arr items => cases h
  | obj fields => cases h
  | undefined | null | bigint | str | circular => rfl

/-- What is told is foreign exactly when the failure does not speak in words. -/
theorem isForeign_told_iff (f : Failure) : f.told.isForeign = true ↔ f.SpeaksOddly := by
  -- a message that says nothing is replaced by a text, and is not foreign itself
  have hkept : ∀ m : Value,
      (if m.counts then m else .str unknown : Value).isForeign = m.isForeign := by
    intro m
    cases hm : m.counts with
    | true => rw [if_pos rfl]
    | false =>
      rw [if_neg Bool.false_ne_true, isForeign_eq_false_of_not_counts hm]
      rfl
  cases f with
  | verdict kind m => simp [told, hkept, SpeaksOddly, message?]
  | error name m cause => simp [told, hkept, SpeaksOddly, message?]
  | value v =>
    have hbare : told (.value v) =
        if (Value.str (valueMessage v)).counts then .str (valueMessage v) else .str unknown := rfl
    rw [hbare, hkept]
    simp [SpeaksOddly, message?, Value.isForeign]

/-- A failure whose message is a text is told in words. -/
theorem told_of_message {f : Failure} {m : Text} (h : f.message? = some (.str m)) :
    f.text ≠ [] ∧ f.told = .str f.text := by
  have htold : f.told = .str (if m.isEmpty then unknown else m) := by
    cases f with
    | verdict kind v =>
      obtain rfl := Option.some_inj.mp h
      cases m <;> rfl
    | error name v cause =>
      obtain rfl := Option.some_inj.mp h
      cases m <;> rfl
    | value v => cases h
  have htext : f.text = if m.isEmpty then unknown else m := by
    rw [text, htold, Value.toText]
  rw [htext]
  refine ⟨?_, htold⟩
  cases m with
  | nil => decide
  | cons u m => exact List.cons_ne_nil u m

end Failure

/-- **What is told of a failure is written** in place of the error, and read as `null` or as a text
that says something exactly when it is not foreign. -/
theorem Response.encode_of_counts (id : Json) {v : Value} (h : v.counts = true) :
    ∃ e : Json, (⟨id, .null, v⟩ : Response).encode = (envelope id .null e).render ∧
      ((e.reread = .null ∨ ∃ m : Text, m ≠ [] ∧ e.reread = .str m) ↔ v.isForeign = false) := by
  have hwritten : ∀ {v : Value} {e : Json}, v.serializable = true → v.toJson? = some e →
      (⟨id, .null, v⟩ : Response).encode = (envelope id .null e).render :=
    fun hv he => encode_of_serializable rfl hv (by rw [Value.toJson?]) he
  have hreplaced : ∀ {v : Value}, v.serializable = false → v.isForeign = false →
      ∃ e : Json, (⟨id, .null, v⟩ : Response).encode = (envelope id .null e).render ∧
        ((e.reread = .null ∨ ∃ m : Text, m ≠ [] ∧ e.reread = .str m) ↔ v.isForeign = false) :=
    fun hv hforeign => ⟨_, encode_of_not_serializable hv,
      iff_of_true (Or.inr ⟨notSerializable, by decide, by rw [Json.reread]⟩) hforeign⟩
  cases v with
  | undefined => cases h
  | null => cases h
  | bool b =>
    obtain rfl : b = true := h
    exact ⟨.bool true, hwritten rfl (by rw [Value.toJson?]),
      by rw [Json.reread]; simp [Value.isForeign]⟩
  | num x =>
    refine ⟨.num x, hwritten rfl (by rw [Value.toJson?]), ?_⟩
    rw [Value.counts, Bool.not_eq_true', Bool.or_eq_false_iff] at h
    rw [Json.reread, Value.isForeign, h.1]
    cases Number.isFinite x <;> simp
  | bigint n => exact hreplaced rfl rfl
  | str s =>
    refine ⟨.str s, hwritten rfl (by rw [Value.toJson?]), iff_of_true (Or.inr ⟨s, ?_, ?_⟩) rfl⟩
    · rintro rfl
      cases h
    · rw [Json.reread]
  | arr items =>
    cases hs : Value.serializableItems items with
    | true =>
      refine ⟨_, hwritten (by rw [Value.serializable, hs]) (by rw [Value.toJson?]), ?_⟩
      rw [Json.reread, Value.isForeign, hs]
      simp
    | false => exact hreplaced (by rw [Value.serializable, hs]) hs
  | obj fields =>
    cases hs : Value.serializableFields fields with
    | true =>
      refine ⟨_, hwritten (by rw [Value.serializable, hs]) (by rw [Value.toJson?]), ?_⟩
      rw [Json.reread, Json.ofPairs, Value.isForeign, hs]
      simp
    | false => exact hreplaced (by rw [Value.serializable, hs]) hs
  | circular => exact hreplaced rfl rfl

/-! ### Responses of a handler -/

namespace Handler

variable {σ : Type}

/-- **The request ends in a failure that does not speak in words**: it is for a computation, and the
computation fails so. -/
def EndsOddly (h : Handler σ) (r : Request) (s : σ) : Prop :=
  r.method = computeMethod ∧
    ∃ f, (h.compute (Params.normalize r.params h.positions) s).1 = .error f ∧ f.SpeaksOddly

/-- **A response has a result or an error**: without an error the result is there, and an error says
something and comes without a result. The error is foreign exactly when the request ends in a
failure that does not speak in words. -/
theorem respond_cases (h : Handler σ) (r : Request) (s : σ) :
    (∃ v : Value, v ≠ .undefined ∧ (h.respond r s).1 = ⟨r.id, v, .null⟩ ∧ ¬h.EndsOddly r s) ∨
    ∃ m : Value, m.counts = true ∧ (h.respond r s).1 = ⟨r.id, .null, m⟩ ∧
      (m.isForeign = true ↔ h.EndsOddly r s) := by
  rw [respond]
  by_cases hinit : r.method = initializeMethod
  · have hcompute : r.method ≠ computeMethod := by
      rw [hinit]
      decide
    rw [if_pos hinit]
    refine Or.inl ⟨_, ?_, rfl, fun hodd => hcompute hodd.1⟩
    rw [Card.toJson, Value.ofJson]
    exact fun hv => by simp at hv
  · rw [if_neg hinit]
    by_cases hcompute : r.method = computeMethod
    · rw [if_pos hcompute]
      change (∃ v : Value, v ≠ .undefined ∧
          responseOf r.id (h.compute (Params.normalize r.params h.positions) s).1 =
            ⟨r.id, v, .null⟩ ∧ ¬h.EndsOddly r s) ∨
        ∃ m : Value, m.counts = true ∧
          responseOf r.id (h.compute (Params.normalize r.params h.positions) s).1 =
            ⟨r.id, .null, m⟩ ∧ (m.isForeign = true ↔ h.EndsOddly r s)
      cases houtcome : (h.compute (Params.normalize r.params h.positions) s).1 with
      | ok v =>
        have hspoken : ¬h.EndsOddly r s := by
          rintro ⟨-, f, hf, -⟩
          rw [houtcome] at hf
          cases hf
        refine Or.inl ?_
        by_cases hv : v = .undefined
        · exact ⟨.null, by simp, by rw [hv]; rfl, hspoken⟩
        · refine ⟨v, hv, ?_, hspoken⟩
          rw [responseOf]
          exact hv
      | error f =>
        refine Or.inr ⟨f.told, f.counts_told, rfl, f.isForeign_told_iff.trans ?_⟩
        constructor
        · exact fun hodd => ⟨hcompute, f, houtcome, hodd⟩
        · rintro ⟨-, g, hg, hodd⟩
          rw [houtcome] at hg
          rwa [Except.error.inj hg]
    · rw [if_neg hcompute]
      exact Or.inr ⟨.str methodNotFound, by decide, rfl,
        iff_of_false Bool.false_ne_true fun hodd => hcompute hodd.1⟩

/-- The line of a response is the object of a result, or of an error in its place. -/
theorem encode_respond_cases (h : Handler σ) (r : Request) (s : σ) :
    (∃ v : Json, (h.respond r s).1.encode = (Response.envelope r.id v .null).render ∧
      ¬h.EndsOddly r s) ∨
    ∃ e : Json, (h.respond r s).1.encode = (Response.envelope r.id .null e).render ∧
      ((e.reread = .null ∨ ∃ m : Text, m ≠ [] ∧ e.reread = .str m) ↔ ¬h.EndsOddly r s) := by
  rcases respond_cases h r s with ⟨v, hv, hr, hspoken⟩ | ⟨m, hm, hr, hforeign⟩
  · rw [hr]
    cases hs : v.serializable with
    | true =>
      obtain ⟨j, hj⟩ := Value.exists_toJson? hs hv
      exact Or.inl ⟨j, Response.encode_of_serializable hs rfl hj (by rw [Value.toJson?]), hspoken⟩
    | false =>
      refine Or.inr ⟨.str Response.notSerializable,
        Response.encode_of_not_serializable (by rw [hs, Bool.false_and]),
        iff_of_true (Or.inr ⟨Response.notSerializable, by decide, by rw [Json.reread]⟩) hspoken⟩
  · obtain ⟨e, he, hread⟩ := Response.encode_of_counts r.id hm
    rw [hr]
    refine Or.inr ⟨e, he, hread.trans ?_⟩
    rw [← hforeign, Bool.not_eq_true]

/-- The line is read back as the object of the three members. -/
theorem exists_parse?_encode_respond (h : Handler σ) (r : Request) (s : σ) :
    ∃ result error : Json, Json.parse? (h.respond r s).1.encode = some (.obj
      [(Text.ofString "id", r.id.reread), (Text.ofString "result", result),
        (Text.ofString "error", error)]) := by
  have hparse : ∀ result error : Json, Json.parse? (Response.envelope r.id result error).render =
      some (.obj [(Text.ofString "id", r.id.reread), (Text.ofString "result", result.reread),
        (Text.ofString "error", error.reread)]) := by
    intro result error
    rw [Json.parse?_render, Response.reread_envelope, Response.envelope]
  rcases encode_respond_cases h r s with ⟨v, hline, -⟩ | ⟨e, hline, -⟩
  · exact ⟨_, _, hline ▸ hparse v .null⟩
  · exact ⟨_, _, hline ▸ hparse .null e⟩

/-- **Whatever a handler does with a request, the client gets an object** of the three members `id`,
`result` and `error`, in this order. The id is written as the request's own id is written, and with
an error the result is `null`. The error is `null` or a text that says something, except when the
computation fails with an error whose message is no text and is told as it stands. -/
theorem encode_respond (h : Handler σ) (r : Request) (s : σ) :
    ∃ id result error : Json,
      (∃ resultText errorText : Text, (h.respond r s).1.encode =
        "\x7b\"id\":" ++ r.id.render ++ ",\"result\":" ++ resultText ++
          ",\"error\":" ++ errorText ++ "\x7d") ∧
      Json.parse? (h.respond r s).1.encode = some (.obj
        [(Text.ofString "id", id), (Text.ofString "result", result),
          (Text.ofString "error", error)]) ∧
      Json.parse? r.id.render = some id ∧
      (error ≠ .null → result = .null) ∧
      ((error = .null ∨ ∃ m : Text, m ≠ [] ∧ error = .str m) ↔ ¬h.EndsOddly r s) := by
  rcases encode_respond_cases h r s with ⟨v, hline, hspoken⟩ | ⟨e, hline, hread⟩
  · refine ⟨r.id.reread, v.reread, .null, ⟨_, _, hline.trans (Response.render_envelope _ _ _)⟩, ?_,
      Json.parse?_render r.id, fun hne => absurd rfl hne, iff_of_true (Or.inl rfl) hspoken⟩
    rw [hline, Json.parse?_render, Response.reread_envelope, Json.reread.eq_def .null,
      Response.envelope]
  · refine ⟨r.id.reread, .null, e.reread, ⟨_, _, hline.trans (Response.render_envelope _ _ _)⟩, ?_,
      Json.parse?_render r.id, fun _ => rfl, hread⟩
    rw [hline, Json.parse?_render, Response.reread_envelope, Json.reread.eq_def .null,
      Response.envelope]

/-- **An error that is told as a number.** The computation fails with an error whose message was
replaced by 42, and the client finds the number where `null` or a text is due. -/
theorem encode_respond_of_number :
    let failing : Handler Unit :=
      { card := ⟨[]⟩, positions := [],
        compute := fun _ s => (.error (.error "Error" (.num 42) none), s) }
    let line := (failing.respond ⟨computeMethod, none, .num 1⟩ ()).1.encode
    line = "\x7b\"id\":1,\"result\":null,\"error\":42\x7d" ∧
      ∃ members : Fields, Json.parse? line = some (.obj members) ∧
        members.get? "error" = some (.num 42) := by
  intro failing line
  have hline : line = (Response.envelope (.num 1) .null (.num 42)).render :=
    Response.encode_of_serializable rfl rfl rfl rfl
  have hread : ∀ x : Float, Number.Plain x → (Json.num x).reread = .num x := by
    intro x hx
    rw [Json.reread, if_pos hx.1, Number.unsignZero_eq_self hx]
  refine ⟨hline.trans (by decide +kernel), ?_⟩
  rw [hline, Json.parse?_render, Response.reread_envelope, hread 42 (by decide +kernel)]
  exact ⟨_, rfl, rfl⟩

end Handler

/-! ### Responses that arrive as they were sent -/

/-- **A response of tidy values arrives as it was sent**, if its numbers are finite and no negative
zeros: its line holds neither line end and no lone surrogate, it survives being sent as UTF-8, and
it is read back as the three members that went in. The names of its objects and the units of its
strings may be any. -/
theorem Response.encode_faithful (id result : Json) (error : Option Text)
    (hid : id.Tidy Number.Plain) (hresult : result.Tidy Number.Plain) :
    let line := (⟨id, .ofJson result, .ofJson (Json.ofText? error)⟩ : Response).encode
    10 ∉ line ∧ 13 ∉ line ∧ line.wellFormed = true ∧
      Utf8.decode? (Utf8.encode line) = some line ∧
      Json.parse? line = some (.obj
        [(Text.ofString "id", id), (Text.ofString "result", result),
          (Text.ofString "error", Json.ofText? error)]) := by
  intro line
  have hline : line = (envelope id result (Json.ofText? error)).render :=
    encode_of_serializable (Value.serializable_ofJson result) (Value.serializable_ofJson _)
      (Value.toJson?_ofJson result) (Value.toJson?_ofJson _)
  have hprintable : Json.Printable line := by
    rw [hline]
    exact Json.printable_render _
  have hplain : ∀ x, Number.Plain x → Number.isFinite x = true ∧ Number.unsignZero x = x :=
    fun x hx => ⟨hx.1, Number.unsignZero_eq_self hx⟩
  have herror : (Json.ofText? error).reread = Json.ofText? error := by
    cases error <;> rw [Json.ofText?, Json.reread]
  refine ⟨hprintable.not_mem_lineEnd.1, hprintable.not_mem_lineEnd.2, hprintable.wellFormed,
    Utf8.decode?_encode hprintable.wellFormed, ?_⟩
  rw [hline, Json.parse?_render, reread_envelope, Json.reread_eq_self hplain hid,
    Json.reread_eq_self hplain hresult, herror, envelope]

/-- Names that look special, a fraction, line ends and lone surrogates all arrive. -/
theorem Response.encode_faithful_of_odd_texts :
    let id : Json := .arr [.num 2, .bool true]
    let result : Json := .obj
      [(Text.ofString "7", .arr [.num (-0.5), .str [0xD800, 10, 34]]),
        (Text.ofString "__proto__", .obj [])]
    let line := (⟨id, .ofJson result, .str [13, 0xDC00]⟩ : Response).encode
    10 ∉ line ∧ 13 ∉ line ∧ line.wellFormed = true ∧
      Utf8.decode? (Utf8.encode line) = some line ∧
      Json.parse? line = some (.obj
        [(Text.ofString "id", id), (Text.ofString "result", result),
          (Text.ofString "error", .str [13, 0xDC00])]) :=
  Response.encode_faithful _ _ (some [13, 0xDC00]) (by decide +kernel) (by decide +kernel)

end LineAgents
