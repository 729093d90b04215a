import LineAgents.Proofs.Agents.Summaries
import LineAgents.Proofs.Params.Checked
import LineAgents.Proofs.Text.Base64

/-!
# A document in the parameters, and the same document at a URL

The document agent takes its source either way: the bytes themselves, spelled in base64, or a URL to
fetch them from. What it makes of the bytes is the same
(`LineAgents.DocumentSummary.run_inline_fetched`); the fetch is all that differs.

A spelling of bytes is recognised for what it is: it is made of units that a source in base64 is
made of, and no URL is (`LineAgents.DocumentSummary.isUrl_of_spells`), for want of a colon. The rest
of the parameters is checked without a look at the source, so it comes to the same in both cases
(`LineAgents.Params.Schema.parse_set_head`).
-/

namespace LineAgents

/-! ### Parameters that differ in one field -/

namespace Params

variable {params : Fields} {k name : Text}

/-- A name that is set to a value is found with it. -/
theorem View.find_set_self (h : Ordered params) (hk : k ≠ ancestorName) {v : Json}
    (hv : v.isNull = false) : (View.of (params.set k v)).find k = .given v := by
  have hset : Ordered (params.set k v) := h.setNamed k v
  exact View.find_of_present hset hk (by rw [get?_set_self, present_some hv])

/-- What the other names are found with does not depend on that value. -/
theorem View.find_set_congr (h : Ordered params) (hk : k ≠ ancestorName)
    (hname : name ≠ ancestorName ∧ name ≠ k) (v v' : Json) :
    (View.of (params.set k v)).find name = (View.of (params.set k v')).find name :=
  (View.find_set h hname.1 hname.2 v fun hancestor => absurd hancestor hk).trans
    (View.find_set h hname.1 hname.2 v' fun hancestor => absurd hancestor hk).symm

namespace Schema

variable {schema fs : Schema} {f : Field}

/-- **What an acceptable first field adds to the report** on the others: no issue, and its value. -/
theorem report_cons {view : View} {v : Json} (horder : schema.inOrder = f :: fs)
    (hfs : inOrder fs = fs) (hcheck : f.check (view.find f.name) = .ok (some v))
    (hname : f.name ≠ ancestorName) :
    schema.issues view = issues fs view ∧ schema.values view = (f.name, v) :: values fs view := by
  constructor
  · rw [issues, issues, horder, hfs, List.filterMap_cons, hcheck]
  · rw [values, values, horder, hfs, List.filterMap_cons, hcheck]
    dsimp only
    rw [if_neg (by simpa using hname)]

/-- **The first field apart**: when it is acceptable, the check of the parameters is that of the
other fields, whatever its value is. -/
theorem parse_set_head (horder : schema.inOrder = f :: fs) (htail : inOrder fs = fs)
    (hparams : Ordered params) (hf : f.name ≠ ancestorName)
    (hfs : ∀ g ∈ fs, g.name ≠ ancestorName ∧ g.name ≠ f.name) :
    ∃ rest : Except Failure (List (Text × Json)),
      (∀ others, rest = .ok others → ∀ e ∈ others, e.1 ≠ f.name) ∧
      ∀ v, v.isNull = false → f.check (.given v) = .ok (some v) →
        schema.parse (params.set f.name v) =
          rest.map fun others => Fields.ofPairs ((f.name, v) :: others) := by
  let view := View.of (params.set f.name .null)
  refine ⟨if (issues fs view).isEmpty then .ok (values fs view)
    else .error (refusal (issues fs view)), ?_, fun v hnull hv => ?_⟩
  · intro others hothers e he
    split at hothers
    · obtain rfl := Except.ok.inj hothers
      obtain ⟨g, hg, hname⟩ := List.mem_map.mp
        ((map_fst_values_sublist fs view).mem (List.mem_map_of_mem he))
      rw [htail] at hg
      exact hname ▸ (hfs g hg).2
    · cases hothers
  · obtain ⟨hissues, hvalues⟩ := report_cons horder htail
      (by rw [View.find_set_self hparams hf hnull, hv]) hf
    have hsame : ∀ g ∈ fs, g.check ((View.of (params.set f.name v)).find g.name) =
        g.check (view.find g.name) :=
      fun g hg => by rw [View.find_set_congr hparams hf (hfs g hg) v .null]
    obtain ⟨hissues', hvalues'⟩ := report_congr hsame
    rw [parse, accept, check, hissues, hvalues, hissues', hvalues']
    cases issues fs view <;> rfl

end Schema

end Params

namespace DocumentSummary

/-! ### Sources that spell bytes -/

section

variable {s : Text} {b : Bytes}

/-- A spelling of something is a source in base64. -/
theorem isInline_of_spells (h : Base64.Spells s b) (hb : b ≠ []) : isInline s = true := by
  have hspace : ∀ u ∈ Base64.asciiSpaces, Text.isBlank u = true := by
    simp only [Base64.asciiSpaces, List.forall_mem_cons, List.not_mem_nil]
    exact ⟨rfl, rfl, rfl, rfl, rfl, rfl, nofun⟩
  rw [isInline, List.isEmpty_eq_false_iff.mpr (h.ne_nil hb), Bool.not_false, Bool.true_and,
    List.all_eq_true]
  intro u hu
  rcases h.of_mem hu with hmem | hdigit | rfl
  · rw [hspace u hmem, Bool.or_true]
  · rw [hdigit, Bool.true_or, Bool.true_or]
  · rfl

/-- A URL has a colon, which is the only unit with the lower-case form of a colon. -/
theorem colon_mem_of_isUrl {source : Text} (h : isUrl source = true) : (58 : UInt16) ∈ source := by
  have hlower : ∀ u : UInt16, Text.asciiLower u = 58 → u = 58 := by
    intro u hu
    rw [Text.asciiLower] at hu
    split at hu
    · -- an upper-case letter has a letter for its lower-case form
      rename_i hupper
      rw [Bool.and_eq_true, decide_eq_true_eq, decide_eq_true_eq, UInt16.le_iff_toNat_le,
        UInt16.le_iff_toNat_le] at hupper
      have hsum := congrArg UInt16.toNat hu
      rw [UInt16.toNat_add] at hsum
      simp only [UInt16.toNat_ofNat] at hupper hsum
      omega
    · exact hu
  have hmem : (58 : UInt16) ∈ source.map Text.asciiLower := by
    rw [isUrl, Bool.or_eq_true, List.isPrefixOf_iff_prefix, List.isPrefixOf_iff_prefix] at h
    rcases h with h | h
    · exact h.mem (by decide)
    · exact h.mem (by decide)
  obtain ⟨u, hu, heq⟩ := List.mem_map.mp hmem
  exact hlower u heq ▸ hu

/-- A spelling is no URL. -/
theorem isUrl_of_spells (h : Base64.Spells s b) : isUrl s = false := by
  rw [Bool.eq_false_iff]
  intro hurl
  rcases h.of_mem (colon_mem_of_isUrl hurl) with hmem | hdigit | heq
  · exact absurd hmem (by decide)
  · exact absurd hdigit (by decide)
  · exact absurd heq (by decide)

/-- **The bytes that a source spells** are loaded without a question. -/
theorem load_of_spells (h : Base64.Spells s b) (hb : b ≠ []) : load s = .lift (.ok b) := by
  rw [load_of_not_url (isUrl_of_spells h), isInline_of_spells h hb, if_pos rfl, h.decode_eq]

end

/-! ### The same bytes from two sources -/

/-- Fields whose first one is the source, which none of the others is. -/
def sourceFields (values : List (Text × Json)) (source : Text) : Fields :=
  .ofPairs ((Text.ofString "source", .str source) :: values)

section

variable {values : List (Text × Json)} (h : ∀ e ∈ values, e.1 ≠ Text.ofString "source")
include h

theorem get?_sourceFields (source name : Text) : (sourceFields values source).get? name =
    if name = "source" then some (.str source) else values.reverse.lookup name := by
  have hnone : values.reverse.lookup (Text.ofString "source") = none := by
    rw [List.lookup_eq_none_iff]
    exact fun e he => bne_iff_ne.mpr (h e (List.mem_reverse.mp he)).symm
  rw [sourceFields, Fields.get?, Fields.ofPairs, lookup_collectNamed, List.reverse_cons,
    List.lookup_append, lookup_cons_ite, List.lookup_nil]
  by_cases hname : name = "source"
  · rw [if_pos hname, if_pos hname, hname, hnone, Option.none_or]
  · rw [if_neg hname, if_neg hname, Option.or_none]

theorem text_source (source : Text) : (sourceFields values source).text "source" = source := by
  rw [Fields.text, Fields.text?, get?_sourceFields h, if_pos rfl]
  rfl

/-- The other texts do not depend on the source. -/
theorem text?_of_ne (s s' name : Text) (hname : name ≠ Text.ofString "source") :
    (sourceFields values s).text? name = (sourceFields values s').text? name := by
  rw [Fields.text?, Fields.text?, get?_sourceFields h, get?_sourceFields h, if_neg hname,
    if_neg hname]

theorem text_of_ne (s s' name : Text) (hname : name ≠ Text.ofString "source") :
    (sourceFields values s).text name = (sourceFields values s').text name := by
  rw [Fields.text, Fields.text, text?_of_ne h s s' name hname]

theorem taskOf_sourceFields (s s' : Text) :
    taskOf (sourceFields values s) = taskOf (sourceFields values s') := by
  rw [taskOf, taskOf, text_of_ne h s s' "task" (by decide),
    text_of_ne h s s' "question" (by decide)]

theorem digest_sourceFields (reader : Pdf.Reader) (services : Services) (s s' : Text) :
    digest reader services (sourceFields values s) =
      digest reader services (sourceFields values s') := by
  funext task data
  rw [digest, digest]
  refine congrArg (decodeText reader data >>= ·) (funext fun t => ?_)
  rw [conclude, conclude, text_of_ne h s s' "provider" (by decide),
    text?_of_ne h s s' "model" (by decide)]

end

/-- **The check of parameters with a source** is that of the others. -/
theorem exists_parse_source {params : Fields} (h : Ordered params) :
    ∃ rest : Except Failure (List (Text × Json)),
      (∀ values, rest = .ok values → ∀ e ∈ values, e.1 ≠ Text.ofString "source") ∧
      ∀ source ≠ [], schema.parse (params.set "source" (.str source)) =
        rest.map fun values => sourceFields values source := by
  have hothers : ∀ g ∈ schema.tail, g.name ≠ Params.ancestorName ∧ g.name ≠ "source" := by decide
  have horder : schema.inOrder = schema := by rfl
  have htail : Params.Schema.inOrder schema.tail = schema.tail := by rfl
  obtain ⟨rest, hvalues, hparse⟩ := Params.Schema.parse_set_head
    (f := { name := "source", rule := .required "source" "source is required" }) horder htail h
    (by decide) hothers
  refine ⟨rest, hvalues, fun source hsource => hparse (.str source) rfl ?_⟩
  change Except.map some _ = _
  rw [Params.Rule.check_required hsource]
  rfl

/-- **The source is looked at when it is loaded**, and not before: what the checks come to and what
is made of the bytes is the same for every source. -/
theorem exists_compute_source (reader : Pdf.Reader) (services : Services) {params : Fields}
    (h : Ordered params) :
    ∃ (checked : Except Failure Task) (go : Task → Bytes → Program Json), ∀ source ≠ [],
      schema.parse (params.set "source" (.str source)) >>= taskOf = checked ∧
      (capability reader services).compute (params.set "source" (.str source)) =
        Program.lift checked >>= fun task => load source >>= go task := by
  obtain ⟨rest, hvalues, hparse⟩ := exists_parse_source h
  cases rest with
  | error f =>
    refine ⟨.error f, fun _ _ => .lift (.error f), fun source hsource => ?_⟩
    rw [compute_eq, hparse source hsource]
    exact ⟨rfl, rfl⟩
  | ok values =>
    have hnew := hvalues values rfl
    refine ⟨taskOf (sourceFields values []), digest reader services (sourceFields values []),
      fun source hsource => ?_⟩
    rw [compute_eq, hparse source hsource]
    change taskOf (sourceFields values source) = _ ∧
      (Program.lift (taskOf (sourceFields values source)) >>= fun task =>
        load ((sourceFields values source).text "source") >>=
          digest reader services (sourceFields values source) task) = _
    rw [text_source hnew, taskOf_sourceFields hnew source [],
      digest_sourceFields hnew reader services source []]
    exact ⟨rfl, rfl⟩

/-- **A document in the parameters and the same document at a URL** come to the same, whatever PDF
documents are read with. If the
parameters pass the checks, the fetch is the only difference of the two runs; if they do not, both
fail alike before anything is done. -/
theorem run_inline_fetched {s u : Text} {b : Bytes} {r : Http.Reply} {params : Fields}
    (hs : Base64.Spells s b) (hb : b ≠ []) (hu : isUrl u = true)
    (hstatus : r.status = 200) (hbody : r.body = b) (hparams : Ordered params)
    (reader : Pdf.Reader) (services : Services) (w : World) :
    let compute := (capability reader services).compute
    let w' : World := { w with replies := .ok r :: w.replies }
    let inline := w.run (compute (params.set "source" (.str s)))
    let fetched := w'.run (compute (params.set "source" (.str u)))
    fetched.outcome = inline.outcome ∧
    match schema.parse (params.set "source" (.str s)) >>= taskOf with
    | .ok _ =>
      fetched.events = .sent { url := u, timeout := some 20000 } :: inline.events ∧
        fetched.world = inline.world
    | .error f =>
      inline.outcome = .error f ∧ inline.events = [] ∧ fetched.events = [] ∧
        inline.world = w ∧ fetched.world = w' := by
  intro compute w' inline fetched
  obtain ⟨checked, go, hsource⟩ := exists_compute_source reader services hparams
  obtain ⟨hchecked, hinline⟩ := hsource s (hs.ne_nil hb)
  obtain ⟨-, hfetched⟩ := hsource u fun hnil => absurd (hnil ▸ hu) (by decide)
  -- the bytes are there at once, or after one request
  have hrun : ∀ task, w.run (load s >>= go task) = w.run (go task b) ∧
      w'.run (load u >>= go task) =
        World.after (.sent { url := u, timeout := some 20000 }) (w.run (go task b)) := by
    intro task
    have hbytes : bytesOf (.ok r) = .ok b := by
      rw [bytesOf, if_pos (by rw [Http.Reply.ok, hstatus]; rfl), hbody]
    rw [load_of_spells hs hb, load_of_url hu]
    refine ⟨rfl, ?_⟩
    change World.after _ (w.run (Program.lift (bytesOf (.ok r)) >>= go task)) = _
    rw [hbytes]
    rfl
  simp only [inline, fetched, compute, hinline, hfetched, hchecked]
  cases checked with
  | error f => exact ⟨rfl, rfl, rfl, rfl, rfl, rfl⟩
  | ok task =>
    obtain ⟨hs', hu'⟩ := hrun task
    change (w'.run (load u >>= go task)).outcome = (w.run (load s >>= go task)).outcome ∧
      (w'.run (load u >>= go task)).events = _ :: (w.run (load s >>= go task)).events ∧
        (w'.run (load u >>= go task)).world = (w.run (load s >>= go task)).world
    rw [hs', hu']
    exact ⟨rfl, rfl, rfl⟩

/-- Four bytes in the alphabet for URLs, with white space on either side of the padding, and a URL
whose scheme is in capitals. -/
theorem run_inline_fetched_of_spaces :
    let s : Text := " aGk_\nPw =\t= "
    let u : Text := "HTTP://h/d"
    let b : Bytes := [104, 105, 63, 63]
    let r : Http.Reply := { status := 200, body := b }
    let params : Fields := [(Text.ofString "task", .str "Summary")]
    let compute := (capability Pdf.readPages Settings.bare.services).compute
    let inline := World.run (compute (params.set "source" (.str s))) {}
    let fetched := World.run (compute (params.set "source" (.str u))) { replies := [.ok r] }
    Base64.Spells s b ∧ b ≠ [] ∧ isUrl u = true ∧ r.status = 200 ∧ r.body = b ∧ Ordered params ∧
      fetched.outcome = inline.outcome ∧
      fetched.events = .sent { url := u, timeout := some 20000 } :: inline.events ∧
      fetched.world = inline.world := by
  intro s u b r params compute inline fetched
  have hs : Base64.Spells s b :=
    ⟨Base64.urlAlphabet, by decide, true, by decide⟩
  have hb : b ≠ [] := by decide
  have hu : isUrl u = true := by decide
  have hparams : Ordered params := by decide
  have h := run_inline_fetched (r := r) hs hb hu rfl rfl hparams Pdf.readPages
    Settings.bare.services {}
  exact ⟨hs, hb, hu, rfl, rfl, hparams, h.1, h.2.1, h.2.2⟩

end DocumentSummary

end LineAgents
