import LineAgents.Agents.DocumentSummary
import LineAgents.Pdf.Document
import LineAgents.Proofs.Text.Validity

/-!
# Two readers of the same bytes

The bytes of a reply are read in two ways. The text of the reply is read leniently, the replacement
character standing for what is not valid UTF-8. The text of a document is read strictly: it is empty
where the replacement character would have to stand in, and it goes without a byte order mark at its
front. For bytes that do not begin like a PDF document the two readers part over nothing else, and a
document that is written from a text is read as that text
(`LineAgents.DocumentSummary.decodeText_beside_text`).
-/

namespace LineAgents.DocumentSummary

variable {reader : Pdf.Reader} {data : Bytes} {t : Text}

/-- The bytes that a PDF document begins with are those of a text. -/
theorem isPdf_iff : Pdf.isPdf data = true ↔ Utf8.encode "%PDF-" <+: data :=
  List.isPrefixOf_iff_prefix

/-- **What is no PDF document** is read strictly, and nothing is noted. -/
theorem decodeText_of_not_pdf (h : ¬Utf8.encode "%PDF-" <+: data) :
    decodeText reader data = .lift (.ok (strictText data)) :=
  if_neg (mt isPdf_iff.mp h)

/-- One byte order mark is dropped, if there is one at the front. -/
theorem dropMark_eq (t : Text) : dropMark t = if t.head? = some 0xFEFF then t.tail else t := by
  rw [dropMark.eq_def]
  split
  · rfl
  · rename_i hmark
    rw [if_neg]
    intro hhead
    obtain ⟨rest, rfl⟩ := List.head?_eq_some_iff.mp hhead
    exact hmark rest rfl

/-- The bytes of a text begin like a PDF document only if the text does. -/
theorem prefix_of_prefix_encode (h : t.wellFormed = true)
    (hpdf : Utf8.encode "%PDF-" <+: Utf8.encode t) : Text.ofString "%PDF-" <+: t := by
  obtain ⟨rest, hrest⟩ := hpdf
  have hcut : Utf8.Reader.run .ready (Utf8.encode "%PDF-") = .ready := by decide
  have hread : Utf8.decode (Utf8.encode "%PDF-" ++ rest) =
      Utf8.decode (Utf8.encode "%PDF-") ++ Utf8.decode rest :=
    Utf8.decode_append (Utf8.scan_append_of_ready hcut rest)
  rw [hrest, Utf8.decode_encode h, Utf8.decode_encode (by decide)] at hread
  exact ⟨_, hread.symm⟩

/-- **The two readers agree.** Of a reply whose body does not begin like a PDF document, either the
body is valid UTF-8, its document text is the text of the reply without the byte order mark at its
front, and the text of the reply has the body for its bytes; or the body is not valid, its document
text is empty, and the text of the reply holds the replacement character. So a text that starts
neither with a byte order mark nor like a PDF document is read from its bytes as it is. What PDF
documents are read with plays no part. -/
theorem decodeText_beside_text (reader : Pdf.Reader) :
    (∀ r : Http.Reply, ¬Utf8.encode "%PDF-" <+: r.body →
      (r.body.toByteArray.IsValidUTF8 ∧
        decodeText reader r.body =
          .lift (.ok (if r.text.head? = some 0xFEFF then r.text.tail else r.text)) ∧
        Utf8.encode r.text = r.body) ∨
      (¬r.body.toByteArray.IsValidUTF8 ∧ decodeText reader r.body = .lift (.ok []) ∧
        0xFFFD ∈ r.text)) ∧
    ∀ t : Text, t.wellFormed = true → t.head? ≠ some 0xFEFF → ¬Text.ofString "%PDF-" <+: t →
      decodeText reader (Utf8.encode t) = .lift (.ok t) := by
  constructor
  · intro r hpdf
    rw [decodeText_of_not_pdf hpdf, strictText, Http.Reply.text]
    by_cases hvalid : r.body.toByteArray.IsValidUTF8
    · left
      refine ⟨hvalid, ?_, Utf8.encode_decode hvalid⟩
      rw [Utf8.decode?_of_valid hvalid, Option.getD_some, dropMark_eq]
    · right
      refine ⟨hvalid, ?_, Utf8.replacement_mem_decode hvalid⟩
      rw [Utf8.decode?_of_not_valid hvalid]
      rfl
  · intro t hwell hmark hpdf
    rw [decodeText_of_not_pdf (mt (prefix_of_prefix_encode hwell) hpdf), strictText,
      Utf8.decode?_encode hwell, Option.getD_some, dropMark_eq, if_neg hmark]

/-- A byte order mark before a letter of two bytes, a surrogate spelt in three bytes, and a text
with a surrogate pair. -/
theorem decodeText_of_marked :
    let marked : Http.Reply := { status := 200, body := [0xEF, 0xBB, 0xBF, 0xC3, 0xA9] }
    let broken : Http.Reply := { status := 200, body := [0x41, 0xED, 0xA0, 0x80] }
    let t : Text := "é😀"
    (¬Utf8.encode "%PDF-" <+: marked.body ∧ marked.body.toByteArray.IsValidUTF8 ∧
      decodeText Pdf.readPages marked.body = .lift (.ok [0xE9]) ∧
      Utf8.encode marked.text = marked.body) ∧
    (¬Utf8.encode "%PDF-" <+: broken.body ∧ ¬broken.body.toByteArray.IsValidUTF8 ∧
      decodeText Pdf.readPages broken.body = .lift (.ok []) ∧ 0xFFFD ∈ broken.text) ∧
    t.wellFormed = true ∧ t.head? ≠ some 0xFEFF ∧ ¬Text.ofString "%PDF-" <+: t ∧
      decodeText Pdf.readPages (Utf8.encode t) = .lift (.ok t) := by
  intro marked broken t
  have hmarked : ¬Utf8.encode "%PDF-" <+: marked.body := by decide
  have hbroken : ¬Utf8.encode "%PDF-" <+: broken.body := by decide
  have hwell : t.wellFormed = true := by decide
  have hmark : t.head? ≠ some 0xFEFF := by decide
  have hpdf : ¬Text.ofString "%PDF-" <+: t := by decide
  refine ⟨⟨hmarked, ?_⟩, ⟨hbroken, ?_⟩, hwell, hmark, hpdf,
    (decodeText_beside_text Pdf.readPages).2 t hwell hmark hpdf⟩
  · rcases (decodeText_beside_text Pdf.readPages).1 marked hmarked with h | h
    · exact h
    · exact absurd h.2.2 (by decide)
  · rcases (decodeText_beside_text Pdf.readPages).1 broken hbroken with h | h
    · exact absurd h.2.2 (by decide)
    · exact h

end LineAgents.DocumentSummary
