import LineAgents.Pdf.ReadingOrder
import LineAgents.Pdf.ShapeTable

/-!
# Presentation of text

What a page shows are shapes, in the order in which they stand from left to right. A run of text is
put out as the characters that the shapes stand for, in the order in which they are read.
-/

namespace LineAgents.Pdf

/-- The number that hexadecimal digits spell. -/
def hexNumber (t : Text) : Nat := t.foldl (fun n u => n * 16 + (Text.hexValue? u).getD 0) 0

/-- The entry of the table that a text spells. -/
def shapeOfText (t : Text) : Nat × Text :=
  match Text.splitOn 58 t with
  | [shape, characters] =>
    (hexNumber shape, (Text.splitOn 43 characters).flatMap fun c => Text.unitsOf (hexNumber c))
  | _ => (0, [])

/-- The characters for each shape. -/
def shapes : List (Nat × Text) :=
  ((Text.ofStrings shapeLines).flatMap (Text.splitOn 32)).map shapeOfText

/-- The characters that a unit stands for, which is itself if it is no shape. -/
def plainCharacters (u : UInt16) : Text := (shapes.lookup u.toNat).getD [u]

/-- **The text of a run**, in plain characters and in the order of reading. -/
def present (t : Text) : Text := readingOrder (t.flatMap plainCharacters)

end LineAgents.Pdf
