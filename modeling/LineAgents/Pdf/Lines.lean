import LineAgents.Failure
import LineAgents.Text.Blank
import LineAgents.Text.Utf8

/-!
# The text of a document

A reader gives the texts of the pages of a document, and they are put together as lines. Inside a
line runs of spaces and tabs become one space, lines are trimmed, and empty lines are left out.
Whatever reads the pages, `LineAgents.Pdf.extractText` gives the text of a document as it tells of
them.
-/

namespace LineAgents.Pdf

/-- A space or a tab. -/
def isGap (u : UInt16) : Bool := u == 32 || u == 9

/-- A text with one space for each run of spaces and tabs; `after` says whether one comes before. -/
def collapseGaps (after : Bool) : Text → Text
  | [] => []
  | u :: t =>
    if isGap u then
      if after then collapseGaps true t else 32 :: collapseGaps true t
    else u :: collapseGaps false t

/-- A line without needless white space. -/
def tidyLine (line : Text) : Text := (collapseGaps false line).trim

/-- **The lines of pages**, tidied, and without those that have nothing in them. -/
def tidy (pages : List Text) : Text :=
  Text.join "\n"
    (((Text.splitOn 10 (Text.join "\n" pages)).map tidyLine).filter fun line => !line.isEmpty)

/-! ### Documents -/

/-- Whether the bytes begin like a PDF document. -/
def isPdf (data : Bytes) : Bool := [0x25, 0x50, 0x44, 0x46, 0x2D].isPrefixOf data

/-- **What reads a document**: it gives the texts of its pages, or fails. -/
abbrev Reader := Bytes → Except Failure (List Text)

/-- **The text of a document**, as a reader finds it. -/
def extractText (read : Reader) (data : Bytes) : Except Failure Text := (read data).map tidy

end LineAgents.Pdf
