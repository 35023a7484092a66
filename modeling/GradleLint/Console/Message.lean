import GradleLint.Console.Styled
import GradleLint.Severity

/-!
# Messages

A message has a tone, which gives it a symbol and a colour.  The symbol is shown when emoji are
wanted; colour is shown only on a terminal, and there when it is wanted, or when nothing is said
about it.  In the line of a diagnostic only the word for the severity is coloured.
-/

namespace GradleLint

/-- The tone of a message. -/
inductive Tone where
  | info
  | ok
  | warn
  | fail
deriving DecidableEq, Repr

namespace Tone

/-- The symbol in front of a message, with a space behind it. -/
def symbol : Tone → Text
  | .info => "ℹ\uFE0F "
  | .ok => "✅ "
  | .warn => "⚠\uFE0F "
  | .fail => "❌ "

/-- The colour of a message. -/
def style : Tone → Style
  | .info => .cyan
  | .ok => .green
  | .warn => .yellow
  | .fail => .red

end Tone

/-- The colour of the word for a severity. -/
def Severity.style : Severity → Style
  | .error => .boldRed
  | .warning => .yellow

/-- Where messages are printed, and how. -/
structure Display where
  /-- Whether the output is a terminal. -/
  terminal : Bool
  /-- Whether colour is wanted, if anything is said about it. -/
  color : Option Bool
  emoji : Bool
deriving DecidableEq, Repr

namespace Display

/-- Whether colour is shown. -/
def colored (d : Display) : Bool := d.terminal && d.color.getD true

/-- A style where colour is shown. -/
def paint (d : Display) (s : Style) : Option Style := if d.colored then some s else none

/-- A message as it is printed. -/
def say (d : Display) (tone : Tone) (message : Text) : Text :=
  let symbol := if d.emoji then tone.symbol else []
  (StyledText.ofText (d.paint tone.style) (symbol ++ message)).toTerminal

/-- The line of a diagnostic as it is printed. -/
def sayDiagnostic (d : Display) (location : Text) (severity : Severity) (message : Text) : Text :=
  StyledText.toTerminal <|
    .ofText none (location ++ ": ") ++ .ofText (d.paint severity.style) severity.word
      ++ .ofText none (": " ++ message)

/-- A remark for debugging as it is printed: in the tone of information, never with a symbol. -/
def sayDebug (d : Display) (message : Text) : Text :=
  { d with emoji := false }.say .info ("[debug] " ++ message)

end Display

end GradleLint
