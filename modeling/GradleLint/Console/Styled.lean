import GradleLint.Console.Width

/-!
# Styled text on a terminal

A styled text gives each of its characters a style or none.  To be shown, it loses the control
characters that would move the cursor, its tabs become spaces up to the next tab stop, and each
stretch of one style is set between the escape sequences that switch the style on and off.  A
stretch ends with its line, and also at a tab stop that a tab has led to.
-/

namespace GradleLint

/-- A way to set text apart. -/
inductive Style where
  | cyan
  | green
  | yellow
  | red
  | boldRed
deriving DecidableEq, Repr

/-- The parameters of the escape sequence that switches a style on. -/
def Style.code : Style → Text
  | .cyan => "36"
  | .green => "32"
  | .yellow => "33"
  | .red => "31"
  | .boldRed => "1;31"

/-- Characters with their styles. -/
abbrev StyledText := List (Char × Option Style)

namespace StyledText

/-- A text in one style throughout. -/
def ofText (style : Option Style) (t : Text) : StyledText := t.map fun c => (c, style)

/-- The characters without their styles. -/
def plain (t : StyledText) : Text := t.map (·.1)

/-- A control character that is never shown: bell, backspace, vertical tab, form feed and
carriage return. -/
def isHidden (c : Char) : Bool :=
  c == '\x07' || c == '\x08' || c == '\x0B' || c == '\x0C' || c == '\r'

/-- The distance of tab stops. -/
def tabSize : Nat := 8

/-- The lines of a styled text. -/
def lines : StyledText → List StyledText
  | [] => [[]]
  | (c, s) :: r =>
    if c = '\n' then [] :: lines r
    else
      match lines r with
      | [] => [[(c, s)]]
      | l :: ls => ((c, s) :: l) :: ls

/-- The parts of a line: each tab ends one. -/
def tabbedParts : StyledText → List StyledText
  | [] => [[]]
  | (c, s) :: r =>
    if c = '\t' then [(c, s)] :: tabbedParts r
    else
      match tabbedParts r with
      | [] => [[(c, s)]]
      | p :: ps => ((c, s) :: p) :: ps

/-- The columns of a styled text. -/
def columns (t : StyledText) : Nat := textColumns (plain t)

/-- A part with a space for its tab, and the spaces behind it that lead to the next tab stop, when
the part starts at the given column.  A part without a tab stays as it is. -/
def alignPart (column : Nat) (part : StyledText) : StyledText :=
  match part.getLast? with
  | some ('\t', s) =>
    let shown := part.dropLast ++ [(' ', s)]
    let beyond := (column + columns shown) % tabSize
    shown ++ List.replicate (if beyond = 0 then 0 else tabSize - beyond) (' ', s)
  | _ => part

/-- The parts of a line with spaces for their tabs, when the first starts at the given column. -/
def alignParts (column : Nat) : List StyledText → List StyledText
  | [] => []
  | p :: ps =>
    let aligned := alignPart column p
    aligned :: alignParts (column + columns aligned) ps

/-- The parts of a line between its tabs, each tab turned into spaces at the end of its part. -/
def expandTabs (line : StyledText) : List StyledText := alignParts 0 (tabbedParts line)

/-- The longest stretches of one style. -/
def stretches : StyledText → List (Option Style × Text)
  | [] => []
  | (c, s) :: r =>
    match stretches r with
    | [] => [(s, [c])]
    | (s', t) :: rest => if s = s' then (s, c :: t) :: rest else (s, [c]) :: (s', t) :: rest

/-- A stretch between its escape sequences. -/
def showStretch : Option Style × Text → Text
  | (none, t) => t
  | (some s, t) => "\x1B[" ++ s.code ++ "m" ++ t ++ "\x1B[0m"

/-- A line as it is shown. -/
def showLine (l : StyledText) : Text :=
  (expandTabs l).flatMap fun part => (stretches part).flatMap showStretch

/-- A styled text as it is shown, with a line feed at its end. -/
def toTerminal (t : StyledText) : Text :=
  Text.join ['\n'] ((lines (t.filter fun c => !isHidden c.1)).map showLine) ++ ['\n']

end StyledText

end GradleLint
