import GradleLint.Text.Basic

/-!
# Blank characters

Two sets of blanks are in use.  `Char.isBlank` holds the characters of Unicode white space
together with the four information separators U+001C to U+001F; messages, markers and lines of
output are trimmed of it.  `Char.isSpacing` leaves the information separators out; numerals may
be surrounded by it only.  Neither holds the zero-width space U+200B nor the byte order mark
U+FEFF.
-/

namespace GradleLint

/-- One of the information separators U+001C to U+001F. -/
def isSeparator (c : Char) : Bool := 0x1C ≤ c.toNat && c.toNat ≤ 0x1F

/-- White space as it may surround a numeral. -/
def isSpacing (c : Char) : Bool :=
  (0x09 ≤ c.toNat && c.toNat ≤ 0x0D) || c.toNat == 0x20 || c.toNat == 0x85 || c.toNat == 0xA0
    || c.toNat == 0x1680 || (0x2000 ≤ c.toNat && c.toNat ≤ 0x200A) || c.toNat == 0x2028
    || c.toNat == 0x2029 || c.toNat == 0x202F || c.toNat == 0x205F || c.toNat == 0x3000

/-- White space, information separators included. -/
def isBlank (c : Char) : Bool := isSpacing c || isSeparator c

namespace Text

/-- The text without the blanks at its two ends. -/
def trim (t : Text) : Text := trimBy isBlank t

/-- Whether the text holds anything but blanks. -/
def isInked (t : Text) : Bool := t.any fun c => !isBlank c

end Text

end GradleLint
