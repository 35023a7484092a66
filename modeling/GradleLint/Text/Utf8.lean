import GradleLint.Text.Line

/-!
# UTF-8

The decoder is a machine that takes one octet at a time.  Between characters it waits for a
leading octet; inside one it knows how many octets are still owed, which range the next one must
lie in, and the bits read so far.  An octet outside that range ends the unfinished character,
which counts as one fault, and is then read again as a leading octet.  So the faults are exactly
the longest initial parts of characters that the octets contain, and stray octets.

`Utf8.decode` turns each fault into U+FFFD and succeeds on all octets; `Utf8.decode?` refuses
when there is a fault.  A byte order mark is an ordinary character.
-/

namespace GradleLint

/-- A sequence of octets. -/
abbrev Bytes := List UInt8

namespace Utf8

/-- What is owed inside a character: `more` octets after the next one, which must lie between
`low` and `high`, and the bits read so far. -/
structure Pending where
  more : Nat
  low : Nat
  high : Nat
  bits : Nat
deriving DecidableEq

/-- What an octet means between characters. -/
inductive Lead where
  /-- A character of its own. -/
  | single (c : Char)
  /-- The first octet of a longer character. -/
  | opens (p : Pending)
  /-- No character starts with it. -/
  | stray
deriving DecidableEq

/-- The meaning of an octet between characters. -/
def lead (b : Nat) : Lead :=
  if b ≤ 0x7F then .single (Char.ofNat b)
  else if 0xC2 ≤ b ∧ b ≤ 0xDF then .opens ⟨0, 0x80, 0xBF, b - 0xC0⟩
  else if b = 0xE0 then .opens ⟨1, 0xA0, 0xBF, 0⟩
  else if b = 0xED then .opens ⟨1, 0x80, 0x9F, 0xD⟩
  else if 0xE1 ≤ b ∧ b ≤ 0xEF then .opens ⟨1, 0x80, 0xBF, b - 0xE0⟩
  else if b = 0xF0 then .opens ⟨2, 0x90, 0xBF, 0⟩
  else if 0xF1 ≤ b ∧ b ≤ 0xF3 then .opens ⟨2, 0x80, 0xBF, b - 0xF0⟩
  else if b = 0xF4 then .opens ⟨2, 0x80, 0x8F, 4⟩
  else .stray

/-- The characters of the octets, `none` standing for a fault. -/
def scan : Option Pending → Bytes → List (Option Char)
  | none, [] => []
  | some _, [] => [none]
  | none, b :: r => start b r
  | some p, b :: r =>
    if p.low ≤ b.toNat ∧ b.toNat ≤ p.high then
      let bits := p.bits * 64 + (b.toNat - 0x80)
      match p.more with
      | 0 => some (Char.ofNat bits) :: scan none r
      | more + 1 => scan (some ⟨more, 0x80, 0xBF, bits⟩) r
    else none :: start b r
where
  /-- Reads `b` between characters and goes on. -/
  start (b : UInt8) (r : Bytes) : List (Option Char) :=
    match lead b.toNat with
    | .single c => some c :: scan none r
    | .opens p => scan (some p) r
    | .stray => none :: scan none r

/-- The text of the octets, each fault as one replacement character. -/
def decode (bs : Bytes) : Text := (scan none bs).map (·.getD '\uFFFD')

/-- The text of the octets, unless they have a fault. -/
def decode? (bs : Bytes) : Option Text := (scan none bs).mapM id

/-- The octets of one character. -/
def encodeChar (c : Char) : Bytes :=
  let n := c.toNat
  if n < 0x80 then [UInt8.ofNat n]
  else if n < 0x800 then [UInt8.ofNat (0xC0 + n / 64), UInt8.ofNat (0x80 + n % 64)]
  else if n < 0x10000 then
    [UInt8.ofNat (0xE0 + n / 4096), UInt8.ofNat (0x80 + n / 64 % 64), UInt8.ofNat (0x80 + n % 64)]
  else
    [UInt8.ofNat (0xF0 + n / 262144), UInt8.ofNat (0x80 + n / 4096 % 64),
      UInt8.ofNat (0x80 + n / 64 % 64), UInt8.ofNat (0x80 + n % 64)]

/-- The octets of a text. -/
def encode (t : Text) : Bytes := t.flatMap encodeChar

/-- The text of a file or of a program's output: faults replaced, all line ends as line
feeds. -/
def readText (bs : Bytes) : Text := (decode bs).unifyBreaks

end Utf8

end GradleLint
