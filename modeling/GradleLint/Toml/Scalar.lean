import GradleLint.Text.Integer
import GradleLint.Toml.Tree

/-!
# Scalars of TOML

Readers of strings, dates, times and numbers.  A reader takes the text from where its scalar
starts and gives the scalar with the text behind it.  Dates and numbers take the longest text
that has their form, so what follows is left to the caller to refuse.
-/

namespace GradleLint

namespace Toml

/-! ## Characters -/

/-- White space within a line. -/
def isGap (c : Char) : Bool := c == ' ' || c == '\t'

/-- White space within a line, or a line feed. -/
def isGapOrBreak (c : Char) : Bool := isGap c || c == '\n'

/-- A control character that no line may hold. -/
def isControl (c : Char) : Bool := (c.toNat < 0x20 || c.toNat == 0x7F) && c != '\t'

/-- A control character that no string of several lines may hold. -/
def isMultilineControl (c : Char) : Bool := isControl c && c != '\n'

/-! ## Strings -/

/-- The value of `n` hexadecimal digits. -/
def hexValue? : Nat → Text → Option (Nat × Text)
  | 0, t => some (0, t)
  | _ + 1, [] => none
  | n + 1, c :: r =>
    let digit : Option Nat :=
      if c.isDigit then some (c.toNat - 0x30)
      else if 'a' ≤ c ∧ c ≤ 'f' then some (c.toNat - 0x57)
      else if 'A' ≤ c ∧ c ≤ 'F' then some (c.toNat - 0x37)
      else none
    match digit, hexValue? n r with
    | some d, some (v, rest) => some (d * Nat.pow 16 n + v, rest)
    | _, _ => none

/-- The character written with `n` hexadecimal digits. -/
def hexChar (n : Nat) (t : Text) : Except Error (Text × Text) :=
  match hexValue? n t with
  | none => .error .malformed
  | some (v, rest) => if v.isValidChar then .ok ([Char.ofNat v], rest) else .error .malformed

/-- What the letter of a short escape stands for. -/
def shortEscape? (c : Char) : Option Char :=
  match c with
  | 'b' => some '\x08'
  | 't' => some '\t'
  | 'n' => some '\n'
  | 'f' => some '\x0C'
  | 'r' => some '\r'
  | '"' => some '"'
  | '\\' => some '\\'
  | _ => none

/-- What a backslash and the text behind it stand for.  In a string of several lines a backslash
before the end of a line removes the white space up to the next character. -/
def readEscape (multiline : Bool) : Text → Except Error (Text × Text)
  | [] => .error .malformed
  | c :: r =>
    if multiline && isGapOrBreak c then
      match (c :: r).dropWhile isGap with
      | [] => .ok ([], [])
      | d :: rest => if d = '\n' then .ok ([], rest.dropWhile isGapOrBreak) else .error .malformed
    else if c = 'u' then hexChar 4 r
    else if c = 'U' then hexChar 8 r
    else
      match shortEscape? c with
      | some e => .ok ([e], r)
      | none => .error .malformed

/-- The inside of a string in double quotes, up to and including the closing quotes.  Each step
takes a character at least, so `fuel` need not exceed the length of the text. -/
def readBasic (multiline : Bool) : Nat → Text → Except Error (Text × Text)
  | 0, _ => .error .malformed
  | _ + 1, [] => .error .malformed
  | fuel + 1, c :: r => do
    if c = '"' then
      if !multiline then return ([], r)
      match Text.after? "\"\"" r with
      | some rest => return ([], rest)
      | none =>
        let (t, rest) ← readBasic multiline fuel r
        return (c :: t, rest)
    else if c = '\\' then
      let (e, r) ← readEscape multiline r
      let (t, rest) ← readBasic multiline fuel r
      return (e ++ t, rest)
    else if (if multiline then isMultilineControl c else isControl c) then throw .malformed
    else
      let (t, rest) ← readBasic multiline fuel r
      return (c :: t, rest)

/-- The inside of a string in single quotes up to the text `close`. -/
def readLiteral (illegal : Char → Bool) (close : Text) : Text → Except Error (Text × Text)
  | [] => .error .malformed
  | c :: r =>
    match Text.after? close (c :: r) with
    | some rest => .ok ([], rest)
    | none =>
      if illegal c then .error .malformed
      else (readLiteral illegal close r).map fun (t, rest) => (c :: t, rest)

/-- Up to two more quotes, directly behind the three that close a string of several lines,
belong to the string. -/
def extraQuotes (q : Char) : Text → Text × Text
  | [] => ([], [])
  | [c] => if c = q then ([q], []) else ([], [c])
  | c :: d :: r =>
    if c = q then if d = q then ([q, q], r) else ([q], d :: r) else ([], c :: d :: r)

/-- A string of several lines, from behind its opening quotes. -/
def readMultiline (q : Char) (t : Text) : Except Error (Text × Text) := do
  let t := (Text.after? ['\n'] t).getD t
  let (body, rest) ←
    if q = '"' then readBasic true (t.length + 1) t
    else readLiteral isMultilineControl [q, q, q] t
  let (more, rest) := extraQuotes q rest
  return (body ++ more, rest)

/-- A string of one line, from behind its opening quote. -/
def readSingleLine (q : Char) (t : Text) : Except Error (Text × Text) :=
  if q = '"' then readBasic false (t.length + 1) t else readLiteral isControl [q] t

/-- A string of either kind, from behind the first of its opening quotes `q`. -/
def readString (q : Char) (t : Text) : Except Error (Text × Text) :=
  match Text.after? [q, q] t with
  | some rest => readMultiline q rest
  | none => readSingleLine q t

/-! ## Dates and times -/

/-- The value of exactly `n` digits in front of a text. -/
def digitsValue? : Nat → Text → Option (Nat × Text)
  | 0, t => some (0, t)
  | _ + 1, [] => none
  | n + 1, c :: r =>
    if c.isDigit then
      (digitsValue? n r).map fun (v, rest) => ((c.toNat - 0x30) * Nat.pow 10 n + v, rest)
    else none

/-- Two digits whose value lies between `low` and `high`. -/
def twoDigits? (low high : Nat) (t : Text) : Option (Nat × Text) :=
  match digitsValue? 2 t with
  | some (v, rest) => if low ≤ v ∧ v ≤ high then some (v, rest) else none
  | none => none

/-- What follows a fraction of a second, or the text itself. -/
def skipFraction : Text → Text
  | '.' :: c :: r => if c.isDigit then r.dropWhile Char.isDigit else '.' :: c :: r
  | t => t

/-- What follows a time of day. -/
def skipTime? (t : Text) : Option Text := do
  let (_, t) ← twoDigits? 0 23 t
  let (_, t) ← twoDigits? 0 59 (← Text.after? [':'] t)
  let (_, t) ← twoDigits? 0 59 (← Text.after? [':'] t)
  return skipFraction t

/-- What follows the distance from universal time. -/
def skipOffset? : Text → Option Text
  | [] => none
  | c :: r =>
    if c = 'Z' ∨ c = 'z' then some r
    else if c = '+' ∨ c = '-' then do
      let (_, t) ← twoDigits? 0 23 r
      let (_, t) ← twoDigits? 0 59 (← Text.after? [':'] t)
      return t
    else none

/-- What follows a time of day behind a date, with its distance from universal time. -/
def skipDayTime? : Text → Option Text
  | [] => none
  | c :: r =>
    if c = 'T' ∨ c = 't' ∨ c = ' ' then do
      let t ← skipTime? r
      return (skipOffset? t).getD t
    else none

/-- The number of days of a month. -/
def daysIn (year month : Nat) : Nat :=
  if month = 2 then
    if year % 4 = 0 ∧ (year % 100 ≠ 0 ∨ year % 400 = 0) then 29 else 28
  else if month = 4 ∨ month = 6 ∨ month = 9 ∨ month = 11 then 30
  else 31

/-- What follows a date, perhaps with a time of day; nothing when the text does not have the form
of a date, and an error when it does but there is no such day. -/
def skipDate? (t : Text) : Option (Except Error Text) := do
  let (year, t) ← digitsValue? 4 t
  let (month, t) ← twoDigits? 1 12 (← Text.after? ['-'] t)
  let (day, t) ← twoDigits? 1 31 (← Text.after? ['-'] t)
  let rest := (skipDayTime? t).getD t
  return if 1 ≤ year ∧ day ≤ daysIn year month then .ok rest else .error .malformed

/-! ## Numbers -/

/-- Digits of one base, with an underscore allowed before each but the first; the digits and the
text behind them. -/
def takeDigits (isDigit : Char → Bool) : Text → Text × Text
  | [] => ([], [])
  | [c] => if isDigit c then ([c], []) else ([], [c])
  | c :: d :: r =>
    if isDigit c then
      let (ds, rest) := takeDigits isDigit (d :: r)
      (c :: ds, rest)
    else if c = '_' ∧ isDigit d then
      let (ds, rest) := takeDigits isDigit (d :: r)
      (ds, rest)
    else ([], c :: d :: r)

/-- At least one digit, without an underscore in front. -/
def takeDigits? (isDigit : Char → Bool) : Text → Option (Text × Text)
  | [] => none
  | c :: r => if isDigit c then some (takeDigits isDigit (c :: r)) else none

/-- A letter or digit of hexadecimal numerals. -/
def isHexDigit (c : Char) : Bool :=
  c.isDigit || ('a' ≤ c && c ≤ 'f') || ('A' ≤ c && c ≤ 'F')

/-- The value of digits of the given base. -/
def digitsToNat (base : Nat) (ds : Text) : Nat :=
  ds.foldl (fun n c => n * base + ((hexValue? 1 [c]).map (·.1)).getD 0) 0

/-- A whole number in base sixteen, eight or two, from behind its leading zero. -/
def readRadix? : Text → Option (Value × Text)
  | [] => none
  | c :: r =>
    let form : Option (Nat × (Char → Bool)) :=
      if c = 'x' then some (16, isHexDigit)
      else if c = 'o' then some (8, fun c => '0' ≤ c && c ≤ '7')
      else if c = 'b' then some (2, fun c => c == '0' || c == '1')
      else none
    match form with
    | none => none
    | some (base, isDigit) =>
      (takeDigits? isDigit r).map fun (ds, rest) => (.int (digitsToNat base ds), rest)

/-- The fraction of a number, if one follows. -/
def readFraction : Text → Option Text × Text
  | '.' :: r =>
    match takeDigits? Char.isDigit r with
    | some (ds, rest) => (some ds, rest)
    | none => (none, '.' :: r)
  | t => (none, t)

/-- The exponent of a number, if one follows. -/
def readExponent : Text → Option Int × Text
  | [] => (none, [])
  | c :: r =>
    if c = 'e' ∨ c = 'E' then
      let (negative, body) := match r with
        | '-' :: body => (true, body)
        | '+' :: body => (false, body)
        | body => (false, body)
      match takeDigits? Char.isDigit body with
      | some (ds, rest) =>
        let n := digitsToNat 10 ds
        (some (if negative then -(n : Int) else n), rest)
      | none => (none, c :: r)
    else (none, c :: r)

/-- A decimal number, from behind its sign. -/
def readDecimal? (negative : Bool) : Text → Option (Except Error (Value × Text))
  | [] => none
  | c :: r =>
    if !c.isDigit then none
    else
      let (whole, rest) := if c = '0' then ([c], r) else takeDigits Char.isDigit (c :: r)
      let (fraction, rest) := readFraction rest
      let (exponent, rest) := readExponent rest
      match fraction, exponent with
      | none, none =>
        let n := digitsToNat 10 whole
        some <|
          if Numeral.digitLimit < whole.length then .error (.oversized whole.length)
          else .ok (.int (if negative then -(n : Int) else n), rest)
      | _, _ =>
        let fraction := fraction.getD []
        let n := digitsToNat 10 (whole ++ fraction)
        let e := exponent.getD 0 - fraction.length
        some (.ok (.float (.ofDecimal negative n e), rest))

/-- A number of any form. -/
def readNumber? (t : Text) : Option (Except Error (Value × Text)) :=
  let radix := match t with
    | '0' :: r => readRadix? r
    | _ => none
  match radix with
  | some found => some (.ok found)
  | none =>
    match t with
    | '-' :: r => readDecimal? true r
    | '+' :: r => readDecimal? false r
    | t => readDecimal? false t

/-- One of the words for infinity and for what is no number. -/
def readSpecial? (t : Text) : Option (Value × Text) :=
  let (negative, body) := match t with
    | '-' :: r => (true, r)
    | '+' :: r => (false, r)
    | t => (false, t)
  match Text.after? "inf" body, Text.after? "nan" body with
  | some rest, _ => some (.float (.infinite negative), rest)
  | none, some rest => some (.float .notANumber, rest)
  | none, none => none

end Toml

end GradleLint
