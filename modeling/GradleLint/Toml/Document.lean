import GradleLint.Toml.Scalar

/-!
# TOML documents

The statements of a document are read one after the other into a tree: a header opens a table or
adds one to an array, and a key with its value adds a leaf to the table in hand.  Values nest
without bound in arrays and inline tables, so the readers of values carry fuel; of two steps at
least one takes a character, so twice the length of the document is fuel enough.
-/

namespace GradleLint

namespace Toml

/-! ## Blanks, comments and keys -/

/-- A character of keys without quotes. -/
def isBareKey (c : Char) : Bool := c.isAlphanum || c == '-' || c == '_'

/-- Skips a comment, if one starts here, up to the end of the line. -/
def skipComment : Text → Except Error Text
  | '#' :: r =>
    if (r.takeWhile (· != '\n')).any isControl then .error .malformed
    else .ok (r.dropWhile (· != '\n'))
  | t => .ok t

/-- Skips white space, line feeds and comments. -/
def skipFiller : Nat → Text → Except Error Text
  | 0, t => .ok t
  | fuel + 1, t => do
    let u := t.dropWhile isGapOrBreak
    let v ← skipComment u
    if v.length = t.length then return t else skipFiller fuel v

/-- One part of a key. -/
def readKeyPart : Text → Except Error (Text × Text)
  | [] => .error .malformed
  | c :: r =>
    if isBareKey c then .ok ((c :: r).takeWhile isBareKey, (c :: r).dropWhile isBareKey)
    else if c = '"' ∨ c = '\'' then readSingleLine c r
    else .error .malformed

/-- A key: parts with dots between them. -/
def readKey : Nat → Text → Except Error (List Text × Text)
  | 0, _ => .error .malformed
  | fuel + 1, t => do
    let (k, rest) ← readKeyPart t
    match rest.dropWhile isGap with
    | '.' :: r =>
      let (ks, rest) ← readKey fuel (r.dropWhile isGap)
      return (k :: ks, rest)
    | rest => return ([k], rest)

/-! ## Values -/

mutual

/-- A value. -/
def readValue : Nat → Text → Except Error (Value × Text)
  | 0, _ => .error .malformed
  | _ + 1, [] => .error .malformed
  | fuel + 1, c :: r => do
    if c = '"' ∨ c = '\'' then
      let (t, rest) ← readString c r
      return (.text t, rest)
    else if c = '[' then
      let (vs, rest) ← readItems fuel (← skipFiller (r.length + 1) r)
      return (.list vs, rest)
    else if c = '{' then
      match r.dropWhile isGap with
      | '}' :: rest => return (.table [], rest)
      | rest =>
        let (es, rest) ← readPairs fuel [] rest
        return (.table (tableOf es), rest)
    else
      match Text.after? "true" (c :: r), Text.after? "false" (c :: r) with
      | some rest, _ => return (.bool true, rest)
      | none, some rest => return (.bool false, rest)
      | none, none =>
        match skipDate? (c :: r) with
        | some date => return (.moment, ← date)
        | none =>
          match skipTime? (c :: r) with
          | some rest => return (.moment, rest)
          | none =>
            match readNumber? (c :: r) with
            | some number => number
            | none =>
              match readSpecial? (c :: r) with
              | some found => return found
              | none => throw .malformed

/-- The items of an array up to and including its closing bracket. -/
def readItems : Nat → Text → Except Error (List Value × Text)
  | 0, _ => .error .malformed
  | fuel + 1, t => do
    match t with
    | ']' :: rest => return ([], rest)
    | t =>
      let (v, rest) ← readValue fuel t
      match ← skipFiller (rest.length + 1) rest with
      | ']' :: rest => return ([v], rest)
      | ',' :: rest =>
        let (vs, rest) ← readItems fuel (← skipFiller (rest.length + 1) rest)
        return (v :: vs, rest)
      | _ => throw .malformed

/-- The pairs of an inline table up to and including its closing brace, added to `es`. -/
def readPairs : Nat → Entries → Text → Except Error (Entries × Text)
  | 0, _, _ => .error .malformed
  | fuel + 1, es, t => do
    let (ks, rest) ← readKey (t.length + 1) t
    match rest with
    | '=' :: rest =>
      let (v, rest) ← readValue fuel (rest.dropWhile isGap)
      let es ← assign 0 v ks es
      match rest.dropWhile isGap with
      | '}' :: rest => return (es, rest)
      | ',' :: rest => readPairs fuel es (rest.dropWhile isGap)
      | _ => throw .malformed
    | _ => throw .malformed

end

/-! ## Statements -/

/-- A document read so far: its tree, the path of the table in hand, and the number of the
section. -/
structure Draft where
  entries : Entries := []
  header : List Text := []
  sectionNumber : Nat := 0

/-- Reads a header, from behind its opening brackets, and opens its table with `opening`. -/
def Draft.readHeader (d : Draft) (opening : Text → Entries → Except Error Entries) (close : Text)
    (t : Text) : Except Error (Draft × Text) := do
  let t := t.dropWhile isGap
  let (ks, rest) ← readKey (t.length + 1) t
  match ks.getLast?, Text.after? close rest with
  | some last, some rest =>
    let es ← within (opening last) ks.dropLast d.entries
    return ({ d with entries := es, header := ks }, rest)
  | _, _ => throw .malformed

/-- Reads a key with its value into the table in hand. -/
def Draft.readPair (d : Draft) (t : Text) : Except Error (Draft × Text) := do
  let (ks, rest) ← readKey (t.length + 1) t
  match rest with
  | '=' :: rest =>
    let rest := rest.dropWhile isGap
    let (v, rest) ← readValue (2 * rest.length + 1) rest
    let es ← within (assign d.sectionNumber v ks) d.header d.entries
    return ({ d with entries := es }, rest)
  | _ => throw .malformed

/-- Reads the statement that starts a line, white space before it skipped. -/
def Draft.readStatement (d : Draft) : Text → Except Error (Draft × Text)
  | [] => .ok (d, [])
  | '[' :: r =>
    let d := { d with sectionNumber := d.sectionNumber + 1 }
    match r with
    | '[' :: r => d.readHeader appendTable "]]" r
    | r => d.readHeader (openTable d.sectionNumber) "]" r
  | c :: r =>
    if c = '\n' ∨ c = '#' then .ok (d, c :: r)
    else if isBareKey c ∨ c = '"' ∨ c = '\'' then d.readPair (c :: r)
    else .error .malformed

/-- Reads the lines of a document.  Each takes a character at least. -/
def Draft.readLines : Nat → Draft → Text → Except Error Entries
  | 0, d, _ => .ok d.entries
  | fuel + 1, d, t => do
    let (d, rest) ← d.readStatement (t.dropWhile isGap)
    match ← skipComment (rest.dropWhile isGap) with
    | [] => return d.entries
    | '\n' :: rest => Draft.readLines fuel d rest
    | _ => throw .malformed

/-- The text with each carriage return that stands before a line feed removed. -/
def joinBreaks : Text → Text
  | [] => []
  | [c] => [c]
  | c :: d :: r => if c = '\r' ∧ d = '\n' then joinBreaks (d :: r) else c :: joinBreaks (d :: r)

/-- The table a document stands for. -/
def parse (t : Text) : Except Error Table :=
  let t := joinBreaks t
  (Draft.readLines (t.length + 1) {} t).map tableOf

end Toml

end GradleLint
