import GradleLint.Data.Value

/-!
# The tree of a TOML document

While a document is read its tables are still open in different degrees, so the tree under
construction is not yet a `Value`.  A leaf is closed: nothing may be added inside it, also when
it is an array or an inline table.  A branch is a table that a header or a dotted key made, and
its mark tells which; a series is an array of tables, of which only the newest can be added to.

The document's sections, each begun by a header, are numbered.  A header may open a table that
was only implied so far; a table made by dotted keys is open to further dotted keys of the same
section only.
-/

namespace GradleLint

namespace Toml

/-- Why a document cannot be read. -/
inductive Error where
  /-- The text is no TOML document. -/
  | malformed
  /-- A decimal integer has more digits than are converted. -/
  | oversized (digits : Nat)
deriving DecidableEq, Repr

/-- How a table came to be. -/
inductive Mark where
  /-- It lies on the way to the table of a header. -/
  | implied
  /-- A dotted key of the numbered section made it. -/
  | dotted (number : Nat)
  /-- It has a header of its own. -/
  | headed
deriving DecidableEq, Repr

/-- Whether a table is closed to headers and dotted keys of section `now`. -/
def Mark.closed (now : Nat) : Mark → Bool
  | .implied => false
  | .dotted n => n < now
  | .headed => true

/-- A node of the tree under construction. -/
inductive Node where
  | leaf (v : Value)
  | branch (mark : Mark) (entries : List (Text × Node))
  /-- An array of tables, the newest first. -/
  | series (tables : List (List (Text × Node)))

/-- The entries of a table under construction, in the order in which they came. -/
abbrev Entries := List (Text × Node)

/-! ## Adding to the tree -/

/-- Replaces the node of a name, or adds one at the end. -/
def updateAt (k : Text) (f : Option Node → Except Error Node) : Entries → Except Error Entries
  | [] => do return [(k, ← f none)]
  | (k', n) :: es => do
    if k' = k then return (k', ← f (some n)) :: es
    else return (k', n) :: (← updateAt k f es)

/-- Changes the entries of the table at a path from the root, which is made if need be. -/
def within (f : Entries → Except Error Entries) : List Text → Entries → Except Error Entries
  | [], es => f es
  | k :: ks, es =>
    updateAt k (fun
      | none => do return .branch .implied (← within f ks [])
      | some (.branch m sub) => do return .branch m (← within f ks sub)
      | some (.series (newest :: older)) => do return .series ((← within f ks newest) :: older)
      | some _ => throw .malformed) es

/-- Opens the table of a header. -/
def openTable (now : Nat) (k : Text) : Entries → Except Error Entries :=
  updateAt k fun
    | none => .ok (.branch .headed [])
    | some (.branch m sub) => if m.closed now then .error .malformed else .ok (.branch .headed sub)
    | some _ => .error .malformed

/-- Adds a table to the array of a header. -/
def appendTable (k : Text) : Entries → Except Error Entries :=
  updateAt k fun
    | none => .ok (.series [[]])
    | some (.series tables) => .ok (.series ([] :: tables))
    | some _ => .error .malformed

/-- Gives a dotted key a value in section `now`. -/
def assign (now : Nat) (v : Value) : List Text → Entries → Except Error Entries
  | [], _ => .error .malformed
  | [k], es =>
    updateAt k (fun
      | none => .ok (.leaf v)
      | some _ => .error .malformed) es
  | k :: ks, es =>
    updateAt k (fun
      | none => do return .branch (.dotted now) (← assign now v ks [])
      | some (.branch m sub) =>
        if m.closed now then throw .malformed
        else do return .branch (.dotted now) (← assign now v ks sub)
      | some _ => throw .malformed) es

/-! ## The finished tree -/

mutual

/-- The value of a node. -/
def Node.toValue : Node → Value
  | .leaf v => v
  | .branch _ es => .table (tableOf es)
  | .series tables => .list (listOf tables)

/-- The table of a table's entries. -/
def tableOf : List (Text × Node) → List (Text × Value)
  | [] => []
  | (k, n) :: es => (k, n.toValue) :: tableOf es

/-- The tables of an array, oldest first. -/
def listOf : List (List (Text × Node)) → List Value
  | [] => []
  | es :: tables => listOf tables ++ [.table (tableOf es)]

end

end Toml

end GradleLint
