import GradleLint.Data.Value

/-!
# Layers of settings

Settings come in layers, each a table, of which a later one takes precedence.  The names of every
layer are brought to one spelling first, with underscores for hyphens; then the layers are merged
into one table.  Where both sides have a table under a name, the two tables are merged in turn;
anything else replaces what was there.
-/

namespace GradleLint

/-! ## Spelling of names -/

/-- A name with underscores for hyphens. -/
def canonicalName (name : Text) : Text := name.map fun c => if c = '-' then '_' else c

mutual

/-- The value with the names of its tables, not of those inside lists, in the canonical
spelling. -/
def Value.canonical : Value → Value
  | .table es => .table (Table.canonicalInto [] es)
  | v => v

/-- Adds entries to a table under the canonical spelling of their names; of two with the same
name the later one counts. -/
def Table.canonicalInto (t : Table) : List (Text × Value) → Table
  | [] => t
  | (k, v) :: es => Table.canonicalInto (Table.put t (canonicalName k) v.canonical) es

end

/-- The table with all names in the canonical spelling. -/
def Table.canonical (t : Table) : Table := Table.canonicalInto [] t

/-! ## Merging -/

mutual

/-- What a name stands for when `upper` comes over what it stood for before. -/
def Value.over (lower : Option Value) : (upper : Value) → Value
  | .table es =>
    match lower with
    | some (.table below) => .table (Table.merge below es)
    | _ => .table es
  | v => v

/-- The table with the entries of a later layer merged into it. -/
def Table.merge (lower : Table) : (upper : List (Text × Value)) → Table
  | [] => lower
  | (k, v) :: es => Table.merge (Table.put lower k (Value.over (Table.get? lower k) v)) es

end

/-- All layers, each in the canonical spelling, merged in order. -/
def mergeLayers (layers : List Table) : Table :=
  layers.foldl (fun merged layer => merged.merge layer.canonical) []

end GradleLint
