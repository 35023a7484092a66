import GradleLint.Model.Codec
import GradleLint.Settings.Basic

/-!
# Models

A model is any of the values that are read from data.  Settings may be changed field by field;
all other models are frozen, and an assignment to any name in them is refused unless the name is
free for notes.
-/

namespace GradleLint

/-- A value that was read from data. -/
inductive Model where
  | record (r : Record)
  | span (s : Span)
  | diagnostic (d : Diagnostic)
  | exit (e : Exit)
  | outcome (o : Outcome)
  | output (s : OutputSettings)
  | settings (s : Settings)
deriving DecidableEq, Repr

/-- The forms of models that data may be read as. -/
inductive ModelKind where
  | record
  | span
  | diagnostic
  | exit
  /-- An outcome of a kind known beforehand. -/
  | outcomeAs (k : OutcomeKind)
  /-- An outcome of the kind that the data name. -/
  | outcome
  | output
  | settings
deriving DecidableEq, Repr

/-- Reads a model. -/
def Model.read : ModelKind → Value → Validated Model
  | .record, v => .record <$> Record.read v
  | .span, v => .span <$> Span.read v
  | .diagnostic, v => .diagnostic <$> Diagnostic.read v
  | .exit, v => .exit <$> Exit.read v
  | .outcomeAs k, v => .outcome <$> Outcome.readAs k v
  | .outcome, v => .outcome <$> Outcome.read v
  | .output, v => .output <$> OutputSettings.read v
  | .settings, v => .settings <$> Settings.read v

/-- The data of a model. -/
def Model.toValue : Model → Value
  | record r => r.toValue
  | span s => s.toValue
  | diagnostic d => d.toValue
  | exit e => e.toValue
  | outcome o => o.toValue
  | output s => .table s.toTable
  | settings s => .table s.toTable

/-- Assigns to a name in the frozen model `m` or in a part of it. -/
def assignFrozen (m : Model) (name : Text) : Except AssignError Model :=
  if isNote name then .ok m else .error (.invalid [⟨[.field name], .frozen⟩])

/-- Assigns along a path of names. -/
def Model.assign (m : Model) (path : List Text) (v : Value) : Except AssignError Model :=
  match m, path with
  | settings s, path => (s.assignPath v path).map settings
  | output s, path => (s.assignPath v path).map output
  | _, [name] => assignFrozen m name
  | diagnostic _, [outer, name] => if outer = "span" then assignFrozen m name else .error .noFields
  | _, _ => .error .noFields

/-- The model after some assignments; one that is refused leaves it as it is. -/
def Model.afterAll (m : Model) (assignments : List (List Text × Value)) : Model :=
  assignments.foldl (fun m a => (m.assign a.1 a.2).toOption.getD m) m

/-- Assigns in order; after each assignment the model, or why it was refused. -/
def Model.assignAll (m : Model) : List (List Text × Value) → List (Except AssignError Model)
  | [] => []
  | (path, v) :: rest =>
    match m.assign path v with
    | .ok m' => .ok m' :: m'.assignAll rest
    | .error e => .error e :: m.assignAll rest

end GradleLint
