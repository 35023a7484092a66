import GradleLint.Build.Outcome
import GradleLint.Data.Display
import GradleLint.Data.Reader

/-!
# Diagnostics, exits and outcomes as data

How records, spans, diagnostics, exits and outcomes are read from untyped data and written as
such.  An outcome is a table whose `kind` tells which outcome it is, and is read accordingly; the
issues of its fields are placed under that kind.
-/

namespace GradleLint

/-! ## Reading -/

/-- Reads a severity. -/
def Severity.read : Value → Validated Severity
  | .text t => ((Severity.ofWord? t).map .valid).getD (.fail .notChoice)
  | _ => .fail .notChoice

/-- Reads a natural number. -/
def Value.readNat (v : Value) : Validated Nat := Int.toNat <$> v.readIntFrom 0

/-- Reads a span. -/
def Span.read : Value → Validated Span :=
  Value.readTable fun t =>
    Span.mk <$> t.field "start" Value.readNat <*> t.field "end" Value.readNat

/-- Reads a record. -/
def Record.read : Value → Validated Record :=
  Value.readTable fun t =>
    Record.mk <$> t.field "severity" Severity.read <*> t.field "line" (Value.readIntFrom 1)
      <*> t.field "column" (Value.readIntFrom 1) <*> t.field "message" Value.readText

/-- Reads a diagnostic. -/
def Diagnostic.read : Value → Validated Diagnostic :=
  Value.readTable fun t =>
    Diagnostic.mk <$> t.field "span" Span.read <*> t.field "severity" Severity.read
      <*> t.field "message" Value.readText <*> t.field "line" Value.readInt
      <*> t.field "column" Value.readInt

/-- The arguments of a process: a text is the only argument, a list gives the texts of its items,
and anything else gives none. -/
def argumentsOf : Value → List Text
  | .text t => [t]
  | .list vs => vs.map Value.display
  | _ => []

/-- Reads an exit. -/
def Exit.read : Value → Validated Exit :=
  Value.readTable fun t =>
    Exit.mk <$> t.field "pid" (Value.readOption Value.readInt)
      <*> t.field "args" (fun v => .valid (argumentsOf v))
      <*> t.field "returncode" Value.readInt

/-- Reads the kind of an outcome, which must be `kind` if it is there. -/
def readKind (kind : Text) (t : Table) : Validated Unit :=
  t.fieldOr "kind" () fun
    | .text k => if k = kind then .valid () else .fail .wrongTag
    | _ => .fail .wrongTag

/-- Reads a list whose items are read one by one. -/
def Value.readItems {α : Type} (read : Value → Validated α) : Value → Validated (List α)
  | .list vs => .items read 0 vs
  | _ => .fail .notTuple

/-- Reads an outcome of a known kind from a table. -/
def Outcome.ofTable (k : OutcomeKind) (t : Table) : Validated Outcome :=
  match k with
  | .noIssues => (fun _ => .noIssues) <$> readKind k.word t
  | .issues =>
    (fun _ rs ds => .issues rs ds) <$> readKind k.word t
      <*> t.fieldOr "records" [] (Value.readItems Record.read)
      <*> t.fieldOr "diagnostics" [] (Value.readItems Diagnostic.read)
  | .toolError =>
    (fun _ d => .toolError d) <$> readKind k.word t <*> t.field "description" Value.readText
  | .superseded =>
    (fun _ p => .superseded p) <$> readKind k.word t
      <*> t.fieldOr "pid" none (Value.readOption Value.readInt)

/-- Reads an outcome of a known kind. -/
def Outcome.readAs (k : OutcomeKind) : Value → Validated Outcome := Value.readTable (ofTable k)

/-- Reads an outcome of the kind that the data name. -/
def Outcome.read : Value → Validated Outcome
  | .table t =>
    match Table.get? t "kind" with
    | none => .fail .missingTag
    | some (.text w) =>
      match OutcomeKind.ofWord? w with
      | none => .fail .unknownTag
      | some k => .under (.field w) (Outcome.ofTable k t)
    | some _ => .fail .unknownTag
  | _ => .fail .notObject

/-! ## Writing -/

/-- The data of a span. -/
def Span.toValue (s : Span) : Value := .table [("start", .int s.start), ("end", .int s.stop)]

/-- The data of a record. -/
def Record.toValue (r : Record) : Value := .table [
  ("severity", .text r.severity.word), ("line", .int r.line), ("column", .int r.column),
  ("message", .text r.message)]

/-- The data of a diagnostic. -/
def Diagnostic.toValue (d : Diagnostic) : Value := .table [
  ("span", d.span.toValue), ("severity", .text d.severity.word), ("message", .text d.message),
  ("line", .int d.line), ("column", .int d.column)]

/-- The data of a pid that may be unknown. -/
def pidValue : Option Int → Value
  | none => .null
  | some n => .int n

/-- The data of an exit. -/
def Exit.toValue (e : Exit) : Value := .table [
  ("pid", pidValue e.pid), ("args", .list (e.args.map .text)), ("returncode", .int e.status)]

/-- The data of an outcome. -/
def Outcome.toValue (o : Outcome) : Value :=
  .table <| ("kind", .text o.kind.word) :: match o with
    | .noIssues => []
    | .issues rs ds => [
        ("records", .list (rs.map Record.toValue)),
        ("diagnostics", .list (ds.map Diagnostic.toValue))]
    | .toolError d => [("description", .text d)]
    | .superseded p => [("pid", pidValue p)]

end GradleLint
