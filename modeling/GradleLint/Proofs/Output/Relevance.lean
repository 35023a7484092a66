import GradleLint.Proofs.Output.Lines
import Mathlib.Logic.Relation

/-!
# Lines that name the file

Only lines that contain the name of the file are read.  So lines without it make no difference,
wherever they stand in an output and however many there are; and a file gets every record of a file
whose name contains its own, because a line with the longer name has the shorter one too
(`recordsFor_relevant`).
-/

namespace GradleLint

/-- A line that does not contain the name, a carriage return at its end aside. -/
structure IsNoise (name line : Text) : Prop where
  one_line : '\n' ∉ line
  unnamed : ¬ name <:+: line.dropCarriageReturn

/-- The second output is the first with one more line, which does not contain the name. -/
inductive InsertsNoise (name : Text) : Text → Text → Prop where
  | first {line : Text} (h : IsNoise name line) (b : Text) : InsertsNoise name b (line ++ '\n' :: b)
  | between {line : Text} (h : IsNoise name line) (a b : Text) :
    InsertsNoise name (a ++ '\n' :: b) (a ++ '\n' :: (line ++ '\n' :: b))
  | last {line : Text} (h : IsNoise name line) (a : Text) : InsertsNoise name a (a ++ '\n' :: line)

/-! ## Lines without the name -/

lemma Grammar.recordOf?_of_isNoise (g : Grammar) {name line : Text} (h : IsNoise name line) :
    g.recordOf? name line = none :=
  if_neg fun hincludes => h.unnamed ((Text.includes_iff _ _).mp hincludes)

section

variable {path : Path} (grammar : Option Grammar)

lemma recordsFor_of_isNoise {line : Text} (h : IsNoise path.name line) :
    recordsFor path grammar line = [] := by
  unfold recordsFor
  cases grammar.or (Grammar.ofPath? path) with
  | none => rfl
  | some g =>
    show g.records path.name line = []
    rw [g.records_of_line path.name h.one_line, g.recordOf?_of_isNoise h]
    rfl

/-- One more line without the name gives no record and takes none away. -/
lemma recordsFor_of_insertsNoise {a b : Text} (h : InsertsNoise path.name a b) :
    recordsFor path grammar a = recordsFor path grammar b := by
  cases h with
  | first h b => rw [recordsFor_append_line, recordsFor_of_isNoise grammar h, List.nil_append]
  | between h a b =>
    rw [recordsFor_append_line, recordsFor_append_line, recordsFor_append_line,
      recordsFor_of_isNoise grammar h, List.nil_append]
  | last h a => rw [recordsFor_append_line, recordsFor_of_isNoise grammar h, List.append_nil]

/-- Outputs that come from each other by putting in and taking out such lines give the same. -/
lemma recordsFor_of_eqvGen {a b : Text} (h : Relation.EqvGen (InsertsNoise path.name) a b) :
    recordsFor path grammar a = recordsFor path grammar b := by
  induction h with
  | rel a b h => exact recordsFor_of_insertsNoise grammar h
  | refl a => rfl
  | symm a b _ ih => exact ih.symm
  | trans a b c _ _ ihab ihbc => exact ihab.trans ihbc

end

/-! ## Names that contain one another -/

/-- A line that gives a record for a name gives the same record for every name within it. -/
lemma Grammar.recordOf?_of_infix (g : Grammar) {name longer line : Text} {r : Record}
    (hnames : name <:+: longer) (h : g.recordOf? longer line = some r) :
    g.recordOf? name line = some r := by
  simp only [recordOf?] at h ⊢
  split at h
  · rename_i hincludes
    have hin : name <:+: line.dropCarriageReturn :=
      hnames.trans ((Text.includes_iff _ _).mp hincludes)
    rw [if_pos ((Text.includes_iff _ _).mpr hin)]
    exact h
  · cases h

lemma sublist_filterMap {α β : Type} {f f' : α → Option β} (h : ∀ a b, f a = some b → f' a = some b)
    (l : List α) : (l.filterMap f).Sublist (l.filterMap f') := by
  induction l with
  | nil => exact .slnil
  | cons a l ih =>
    cases hf : f a with
    | none =>
      rw [List.filterMap_cons_none hf]
      cases hf' : f' a with
      | none => rwa [List.filterMap_cons_none hf']
      | some b => rw [List.filterMap_cons_some hf']; exact ih.cons b
    | some b =>
      rw [List.filterMap_cons_some hf, List.filterMap_cons_some (h a b hf)]
      exact ih.cons_cons b

lemma Grammar.records_sublist (g : Grammar) {name longer : Text} (hnames : name <:+: longer)
    (output : Text) : (g.records longer output).Sublist (g.records name output) :=
  sublist_filterMap (fun _ _ h => g.recordOf?_of_infix hnames h) _

/-! ## The result -/

/-- Putting in and taking out lines that do not contain the name of the file, anywhere and any
number of them, changes no record.  If the name of the file stands within the name of another, both
read in the same grammar, then the records of the other are among those of the file, in order and as
often. -/
theorem recordsFor_relevant (path : Path) (grammar : Option Grammar) :
    (∀ a b, Relation.EqvGen (InsertsNoise path.name) a b →
      recordsFor path grammar a = recordsFor path grammar b) ∧
    ∀ (other : Path) (grammar' : Option Grammar), path.name <:+: other.name →
      grammar'.or (Grammar.ofPath? other) = grammar.or (Grammar.ofPath? path) →
      ∀ output, (recordsFor other grammar' output).Sublist (recordsFor path grammar output) := by
  refine ⟨fun a b => recordsFor_of_eqvGen grammar, fun other grammar' hnames hgrammar output => ?_⟩
  unfold recordsFor
  rw [hgrammar]
  cases grammar.or (Grammar.ofPath? path) with
  | none => exact List.Sublist.refl []
  | some g => exact g.records_sublist hnames output

/-- A report between a line about a task and an empty line. -/
theorem relevant_of_padded_report :
    InsertsNoise "Bar.kt" "e: Bar.kt: (4, 5): no" "e: Bar.kt: (4, 5): no\n" ∧
    InsertsNoise "Bar.kt" "e: Bar.kt: (4, 5): no\n" "> Task\ne: Bar.kt: (4, 5): no\n" ∧
    recordsFor (.ofText "Bar.kt") none "> Task\ne: Bar.kt: (4, 5): no\n" =
      [⟨.error, 4, 5, "no"⟩] ∧
    ("Bar.kt".toList <:+: "FooBar.kt".toList) ∧
    (recordsFor (.ofText "FooBar.kt") none "e: FooBar.kt: (4, 5): no\nw: Bar.kt: (6, 7): so").Sublist
      [⟨.error, 4, 5, "no"⟩, ⟨.warning, 6, 7, "so"⟩] := by
  have hempty : IsNoise "Bar.kt" [] := ⟨by decide, by decide⟩
  have htask : IsNoise "Bar.kt" "> Task" := ⟨by decide, by decide⟩
  have hbehind : InsertsNoise "Bar.kt" "e: Bar.kt: (4, 5): no" "e: Bar.kt: (4, 5): no\n" :=
    .last hempty _
  have hbefore : InsertsNoise "Bar.kt" "e: Bar.kt: (4, 5): no\n"
      "> Task\ne: Bar.kt: (4, 5): no\n" := .first htask _
  have hnames : "Bar.kt".toList <:+: "FooBar.kt".toList := by decide
  obtain ⟨hpadded, hother⟩ := recordsFor_relevant (.ofText "Bar.kt") none
  refine ⟨hbehind, hbefore, ?_, hnames, ?_⟩
  · rw [← hpadded _ _ (.trans _ _ _ (.rel _ _ hbehind) (.rel _ _ hbefore))]
    decide
  · exact hother (.ofText "FooBar.kt") none hnames rfl _

end GradleLint
