import GradleLint.Proofs.Output.Attempts
import GradleLint.Proofs.Text.Returns

/-!
# Output is read line by line

Lines end at line feeds and nowhere else, and each is read on its own: a line feed in the middle
of an output cuts it into two outputs that are read one after the other
(`recordsFor_append_line`), and a single line gives one record at most.  One carriage return at
the end of a line does not count, so it makes no difference whether every line feed has one
before it (`recordsFor_withReturns`).
-/

namespace GradleLint

/-! ## Outputs in one grammar -/

namespace Grammar

variable (g : Grammar) (name : Text)

lemma records_append_line (a b : Text) :
    g.records name (a ++ '\n' :: b) = g.records name a ++ g.records name b := by
  rw [records, Text.fields_append_cons, List.filterMap_append]
  rfl

lemma records_of_line {line : Text} (h : '\n' ∉ line) :
    g.records name line = (g.recordOf? name line).toList := by
  rw [records, Text.fields_of_not_mem h]
  cases hr : g.recordOf? name line <;> simp [hr]

/-- What counts of a line is what is left without the carriage return. -/
lemma filterMap_recordOf?_congr {ls ms : List Text}
    (h : ls.map Text.dropCarriageReturn = ms.map Text.dropCarriageReturn) :
    ls.filterMap (g.recordOf? name) = ms.filterMap (g.recordOf? name) := by
  have hfactor : g.recordOf? name = (fun line =>
      if Text.includes name line then (g.readLine line).toOption else none) ∘
        Text.dropCarriageReturn := rfl
  rw [hfactor, ← List.filterMap_map, ← List.filterMap_map, h]

lemma records_withReturns {output : Text} (h : '\r' ∉ output) :
    g.records name output.withReturns = g.records name output := by
  refine g.filterMap_recordOf?_congr name ?_
  have hline : ∀ line ∈ output.fields '\n', line.dropCarriageReturn = line := fun line hline =>
    Text.dropCarriageReturn_of_not_mem fun hr => h (Text.mem_of_mem_fields hline hr).1
  rw [Text.fields_withReturns h, List.map_congr_left hline, List.map_id']

end Grammar

/-! ## Outputs for a file -/

section

variable (path : Path) (grammar : Option Grammar)

lemma recordsFor_append_line (a b : Text) :
    recordsFor path grammar (a ++ '\n' :: b) =
      recordsFor path grammar a ++ recordsFor path grammar b := by
  unfold recordsFor
  cases grammar.or (Grammar.ofPath? path) with
  | none => rfl
  | some g => exact g.records_append_line path.name a b

lemma length_recordsFor_of_line {line : Text} (h : '\n' ∉ line) :
    (recordsFor path grammar line).length ≤ 1 := by
  unfold recordsFor
  cases grammar.or (Grammar.ofPath? path) with
  | none => exact Nat.zero_le 1
  | some g =>
    show (g.records path.name line).length ≤ 1
    rw [g.records_of_line path.name h]
    exact Option.length_toList_le

lemma recordsFor_eq_flatMap (output : Text) :
    recordsFor path grammar output = (output.fields '\n').flatMap (recordsFor path grammar) := by
  unfold recordsFor
  cases grammar.or (Grammar.ofPath? path) with
  | none => exact (List.flatMap_eq_nil_iff.mpr fun _ _ => rfl).symm
  | some g =>
    have hline : ∀ line ∈ output.fields '\n',
        g.records path.name line = (g.recordOf? path.name line).toList := by
      intro line hline
      exact g.records_of_line path.name (Text.not_mem_of_mem_fields hline)
    show g.records path.name output = (output.fields '\n').flatMap (g.records path.name)
    rw [List.flatMap_congr hline, Grammar.records]
    exact List.filterMap_eq_flatMap_toList _ _

lemma recordsFor_withReturns {output : Text} (h : '\r' ∉ output) :
    recordsFor path grammar output.withReturns = recordsFor path grammar output := by
  unfold recordsFor
  cases grammar.or (Grammar.ofPath? path) with
  | none => rfl
  | some g => exact g.records_withReturns path.name h

end

/-- Reading never fails; what two outputs give, one after the other, is what they give together;
every record comes from one line alone, and a line gives one at most; and carriage returns before
the line feeds make no difference. -/
theorem recordsFor_line_by_line (path : Path) (grammar : Option Grammar) :
    (∀ output, attemptRecords path grammar output = .ok (recordsFor path grammar output)) ∧
    (∀ a b, recordsFor path grammar (a ++ '\n' :: b) =
      recordsFor path grammar a ++ recordsFor path grammar b) ∧
    (∀ output, recordsFor path grammar output =
      (output.fields '\n').flatMap (recordsFor path grammar)) ∧
    (∀ line, '\n' ∉ line → (recordsFor path grammar line).length ≤ 1) ∧
    ∀ output, '\r' ∉ output →
      recordsFor path grammar output.withReturns = recordsFor path grammar output :=
  ⟨attemptRecords_eq path grammar, recordsFor_append_line path grammar,
    recordsFor_eq_flatMap path grammar, fun _ => length_recordsFor_of_line path grammar,
    fun _ => recordsFor_withReturns path grammar⟩

/-- Two lines, each ended in either way. -/
theorem records_of_two_lines :
    (recordsFor (.ofText "A.kt") none "e: A.kt: (3, 4): no").length ≤ 1 ∧
    recordsFor (.ofText "A.kt") none
        (Text.withReturns "e: A.kt: (3, 4): no\nw: A.kt: (5, 6): so: then") =
      [⟨.error, 3, 4, "no"⟩, ⟨.warning, 5, 6, "so: then"⟩] := by
  obtain ⟨-, -, -, hsingle, hreturns⟩ := recordsFor_line_by_line (.ofText "A.kt") none
  refine ⟨hsingle _ (by decide), ?_⟩
  rw [hreturns _ (by decide)]
  decide

end GradleLint
