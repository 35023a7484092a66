import GradleLint.Controller.Capture
import Mathlib.Tactic.Common

/-!
# What a buffer answers

What a buffer answers is decided by the operations before.  As long as none of them has closed
it, a buffer hands out all that was handed in, in one piece, whatever the cuts between the chunks
were.  Once one of them has, it holds nothing, refuses to take or to hand out anything, and nothing
opens it again (`Capture.kept_until_closed`).

All of this rests on two facts on single operations: an open buffer stands for the text in it and
for nothing else (`text_step`, `step_congr`), and a closed one is the same after every operation
(`step_released`).
-/

namespace GradleLint
namespace Capture

/-! ## Operations in order -/

/-- An operation closes a buffer: it releases it, or leaves the block in which it is used. -/
def Op.closes : Op → Bool
  | release | leave => true
  | append _ | text | enter => false

/-- What an operation hands in. -/
def Op.chunk : Op → Text
  | append chunk => chunk
  | _ => []

/-- All that some operations hand in, in one piece. -/
def handedIn (ops : List Op) : Text := ops.flatMap Op.chunk

/-- The buffer after some operations. -/
def after (c : Capture) (ops : List Op) : Capture := ops.foldl (fun c op => (c.step op).1) c

@[simp] lemma after_nil (c : Capture) : c.after [] = c := rfl

@[simp] lemma after_cons (c : Capture) (op : Op) (ops : List Op) :
    c.after (op :: ops) = (c.step op).1.after ops := rfl

lemma after_append (c : Capture) (ops more : List Op) :
    c.after (ops ++ more) = (c.after ops).after more := List.foldl_append

lemma run_append (c : Capture) (ops more : List Op) :
    c.run (ops ++ more) = c.run ops ++ (c.after ops).run more := by
  induction ops generalizing c with
  | nil => rfl
  | cons op ops ih => rw [List.cons_append, run, ih, run, after_cons, List.cons_append]

@[simp] lemma length_run (c : Capture) (ops : List Op) : (c.run ops).length = ops.length := by
  induction ops generalizing c with
  | nil => rfl
  | cons op ops ih => rw [run, List.length_cons, ih, List.length_cons]

/-- What comes of operations once some others have been performed. -/
lemma drop_run (c : Capture) (past later : List Op) :
    (c.run (past ++ later)).drop past.length = (c.after past).run later := by
  rw [run_append, List.drop_left' (length_run c past)]

lemma getElem?_run (c : Capture) (past : List Op) (op : Op) (later : List Op) :
    (c.run (past ++ op :: later))[past.length]? = some ((c.after past).step op) := by
  rw [← List.head?_drop, drop_run]
  rfl

/-! ## Closing -/

lemma step_of_closes (c : Capture) {op : Op} (h : op.closes = true) :
    c.step op = (released, .done) := by
  cases op with
  | release | leave => rfl
  | append chunk | text | enter => simp [Op.closes] at h

/-- Nothing opens a closed buffer. -/
lemma step_released (op : Op) : (released.step op).1 = released := by
  cases op <;> rfl

lemma after_released (ops : List Op) : released.after ops = released := by
  induction ops with
  | nil => rfl
  | cons op ops ih => rw [after_cons, step_released, ih]

lemma after_of_closed (c : Capture) {ops : List Op} (h : ∃ op ∈ ops, op.closes = true) :
    c.after ops = released := by
  obtain ⟨op, hmem, hop⟩ := h
  obtain ⟨before, behind, rfl⟩ := List.append_of_mem hmem
  rw [after_append, after_cons, step_of_closes _ hop, after_released]

/-! ## Holding -/

lemma isReleased_of_text {c : Capture} {held : Text} (h : c.text = .ok held) :
    c.isReleased = false := by
  cases c with
  | live chunks => rfl
  | released => simp [text] at h

/-- An operation that does not close a buffer adds to the text in it what the operation hands
in. -/
lemma text_step {c : Capture} {held : Text} (h : c.text = .ok held) {op : Op}
    (hop : op.closes = false) : (c.step op).1.text = .ok (held ++ op.chunk) := by
  cases c with
  | released => simp [text] at h
  | live chunks =>
    obtain rfl : chunks.flatten = held := by simpa [text] using h
    cases op with
    | append chunk => simp [step, append, text, Op.chunk]
    | text | enter => simp [step, text, Op.chunk]
    | release | leave => simp [Op.closes] at hop

lemma text_after {c : Capture} {held : Text} (h : c.text = .ok held) {ops : List Op}
    (hopen : ∀ op ∈ ops, op.closes = false) :
    (c.after ops).text = .ok (held ++ handedIn ops) := by
  induction ops generalizing c held with
  | nil => simpa [handedIn] using h
  | cons op ops ih =>
    obtain ⟨hop, hrest⟩ := List.forall_mem_cons.mp hopen
    rw [after_cons, ih (text_step h hop) hrest, List.append_assoc]
    rfl

lemma text_after_empty {ops : List Op} (hopen : ∀ op ∈ ops, op.closes = false) :
    (empty.after ops).text = .ok (handedIn ops) := by
  have hnew : empty.text = .ok [] := rfl
  exact text_after hnew hopen

/-! ## Buffers of the same text -/

/-- What a step shows to the outside: whether the buffer is closed then, and the answer. -/
def shown (answer : Capture × Reply) : Bool × Reply := (answer.1.isReleased, answer.2)

/-- A step shows no more of a buffer than the text in it, and leaves no other difference. -/
lemma step_congr {c c' : Capture} (h : c.text = c'.text) (op : Op) :
    shown (c.step op) = shown (c'.step op) ∧ (c.step op).1.text = (c'.step op).1.text := by
  match c, c' with
  | live chunks, live chunks' =>
    have hflat : chunks.flatten = chunks'.flatten := by simpa [text] using h
    cases op <;> simp [step, append, text, shown, isReleased, hflat]
  | live chunks, released => simp [text] at h
  | released, live chunks => simp [text] at h
  | released, released => exact ⟨rfl, rfl⟩

lemma run_congr {c c' : Capture} (h : c.text = c'.text) (ops : List Op) :
    (c.run ops).map shown = (c'.run ops).map shown := by
  induction ops generalizing c c' with
  | nil => rfl
  | cons op ops ih =>
    obtain ⟨hshown, htext⟩ := step_congr h op
    rw [run, run, List.map_cons, List.map_cons, hshown, ih htext]

/-! ## The answers of a buffer -/

/-- What an operation finds, answers and leaves while nothing has closed the buffer.  The
operations before are `past`. -/
structure Collects (past : List Op) (before : Capture) (op : Op) (left : Capture)
    (reply : Reply) : Prop where
  unreleased : before.isReleased = false
  appended : ∀ chunk, op = .append chunk →
    reply = .done ∧ left.text = .ok (handedIn past ++ chunk)
  read : op = .text → reply = .captured (handedIn past) ∧ left = before
  entered : op = .enter → reply = .entered ∧ left = before
  closed : op.closes = true → reply = .done ∧ left = .released

/-- What an operation finds, answers and leaves once the buffer has been closed. -/
structure Refuses (before : Capture) (op : Op) (left : Capture) (reply : Reply) : Prop where
  found : before = .released
  unchanged : left = .released
  appended : ∀ chunk, op = .append chunk → reply = .refused .released
  read : op = .text → reply = .refused .released
  entered : op = .enter → reply = .entered
  closed : op.closes = true → reply = .done

lemma collects_step {past : List Op} {c : Capture} (h : c.text = .ok (handedIn past))
    (op : Op) : Collects past c op (c.step op).1 (c.step op).2 where
  unreleased := isReleased_of_text h
  appended := by
    rintro chunk rfl
    refine ⟨?_, text_step h rfl⟩
    cases c with
    | live chunks => rfl
    | released => simp [text] at h
  read := by
    rintro rfl
    simp [step, h]
  entered := by
    rintro rfl
    exact ⟨rfl, rfl⟩
  closed hop := by
    rw [step_of_closes c hop]
    exact ⟨rfl, rfl⟩

lemma refuses_step (op : Op) :
    Refuses released op (released.step op).1 (released.step op).2 where
  found := rfl
  unchanged := step_released op
  appended := by
    rintro chunk rfl
    rfl
  read := by
    rintro rfl
    rfl
  entered := by
    rintro rfl
    rfl
  closed hop := by rw [step_of_closes released hop]

/-- Every operation on a new buffer gets an answer, decided by the operations before.  Until the
first of them that closes the buffer, all that was handed in is there in one piece, and operations
that hand in the same by other chunks make no difference to anything that comes later.  From then
on the buffer stays closed, takes nothing and hands out nothing. -/
theorem kept_until_closed (past : List Op) (op : Op) (later : List Op) :
    ∃ left reply, (empty.run (past ++ op :: later))[past.length]? = some (left, reply) ∧
      ((∀ o ∈ past, o.closes = false) → Collects past (empty.after past) op left reply ∧
        ∀ other : List Op, (∀ o ∈ other, o.closes = false) → handedIn other = handedIn past →
          ((empty.run (other ++ op :: later)).drop other.length).map shown =
            ((empty.run (past ++ op :: later)).drop past.length).map shown) ∧
      ((∃ o ∈ past, o.closes = true) → Refuses (empty.after past) op left reply) := by
  refine ⟨_, _, getElem?_run empty past op later, fun hopen => ⟨?_, ?_⟩, fun hclosed => ?_⟩
  · exact collects_step (text_after_empty hopen) op
  · intro other hother hsame
    rw [drop_run, drop_run]
    apply run_congr
    rw [text_after_empty hother, text_after_empty hopen, hsame]
  · rw [after_of_closed empty hclosed]
    exact refuses_step op

/-- A buffer that is entered again after it was left stays closed. -/
example : (empty.run [.enter, .append ['a'], .append ['b'], .text, .leave, .enter, .append ['c'],
      .text, .release]).map (·.2) =
    [.entered, .done, .done, .captured ['a', 'b'], .done, .entered, .refused .released,
      .refused .released, .done] := by decide

end Capture
end GradleLint
