import GradleLint.Proofs.Text.Fields
import GradleLint.World.Environment

/-!
# Paths and their spelling

A path is regular if each of its parts is a name that reading a text can give.  A regular path is
read back from the text that it is written as (`Path.ofText_toText`).  All paths that come from
reading a text are regular, and so are those that a world makes of them by putting in a home
directory or by following links; the latter also start at the root (`World.resolve_regular`).
-/

namespace GradleLint
namespace Path

/-- Every part is a name: not empty, no single dot, and without slashes. -/
def Regular (p : Path) : Prop := ∀ part ∈ p.parts, part ≠ [] ∧ part ≠ ['.'] ∧ '/' ∉ part

/-! ## Reading what was written -/

lemma partsOf_join {parts : List Text}
    (h : ∀ part ∈ parts, part ≠ [] ∧ part ≠ ['.'] ∧ '/' ∉ part) :
    partsOf (Text.join ['/'] parts) = parts := by
  by_cases hnil : parts = []
  · rw [hnil]
    rfl
  · rw [partsOf, Text.fields_join (fun part hpart => (h part hpart).2.2) hnil,
      List.filter_eq_self]
    exact fun part hpart => decide_eq_true ⟨(h part hpart).1, (h part hpart).2.1⟩

/-- A text that does not start with a slash has the anchor of the slashes put in front of it. -/
lemma anchorOf_append {t : Text} (h : t.head? ≠ some '/') (a : Anchor) :
    anchorOf (Anchor.toText a ++ t) = a := by
  cases t with
  | nil => cases a <;> rfl
  | cons c r =>
    have hc : c ≠ '/' := fun hc => h (congrArg some hc)
    cases a <;> simp [Anchor.toText, anchorOf, hc]

lemma head?_join_ne {parts : List Text}
    (h : ∀ part ∈ parts, part ≠ [] ∧ part ≠ ['.'] ∧ '/' ∉ part) :
    (Text.join ['/'] parts).head? ≠ some '/' := by
  cases parts with
  | nil => exact nofun
  | cons first rest =>
    obtain ⟨hne, -, hslash⟩ := h first List.mem_cons_self
    obtain ⟨c, r, rfl⟩ := List.exists_cons_of_ne_nil hne
    have hhead : (Text.join ['/'] ((c :: r) :: rest)).head? = some c := by
      cases rest <;> rfl
    rw [hhead]
    rintro ⟨rfl⟩
    exact hslash List.mem_cons_self

/-- A regular path is read back from its text. -/
theorem ofText_toText {p : Path} (h : p.Regular) : ofText p.toText = p := by
  obtain ⟨a, parts⟩ := p
  unfold toText
  split
  · rename_i hdot
    obtain ⟨rfl, rfl⟩ := hdot
    rfl
  · -- A slash in front adds an empty field, which is no part.
    have hparts : partsOf (Anchor.toText a ++ Text.join ['/'] parts) = parts := by
      cases a with
      | relative => exact partsOf_join h
      | root => exact partsOf_join h
      | doubleRoot => exact partsOf_join h
    exact congrArg₂ Path.mk (anchorOf_append (head?_join_ne h) a) hparts

lemma ofText_regular (t : Text) : (ofText t).Regular := by
  intro part h
  have hproper := of_decide_eq_true (List.mem_filter.mp h).2
  exact ⟨hproper.1, hproper.2, ofText_slashFree t part h⟩

end Path

namespace World

variable {w : World}

/-! ## Paths in a world -/

lemma follow_of_resolve {p q : Path} (h : w.resolve p = .ok q) :
    w.files.follow w.depth w.cwd p.toText = .ok q := by
  obtain ⟨q', hfollow, h⟩ := Except.ok_of_bind h
  obtain rfl : q' = q := by
    split at h
    · cases h
    · cases h
    · exact Except.ok.inj h
  exact Except.ok_of_mapError hfollow

/-- Following links gives a regular path that starts at the root. -/
theorem resolve_regular {p q : Path} (h : w.resolve p = .ok q) : q.Regular ∧ q.isAbsolute := by
  have hfollow := follow_of_resolve h
  have hslash := FileSystem.follow_slashFree w.cwd_slashFree hfollow
  obtain ⟨f, -, habs⟩ := FileSystem.exists_of_follow hfollow
  obtain ⟨-, rfl⟩ := FileSystem.absolute_eq_ok_iff.mp habs
  refine ⟨fun part hpart => ?_, ?_⟩
  · obtain ⟨-, hempty, hdot, -⟩ := FileSystem.mem_collapse hpart
    exact ⟨hempty, hdot, hslash part hpart⟩
  · show ((if f.path.isAbsolute then f.path.anchor else .root) != .relative) = true
    split
    · assumption
    · rfl

lemma home_regular {user : Text} {p : Path} (h : w.home user = .ok p) : p.Regular := by
  unfold home at h
  split at h
  · cases h
  · split at h
    · cases h
    · cases h
    · obtain rfl := Except.ok.inj h
      exact List.forall_mem_nil _
    · obtain rfl := Except.ok.inj h
      exact Path.ofText_regular _

/-- Putting in a home directory keeps a path regular. -/
lemma expandHome_regular {p q : Path} (hp : p.Regular) (h : w.expandHome p = .ok q) :
    q.Regular := by
  unfold expandHome at h
  split at h
  · rename_i user rest _ hparts
    obtain ⟨home, hhome, rfl⟩ := Except.ok_of_map h
    intro part hpart
    obtain hpart | hpart := List.mem_append.mp hpart
    · exact home_regular hhome part hpart
    · exact hp part (hparts ▸ List.mem_cons_of_mem _ hpart)
  · obtain rfl := Except.ok.inj h
    exact hp

end World
end GradleLint
