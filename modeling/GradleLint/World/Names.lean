import GradleLint.Data.Attempt
import GradleLint.World.Route

/-!
# Names without slashes

Slashes part the names of a path, so no name holds one.  This is what a working directory must
satisfy, and what the place that a path stands for satisfies, whatever the path and the links that
it leads through (`FileSystem.destination_slashFree`).
-/

namespace GradleLint

/-- None of the names holds a slash. -/
def Place.SlashFree (names : Place) : Prop := ∀ name ∈ names, '/' ∉ name

instance (names : Place) : Decidable names.SlashFree :=
  inferInstanceAs (Decidable (∀ name ∈ names, '/' ∉ name))

theorem Place.slashFree_nil : Place.SlashFree [] := List.forall_mem_nil _

/-! ## What is read from a text -/

theorem Text.fields_slashFree (t : Text) : Place.SlashFree (t.fields '/') :=
  fun _ h hslash => (Text.mem_of_mem_fields h hslash).2 rfl

theorem FileSystem.writtenSteps_slashFree (t : Text) : Place.SlashFree (writtenSteps t) :=
  Text.fields_slashFree t

theorem Path.ofText_slashFree (t : Text) : Place.SlashFree (Path.ofText t).parts :=
  fun name h => Text.fields_slashFree t name (List.mem_filter.mp h).1

theorem Path.div_slashFree {p q : Path} (hp : Place.SlashFree p.parts)
    (hq : Place.SlashFree q.parts) : Place.SlashFree (p / q).parts := by
  show Place.SlashFree (p.resolveAgainst q).parts
  unfold resolveAgainst
  split
  · exact hq
  · exact fun name h => (List.mem_append.mp h).elim (hp name) (hq name)

/-! ## Following links -/

/-- None of the names taken on a way holds a slash. -/
def Trail.SlashFree (way : Trail) : Prop := ∀ step ∈ way, '/' ∉ step.1

theorem Trail.slashFree_nil : Trail.SlashFree [] := List.forall_mem_nil _

theorem Trail.SlashFree.names {way : Trail} (h : way.SlashFree) : way.names.SlashFree := by
  intro name hname
  obtain ⟨step, hstep, rfl⟩ := List.mem_map.mp (List.mem_reverse.mp hname)
  exact h step hstep

namespace FileSystem

variable {fs : FileSystem} {cwd : Place}

theorem Route.enter_slashFree {r : Route} {name : Text} (hname : '/' ∉ name)
    (h : r.way.SlashFree) : (r.enter fs cwd name).way.SlashFree :=
  List.forall_mem_cons.mpr ⟨hname, h⟩

theorem Route.oneUp_slashFree {r : Route} (h : r.way.SlashFree) :
    (r.oneUp fs cwd).way.SlashFree := by
  have habove : ∀ t : FileTree, Trail.SlashFree ((['.', '.'], t) :: r.way) :=
    fun _ => List.forall_mem_cons.mpr ⟨by simp, h⟩
  unfold oneUp
  split
  · split
    · exact habove _
    · exact h
  · rename_i name t rest hway
    split
    · exact habove _
    · rw [hway] at h
      exact (List.forall_mem_cons.mp h).2

theorem Route.startFrom_slashFree {r : Route} (steps : List Text) (h : r.way.SlashFree) :
    (r.startFrom steps).way.SlashFree := by
  unfold startFrom
  split
  · exact Trail.slashFree_nil
  · exact h

theorem leftAsIs_slashFree {p : Path} (steps : List Text) (h : Place.SlashFree p.parts) :
    Place.SlashFree (leftAsIs p steps).parts :=
  Path.div_slashFree h (Path.ofText_slashFree _)

/-- None of the names gone so far, nor of those that known links stand for, holds a slash. -/
def Followed.SlashFree : Followed → Prop
  | .free r known => r.way.SlashFree ∧ ∀ link ∈ known, link.2.way.SlashFree
  | .looped p => Place.SlashFree p.parts

/-- Following links takes up no name with a slash. -/
theorem followSteps_slashFree {depth : Nat} {busy : List Path} {known : List (Path × Route)}
    {r : Route} {steps : List Text} (h : (Followed.free r known).SlashFree)
    (hsteps : Place.SlashFree steps) {f : Followed}
    (hf : followSteps fs cwd depth busy known r steps = .ok f) : f.SlashFree := by
  -- Only a step by a name takes up anything; the name is one of the steps.
  have hnext : ∀ {r : Route} {known : List (Path × Route)} {s : Text} {rest : List Text},
      (Followed.free r known).SlashFree → Place.SlashFree (s :: rest) →
        (Followed.free (r.enter fs cwd s) known).SlashFree :=
    fun h hsteps => ⟨Route.enter_slashFree (List.forall_mem_cons.mp hsteps).1 h.1, h.2⟩
  have hlooped : ∀ {r : Route} {known : List (Path × Route)} (rest : List Text),
      (Followed.free r known).SlashFree → (Followed.looped (leftAsIs r.path rest)).SlashFree :=
    fun rest h => leftAsIs_slashFree rest h.1.names
  fun_induction followSteps generalizing f
  case case1 =>
    obtain rfl := Except.ok.inj hf
    exact h
  case case2 ih => exact ih h (List.forall_mem_cons.mp hsteps).2 hf
  case case3 ih =>
    exact ih ⟨Route.oneUp_slashFree h.1, h.2⟩ (List.forall_mem_cons.mp hsteps).2 hf
  case case4 => cases hf
  case case5 ih => exact ih (hnext h hsteps) (List.forall_mem_cons.mp hsteps).2 hf
  case case6 q hlookup ih =>
    obtain ⟨before, after, hknown, -⟩ := List.lookup_eq_some_iff.mp hlookup
    have hq : q.way.SlashFree := h.2 _ (hknown ▸ List.mem_append_right before List.mem_cons_self)
    exact ih ⟨hq, h.2⟩ (List.forall_mem_cons.mp hsteps).2 hf
  case case7 =>
    obtain rfl := Except.ok.inj hf
    exact hlooped _ (hnext h hsteps)
  case case8 => cases hf
  case case9 _ _ _ _ _ _ _ _ hinner ihinner ih =>
    have hq := ihinner ⟨Route.startFrom_slashFree _ h.1, h.2⟩ (writtenSteps_slashFree _) hinner
    exact ih ⟨hq.1, List.forall_mem_cons.mpr hq⟩ (List.forall_mem_cons.mp hsteps).2 hf
  case case10 _ _ _ _ _ _ _ hinner ihinner =>
    have hq := ihinner ⟨Route.startFrom_slashFree _ h.1, h.2⟩ (writtenSteps_slashFree _) hinner
    obtain rfl := Except.ok.inj hf
    exact leftAsIs_slashFree _ hq
  case case11 => cases hf

/-! ## The place that a path stands for -/

/-- What is gone back over or let stand was there before or is one of the steps, and then a
proper name. -/
theorem mem_foldl_stepBack {steps : List Text} {names : Place} {name : Text}
    (h : name ∈ steps.foldl stepBack names) :
    name ∈ names ∨ (name ∈ steps ∧ name ≠ [] ∧ name ≠ ['.'] ∧ name ≠ ['.', '.']) := by
  induction steps generalizing names with
  | nil => exact .inl h
  | cons s rest ih =>
    obtain h | ⟨hmem, hproper⟩ := ih h
    · unfold stepBack at h
      split at h
      · exact .inl h
      · split at h
        · exact .inl (List.mem_of_mem_tail h)
        · rename_i hdot hdots
          obtain rfl | h := List.mem_cons.mp h
          · exact .inr ⟨List.mem_cons_self, not_or.mp hdot |>.1, not_or.mp hdot |>.2, hdots⟩
          · exact .inl h
    · exact .inr ⟨List.mem_cons_of_mem s hmem, hproper⟩

/-- What is left of steps are names, neither empty nor made of one or two dots. -/
theorem mem_collapse {steps : List Text} {name : Text} (h : name ∈ collapse steps) :
    name ∈ steps ∧ name ≠ [] ∧ name ≠ ['.'] ∧ name ≠ ['.', '.'] :=
  (mem_foldl_stepBack (List.mem_reverse.mp h)).resolve_left List.not_mem_nil

theorem placeOf_slashFree {cwd : Place} {p : Path} (hcwd : cwd.SlashFree)
    (hp : Place.SlashFree p.parts) : (placeOf cwd p).SlashFree := by
  intro name h
  have hmem := (mem_collapse h).1
  split at hmem
  · exact hp name hmem
  · exact (List.mem_append.mp hmem).elim (hcwd name) (hp name)

/-- Only a path that starts at the root, or is seen from a directory that is there, is made
absolute. -/
theorem absolute_eq_ok_iff {p q : Path} : fs.absolute cwd p = .ok q ↔
    (p.isAbsolute ∨ fs.hasDirectory cwd) ∧
      q = ⟨if p.isAbsolute then p.anchor else .root, placeOf cwd p⟩ := by
  unfold absolute
  cases p.isAbsolute <;> cases fs.hasDirectory cwd <;> simp [eq_comm]

/-- What a path stands for is the place at which following its links ends. -/
theorem exists_of_follow {depth : Nat} {t : Text} {p : Path} (h : fs.follow depth cwd t = .ok p) :
    ∃ f : Followed, f.SlashFree ∧ fs.absolute cwd f.path = .ok p := by
  obtain ⟨f, hf, h⟩ := Except.ok_of_bind h
  have hstart : Trail.SlashFree (Route.startFrom ⟨.relative, []⟩ (writtenSteps t)).way :=
    Route.startFrom_slashFree _ Trail.slashFree_nil
  have hfree := followSteps_slashFree ⟨hstart, List.forall_mem_nil _⟩ (writtenSteps_slashFree t) hf
  exact ⟨f, hfree, h⟩

theorem follow_slashFree {depth : Nat} {t : Text} {p : Path} (hcwd : cwd.SlashFree)
    (h : fs.follow depth cwd t = .ok p) : Place.SlashFree p.parts := by
  obtain ⟨f, hf, h⟩ := exists_of_follow h
  have hpath : Place.SlashFree f.path.parts := by
    cases f with
    | free r known => exact hf.1.names
    | looped p => exact hf
  obtain ⟨-, rfl⟩ := absolute_eq_ok_iff.mp h
  exact placeOf_slashFree hcwd hpath

/-- The place that a text stands for is fit to be a working directory. -/
theorem destination_slashFree (fs : FileSystem) (t : Text) : (fs.destination t).SlashFree := by
  unfold destination
  split
  · rename_i p h
    exact follow_slashFree (List.forall_mem_nil _) h
  · exact List.forall_mem_nil _

end FileSystem
end GradleLint
