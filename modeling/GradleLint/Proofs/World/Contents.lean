import GradleLint.Proofs.World.Resolved
import GradleLint.Settings.Load

/-!
# What depends on the contents of files

`World.rewrite` changes the contents of files, each in its own way, and leaves everything else of a
world as it is: at every place stands what stood there, with other contents if it is a file
(`FileTree.find?_rewrite`).

A path leads to the same place before and after (`FileSystem.locate_rewrite`).  So every question
about what a path leads to has the same answer, and a table is read differently only if the file
that the path leads to has been changed (`World.readToml_rewrite`).
-/

namespace GradleLint

/-! ## Trees -/

namespace FileTree

mutual

/-- The tree with the contents of its files changed, each according to the place where the file
stands; the tree itself stands at `place`. -/
def rewrite (change : Place → Bytes → Bytes) (place : Place) : FileTree → FileTree
  | file data executable => file (change place data) executable
  | link target => link target
  | directory children => directory (rewriteIn change place children)

/-- The things in a directory with the contents of files changed. -/
def rewriteIn (change : Place → Bytes → Bytes) (place : Place) :
    List (Text × FileTree) → List (Text × FileTree)
  | [] => []
  | (name, t) :: rest => (name, rewrite change (place ++ [name]) t) :: rewriteIn change place rest

end

variable {change : Place → Bytes → Bytes}

lemma lookup_rewriteIn (place : Place) (children : List (Text × FileTree)) (name : Text) :
    (rewriteIn change place children).lookup name =
      (children.lookup name).map (rewrite change (place ++ [name])) := by
  induction children with
  | nil => rfl
  | cons child rest ih =>
    obtain ⟨n, t⟩ := child
    rw [rewriteIn, List.lookup_cons, List.lookup_cons, ih]
    by_cases hname : name = n
    · subst hname
      simp
    · simp [beq_eq_false_iff_ne.mpr hname]

lemma child?_rewrite (place : Place) (t : FileTree) (name : Text) :
    (t.rewrite change place).child? name =
      (t.child? name).map (rewrite change (place ++ [name])) := by
  cases t with
  | file data executable => rfl
  | link target => rfl
  | directory children => exact lookup_rewriteIn place children name

/-- Below every place stands what stood there, with the contents of files changed. -/
lemma find?_rewrite (place : Place) (t : FileTree) (p : Place) :
    (t.rewrite change place).find? p = (t.find? p).map (rewrite change (place ++ p)) := by
  induction p generalizing place t with
  | nil => simp [find?]
  | cons name p ih =>
    rw [find?, find?, child?_rewrite]
    cases t.child? name with
    | none => rfl
    | some child => simp [ih]

end FileTree

/-- What stands at a place with changed contents. -/
def Entry.rewrite (change : Bytes → Bytes) : Entry → Entry
  | .file data executable => .file (change data) executable
  | .directory => .directory
  | .link target => .link target

/-! ## Ways down a tree -/

namespace Trail

/-- The way with the contents of files changed in the trees on it. -/
def rewrite (change : Place → Bytes → Bytes) : Trail → Trail
  | [] => []
  | (name, t) :: way => (name, t.rewrite change (Trail.names way ++ [name])) :: rewrite change way

variable {change : Place → Bytes → Bytes}

lemma names_rewrite (way : Trail) : (rewrite change way).names = way.names := by
  induction way with
  | nil => rfl
  | cons step way ih =>
    obtain ⟨name, t⟩ := step
    rw [rewrite, names_cons, names_cons, ih]

lemma tree_rewrite (top : FileTree) (way : Trail) :
    (rewrite change way).tree (top.rewrite change []) = (way.tree top).rewrite change way.names := by
  cases way with
  | nil => rfl
  | cons step way =>
    obtain ⟨name, t⟩ := step
    rw [names_cons]
    rfl

lemma tail_rewrite (way : Trail) : (rewrite change way).tail = rewrite change way.tail := by
  cases way <;> rfl

lemma enter_rewrite (top : FileTree) (way : Trail) (name : Text) :
    enter (top.rewrite change []) (rewrite change way) name = rewrite change (way.enter top name) := by
  rw [enter, enter, tree_rewrite, FileTree.child?_rewrite, rewrite]
  cases (way.tree top).child? name <;> rfl

end Trail

/-! ## File systems -/

namespace FileSystem

/-- The file system with the contents of files changed. -/
def rewrite (change : Place → Bytes → Bytes) (fs : FileSystem) : FileSystem :=
  { fs with root := fs.root.rewrite change [] }

variable {change : Place → Bytes → Bytes} {fs : FileSystem}

lemma trailTo_rewrite (place : Place) :
    (fs.rewrite change).trailTo place = (fs.trailTo place).rewrite change := by
  induction place using List.reverseRecOn with
  | nil => rfl
  | append_singleton place name ih =>
    rw [trailTo_concat, trailTo_concat, ih]
    exact Trail.enter_rewrite fs.root (fs.trailTo place) name

lemma startOf_rewrite (way : Trail) (t : Text) :
    startOf (way.rewrite change) t = (startOf way t).rewrite change := by
  unfold startOf
  split <;> rfl

/-- A walk arrives at the same place, whatever is in the files. -/
lemma walk_rewrite (links : Nat) (way : Trail) (steps : List Text) :
    (fs.rewrite change).walk links (way.rewrite change) steps =
      (fs.walk links way steps).map fun found => (found.1, found.2.rewrite (change found.1)) := by
  have hchild : ∀ (way : Trail) (s : Text),
      ((way.rewrite change).tree (fs.rewrite change).root).child? s =
        ((way.tree fs.root).child? s).map (FileTree.rewrite change (way.names ++ [s])) :=
    fun way s => by rw [rewrite, Trail.tree_rewrite, FileTree.child?_rewrite]
  have hbarred : ∀ way : Trail, (way.rewrite change).names ∈ (fs.rewrite change).unsearchable ↔
      way.names ∈ fs.unsearchable :=
    fun way => by rw [Trail.names_rewrite, rewrite]
  fun_induction walk fs links way steps
  case case1 => rw [walk, Trail.names_rewrite]; rfl
  case case2 ih => rw [walk, if_pos rfl, ih]
  case case3 hempty hforbidden =>
    rw [walk, if_neg hempty, if_pos ((hbarred _).mpr hforbidden)]
    rfl
  case case4 hsearch hempty ih =>
    rw [walk, if_neg hempty, if_neg (mt (hbarred _).mp hsearch), if_pos rfl, ih]
  case case5 hsearch hempty hdot ih =>
    rw [walk, if_neg hempty, if_neg (mt (hbarred _).mp hsearch), if_neg hdot, if_pos rfl,
      Trail.tail_rewrite, ih]
  case case6 hempty hsearch hdot hdots hlong =>
    rw [walk, if_neg hempty, if_neg (mt (hbarred _).mp hsearch), if_neg hdot, if_neg hdots,
      if_pos hlong]
    rfl
  case case7 hempty hsearch hdot hdots hlong hfound =>
    rw [walk, if_neg hempty, if_neg (mt (hbarred _).mp hsearch), if_neg hdot, if_neg hdots,
      if_neg hlong, hchild, hfound]
    rfl
  case case8 way s rest hempty hsearch hdot hdots hlong children hfound ih =>
    rw [walk, if_neg hempty, if_neg (mt (hbarred _).mp hsearch), if_neg hdot, if_neg hdots,
      if_neg hlong, hchild, hfound]
    exact ih
  case case9 hempty hsearch hdot hdots hlong data executable hfound =>
    rw [walk, if_neg hempty, if_neg (mt (hbarred _).mp hsearch), if_neg hdot, if_neg hdots,
      if_neg hlong, hchild, hfound, Trail.names_rewrite]
    rfl
  case case10 hempty hsearch hdot hdots hlong data executable hfound hrest =>
    rw [walk, if_neg hempty, if_neg (mt (hbarred _).mp hsearch), if_neg hdot, if_neg hdots,
      if_neg hlong, hchild, hfound]
    exact if_neg hrest
  case case11 hempty hsearch hdot hdots hlong target hfound =>
    rw [walk, if_neg hempty, if_neg (mt (hbarred _).mp hsearch), if_neg hdot, if_neg hdots,
      if_neg hlong, hchild, hfound]
    rfl
  case case12 hempty hsearch hdot hdots hlong target hfound links ih =>
    rw [walk, if_neg hempty, if_neg (mt (hbarred _).mp hsearch), if_neg hdot, if_neg hdots,
      if_neg hlong, hchild, hfound]
    rw [← startOf_rewrite] at ih
    exact ih

lemma locate_rewrite (cwd : Place) (t : Text) :
    (fs.rewrite change).locate cwd t =
      (fs.locate cwd t).map fun found => (found.1, found.2.rewrite (change found.1)) := by
  unfold locate
  split
  · rfl
  · split
    · rfl
    · split
      · rfl
      · rw [trailTo_rewrite, startOf_rewrite, walk_rewrite]

/-- The same links are on a way. -/
lemma Route.link?_rewrite (cwd : Place) (a : Anchor) (way : Trail) :
    Route.link? (fs.rewrite change) cwd ⟨a, way.rewrite change⟩ =
      Route.link? fs cwd ⟨a, way⟩ := by
  cases way with
  | nil => rfl
  | cons step way =>
    obtain ⟨name, t⟩ := step
    have hpath : (Route.mk a (Trail.rewrite change ((name, t) :: way))).path =
        (Route.mk a ((name, t) :: way)).path :=
      congrArg (Path.mk a) (Trail.names_rewrite _)
    cases t with
    | link target =>
      exact congrArg (fun p : Path => if fs.Reaches cwd p then some target else none) hpath
    | file data executable => rfl
    | directory children => rfl

lemma Settled.rewrite {place : Place} (h : fs.Settled place) : (fs.rewrite change).Settled place := by
  intro above habove
  rw [trailTo_rewrite, Route.link?_rewrite]
  exact h above habove

end FileSystem

/-! ## Worlds -/

namespace World

/-- The world with the contents of files changed. -/
def rewrite (change : Place → Bytes → Bytes) (w : World) : World :=
  { w with files := w.files.rewrite change }

variable {change : Place → Bytes → Bytes} {w : World}

lemma Settled.rewrite {p : Path} (h : w.Settled p) : (w.rewrite change).Settled p :=
  ⟨h.anchor, h.names, h.settled.rewrite⟩

lemma entry_rewrite (t : Text) :
    entry? (w.rewrite change) t =
      (w.files.locate w.cwd t).map fun found => found.2.rewrite (change found.1) := by
  unfold entry?
  rw [rewrite, FileSystem.locate_rewrite]
  cases w.files.locate w.cwd t <;> rfl

/-- What a path leads to looks the same to those who do not ask what is in a file. -/
lemma find_rewrite {α : Type} {ask : Option Entry → α}
    (hask : ∀ (e : Entry) (c : Bytes → Bytes), ask (some (e.rewrite c)) = ask (some e)) (t : Text) :
    ((w.rewrite change).find t).map ask = (w.find t).map ask := by
  unfold find
  rw [entry_rewrite, entry?]
  cases w.files.locate w.cwd t with
  | ok found => exact congrArg Except.ok (hask found.2 (change found.1))
  | error e => rfl

lemma occupied_rewrite (t : Text) : (w.rewrite change).occupied t = w.occupied t :=
  find_rewrite (fun _ _ => rfl) t

lemma isFile_rewrite (t : Text) : (w.rewrite change).isFile t = w.isFile t :=
  find_rewrite (fun e _ => by cases e <;> rfl) t

lemma isDirectory_rewrite (t : Text) : (w.rewrite change).isDirectory t = w.isDirectory t :=
  find_rewrite (fun e _ => by cases e <;> rfl) t

/-- A file is read differently only if it has changed. -/
lemma readFile_rewrite {file : Path}
    (h : ∀ place data executable,
      w.files.locate w.cwd file.toText = .ok (place, .file data executable) →
        change place data = data) :
    (w.rewrite change).readFile file = w.readFile file := by
  unfold readFile rewrite
  dsimp only
  rw [FileSystem.locate_rewrite]
  cases hlocate : w.files.locate w.cwd file.toText with
  | error e => rfl
  | ok found =>
    obtain ⟨place, entry⟩ := found
    refine if_congr Iff.rfl ?_ rfl
    cases entry with
    | file data executable => exact congrArg Except.ok (h place data executable hlocate)
    | directory => rfl
    | link target => rfl

/-- A table is read differently only if the file that it is read from has changed. -/
lemma readToml_rewrite {file : Path}
    (h : ∀ place data executable,
      w.files.locate w.cwd file.toText = .ok (place, .file data executable) →
        change place data = data) :
    (w.rewrite change).readToml file = w.readToml file := by
  unfold readToml
  rw [isFile_rewrite, readFile_rewrite h]

end World
end GradleLint
