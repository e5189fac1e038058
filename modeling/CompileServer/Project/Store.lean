import CompileServer.Path.Order
import CompileServer.Project.Basic

/-!
# The store of projects

The store keeps one project for every key, in the order of the keys.  An entry
keeps the spelling of the key it was first stored under.
-/

namespace CompileServer

/-- Projects by key, in strictly increasing order of the keys. -/
structure Store (α : Type) where
  entries : List (Path × Project α)
  ordered : entries.Pairwise fun a b => Path.order a.1 b.1 = .lt

namespace Store

variable {α : Type}

/-- The store without projects. -/
def empty : Store α :=
  ⟨[], .nil⟩

instance : Inhabited (Store α) := ⟨empty⟩

/-- The project under a key. -/
def lookup (key : Path) : List (Path × Project α) → Option (Project α)
  | [] => none
  | entry :: rest => if key ≈ entry.1 then some entry.2 else lookup key rest

/-- Puts a project under its key among ordered entries. -/
def insertEntry (project : Project α) : List (Path × Project α) → List (Path × Project α)
  | [] => [(project.projectFile, project)]
  | entry :: rest =>
    match Path.order project.projectFile entry.1 with
    | .lt => (project.projectFile, project) :: entry :: rest
    | .eq => (entry.1, project) :: rest
    | .gt => entry :: insertEntry project rest

theorem order_lt_of_mem_insertEntry {project : Project α} {least : Path}
    {entries : List (Path × Project α)} (below : ∀ entry ∈ entries, Path.order least entry.1 = .lt)
    (belowNew : Path.order least project.projectFile = .lt) :
    ∀ entry ∈ insertEntry project entries, Path.order least entry.1 = .lt := by
  induction entries with
  | nil => simpa [insertEntry] using belowNew
  | cons entry rest ih =>
    have belowRest := fun other inRest => below other (List.mem_cons_of_mem _ inRest)
    have belowEntry := below entry List.mem_cons_self
    intro other inserted
    unfold insertEntry at inserted
    split at inserted <;> simp only [List.mem_cons] at inserted
    · rcases inserted with rfl | rfl | inRest
      · exact belowNew
      · exact belowEntry
      · exact belowRest _ inRest
    · rcases inserted with rfl | inRest
      · exact belowEntry
      · exact belowRest _ inRest
    · rcases inserted with rfl | inRest
      · exact belowEntry
      · exact ih belowRest _ inRest

theorem insertEntry_ordered (project : Project α) {entries : List (Path × Project α)}
    (ordered : entries.Pairwise fun a b => Path.order a.1 b.1 = .lt) :
    (insertEntry project entries).Pairwise fun a b => Path.order a.1 b.1 = .lt := by
  induction entries with
  | nil => simp [insertEntry]
  | cons entry rest ih =>
    obtain ⟨above, orderedRest⟩ := List.pairwise_cons.1 ordered
    unfold insertEntry
    split
    · rename_i before
      refine List.pairwise_cons.2 ⟨fun other found => ?_, ordered⟩
      rcases List.mem_cons.1 found with rfl | inRest
      · exact before
      · exact Path.order_trans before (above other inRest)
    · exact List.pairwise_cons.2 ⟨above, orderedRest⟩
    · rename_i after
      exact List.pairwise_cons.2
        ⟨order_lt_of_mem_insertEntry above (Path.order_gt_iff.1 after), ih orderedRest⟩

/-- The project under a key. -/
def get? (store : Store α) (key : Path) : Option (Project α) :=
  lookup key store.entries

/-- Stores a project under its project file, in place of the one that was there. -/
def insert (store : Store α) (project : Project α) : Store α :=
  ⟨insertEntry project store.entries, insertEntry_ordered project store.ordered⟩

/-- The first project, in the order of the keys, that a file belongs to. -/
def findOwner (store : Store α) (path : Path) : Option (Project α) :=
  (store.entries.map Prod.snd).find? fun project => project.contains path

/-- Changes the project under a key. -/
def modify (store : Store α) (key : Path) (change : Project α → Project α) : Store α :=
  ⟨store.entries.map fun entry => (entry.1, if key ≈ entry.1 then change entry.2 else entry.2), by
    rw [List.pairwise_map]
    exact store.ordered⟩

/-- Marks a file as compiled in the project under a key, and gives that project. -/
def markCompiled (store : Store α) (key path : Path) : Option (Project α × Store α) :=
  (store.get? key).map fun project =>
    (project.markCompiled path, store.modify key fun found => found.markCompiled path)

/-- The keys, in order. -/
def projectFiles (store : Store α) : List Path :=
  store.entries.map Prod.fst

/-- The projects, in the order of their keys. -/
def projects (store : Store α) : List (Project α) :=
  store.entries.map Prod.snd

/-- The number of projects. -/
def size (store : Store α) : Nat :=
  store.entries.length

/-- Whether there is no project. -/
def isEmpty (store : Store α) : Bool :=
  store.entries.isEmpty

end Store

end CompileServer
