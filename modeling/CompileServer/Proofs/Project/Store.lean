import CompileServer.Project.Store
import CompileServer.SourceKind

/-!
# What a store answers

Lookups in a store after each of its operations.  Keys count by their components, so
every statement is about paths up to spelling.  Ownership rests on the members of the
projects alone: marking a file as compiled moves no file from one project to another.
-/

namespace CompileServer

namespace Path

theorem extension_congr {left right : Path} (hsame : left ≈ right) :
    left.extension = right.extension := by
  simp only [extension, fileName, equiv_iff.1 hsame]

end Path

theorem SourceKinds.classify_congr (kinds : SourceKinds) {left right : Path}
    (hsame : left ≈ right) : kinds.classify left = kinds.classify right := by
  simp only [classify, Path.extension_congr hsame]

namespace Project

variable {α : Type}

@[simp]
theorem markCompiled_projectFile (project : Project α) (file : Path) :
    (project.markCompiled file).projectFile = project.projectFile := by
  unfold markCompiled
  split <;> rfl

@[simp]
theorem markCompiled_options (project : Project α) (file : Path) :
    (project.markCompiled file).options = project.options := by
  unfold markCompiled
  split <;> rfl

@[simp]
theorem markCompiled_sourceFiles (project : Project α) (file : Path) :
    (project.markCompiled file).sourceFiles = project.sourceFiles := by
  simp only [sourceFiles, markCompiled_options]

@[simp]
theorem markCompiled_runtimeFolder (project : Project α) (file : Path) :
    (project.markCompiled file).runtimeFolder = project.runtimeFolder := by
  unfold markCompiled
  split <;> rfl

@[simp]
theorem markCompiled_analysis (project : Project α) (file : Path) :
    (project.markCompiled file).analysis = project.analysis := by
  unfold markCompiled
  split <;> rfl

@[simp]
theorem markCompiled_generation (project : Project α) (file : Path) :
    (project.markCompiled file).generation = project.generation := by
  simp only [generation, markCompiled_analysis]

@[simp]
theorem markCompiled_members (project : Project α) (file : Path) :
    (project.markCompiled file).members = project.members := by
  unfold markCompiled
  split <;> rfl

@[simp]
theorem markCompiled_contains (project : Project α) (file path : Path) :
    (project.markCompiled file).contains path = project.contains path := by
  simp only [contains, markCompiled_members]

/-- Marking a file adds that file, under any spelling, and no other. -/
theorem isCompiled_markCompiled (project : Project α) (file path : Path) :
    (project.markCompiled file).isCompiled path = true ↔
      path ≈ file ∨ project.isCompiled path = true := by
  unfold markCompiled
  split
  · rename_i hcompiled
    refine ⟨Or.inr, ?_⟩
    rintro (hsame | hother)
    · rw [isCompiled, Path.isIn_congr hsame]
      exact hcompiled
    · exact hother
  · simp only [isCompiled, Path.isIn_iff, List.mem_cons, exists_eq_or_imp]

end Project

namespace Store

variable {α : Type}

theorem lookup_congr {left right : Path} (hsame : left ≈ right)
    (entries : List (Path × Project α)) : lookup left entries = lookup right entries := by
  induction entries with
  | nil => rfl
  | cons entry rest ih => simp only [lookup, Path.equiv_iff, Path.equiv_iff.1 hsame, ih]

theorem get?_congr (store : Store α) {left right : Path} (hsame : left ≈ right) :
    store.get? left = store.get? right :=
  lookup_congr hsame store.entries

theorem lookup_insertEntry (project : Project α) (key : Path)
    (entries : List (Path × Project α)) :
    lookup key (insertEntry project entries) =
      if key ≈ project.projectFile then some project else lookup key entries := by
  induction entries with
  | nil => rfl
  | cons entry rest ih =>
      unfold insertEntry
      split
      · rfl
      · rename_i heq
        have hentry := Path.equiv_iff.1 (Path.order_eq_iff.1 heq)
        simp only [lookup, Path.equiv_iff, hentry]
        split <;> rfl
      · rename_i hgt
        have hentry : ¬ entry.1 ≈ project.projectFile :=
          Path.not_equiv_of_lt (Path.order_gt_iff.1 hgt)
        simp only [lookup, ih]
        by_cases hkey : key ≈ entry.1
        · have hother : ¬ key ≈ project.projectFile := fun h =>
            hentry (Setoid.trans (Setoid.symm hkey) h)
          rw [if_pos hkey, if_pos hkey, if_neg hother]
        · rw [if_neg hkey, if_neg hkey]

/-- A project that was stored is found under every spelling of its project file, and
nothing else is found differently. -/
theorem get?_insert (store : Store α) (project : Project α) (key : Path) :
    (store.insert project).get? key =
      if key ≈ project.projectFile then some project else store.get? key :=
  lookup_insertEntry project key store.entries

theorem lookup_map (changed key : Path) (change : Project α → Project α)
    (entries : List (Path × Project α)) :
    lookup key (entries.map fun entry =>
        (entry.1, if changed ≈ entry.1 then change entry.2 else entry.2)) =
      (lookup key entries).map fun project =>
        if changed ≈ key then change project else project := by
  induction entries with
  | nil => rfl
  | cons entry rest ih =>
      simp only [List.map_cons, lookup]
      by_cases hkey : key ≈ entry.1
      · simp only [Path.equiv_iff, Path.equiv_iff.1 hkey, if_true, Option.map_some]
      · simp only [hkey, if_false, ih]

/-- Changing the project under a key changes what is found under that key only. -/
theorem get?_modify (store : Store α) (changed key : Path)
    (change : Project α → Project α) :
    (store.modify changed change).get? key =
      (store.get? key).map fun project =>
        if changed ≈ key then change project else project :=
  lookup_map changed key change store.entries

/-- What is stored is found under the key that it is stored under. -/
theorem lookup_of_mem {entries : List (Path × Project α)}
    (hordered : entries.Pairwise fun a b => Path.order a.1 b.1 = .lt)
    {entry : Path × Project α} (hmem : entry ∈ entries) :
    lookup entry.1 entries = some entry.2 := by
  induction entries with
  | nil => cases hmem
  | cons head rest ih =>
      obtain ⟨habove, hrest⟩ := List.pairwise_cons.1 hordered
      rcases List.mem_cons.1 hmem with rfl | hmem
      · exact if_pos (Setoid.refl _)
      · have hne : ¬ entry.1 ≈ head.1 := fun hsame =>
          Path.not_equiv_of_lt (habove entry hmem) hsame.symm
        rw [lookup, if_neg hne]
        exact ih hrest hmem

/-- The owner of a file is a stored project that lists the file. -/
theorem findOwner_eq_some {store : Store α} {file : Path} {owner : Project α}
    (hfound : store.findOwner file = some owner) :
    owner.contains file = true ∧ ∃ key, store.get? key = some owner := by
  unfold findOwner at hfound
  refine ⟨by simpa only using List.find?_some hfound, ?_⟩
  obtain ⟨entry, hmem, rfl⟩ := List.mem_map.1 (List.mem_of_find?_eq_some hfound)
  exact ⟨entry.1, lookup_of_mem store.ordered hmem⟩

theorem mem_of_lookup {key : Path} {project : Project α} {entries : List (Path × Project α)}
    (hfound : lookup key entries = some project) : project ∈ entries.map Prod.snd := by
  induction entries with
  | nil => cases hfound
  | cons entry rest ih =>
      unfold lookup at hfound
      split at hfound
      · cases hfound
        exact List.mem_cons_self
      · exact List.mem_cons_of_mem _ (ih hfound)

/-- A file that a stored project lists has an owner. -/
theorem exists_findOwner {store : Store α} {key file : Path} {project : Project α}
    (hstored : store.get? key = some project) (hcontains : project.contains file = true) :
    ∃ owner, store.findOwner file = some owner := by
  refine Option.isSome_iff_exists.1 (List.find?_isSome.2 ?_)
  exact ⟨project, mem_of_lookup hstored, hcontains⟩

/-- A file has no owner if no stored project has it. -/
theorem findOwner_eq_none_iff {store : Store α} {file : Path} :
    store.findOwner file = none ↔
      ∀ key project, store.get? key = some project → project.contains file ≠ true := by
  constructor
  · intro hnone key project hstored hcontains
    obtain ⟨owner, howner⟩ := exists_findOwner hstored hcontains
    rw [hnone] at howner
    cases howner
  · intro habsent
    cases howner : store.findOwner file with
    | none => rfl
    | some owner =>
        obtain ⟨hcontains, key, hstored⟩ := findOwner_eq_some howner
        exact absurd hcontains (habsent key owner hstored)

/-- Every project stands under its own project file. -/
def Keyed (store : Store α) : Prop :=
  ∀ key project, store.get? key = some project → key ≈ project.projectFile

theorem Keyed.empty : (Store.empty : Store α).Keyed := by
  intro key project hfound
  cases hfound

theorem Keyed.get?_projectFile {store : Store α} (hkeyed : store.Keyed) {key : Path}
    {project : Project α} (hfound : store.get? key = some project) :
    store.get? project.projectFile = some project := by
  rw [← store.get?_congr (hkeyed key project hfound)]
  exact hfound

end Store

end CompileServer
