import CompileServer.Proofs.Project.Replacement
import Mathlib.Data.List.Dedup
import Mathlib.Data.List.Induction
import Mathlib.Data.List.Pairwise
import Mathlib.Data.List.Perm.Basic

/-!
# What a store remembers

The answers of a store are determined by what was done with it: under a key stands the
project that was stored last under some spelling of the key, with the files marked since.
The law is stated about the list of all actions and mentions no store, so it is the map that
the store implements: keyed by the components of paths, and ordered by them.
-/

namespace CompileServer

variable {α : Type}

/-- What can be done with a store. -/
inductive StoreAction (α : Type) where
  | insert (project : Project α)
  | mark (key file : Path)
  | get (key : Path)
  | findOwner (file : Path)
  | listKeys
  | measure

/-- What a store answers. -/
inductive StoreAnswer (α : Type) where
  | project (found : Option (Project α))
  | keys (listed : List Path)
  | size (count : Nat)

namespace StoreAction

/-- The project that is stored. -/
def inserted? : StoreAction α → Option (Project α)
  | .insert project => some project
  | _ => none

/-- The file that is marked under a key. -/
def marked? (key : Path) : StoreAction α → Option Path
  | .mark other file => if other ≈ key then some file else none
  | _ => none

/-- What becomes of the project under a key, unless another one is stored there. -/
def change (action : StoreAction α) (key : Path) (project : Project α) : Project α :=
  match action.marked? key with
  | some file => project.markCompiled file
  | none => project

end StoreAction

namespace Store

/-- Does something with a store. -/
def perform (store : Store α) : StoreAction α → StoreAnswer α × Store α
  | .insert project => (.project (some project), store.insert project)
  | .mark key file =>
    match store.markCompiled key file with
    | some (project, later) => (.project (some project), later)
    | none => (.project none, store)
  | .get key => (.project (store.get? key), store)
  | .findOwner file => (.project (store.findOwner file), store)
  | .listKeys => (.keys store.projectFiles, store)
  | .measure => (.size store.size, store)

/-- The store after some actions. -/
def performAll (store : Store α) (actions : List (StoreAction α)) : Store α :=
  actions.foldl (fun store action => (store.perform action).2) store

/-- The answers to some actions, one after the other. -/
def answers : Store α → List (StoreAction α) → List (StoreAnswer α)
  | _, [] => []
  | store, action :: rest => (store.perform action).1 :: (store.perform action).2.answers rest

end Store

/-! ## The map -/

/-- A project as it was stored, except that some files were marked since. -/
structure Project.Marked (stored : Project α) (files : List Path) (project : Project α) :
    Prop where
  projectFile : project.projectFile = stored.projectFile
  options : project.options = stored.options
  runtimeFolder : project.runtimeFolder = stored.runtimeFolder
  analysis : project.analysis = stored.analysis
  members : project.members = stored.members
  compiled : ∀ file, project.isCompiled file = true ↔
    stored.isCompiled file = true ∨ file.isIn files = true

namespace StoreAction

/-- Nothing was stored under a key. -/
def Leaves (actions : List (StoreAction α)) (key : Path) : Prop :=
  ∀ project, .insert project ∈ actions → ¬ project.projectFile ≈ key

/-- The project under a key is the one that was stored last, with the files marked since. -/
def Holds (history : List (StoreAction α)) (key : Path) (project : Project α) : Prop :=
  ∃ earlier stored since, history = earlier ++ .insert stored :: since ∧
    stored.projectFile ≈ key ∧ Leaves since key ∧
    stored.Marked (since.filterMap (marked? key)) project

/-- What is found under a key. -/
def Finds (history : List (StoreAction α)) (key : Path) : Option (Project α) → Prop
  | some project => Holds history key project
  | none => Leaves history key

/-- The owner of a file is the project with the least key among those that list the file. -/
def Owns (history : List (StoreAction α)) (file : Path) : Option (Project α) → Prop
  | some owner => ∃ key, Holds history key owner ∧ owner.contains file = true ∧
      ∀ other project, Holds history other project → project.contains file = true →
        Path.order key other ≠ .gt
  | none => ∀ key project, Holds history key project → project.contains file = false

/-- A key is spelled as it was when something was stored under it for the first time. -/
def Introduces (history : List (StoreAction α)) (key : Path) : Prop :=
  ∃ earlier stored since, history = earlier ++ .insert stored :: since ∧
    stored.projectFile = key ∧ Leaves earlier key

/-- The keys are listed in strictly increasing order, one for all its spellings. -/
structure Lists (history : List (StoreAction α)) (listed : List Path) : Prop where
  increasing : listed.Pairwise fun a b => Path.order a b = .lt
  complete : ∀ key, key.isIn listed = true ↔ ¬ Leaves history key
  spelled : ∀ key ∈ listed, Introduces history key

/-- The different keys under which something was stored. -/
def keys (history : List (StoreAction α)) : List (List Component) :=
  ((history.filterMap inserted?).map fun project => project.projectFile.components).dedup

/-- The answer to an action, by what was done before. -/
def Answered (history : List (StoreAction α)) : StoreAction α → StoreAnswer α → Prop
  | .insert project, .project found => found = some project
  | .mark key file, .project found => Finds (history ++ [.mark key file]) key found
  | .get key, .project found => Finds history key found
  | .findOwner file, .project found => Owns history file found
  | .listKeys, .keys listed => Lists history listed
  | .measure, .size count => count = (keys history).length
  | _, _ => False

end StoreAction

/-! ## One more action -/

namespace Project.Marked

variable {stored project : Project α} {files : List Path}

theorem refl (project : Project α) : project.Marked [] project :=
  ⟨rfl, rfl, rfl, rfl, rfl, fun _ => by simp [Path.isIn]⟩

theorem markCompiled (hmarked : stored.Marked files project) (file : Path) :
    stored.Marked (files ++ [file]) (project.markCompiled file) where
  projectFile := by rw [markCompiled_projectFile, hmarked.projectFile]
  options := by rw [markCompiled_options, hmarked.options]
  runtimeFolder := by rw [markCompiled_runtimeFolder, hmarked.runtimeFolder]
  analysis := by rw [markCompiled_analysis, hmarked.analysis]
  members := by rw [markCompiled_members, hmarked.members]
  compiled other := by
    have hnew : other.isIn (files ++ [file]) = true ↔ other ≈ file ∨ other.isIn files = true := by
      simp [Path.isIn, or_comm]
    rw [isCompiled_markCompiled, hmarked.compiled, hnew]
    exact or_left_comm

theorem contains (hmarked : stored.Marked files project) (file : Path) :
    project.contains file = stored.contains file := by
  simp only [Project.contains, hmarked.members]

end Project.Marked

namespace StoreAction

variable {history : List (StoreAction α)} {action : StoreAction α} {key : Path}
  {project : Project α}

theorem map_change_eq_self (hunmarked : action.marked? key = none)
    (found : Option (Project α)) : found.map (action.change key) = found := by
  have hchange : action.change key = id := by
    funext project
    simp only [change, hunmarked, id]
  rw [hchange, Option.map_id, id]

theorem leaves_concat : Leaves (history ++ [action]) key ↔
    Leaves history key ∧ ∀ project, action = .insert project → ¬ project.projectFile ≈ key := by
  simp only [Leaves, List.mem_append, List.mem_singleton, or_imp, forall_and, eq_comm]

theorem not_leaves_iff : ¬ Leaves history key ↔
    ∃ project, .insert project ∈ history ∧ project.projectFile ≈ key := by
  simp only [Leaves, not_forall, not_not, exists_prop]

/-- What is stored now stands under its key. -/
theorem holds_concat_insert (hkey : project.projectFile ≈ key) :
    Holds (history ++ [.insert project]) key project :=
  ⟨history, project, [], rfl, hkey, fun _ hmem => absurd hmem List.not_mem_nil,
    Project.Marked.refl project⟩

/-- What stood under a key stands there after another action, with the file that the action
marks under the key. -/
theorem Holds.concat (hholds : Holds history key project)
    (hleaves : ∀ other, action = .insert other → ¬ other.projectFile ≈ key) :
    Holds (history ++ [action]) key (action.change key project) := by
  obtain ⟨earlier, stored, since, rfl, hkey, hsince, hmarked⟩ := hholds
  refine ⟨earlier, stored, since ++ [action], ?_, hkey, leaves_concat.2 ⟨hsince, hleaves⟩, ?_⟩
  · rw [List.append_assoc, List.cons_append]
  · rw [List.filterMap_append, change]
    cases hmark : action.marked? key with
    | none => simpa [hmark] using hmarked
    | some file => simpa [hmark] using hmarked.markCompiled file

theorem Finds.concat {found : Option (Project α)} (hfinds : Finds history key found)
    (hleaves : ∀ other, action = .insert other → ¬ other.projectFile ≈ key) :
    Finds (history ++ [action]) key (found.map (action.change key)) := by
  cases found with
  | none => exact leaves_concat.2 ⟨hfinds, hleaves⟩
  | some project => exact Holds.concat hfinds hleaves

/-- What stands under a key is one project, with one list of files marked since. -/
theorem Holds.unique {other : Project α} (hholds : Holds history key project)
    (hother : Holds history key other) :
    ∃ stored files, Project.Marked stored files project ∧ Project.Marked stored files other := by
  obtain ⟨earlier, stored, since, rfl, hkey, hsince, hmarked⟩ := hholds
  obtain ⟨before, kept, after, hsplit, hkept, hafter, hagain⟩ := hother
  have hinserts : ∀ {left right : List (StoreAction α)} {late : Project α},
      late.projectFile ≈ key → ¬ Leaves (left ++ .insert late :: right) key :=
    fun hlate hleaves => hleaves _ (List.mem_append_right _ List.mem_cons_self) hlate
  obtain ⟨between, -, hrest⟩ | ⟨between, -, hrest⟩ := List.append_eq_append_iff.1 hsplit
  · cases between with
    | nil =>
        cases hrest
        exact ⟨stored, _, hmarked, hagain⟩
    | cons first between =>
        obtain ⟨-, rfl⟩ := List.cons_eq_cons.1 hrest
        exact absurd hsince (hinserts hkept)
  · cases between with
    | nil =>
        cases hrest
        exact ⟨stored, _, hmarked, hagain⟩
    | cons first between =>
        obtain ⟨-, rfl⟩ := List.cons_eq_cons.1 hrest
        exact absurd hafter (hinserts hkey)

theorem Holds.contains_eq {other : Project α} (hholds : Holds history key project)
    (hother : Holds history key other) (file : Path) :
    project.contains file = other.contains file := by
  obtain ⟨stored, files, hproject, hagain⟩ := hholds.unique hother
  rw [hproject.contains, hagain.contains]

theorem Holds.not_leaves (hholds : Holds history key project) : ¬ Leaves history key := by
  obtain ⟨earlier, stored, since, rfl, hkey, -, -⟩ := hholds
  exact fun hleaves => hleaves stored (List.mem_append_right _ List.mem_cons_self) hkey

theorem Introduces.concat (hintroduces : Introduces history key) :
    Introduces (history ++ [action]) key := by
  obtain ⟨earlier, stored, since, rfl, hkey, hearlier⟩ := hintroduces
  refine ⟨earlier, stored, since ++ [action], ?_, hkey, hearlier⟩
  rw [List.append_assoc, List.cons_append]

end StoreAction

namespace Store

open StoreAction

variable {store : Store α} {action : StoreAction α} {key : Path}

theorem performAll_concat (store : Store α) (actions : List (StoreAction α))
    (action : StoreAction α) :
    store.performAll (actions ++ [action]) = ((store.performAll actions).perform action).2 := by
  simp only [performAll, List.foldl_append, List.foldl_cons, List.foldl_nil]

/-! ### Marking -/

theorem markCompiled_of_none {file : Path} (habsent : store.get? key = none) :
    store.perform (.mark key file) = (.project none, store) := by
  simp only [perform, markCompiled, habsent, Option.map_none]

theorem markCompiled_of_some {file : Path} {known : Project α}
    (hstored : store.get? key = some known) :
    store.perform (.mark key file) =
      (.project (some (known.markCompiled file)),
        store.modify key fun found => found.markCompiled file) := by
  simp only [perform, markCompiled, hstored, Option.map_some]

/-- What is found after an action that stores nothing under the key. -/
theorem get?_perform (store : Store α)
    (hleaves : ∀ project, action = .insert project → ¬ project.projectFile ≈ key) :
    (store.perform action).2.get? key = (store.get? key).map (action.change key) := by
  cases action with
  | insert project =>
      have hother : ¬ key ≈ project.projectFile := fun hsame =>
        hleaves project rfl (Setoid.symm hsame)
      rw [map_change_eq_self rfl]
      exact (get?_insert store project key).trans (if_neg hother)
  | mark changed file =>
      cases hfound : store.get? changed with
      | none =>
          rw [markCompiled_of_none hfound]
          by_cases hsame : changed ≈ key
          · rw [← store.get?_congr hsame, hfound]
            rfl
          · have hunmarked : (StoreAction.mark changed file).marked? (α := α) key = none :=
              if_neg hsame
            rw [map_change_eq_self hunmarked]
      | some known =>
          rw [markCompiled_of_some hfound, get?_modify]
          congr 1
          funext project
          simp only [change, marked?]
          split <;> rfl
  | get | findOwner | listKeys | measure => exact (map_change_eq_self rfl _).symm

/-! ### Keys -/

theorem mem_insertEntry {project : Project α} {entries : List (Path × Project α)}
    {entry : Path × Project α} (hmem : entry ∈ insertEntry project entries) :
    entry.1 = project.projectFile ∨ entry.1 ∈ entries.map Prod.fst := by
  induction entries with
  | nil =>
      rw [insertEntry, List.mem_singleton] at hmem
      exact Or.inl (congrArg Prod.fst hmem)
  | cons head rest ih =>
      simp only [insertEntry] at hmem
      split at hmem <;> rcases List.mem_cons.1 hmem with rfl | hrest
      · exact Or.inl rfl
      · exact Or.inr (List.mem_map_of_mem hrest)
      · exact Or.inr List.mem_cons_self
      · exact Or.inr (List.mem_cons_of_mem _ (List.mem_map_of_mem hrest))
      · exact Or.inr List.mem_cons_self
      · exact (ih hrest).imp id (List.mem_cons_of_mem _)

theorem projectFiles_modify (store : Store α) (key : Path) (change : Project α → Project α) :
    (store.modify key change).projectFiles = store.projectFiles := by
  simp only [projectFiles, modify, List.map_map, Function.comp_def]

/-- A key that is new in a store is the file of the project that was stored, and nothing was
found under it. -/
theorem mem_projectFiles_insert {project : Project α}
    (hmem : key ∈ (store.insert project).projectFiles) :
    key ∈ store.projectFiles ∨
      key = project.projectFile ∧ store.get? project.projectFile = none := by
  cases hfound : store.get? project.projectFile with
  | some known =>
      rw [insert_eq_replace hfound, replace, projectFiles_modify] at hmem
      exact Or.inl hmem
  | none =>
      obtain ⟨entry, hentry, rfl⟩ := List.mem_map.1 hmem
      exact (mem_insertEntry hentry).symm.imp id fun hkey => ⟨hkey, rfl⟩

/-- A key is listed under some spelling if something is found under it. -/
theorem isIn_projectFiles_iff (store : Store α) (key : Path) :
    key.isIn store.projectFiles = true ↔ store.get? key ≠ none := by
  rw [Path.isIn_iff]
  constructor
  · rintro ⟨listed, hlisted, hsame⟩
    obtain ⟨entry, hentry, rfl⟩ := List.mem_map.1 hlisted
    have hfound : store.get? entry.1 = some entry.2 := lookup_of_mem store.ordered hentry
    rw [store.get?_congr hsame, hfound]
    exact Option.some_ne_none _
  · intro hfound
    obtain ⟨project, hproject⟩ := Option.ne_none_iff_exists'.1 hfound
    obtain ⟨entry, hentry, hsame, -⟩ := exists_of_lookup hproject
    exact ⟨entry.1, List.mem_map_of_mem hentry, hsame⟩

/-- The owner of a file stands under the least key of the projects that list the file. -/
theorem findOwner_least {store : Store α} {file : Path} {owner : Project α}
    (hfound : store.findOwner file = some owner) :
    ∃ key, store.get? key = some owner ∧ owner.contains file = true ∧
      ∀ other project, store.get? other = some project → project.contains file = true →
        Path.order key other ≠ .gt := by
  rw [findOwner, List.find?_map] at hfound
  obtain ⟨entry, hentry, rfl⟩ := Option.map_eq_some_iff.1 hfound
  obtain ⟨hcontains, before, after, hentries, hbefore⟩ :=
    List.find?_eq_some_iff_append.1 hentry
  refine ⟨entry.1, lookup_of_mem store.ordered (List.mem_of_find?_eq_some hentry), hcontains, ?_⟩
  intro other project hother hlisted
  obtain ⟨found, hmem, hsame, rfl⟩ := exists_of_lookup hother
  have hordered := store.ordered
  rw [hentries] at hmem hordered
  rw [Path.order_congr_right hsame]
  rcases List.mem_append.1 hmem with hmem | hmem
  · have hskipped := hbefore found hmem
    simp only [Function.comp_apply, hlisted, Bool.not_true, Bool.false_eq_true] at hskipped
  · obtain ⟨-, hrest, -⟩ := List.pairwise_append.1 hordered
    obtain ⟨habove, -⟩ := List.pairwise_cons.1 hrest
    rcases List.mem_cons.1 hmem with rfl | hmem
    · rw [Path.order_eq_iff.2 (Setoid.refl _)]
      exact Ordering.noConfusion
    · rw [habove found hmem]
      exact Ordering.noConfusion

/-! ## What is remembered -/

/-- What a store keeps of the actions before. -/
structure Remembers (history : List (StoreAction α)) (store : Store α) : Prop where
  found : ∀ key, Finds history key (store.get? key)
  spelled : ∀ key ∈ store.projectFiles, Introduces history key

variable {history : List (StoreAction α)}

theorem remembers_empty : Remembers ([] : List (StoreAction α)) Store.empty where
  found _ _ hmem := absurd hmem List.not_mem_nil
  spelled _ hmem := absurd hmem List.not_mem_nil

/-- What one action preserves. -/
theorem Remembers.perform (hremembers : Remembers history store) (action : StoreAction α) :
    Remembers (history ++ [action]) (store.perform action).2 where
  found key := by
    by_cases hleaves : ∀ project, action = .insert project → ¬ project.projectFile ≈ key
    · rw [get?_perform store hleaves]
      exact (hremembers.found key).concat hleaves
    · simp only [not_forall, not_not] at hleaves
      obtain ⟨project, rfl, hsame⟩ := hleaves
      have hfound : (store.insert project).get? key = some project :=
        (get?_insert store project key).trans (if_pos (Setoid.symm hsame))
      change Finds _ key ((store.insert project).get? key)
      rw [hfound]
      exact holds_concat_insert hsame
  spelled key hmem := by
    cases action with
    | insert project =>
        obtain hknown | ⟨rfl, habsent⟩ := mem_projectFiles_insert hmem
        · exact (hremembers.spelled key hknown).concat
        · have hleaves := hremembers.found project.projectFile
          rw [habsent] at hleaves
          exact ⟨history, project, [], rfl, rfl, hleaves⟩
    | mark changed file =>
        cases hfound : store.get? changed with
        | none =>
            rw [markCompiled_of_none hfound] at hmem
            exact (hremembers.spelled key hmem).concat
        | some known =>
            rw [markCompiled_of_some hfound, projectFiles_modify] at hmem
            exact (hremembers.spelled key hmem).concat
    | get | findOwner | listKeys | measure => exact (hremembers.spelled key hmem).concat

/-- What some actions preserve. -/
theorem remembers_performAll (history : List (StoreAction α)) :
    Remembers history (Store.empty.performAll history) := by
  induction history using List.reverseRecOn with
  | nil => exact remembers_empty
  | append_singleton history action ih =>
      rw [performAll_concat]
      exact ih.perform action

namespace Remembers

variable (hremembers : Remembers history store)
include hremembers

theorem holds {project : Project α} (hfound : store.get? key = some project) :
    Holds history key project := by
  have hfinds := hremembers.found key
  rw [hfound] at hfinds
  exact hfinds

/-- What the actions before put under a key is found there. -/
theorem get?_of_holds {project : Project α} (hholds : Holds history key project) :
    ∃ known, store.get? key = some known ∧
      ∀ file, project.contains file = known.contains file := by
  cases hfound : store.get? key with
  | none =>
      have hleaves := hremembers.found key
      rw [hfound] at hleaves
      exact absurd hleaves hholds.not_leaves
  | some known => exact ⟨known, rfl, hholds.contains_eq (hremembers.holds hfound)⟩

theorem get?_eq_none_iff : store.get? key = none ↔ Leaves history key := by
  have hfinds := hremembers.found key
  constructor
  · intro habsent
    rw [habsent] at hfinds
    exact hfinds
  · intro hleaves
    cases hfound : store.get? key with
    | none => rfl
    | some project => exact absurd hleaves (hremembers.holds hfound).not_leaves

theorem owns (file : Path) : Owns history file (store.findOwner file) := by
  cases howner : store.findOwner file with
  | some owner =>
      obtain ⟨key, hfound, hcontains, hleast⟩ := findOwner_least howner
      refine ⟨key, hremembers.holds hfound, hcontains, fun other project hholds hlisted => ?_⟩
      obtain ⟨known, hknown, hsame⟩ := hremembers.get?_of_holds hholds
      exact hleast other known hknown ((hsame file).symm.trans hlisted)
  | none =>
      intro key project hholds
      obtain ⟨known, hknown, hsame⟩ := hremembers.get?_of_holds hholds
      rw [hsame file]
      apply Bool.eq_false_iff.2
      intro hlisted
      obtain ⟨owner, hfound⟩ := exists_findOwner hknown hlisted
      rw [howner] at hfound
      cases hfound

theorem lists : Lists history store.projectFiles where
  increasing := List.pairwise_map.2 store.ordered
  complete key := by
    rw [isIn_projectFiles_iff, ne_eq, hremembers.get?_eq_none_iff]
  spelled := hremembers.spelled

/-- A store has as many projects as there are different keys. -/
theorem size_eq : store.size = (keys history).length := by
  have hnodup : (store.projectFiles.map Path.components).Nodup := by
    rw [List.Nodup, List.pairwise_map]
    exact hremembers.lists.increasing.imp Path.not_equiv_of_lt
  have hmem : ∀ components, components ∈ store.projectFiles.map Path.components ↔
      components ∈ keys history := by
    intro components
    have hkeys : components ∈ keys history ↔ ∃ project, .insert project ∈ history ∧
        project.projectFile.components = components := by
      simp only [keys, List.mem_dedup, List.mem_map, List.mem_filterMap]
      constructor
      · rintro ⟨project, ⟨action, haction, hproject⟩, hsame⟩
        cases action <;> cases hproject
        exact ⟨project, haction, hsame⟩
      · rintro ⟨project, hproject, hsame⟩
        exact ⟨project, ⟨.insert project, hproject, rfl⟩, hsame⟩
    rw [hkeys, List.mem_map]
    constructor
    · rintro ⟨key, hkey, rfl⟩
      have hlisted := Path.isIn_iff.2 ⟨key, hkey, Setoid.refl key⟩
      exact not_leaves_iff.1 ((hremembers.lists.complete key).1 hlisted)
    · rintro ⟨project, hproject, rfl⟩
      have hstored := not_leaves_iff.2 ⟨project, hproject, Setoid.refl project.projectFile⟩
      obtain ⟨key, hkey, hsame⟩ := Path.isIn_iff.1 ((hremembers.lists.complete _).2 hstored)
      exact ⟨key, hkey, Eq.symm hsame⟩
  have hperm := (List.perm_ext_iff_of_nodup hnodup (List.nodup_dedup _)).2 hmem
  have hlength := hperm.length_eq
  rw [List.length_map, projectFiles, List.length_map] at hlength
  exact hlength

theorem answered (action : StoreAction α) : Answered history action (store.perform action).1 := by
  cases action with
  | insert project => rfl
  | mark key file =>
      have hlater := (hremembers.perform (.mark key file)).found key
      cases hfound : store.get? key with
      | none =>
          rw [markCompiled_of_none hfound] at hlater ⊢
          rw [hfound] at hlater
          exact hlater
      | some known =>
          rw [markCompiled_of_some hfound] at hlater ⊢
          rw [get?_modify, hfound, Option.map_some, if_pos (Setoid.refl key)] at hlater
          exact hlater
  | get key => exact hremembers.found key
  | findOwner file => exact hremembers.owns file
  | listKeys => exact hremembers.lists
  | measure => exact hremembers.size_eq

end Remembers

/-! ## The order of insertions -/

/-- Of two projects with different keys it does not matter which is stored first. -/
theorem insertEntry_comm {first second : Project α}
    (hbefore : Path.order first.projectFile second.projectFile = .lt)
    (entries : List (Path × Project α)) :
    insertEntry second (insertEntry first entries) =
      insertEntry first (insertEntry second entries) := by
  have hafter := Path.order_gt_iff.2 hbefore
  induction entries with
  | nil => simp only [insertEntry, hbefore, hafter]
  | cons entry rest ih =>
      cases hfirst : Path.order first.projectFile entry.1 with
      | lt =>
          cases hsecond : Path.order second.projectFile entry.1 <;>
            simp only [insertEntry, hfirst, hsecond, hbefore, hafter]
      | eq =>
          have hsame := Path.order_eq_iff.1 hfirst
          have hsecond : Path.order second.projectFile entry.1 = .gt := by
            rw [← Path.order_congr_right hsame]
            exact hafter
          simp only [insertEntry, hfirst, hsecond]
      | gt =>
          have hsecond : Path.order second.projectFile entry.1 = .gt :=
            Path.order_gt_iff.2 (Path.order_trans (Path.order_gt_iff.1 hfirst) hbefore)
          simp only [insertEntry, hfirst, hsecond, ih]

theorem insert_comm (store : Store α) {first second : Project α}
    (hdifferent : ¬ first.projectFile ≈ second.projectFile) :
    (store.insert first).insert second = (store.insert second).insert first := by
  apply ext_entries
  cases horder : Path.order first.projectFile second.projectFile with
  | lt => exact insertEntry_comm horder store.entries
  | eq => exact absurd (Path.order_eq_iff.1 horder) hdifferent
  | gt => exact (insertEntry_comm (Path.order_gt_iff.1 horder) store.entries).symm

/-- Projects with different keys may be stored in any order. -/
theorem performAll_insert_perm (store : Store α) {first second : List (Project α)}
    (hdifferent : first.Pairwise fun a b => ¬ a.projectFile ≈ b.projectFile)
    (hperm : first.Perm second) :
    store.performAll (first.map .insert) = store.performAll (second.map .insert) := by
  simp only [performAll, List.foldl_map]
  have hsymm : Std.Symm fun a b : Project α => ¬ a.projectFile ≈ b.projectFile :=
    ⟨fun _ _ => mt Setoid.symm⟩
  apply hperm.foldl_eq'
  intro a ha b hb current
  by_cases hsame : a = b
  · rw [hsame]
  · exact insert_comm current (hdifferent.forall ha hb hsame)

/-! ## The law of the store -/

/-- The store answers as the map that its actions make. -/
structure RefinesMap (history : List (StoreAction α)) (store : Store α) : Prop where
  /-- Every answer is determined by the actions before. -/
  answered : ∀ action, Answered history action (store.perform action).1
  /-- Marking under a key without a project finds nothing and changes nothing. -/
  unmarked : ∀ key file, store.get? key = none →
    store.perform (.mark key file) = (.project none, store)
  /-- Marking under another key changes the compiled files of the project there, and
  nothing else. -/
  marked : ∀ key file known, store.get? key = some known →
    ∃ project later, store.perform (.mark key file) = (.project (some project), later) ∧
      known.Marked [file] project ∧ later.projectFiles = store.projectFiles ∧
      ∀ other, later.get? other = if key ≈ other then some project else store.get? other
  /-- The order in which projects with different keys are stored shows in no later answer. -/
  permuted : ∀ first second : List (Project α),
    first.Pairwise (fun a b => ¬ a.projectFile ≈ b.projectFile) → first.Perm second →
    ∀ later, (store.performAll (first.map .insert)).answers later =
      (store.performAll (second.map .insert)).answers later

/-- After any actions the store answers as the map that they make. -/
theorem refinesMap_performAll (history : List (StoreAction α)) :
    (Store.empty.performAll history).RefinesMap history where
  answered := (remembers_performAll history).answered
  unmarked _ _ := markCompiled_of_none
  marked key file known hfound := by
    refine ⟨_, _, markCompiled_of_some hfound, (Project.Marked.refl known).markCompiled file,
      projectFiles_modify _ _ _, fun other => ?_⟩
    rw [get?_modify]
    by_cases hsame : key ≈ other
    · rw [← get?_congr _ hsame, hfound, Option.map_some, if_pos hsame, if_pos hsame]
    · simp only [hsame, if_false, Option.map_id']
  permuted first second hdifferent hperm later := by
    rw [performAll_insert_perm _ hdifferent hperm]

/-- The keys are not ordered by their text. -/
example : "/p/a-b" < "/p/a/c" ∧ Path.order ⟨"/p/a/c"⟩ ⟨"/p/a-b"⟩ = .lt := by
  decide

end Store

end CompileServer
