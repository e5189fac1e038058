import CompileServer.Proofs.Project.Store

/-!
# Replacing projects

A project that is already stored is replaced where it stands: its key keeps its spelling and
its place.  Replacements of different projects commute, and one that keeps the files of its
project changes nobody's owner.  The numbers of analyses are names: renaming them commutes
with everything a store does.
-/

namespace CompileServer

variable {α : Type}

/-- The analysis with another number. -/
def Analysis.renumber (rename : Nat → Nat) (analysis : Analysis α) : Analysis α :=
  ⟨rename analysis.generation, analysis.value⟩

namespace Project

/-- The project with another number of its analysis. -/
def renumber (rename : Nat → Nat) (project : Project α) : Project α :=
  { project with analysis := project.analysis.renumber rename }

theorem renumber_fresh (rename : Nat → Nat) (projectFile : Path) (options : ProjectOptions)
    (runtimeFolder : Path) (analysis : Analysis α) :
    (fresh projectFile options runtimeFolder analysis).renumber rename =
      fresh projectFile options runtimeFolder (analysis.renumber rename) :=
  rfl

theorem renumber_markCompiled (rename : Nat → Nat) (project : Project α) (file : Path) :
    (project.markCompiled file).renumber rename =
      (project.renumber rename).markCompiled file := by
  have hsame : (project.renumber rename).isCompiled file = project.isCompiled file := rfl
  simp only [markCompiled, hsame]
  split <;> rfl

theorem renumber_eq_self {rename : Nat → Nat} {project : Project α}
    (hkept : rename project.generation = project.generation) :
    project.renumber rename = project := by
  rw [generation] at hkept
  rw [renumber, Analysis.renumber, hkept]

end Project

namespace Store

/-- Puts a project in the place of the one that stands under its file. -/
def replace (store : Store α) (project : Project α) : Store α :=
  store.modify project.projectFile fun _ => project

/-- The store with other numbers of its analyses. -/
def renumber (rename : Nat → Nat) (store : Store α) : Store α :=
  ⟨store.entries.map fun entry => (entry.1, entry.2.renumber rename), by
    rw [List.pairwise_map]
    exact store.ordered⟩

theorem ext_entries {left right : Store α} (hentries : left.entries = right.entries) :
    left = right := by
  cases left
  cases right
  cases hentries
  rfl

/-- Changing what is stored under a key puts the changed project in its place. -/
theorem modify_eq_replace {store : Store α} {project : Project α} {key : Path}
    (hstored : store.get? key = some project) (change : Project α → Project α)
    (hkey : key ≈ (change project).projectFile) :
    store.modify key change = store.replace (change project) := by
  apply ext_entries
  apply List.map_congr_left
  intro entry hentry
  have hfound : store.get? entry.1 = some entry.2 := lookup_of_mem store.ordered hentry
  by_cases hsame : key ≈ entry.1
  · rw [store.get?_congr hsame, hfound] at hstored
    cases hstored
    rw [if_pos hsame, if_pos (Setoid.trans (Setoid.symm hkey) hsame)]
  · rw [if_neg hsame, if_neg fun hother => hsame (Setoid.trans hkey hother)]

theorem exists_of_lookup {key : Path} {project : Project α} {entries : List (Path × Project α)}
    (hfound : lookup key entries = some project) :
    ∃ entry ∈ entries, key ≈ entry.1 ∧ entry.2 = project := by
  induction entries with
  | nil => cases hfound
  | cons entry rest ih =>
      unfold lookup at hfound
      split at hfound
      · rename_i hsame
        exact ⟨entry, List.mem_cons_self, hsame, Option.some.inj hfound⟩
      · obtain ⟨other, hother, hequal⟩ := ih hfound
        exact ⟨other, List.mem_cons_of_mem _ hother, hequal⟩

/-- Inserting under a key that is there changes the one entry with this key. -/
theorem insertEntry_eq_map {project known : Project α} {entries : List (Path × Project α)}
    (hordered : entries.Pairwise fun a b => Path.order a.1 b.1 = .lt)
    (hstored : lookup project.projectFile entries = some known) :
    insertEntry project entries = entries.map fun entry =>
      (entry.1, if project.projectFile ≈ entry.1 then project else entry.2) := by
  induction entries with
  | nil => cases hstored
  | cons entry rest ih =>
      obtain ⟨habove, hrest⟩ := List.pairwise_cons.1 hordered
      -- A key that is not the first of an ordered list is greater than the first.
      have hgreater : ∀ other ∈ rest, project.projectFile ≈ other.1 →
          Path.order project.projectFile entry.1 = .gt := by
        intro other hother hsame
        rw [Path.order_congr_left hsame, Path.order_gt_iff]
        exact habove other hother
      by_cases hsame : project.projectFile ≈ entry.1
      · have hequal := Path.order_eq_iff.2 hsame
        have hkept : (rest.map fun entry =>
            (entry.1, if project.projectFile ≈ entry.1 then project else entry.2)) = rest := by
          apply (List.map_congr_left _).trans (List.map_id rest)
          intro other hother
          rw [if_neg]
          · rfl
          · intro hlater
            rw [hgreater other hother hlater] at hequal
            cases hequal
        simp only [insertEntry, hequal, List.map_cons, if_pos hsame, hkept]
      · rw [lookup, if_neg hsame] at hstored
        obtain ⟨other, hother, hlater, -⟩ := exists_of_lookup hstored
        simp only [insertEntry, hgreater other hother hlater, List.map_cons, if_neg hsame,
          ih hrest hstored]

theorem insert_eq_replace {store : Store α} {project known : Project α}
    (hstored : store.get? project.projectFile = some known) :
    store.insert project = store.replace project :=
  ext_entries (insertEntry_eq_map store.ordered hstored)

/-- What is found after a replacement. -/
theorem get?_replace {store : Store α} {project known : Project α}
    (hstored : store.get? project.projectFile = some known) (key : Path) :
    (store.replace project).get? key =
      if key ≈ project.projectFile then some project else store.get? key := by
  rw [← insert_eq_replace hstored, get?_insert]

theorem Keyed.replace {store : Store α} (hkeyed : store.Keyed) (project : Project α) :
    (store.replace project).Keyed := by
  intro key found hfound
  rw [Store.replace, get?_modify] at hfound
  obtain ⟨known, hknown, rfl⟩ := Option.map_eq_some_iff.1 hfound
  by_cases hsame : project.projectFile ≈ key
  · rw [if_pos hsame]
    exact Setoid.symm hsame
  · rw [if_neg hsame]
    exact hkeyed key known hknown

/-- Of two replacements of one project the last one stays. -/
theorem replace_replace (store : Store α) {first second : Project α}
    (hsame : first.projectFile = second.projectFile) :
    (store.replace first).replace second = store.replace second := by
  apply ext_entries
  simp only [replace, modify, List.map_map, hsame]
  apply List.map_congr_left
  intro entry _
  simp only [Function.comp_apply]
  split <;> rfl

/-- A stored project that is made again and changed there is replaced once. -/
theorem insert_modify_eq_replace {store : Store α} {made known : Project α}
    (hstored : store.get? made.projectFile = some known) (change : Project α → Project α)
    (hkey : made.projectFile = (change made).projectFile) :
    (store.insert made).modify made.projectFile change = store.replace (change made) := by
  have hmade : (store.replace made).get? made.projectFile = some made := by
    rw [get?_replace hstored, if_pos (Setoid.refl _)]
  rw [insert_eq_replace hstored, modify_eq_replace hmade change (hkey ▸ Setoid.refl _),
    replace_replace store hkey]

/-- Replacements of projects with different files commute. -/
theorem replace_comm (store : Store α) {first second : Project α}
    (hdifferent : ¬ first.projectFile ≈ second.projectFile) :
    (store.replace first).replace second = (store.replace second).replace first := by
  apply ext_entries
  simp only [replace, modify, List.map_map]
  apply List.map_congr_left
  intro entry _
  simp only [Function.comp_apply]
  by_cases hfirst : first.projectFile ≈ entry.1
  · have hsecond : ¬ second.projectFile ≈ entry.1 := fun hsecond =>
      hdifferent (Setoid.trans hfirst (Setoid.symm hsecond))
    rw [if_neg hsecond, if_pos hfirst, if_neg hsecond, if_pos hfirst]
  · rw [if_neg hfirst, if_neg hfirst]

theorem renumber_replace (rename : Nat → Nat) (store : Store α) (project : Project α) :
    (store.replace project).renumber rename =
      (store.renumber rename).replace (project.renumber rename) := by
  apply ext_entries
  simp only [renumber, replace, modify, List.map_map]
  apply List.map_congr_left
  intro entry _
  simp only [Function.comp_apply]
  by_cases hsame : project.projectFile ≈ entry.1
  · have hrenamed : (project.renumber rename).projectFile ≈ entry.1 := hsame
    rw [if_pos hsame, if_pos hrenamed]
  · have hrenamed : ¬ (project.renumber rename).projectFile ≈ entry.1 := hsame
    rw [if_neg hsame, if_neg hrenamed]

/-- A renaming that keeps the numbers in a store keeps the store. -/
theorem renumber_eq_self {store : Store α} {rename : Nat → Nat}
    (hkept : ∀ key project, store.get? key = some project →
      rename project.generation = project.generation) :
    store.renumber rename = store := by
  apply ext_entries
  apply (List.map_congr_left _).trans (List.map_id store.entries)
  intro entry hentry
  rw [Project.renumber_eq_self (hkept entry.1 entry.2 (lookup_of_mem store.ordered hentry))]
  rfl

/-- Finding by a question that a change of the elements does not touch. -/
theorem find?_map_of_forall {β : Type} {ask : β → Bool} {change : β → β} {elements : List β}
    (hkept : ∀ element ∈ elements, ask (change element) = ask element) :
    (elements.map change).find? ask = (elements.find? ask).map change := by
  induction elements with
  | nil => rfl
  | cons element rest ih =>
      have hrest := ih fun other hother => hkept other (List.mem_cons_of_mem _ hother)
      rw [List.map_cons, List.find?_cons, List.find?_cons, hkept element List.mem_cons_self, hrest]
      cases ask element <;> rfl

/-- A project with the files of the one that it replaces leaves every file its owner. -/
theorem findOwner_replace {store : Store α} (hkeyed : store.Keyed) {project known : Project α}
    (hstored : store.get? project.projectFile = some known)
    (hfiles : project.sourceFiles = known.sourceFiles) (file : Path) :
    (store.replace project).findOwner file = (store.findOwner file).map fun owner =>
      if project.projectFile ≈ owner.projectFile then project else owner := by
  have hentries : (store.replace project).entries.map Prod.snd =
      (store.entries.map Prod.snd).map fun owner =>
        if project.projectFile ≈ owner.projectFile then project else owner := by
    simp only [replace, modify, List.map_map]
    apply List.map_congr_left
    intro entry hentry
    have hkey := hkeyed entry.1 entry.2 (lookup_of_mem store.ordered hentry)
    simp only [Function.comp_apply, Path.equiv_iff, Path.equiv_iff.1 hkey]
  rw [findOwner, hentries]
  apply find?_map_of_forall
  intro owner howner
  obtain ⟨entry, hentry, rfl⟩ := List.mem_map.1 howner
  have hfound : store.get? entry.1 = some entry.2 := lookup_of_mem store.ordered hentry
  by_cases hsame : project.projectFile ≈ entry.2.projectFile
  · have hknown : store.get? project.projectFile = some entry.2 := by
      rw [store.get?_congr hsame, hkeyed.get?_projectFile hfound]
    rw [if_pos hsame]
    cases hstored.symm.trans hknown
    exact Project.contains_congr hfiles file
  · rw [if_neg hsame]

end Store

end CompileServer
