import CompileServer.Proofs.FileSystem.Walk
import CompileServer.Proofs.Path.Spelling

/-!
# Normal forms of paths

The normal form of a path depends on what is there when it is asked for.  An absolute path that
meets neither a link nor a parent step is its own normal form up to spelling, whether something
is there or not.  Any other path may get another normal form as soon as a file appears or goes.
-/

namespace CompileServer.FileSystem

/-- An absolute path meets no link and no parent step. -/
structure IsPlain (files : FileSystem) (path : Path) : Prop where
  parent : Component.parent ∉ path.components
  link : ∀ place : Place, .root :: place.map .normal <+: path.components →
    ∀ target, files.entry? place ≠ some (.link target)

/-! ## Names and components -/

/-- The steps that names stand for; blank names and dots stand for none. -/
def stepsOf (names : List String) : List Component :=
  names.filterMap fun name => Component.ofPiece false name.toList

theorem components_of_isAbsolute {path : Path} (habsolute : path.isAbsolute = true) :
    path.components = .root :: stepsOf (namesOf path.text) := by
  have hpieces : path.components =
      .root :: (Path.pieces path.text.toList).filterMap (Component.ofPiece false) :=
    if_pos habsolute
  simp only [hpieces, stepsOf, namesOf, List.filterMap_map, Function.comp_def,
    String.toList_ofList]

theorem stepsOf_cons_name {name : String} (hblank : name ≠ "") (hdot : name ≠ ".")
    (hparent : name ≠ "..") (rest : List String) :
    stepsOf (name :: rest) = .normal name :: stepsOf rest := by
  have hpiece : Component.ofPiece false name.toList = some (.normal name) := by
    rw [Component.ofPiece_name, String.ofList_toList]
    · exact mt String.toList_eq_nil_iff.1 hblank
    · exact fun hchars => hdot (String.toList_inj.1 hchars)
    · exact fun hchars => hparent (String.toList_inj.1 hchars)
  exact List.filterMap_cons_some hpiece

/-- The path of a place has the names of the place. -/
theorem components_pathOf {place : Place}
    (hplace : ∀ name ∈ place, (Component.normal name).IsStep) :
    (pathOf place).components = .root :: place.map .normal := by
  have hpieces : (Path.pieces ("/".intercalate place).toList).filterMap (Component.ofPiece false) =
      place.map .normal := by
    induction place with
    | nil => rfl
    | cons name rest ih =>
        obtain ⟨hname, hrest⟩ := List.forall_mem_cons.1 hplace
        have halone : (Path.pieces name.toList).filterMap (Component.ofPiece false) =
            [.normal name] := Path.filterMap_pieces_step hname
        by_cases hlast : rest = []
        · rw [hlast, String.intercalate_singleton]
          exact halone
        · have hchars : ("/".intercalate (name :: rest)).toList =
              name.toList ++ '/' :: ("/".intercalate rest).toList := by
            rw [String.intercalate_cons_of_ne_nil hlast, String.toList_append,
              String.toList_append, List.append_assoc]
            rfl
          rw [hchars, Path.pieces_slash, List.filterMap_append, halone, ih hrest]
          rfl
  rw [Path.components, pathOf, String.toList_append, ← hpieces]
  exact Path.componentsOf_root _

/-! ## Walks that meet no link -/

/-- The place of something that is there. -/
def Found.there? : Found → Option Place
  | .file place _ false => some place
  | .folder place => some place
  | _ => none

theorem canonical_eq_ok {files : FileSystem} {path reached : Path}
    (hcanonical : files.canonical path = .ok reached) :
    ∃ found place, walk files true linkLimit (files.startOf path) (namesOf path.text) = .ok found ∧
      found.there? = some place ∧ reached = pathOf place := by
  unfold canonical locate at hcanonical
  cases hfault : faultOf? false path with
  | some fault =>
      rw [hfault] at hcanonical
      cases hcanonical
  | none =>
      simp only [hfault] at hcanonical
      split at hcanonical <;> cases hcanonical
      · exact ⟨_, _, ‹_›, rfl, rfl⟩
      · exact ⟨_, _, ‹_›, rfl, rfl⟩

/-- A walk that meets neither a link nor a parent step gets where the names say. -/
theorem place_of_walk {files : FileSystem} {links : Nat} {folder : Place} {names : List String}
    (hparent : Component.parent ∉ stepsOf names)
    (hlink : ∀ steps : Place, steps.map .normal <+: stepsOf names →
      ∀ target, files.entry? (folder ++ steps) ≠ some (.link target))
    {found : Found} {place : Place} (hwalk : walk files true links folder names = .ok found)
    (hthere : found.there? = some place) :
    ∃ steps : Place, stepsOf names = steps.map .normal ∧ place = folder ++ steps := by
  induction names generalizing folder with
  | nil =>
      rw [walk] at hwalk
      cases hwalk
      cases hthere
      exact ⟨[], rfl, (List.append_nil _).symm⟩
  | cons name rest ih =>
      by_cases hblank : name = ""
      · subst hblank
        rw [walk_blank] at hwalk
        exact ih hparent hlink hwalk
      by_cases hdot : name = "."
      · subst hdot
        rw [walk_dot] at hwalk
        exact ih hparent hlink hwalk
      by_cases hup : name = ".."
      · subst hup
        exact absurd List.mem_cons_self hparent
      rcases Nat.lt_or_ge nameLimit name.utf8ByteSize with hlong | hlimit
      · rw [walk_long ⟨hblank, hdot, hup⟩ hlong] at hwalk
        cases hwalk
      have hname : IsName name := ⟨hblank, hdot, hup, hlimit⟩
      rw [stepsOf_cons_name hblank hdot hup] at hparent hlink ⊢
      rw [walk_name hname] at hwalk
      cases hentry : files.entry? (folder ++ [name]) with
      | none =>
          -- what is missing is not there, however the walk says so
          simp only [hentry] at hwalk
          split at hwalk <;> cases hwalk
          cases hthere
      | some entry =>
          rw [hentry] at hwalk
          cases entry with
          | folder =>
              have hbelow : ∀ steps : Place, steps.map .normal <+: stepsOf rest →
                  ∀ target, files.entry? ((folder ++ [name]) ++ steps) ≠ some (.link target) := by
                intro steps hsteps
                rw [List.append_assoc]
                exact hlink (name :: steps) (List.cons_prefix_cons.2 ⟨rfl, hsteps⟩)
              obtain ⟨steps, hsteps, rfl⟩ :=
                ih (fun hmem => hparent (List.mem_cons_of_mem _ hmem)) hbelow hwalk
              exact ⟨name :: steps, congrArg _ hsteps, List.append_assoc _ _ _⟩
          | file content =>
              cases rest with
              | nil =>
                  cases hwalk
                  cases hthere
                  exact ⟨[name], rfl, rfl⟩
              | cons next more =>
                  simp only at hwalk
                  split at hwalk <;> cases hwalk
                  cases hthere
          | link target =>
              have hfirst : ([name] : Place).map Component.normal <+:
                  .normal name :: stepsOf rest :=
                List.cons_prefix_cons.2 ⟨rfl, List.nil_prefix⟩
              exact absurd hentry (hlink [name] hfirst target)

/-! ## Paths that keep their normal form -/

variable {files : FileSystem} {path : Path}

theorem canonical_equiv (habsolute : path.isAbsolute = true) (hplain : files.IsPlain path)
    {reached : Path} (hcanonical : files.canonical path = .ok reached) : reached ≈ path := by
  obtain ⟨found, place, hwalk, hthere, rfl⟩ := canonical_eq_ok hcanonical
  obtain ⟨allSteps, hcomponents, hsteps⟩ := Path.exists_steps habsolute
  have hnames := components_of_isAbsolute habsolute
  rw [startOf, if_pos habsolute] at hwalk
  obtain ⟨steps, hplace, hreached⟩ := place_of_walk
    (fun hmem => hplain.parent (hnames ▸ List.mem_cons_of_mem _ hmem))
    (fun steps hmet => hplain.link steps (hnames ▸ List.cons_prefix_cons.2 ⟨rfl, hmet⟩))
    hwalk hthere
  have hall : allSteps = steps.map .normal :=
    (List.cons.inj (hcomponents.symm.trans hnames)).2.trans hplace
  rw [Path.equiv_iff, hreached, List.nil_append, components_pathOf, hcomponents, hall]
  intro name hname
  apply hsteps
  rw [hall]
  exact List.mem_map_of_mem hname

/-- Nothing is there, or nothing on the way leads elsewhere. -/
def KeepsForm (files : FileSystem) (path : Path) : Prop :=
  (files.canonical path).toOption = none ∨ files.IsPlain path

theorem normalize_of_canonical {reached : Path} (hcanonical : files.canonical path = .ok reached) :
    files.normalize path = reached := by
  rw [normalize, hcanonical]

theorem normalize_of_missing (habsolute : path.isAbsolute = true)
    (hmissing : (files.canonical path).toOption = none) : files.normalize path ≈ path := by
  rw [normalize]
  cases hcanonical : files.canonical path with
  | ok reached =>
      rw [hcanonical] at hmissing
      cases hmissing
  | error fault => exact Path.absolute_equiv _ habsolute

theorem normalize_equiv (habsolute : path.isAbsolute = true) (hkeeps : files.KeepsForm path) :
    files.normalize path ≈ path := by
  rcases hkeeps with hmissing | hplain
  · exact normalize_of_missing habsolute hmissing
  · cases hcanonical : files.canonical path with
    | ok reached =>
        rw [normalize_of_canonical hcanonical]
        exact canonical_equiv habsolute hplain hcanonical
    | error fault => exact normalize_of_missing habsolute (by rw [hcanonical]; rfl)

/-- An absolute path has one normal form in all file systems where it leads to the same. -/
theorem normalize_congr {others : FileSystem} (habsolute : path.isAbsolute = true)
    (hsame : (files.canonical path).toOption = (others.canonical path).toOption) :
    files.normalize path ≈ others.normalize path := by
  cases hcanonical : files.canonical path with
  | error fault =>
      rw [hcanonical] at hsame
      have hmissing : (files.canonical path).toOption = none := by
        rw [hcanonical]
        rfl
      exact Setoid.trans (normalize_of_missing habsolute hmissing)
        (Setoid.symm (normalize_of_missing habsolute hsame.symm))
  | ok reached =>
      rw [hcanonical] at hsame
      have hother : others.canonical path = .ok reached := by
        cases hcanonical : others.canonical path <;> rw [hcanonical] at hsame <;> cases hsame
        rfl
      have hforms : files.normalize path = others.normalize path :=
        (normalize_of_canonical hcanonical).trans (normalize_of_canonical hother).symm
      exact hforms ▸ Setoid.refl _

end CompileServer.FileSystem
