import CompileServer.Path.Basic

/-!
# Sets of paths

A path belongs to a set of paths under every spelling.  Adding a path that is there already
changes nothing, so the set keeps the first spelling that it was given.
-/

namespace CompileServer.Path

/-- The paths and one more, unless they have it under some spelling. -/
def addTo (path : Path) (paths : List Path) : List Path :=
  if path.isIn paths then paths else path :: paths

/-- The paths as a set. -/
def distinct (paths : List Path) : List Path :=
  paths.foldl (fun seen path => path.addTo seen) []

theorem isIn_iff {path : Path} {paths : List Path} :
    path.isIn paths = true ↔ ∃ other ∈ paths, path ≈ other := by
  simp only [isIn, List.any_eq_true, decide_eq_true_eq]

theorem isIn_congr {left right : Path} (hsame : left ≈ right) (paths : List Path) :
    left.isIn paths = right.isIn paths := by
  simp only [isIn, equiv_iff.1 hsame, equiv_iff]

theorem isIn_cons {file path : Path} {paths : List Path} :
    file.isIn (path :: paths) = true ↔ file ≈ path ∨ file.isIn paths = true := by
  simp only [isIn, List.any_cons, Bool.or_eq_true, decide_eq_true_eq]

/-- Adding a path adds that path, under any spelling, and no other. -/
theorem isIn_addTo {file path : Path} {paths : List Path} :
    file.isIn (path.addTo paths) = true ↔ file ≈ path ∨ file.isIn paths = true := by
  unfold addTo
  split
  · rename_i hknown
    refine ⟨Or.inr, ?_⟩
    rintro (hsame | hother)
    · rw [isIn_congr hsame]
      exact hknown
    · exact hother
  · exact isIn_cons

theorem isIn_foldl_addTo (file : Path) (paths seen : List Path) :
    file.isIn (paths.foldl (fun seen path => path.addTo seen) seen) = true ↔
      file.isIn seen = true ∨ file.isIn paths = true := by
  induction paths generalizing seen with
  | nil => exact (or_iff_left Bool.false_ne_true).symm
  | cons path rest ih =>
      rw [List.foldl_cons, ih, isIn_addTo, isIn_cons, or_comm (a := file ≈ path), or_assoc]

/-- A set of paths has the paths that it was made of. -/
theorem isIn_distinct (file : Path) (paths : List Path) :
    file.isIn (distinct paths) = file.isIn paths := by
  rw [Bool.eq_iff_iff, distinct, isIn_foldl_addTo]
  exact or_iff_right Bool.false_ne_true

end CompileServer.Path
