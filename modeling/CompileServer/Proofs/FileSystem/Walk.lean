import CompileServer.FileSystem.Basic

/-!
# Walking along names

How a walk goes on at a name that is no dot, no step back and not too long: into a folder,
along a link, to a file that stands at the end, or to nothing.
-/

namespace CompileServer.FileSystem

/-- A name that a walk looks up. -/
def IsName (name : String) : Prop :=
  name ≠ "" ∧ name ≠ "." ∧ name ≠ ".." ∧ name.utf8ByteSize ≤ nameLimit

instance (name : String) : Decidable (IsName name) :=
  inferInstanceAs (Decidable (_ ∧ _))

variable {files : FileSystem} {follows : Bool} {links : Nat} {folder : Place} {name : String}
  {rest : List String}

theorem walk_blank : walk files follows links folder ("" :: rest) =
    walk files follows links folder rest := by
  rw [walk]
  exact if_pos rfl

theorem walk_dot : walk files follows links folder ("." :: rest) =
    walk files follows links folder rest := by
  rw [walk]
  exact if_pos rfl

theorem walk_long (hname : name ≠ "" ∧ name ≠ "." ∧ name ≠ "..")
    (hlong : nameLimit < name.utf8ByteSize) :
    walk files follows links folder (name :: rest) = .error .nameTooLong := by
  obtain ⟨hblank, hdot, hparent⟩ := hname
  rw [walk]
  simp only [hblank, hdot, hparent, hlong, decide_false, Bool.or_false, Bool.false_eq_true,
    if_false, if_true]

/-- A name is looked up in the folder at hand. -/
theorem walk_name (hname : IsName name) :
    walk files follows links folder (name :: rest) =
      match files.entry? (folder ++ [name]) with
      | none =>
        if rest.all (· = "") then .ok (.missing (folder ++ [name]) (!rest.isEmpty))
        else .error .notFound
      | some .folder => walk files follows links (folder ++ [name]) rest
      | some (.file content) =>
        if rest.all (· = "") then .ok (.file (folder ++ [name]) content (!rest.isEmpty))
        else .error .notFolder
      | some (.link target) =>
        if rest.isEmpty && !follows then .ok (.link (folder ++ [name]))
        else match links with
          | 0 => .error .tooManyLinks
          | fewer + 1 =>
            walk files follows fewer (if Path.startsAtRoot target.toList then [] else folder)
              (namesOf target ++ rest) := by
  obtain ⟨hblank, hdot, hparent, hlimit⟩ := hname
  rw [walk]
  have hlooked : (decide (name = "") || decide (name = ".")) = false := by
    simp only [hblank, hdot, decide_false, Bool.or_false]
  refine (if_neg (Bool.eq_false_iff.1 hlooked)).trans ?_
  refine (if_neg hparent).trans ?_
  exact if_neg (Nat.not_lt.2 hlimit)

theorem walk_folder (hname : IsName name)
    (hentry : files.entry? (folder ++ [name]) = some .folder) :
    walk files follows links folder (name :: rest) =
      walk files follows links (folder ++ [name]) rest := by
  rw [walk_name hname, hentry]

theorem walk_file {content : ByteArray} (hname : IsName name)
    (hentry : files.entry? (folder ++ [name]) = some (.file content)) :
    walk files follows links folder [name] = .ok (.file (folder ++ [name]) content false) := by
  rw [walk_name hname, hentry]
  rfl

/-- A link is followed if names come after it. -/
theorem walk_link {target next : String} (hname : IsName name)
    (hentry : files.entry? (folder ++ [name]) = some (.link target)) :
    walk files follows (links + 1) folder (name :: next :: rest) =
      walk files follows links (if Path.startsAtRoot target.toList then [] else folder)
        (namesOf target ++ next :: rest) := by
  rw [walk_name hname, hentry]
  rfl

theorem walk_missing (hname : IsName name) (hentry : files.entry? (folder ++ [name]) = none) :
    walk files follows links folder [name] = .ok (.missing (folder ++ [name]) false) := by
  rw [walk_name hname, hentry]
  rfl

theorem walk_lost (hname : IsName name) (hentry : files.entry? (folder ++ [name]) = none)
    (hrest : rest.all (· = "") = false) :
    walk files follows links folder (name :: rest) = .error .notFound := by
  rw [walk_name hname, hentry, hrest]
  rfl

/-- What an absolute path leads to is found from the root along its names. -/
theorem locate_of_names {path : Path} {names : List String} (hfault : faultOf? false path = none)
    (habsolute : path.isAbsolute = true) (hnames : namesOf path.text = names) :
    files.locate follows path = files.walk follows linkLimit [] names := by
  rw [locate, hfault, startOf, if_pos habsolute, hnames]

end CompileServer.FileSystem
