import CompileServer.Path.Basic

/-!
# How paths are spelled

The components of a path are read off the pieces between its slashes.  A step that is put
behind a path adds its own component and changes no other.  Therefore a path that is put
together step by step names what its steps say, and making a path absolute keeps what it
names if it started at the root.
-/

namespace CompileServer

/-- The text of the component stands for it, wherever in a path it stands. -/
structure Component.IsStep (component : Component) : Prop where
  slash : '/' ∉ component.text.toList
  piece : ∀ first, ofPiece first component.text.toList = some component

namespace Component

theorem isStep_parent : parent.IsStep where
  slash := by decide
  piece := by decide

/-- A piece that is neither blank nor dots is a name. -/
theorem ofPiece_name {piece : List Char} (hblank : piece ≠ []) (hdot : piece ≠ ['.'])
    (hparent : piece ≠ ['.', '.']) (first : Bool) :
    ofPiece first piece = some (normal (String.ofList piece)) := by
  rw [ofPiece, if_neg hblank, if_neg hdot, if_neg hparent]

theorem isStep_normal {name : String} (hslash : '/' ∉ name.toList) (hblank : name.toList ≠ [])
    (hdot : name.toList ≠ ['.']) (hparent : name.toList ≠ ['.', '.']) :
    (normal name).IsStep where
  slash := hslash
  piece first := by
    have hname := ofPiece_name hblank hdot hparent first
    rw [String.ofList_toList] at hname
    exact hname

/-- A dot counts at the start of a path alone. -/
theorem ofPiece_ne_current {piece : List Char} : ofPiece false piece ≠ some current := by
  intro hpiece
  simp only [ofPiece, Bool.false_eq_true, if_false] at hpiece
  split at hpiece
  · cases hpiece
  split at hpiece
  · cases hpiece
  split at hpiece <;> cases hpiece

theorem IsStep.kept {component : Component} (hstep : component.IsStep) :
    (component != root && component != current) = true := by
  cases component with
  | root => exact absurd hstep.slash (by decide)
  | current => exact absurd (hstep.piece false) ofPiece_ne_current
  | parent => rfl
  | normal name => rfl

/-- A piece without a slash stands for a step, for the folder at hand or for nothing. -/
theorem isStep_of_ofPiece {first : Bool} {piece : List Char} {component : Component}
    (hslash : '/' ∉ piece) (hpiece : ofPiece first piece = some component)
    (hcurrent : component ≠ current) : component.IsStep := by
  by_cases hblank : piece = []
  · rw [ofPiece, if_pos hblank] at hpiece
    cases hpiece
  by_cases hdot : piece = ['.']
  · rw [ofPiece, if_neg hblank, if_pos hdot] at hpiece
    split at hpiece
    · exact absurd (Option.some.inj hpiece).symm hcurrent
    · cases hpiece
  by_cases hparent : piece = ['.', '.']
  · rw [ofPiece, if_neg hblank, if_neg hdot, if_pos hparent] at hpiece
    cases hpiece
    exact isStep_parent
  rw [ofPiece_name hblank hdot hparent] at hpiece
  cases hpiece
  rw [← String.toList_ofList (l := piece)] at hslash hblank hdot hparent
  exact isStep_normal hslash hblank hdot hparent

end Component

namespace Path

/-! ## Pieces -/

theorem pieces_ne_nil (chars : List Char) : pieces chars ≠ [] := by
  cases chars with
  | nil => exact List.cons_ne_nil _ _
  | cons first rest =>
      unfold pieces
      split
      · exact List.cons_ne_nil _ _
      · split <;> exact List.cons_ne_nil _ _

theorem pieces_slash (left right : List Char) :
    pieces (left ++ '/' :: right) = pieces left ++ pieces right := by
  induction left with
  | nil => rfl
  | cons first rest ih =>
      simp only [List.cons_append, pieces, ih]
      split
      · rfl
      · cases hrest : pieces rest with
        | nil => exact absurd hrest (pieces_ne_nil rest)
        | cons piece more => rfl

theorem pieces_plain {piece : List Char} (hpiece : '/' ∉ piece) : pieces piece = [piece] := by
  induction piece with
  | nil => rfl
  | cons first rest ih =>
      rw [List.mem_cons, not_or] at hpiece
      obtain ⟨hfirst, hrest⟩ := hpiece
      simp only [pieces, if_neg (Ne.symm hfirst), ih hrest]

theorem not_mem_of_mem_pieces {chars piece : List Char} (hpiece : piece ∈ pieces chars) :
    '/' ∉ piece := by
  induction chars generalizing piece with
  | nil =>
      rw [List.mem_singleton.1 hpiece]
      exact List.not_mem_nil
  | cons first rest ih =>
      unfold pieces at hpiece
      split at hpiece
      · rcases List.mem_cons.1 hpiece with rfl | hmore
        · exact List.not_mem_nil
        · exact ih hmore
      · rename_i hfirst
        split at hpiece
        · rw [List.mem_singleton.1 hpiece, List.mem_singleton]
          exact Ne.symm hfirst
        · rename_i head more hrest
          rw [hrest] at ih
          rcases List.mem_cons.1 hpiece with rfl | hmore
          · rw [List.mem_cons, not_or]
            exact ⟨Ne.symm hfirst, ih List.mem_cons_self⟩
          · exact ih (List.mem_cons_of_mem _ hmore)

/-! ## Components -/

theorem startsAtRoot_append {left : List Char} (hleft : left ≠ []) (right : List Char) :
    startsAtRoot (left ++ right) = startsAtRoot left := by
  cases left with
  | nil => exact absurd rfl hleft
  | cons first rest => rfl

/-- What follows a slash adds the components of its pieces. -/
theorem componentsOf_slash {left : List Char} (hleft : left ≠ []) (right : List Char) :
    componentsOf (left ++ '/' :: right) =
      componentsOf left ++ (pieces right).filterMap (Component.ofPiece false) := by
  unfold componentsOf
  rw [startsAtRoot_append hleft, pieces_slash]
  split
  · rw [List.filterMap_append, List.cons_append]
  · cases hpieces : pieces left with
    | nil => exact absurd hpieces (pieces_ne_nil left)
    | cons piece more => simp only [List.cons_append, List.filterMap_append, List.append_assoc]

/-- A path that starts at the root has the components of what follows the first slash. -/
theorem componentsOf_root (chars : List Char) :
    componentsOf ('/' :: chars) =
      .root :: (pieces chars).filterMap (Component.ofPiece false) := by
  rfl

theorem isStep_of_mem_componentsOf {chars : List Char} {component : Component}
    (hmem : component ∈ componentsOf chars) (hroot : component ≠ .root)
    (hcurrent : component ≠ .current) : component.IsStep := by
  obtain ⟨first, piece, hpiece, hcomponent⟩ : ∃ first, ∃ piece ∈ pieces chars,
      Component.ofPiece first piece = some component := by
    unfold componentsOf at hmem
    split at hmem
    · rcases List.mem_cons.1 hmem with hhead | hmore
      · exact absurd hhead hroot
      · exact ⟨false, List.mem_filterMap.1 hmore⟩
    · split at hmem
      · cases hmem
      · rename_i head more hpieces
        rcases List.mem_append.1 hmem with hhead | hmore
        · refine ⟨true, head, ?_, Option.mem_toList.1 hhead⟩
          rw [hpieces]
          exact List.mem_cons_self
        · obtain ⟨piece, hpiece, hcomponent⟩ := List.mem_filterMap.1 hmore
          refine ⟨false, piece, ?_, hcomponent⟩
          rw [hpieces]
          exact List.mem_cons_of_mem _ hpiece
  exact Component.isStep_of_ofPiece (not_mem_of_mem_pieces hpiece) hcomponent hcurrent

/-- A slash at the end does not count. -/
theorem componentsOf_ended {chars : List Char} (hchars : chars ≠ []) :
    componentsOf (chars ++ ['/']) = componentsOf chars := by
  rw [componentsOf_slash hchars]
  exact List.append_nil _

section Steps

variable {step : Component}

theorem startsAtRoot_step (hstep : step.IsStep) : startsAtRoot step.text.toList = false := by
  cases htext : step.text.toList with
  | nil => rfl
  | cons first rest =>
      have hfirst : first ≠ '/' := by
        rintro rfl
        exact hstep.slash (htext ▸ List.mem_cons_self)
      simp only [startsAtRoot, List.head?_cons, Option.some_beq_some, beq_eq_false_iff_ne]
      exact hfirst

theorem componentsOf_step (hstep : step.IsStep) : componentsOf step.text.toList = [step] := by
  rw [componentsOf, startsAtRoot_step hstep, pieces_plain hstep.slash]
  simp only [Bool.false_eq_true, if_false, hstep.piece, Option.toList_some, List.filterMap_nil,
    List.append_nil]

theorem filterMap_pieces_step (hstep : step.IsStep) :
    (pieces step.text.toList).filterMap (Component.ofPiece false) = [step] := by
  rw [pieces_plain hstep.slash, List.filterMap_cons, hstep.piece, List.filterMap_nil]

/-- A step behind a slash adds its component. -/
theorem componentsOf_slash_step (chars : List Char) (hstep : step.IsStep) :
    componentsOf (chars ++ '/' :: step.text.toList) = componentsOf (chars ++ ['/']) ++ [step] := by
  have hadded := filterMap_pieces_step hstep
  cases chars with
  | nil =>
      rw [List.nil_append, componentsOf_root, hadded]
      rfl
  | cons first rest =>
      have hchars : first :: rest ≠ [] := List.cons_ne_nil _ _
      rw [componentsOf_slash hchars, hadded, componentsOf_ended hchars]

/-! ## Joined paths -/

/-- A step that is put behind a path adds its component. -/
theorem components_join (base : Path) (hstep : step.IsStep) :
    (base.join ⟨step.text⟩).components = base.components ++ [step] := by
  have hrelative : (⟨step.text⟩ : Path).isAbsolute = false := startsAtRoot_step hstep
  by_cases hblank : base.text = ""
  · have hjoin : base.join ⟨step.text⟩ = ⟨"" ++ step.text⟩ := by simp [join, hrelative, hblank]
    rw [hjoin, components, components, hblank, String.toList_append]
    exact componentsOf_step hstep
  by_cases hended : base.text.toList.getLast? = some '/'
  · have hjoin : base.join ⟨step.text⟩ = ⟨base.text ++ step.text⟩ := by
      simp [join, hrelative, hended]
    obtain ⟨chars, hchars⟩ := List.getLast?_eq_some_iff.1 hended
    rw [hjoin, components, components, String.toList_append, hchars, List.append_assoc]
    exact componentsOf_slash_step chars hstep
  · have hjoin : base.join ⟨step.text⟩ = ⟨base.text ++ "/" ++ step.text⟩ := by
      simp [join, hrelative, hblank, hended]
    have hchars : base.text.toList ≠ [] := fun hnone => hblank (String.toList_eq_nil_iff.1 hnone)
    rw [hjoin, components, components, String.toList_append, String.toList_append,
      List.append_assoc]
    exact (componentsOf_slash_step _ hstep).trans
      (congrArg (· ++ [step]) (componentsOf_ended hchars))

/-- Putting nothing behind a path puts no more than a slash there. -/
theorem components_join_blank (base : Path) : (base.join ⟨""⟩).components = base.components := by
  have hjoin : base.join ⟨""⟩ =
      if base.text = "" || base.text.toList.getLast? = some '/' then ⟨base.text ++ ""⟩
      else ⟨base.text ++ "/" ++ ""⟩ := rfl
  rw [hjoin]
  split
  · rw [String.append_empty]
  · rename_i hend
    have hchars : base.text.toList ≠ [] := fun hnone =>
      hend (by simp [String.toList_eq_nil_iff.1 hnone])
    rw [String.append_empty, components, String.toList_append]
    exact componentsOf_ended hchars

end Steps

/-- Steps that are put behind a path one after the other add their components. -/
theorem components_joinAll (base : Path) {steps : List Component}
    (hsteps : ∀ step ∈ steps, step.IsStep) :
    (steps.foldl (fun reached step => reached.join ⟨step.text⟩) base).components =
      base.components ++ steps := by
  induction steps generalizing base with
  | nil => exact (List.append_nil _).symm
  | cons step rest ih =>
      rw [List.foldl_cons, ih _ fun other hother => hsteps other (List.mem_cons_of_mem _ hother),
        components_join base (hsteps step List.mem_cons_self), List.append_assoc,
        List.singleton_append]

/-! ## Absolute paths -/

/-- A path that starts at the root takes steps from there. -/
theorem exists_steps {path : Path} (habsolute : path.isAbsolute = true) :
    ∃ steps, path.components = .root :: steps ∧ ∀ step ∈ steps, step.IsStep := by
  refine ⟨(pieces path.text.toList).filterMap (Component.ofPiece false), ?_, ?_⟩
  · exact if_pos habsolute
  · intro step hstep
    obtain ⟨piece, hpiece, hofPiece⟩ := List.mem_filterMap.1 hstep
    apply Component.isStep_of_ofPiece (not_mem_of_mem_pieces hpiece) hofPiece
    rintro rfl
    exact Component.ofPiece_ne_current hofPiece

/-- Making a path that starts at the root absolute keeps what it names. -/
theorem absolute_equiv (base : Path) {path : Path} (habsolute : path.isAbsolute = true) :
    absolute base path ≈ path := by
  obtain ⟨steps, hcomponents, hsteps⟩ := exists_steps habsolute
  have hnamed : path.text ≠ "" := fun hblank => by
    simp [isAbsolute, startsAtRoot, hblank] at habsolute
  have hkept : path.components.filter (fun c => c != .root && c != .current) = steps := by
    rw [hcomponents, List.filter_cons_of_neg (by decide), List.filter_eq_self]
    exact fun step hstep => (hsteps step hstep).kept
  have hjoined : ∀ start : Path, start.components = [.root] →
      (steps.foldl (fun reached c => reached.join ⟨c.text⟩) start).components =
        path.components := fun start hstart => by
    rw [components_joinAll start hsteps, hstart, hcomponents, List.singleton_append]
  have hstart :
      (if leadingSlashes path.text.toList = 2 then (⟨"//"⟩ : Path) else ⟨"/"⟩).components =
        [.root] := by
    split <;> decide
  rw [equiv_iff, absolute, if_neg hnamed, hkept]
  simp only [habsolute, Bool.not_true, Bool.false_eq_true, if_false]
  split
  · rw [components_join_blank, hjoined _ hstart]
  · rw [hjoined _ hstart]

end Path

end CompileServer
