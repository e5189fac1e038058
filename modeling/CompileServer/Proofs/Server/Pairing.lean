import Mathlib.Data.List.Forall2
import Mathlib.Data.List.Perm.Basic

/-!
# One for each

Two lists are paired if each of the left ones has one of the right ones for itself and none
is left over, in whatever order the right ones come.
-/

namespace CompileServer

variable {β γ : Type} {relation other : β → γ → Prop} {left : List β} {right later : List γ}

/-- In some order, the right ones are related to the left ones one by one. -/
def Paired (relation : β → γ → Prop) (left : List β) (right : List γ) : Prop :=
  ∃ ordered, List.Forall₂ relation left ordered ∧ ordered.Perm right

namespace Paired

theorem nil : Paired relation [] [] :=
  ⟨[], .nil, .refl []⟩

theorem length_eq (hpaired : Paired relation left right) : left.length = right.length := by
  obtain ⟨ordered, hrelated, hperm⟩ := hpaired
  rw [hrelated.length_eq, hperm.length_eq]

theorem perm (hpaired : Paired relation left right) (hperm : right.Perm later) :
    Paired relation left later := by
  obtain ⟨ordered, hrelated, hordered⟩ := hpaired
  exact ⟨ordered, hrelated, hordered.trans hperm⟩

theorem mono (hpaired : Paired relation left right)
    (hmono : ∀ a b, relation a b → other a b) : Paired other left right := by
  obtain ⟨ordered, hrelated, hordered⟩ := hpaired
  exact ⟨ordered, hrelated.imp hmono, hordered⟩

/-- A pair is added. -/
theorem concat {a : β} {b : γ} (hpaired : Paired relation left right) (hnew : relation a b) :
    Paired relation (left ++ [a]) (right ++ [b]) := by
  obtain ⟨ordered, hrelated, hordered⟩ := hpaired
  refine ⟨ordered ++ [b], ?_, hordered.append_right [b]⟩
  exact List.rel_append hrelated (.cons hnew .nil)

/-- The left ones can be put in the order of the right ones in place. -/
theorem exists_perm (hpaired : Paired relation left right) :
    ∃ ordered, left.Perm ordered ∧ List.Forall₂ relation ordered right := by
  have hcomp : Relation.Comp (List.Forall₂ relation) List.Perm left right := hpaired
  rw [List.forall₂_comp_perm_eq_perm_comp_forall₂] at hcomp
  exact hcomp

/-- One of the right ones is replaced by another. -/
theorem replace {b c : γ} (hpaired : Paired relation left (b :: right))
    (hreplace : ∀ a, relation a b → relation a c) : Paired relation left (c :: right) := by
  obtain ⟨ordered, hperm, hrelated⟩ := hpaired.exists_perm
  cases hrelated with
  | cons hfirst hrest =>
      exact List.perm_comp_forall₂ hperm (.cons (hreplace _ hfirst) hrest)

/-- The last of the right ones is replaced by another. -/
theorem replace_last {b c : γ} (hpaired : Paired relation left (right ++ [b]))
    (hreplace : ∀ a, relation a b → relation a c) : Paired relation left (right ++ [c]) := by
  have hfirst := hpaired.perm (List.perm_append_singleton b right)
  exact (hfirst.replace hreplace).perm (List.perm_append_singleton c right).symm

theorem of_map {ε : Type} {shape : ε → γ} {sources : List ε}
    (hpaired : Paired relation left (sources.map shape)) :
    Paired (fun a source => relation a (shape source)) left sources := by
  obtain ⟨ordered, hperm, hrelated⟩ := hpaired.exists_perm
  exact List.perm_comp_forall₂ hperm (List.forall₂_map_right_iff.1 hrelated)

/-- Each of the right ones has its partner. -/
theorem exists_of_mem (hpaired : Paired relation left right) {b : γ} (hmem : b ∈ right) :
    ∃ a ∈ left, relation a b := by
  obtain ⟨ordered, hrelated, hordered⟩ := hpaired
  obtain ⟨position, hlt, rfl⟩ := List.getElem_of_mem (hordered.mem_iff.2 hmem)
  have hposition : position < left.length := by
    rw [hrelated.length_eq]
    exact hlt
  exact ⟨left[position], List.getElem_mem hposition, hrelated.get hposition hlt⟩

end Paired

end CompileServer
