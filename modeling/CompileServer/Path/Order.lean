import CompileServer.Path.Basic

/-!
# The order of paths

Comparing components is a linear order, so the order of paths is transitive and
calls exactly those paths equal that are the same key.
-/

namespace CompileServer

namespace Component

instance : Std.TransOrd Component :=
  inferInstanceAs (Std.TransCmp (compareLex (compareOn rank) (compareOn name)))

instance : Std.LawfulEqOrd Component where
  eq_of_compare {a b} h := by
    have h : compareLex (compareOn rank) (compareOn name) a b = .eq := h
    simp only [compareLex, compareOn, Ordering.then_eq_eq, Std.compare_eq_iff_eq] at h
    obtain ⟨sameRank, sameName⟩ := h
    cases a <;> cases b <;> simp_all [rank, name]

end Component

namespace Path

instance : Std.TransCmp order :=
  inferInstanceAs (Std.TransCmp (compareOn components))

theorem order_eq_iff {a b : Path} : order a b = .eq ↔ a ≈ b := by
  simp only [order, Std.compare_eq_iff_eq, equiv_iff]

theorem order_swap {a b : Path} : (order a b).swap = order b a :=
  Std.OrientedCmp.eq_swap.symm

theorem order_trans {a b c : Path} (hab : order a b = .lt) (hbc : order b c = .lt) :
    order a c = .lt :=
  Std.TransCmp.lt_trans hab hbc

theorem order_congr_left {a b : Path} (h : a ≈ b) (c : Path) : order a c = order b c := by
  simp only [order, equiv_iff.1 h]

theorem order_congr_right {a b : Path} (h : a ≈ b) (c : Path) : order c a = order c b := by
  simp only [order, equiv_iff.1 h]

theorem order_gt_iff {a b : Path} : order a b = .gt ↔ order b a = .lt := by
  rw [← order_swap (a := a) (b := b)]
  cases order a b <;> simp

theorem not_equiv_of_lt {a b : Path} (h : order a b = .lt) : ¬ a ≈ b := fun same => by
  rw [order_eq_iff.2 same] at h
  cases h

end Path

end CompileServer
