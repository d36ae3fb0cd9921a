import Speedup.Ordered.Table

/-!
# Keys with two parts

Pairs compared by their first part and, where it is the same, by the second.
-/

namespace Speedup.Ordered

structure Pair (α β : Type) where
  first : α
  second : β
  deriving DecidableEq, Repr

namespace Pair

variable {α β : Type} [Ord α] [Ord β]

instance : Ord (Pair α β) := ⟨compareLex (compareOn Pair.first) (compareOn Pair.second)⟩

theorem compare_def (p q : Pair α β) :
    compare p q = (compare p.first q.first).then (compare p.second q.second) := rfl

instance [Std.TransOrd α] [Std.TransOrd β] : Std.TransOrd (Pair α β) :=
  inferInstanceAs (Std.TransCmp (compareLex (compareOn Pair.first) (compareOn Pair.second)))

instance [Std.LawfulEqOrd α] [Std.LawfulEqOrd β] : Std.LawfulEqOrd (Pair α β) where
  compare_self := by
    intro p
    simp [compare_def]
  eq_of_compare := by
    intro p q h
    rw [compare_def, Ordering.then_eq_eq] at h
    cases p
    cases q
    simp_all

end Pair

end Speedup.Ordered
