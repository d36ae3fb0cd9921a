import Speedup.Ordered.Distinct

/-!
# What a stable sort keeps

`List.mergeSort` leaves elements that its order does not tell apart as they came
(`filter_mergeSort`). So the order that a list had before settles the ties after it
(`pairwise_mergeSort_of_pairwise`).
-/

namespace Speedup.Ordered

variable {α : Type} {le : α → α → Bool} {xs : List α}

section Order

variable (trans : ∀ a b c : α, le a b = true → le b c = true → le a c = true)
  (total : ∀ a b : α, (le a b || le b a) = true)

include trans total

/-- Elements of which each is at most every other one are in order already, so that as a sublist
they stay one. -/
theorem filter_mergeSort {p : α → Bool}
    (tied : ∀ a b, p a = true → p b = true → le a b = true) (xs : List α) :
    (xs.mergeSort le).filter p = xs.filter p := by
  have ordered : (xs.filter p).Pairwise fun a b => le a b = true := by
    apply List.pairwise_of_forall_mem_list
    intro a ha b hb
    exact tied a b (List.mem_filter.mp ha).2 (List.mem_filter.mp hb).2
  have sublist := List.sublist_mergeSort trans total ordered List.filter_sublist
  have kept := sublist.filter p
  rw [List.filter_filter] at kept
  simp only [Bool.and_self] at kept
  have perm := (List.mergeSort_perm xs le).filter p
  exact (kept.eq_of_length perm.length_eq.symm).symm

/-- A list in some order is afterwards in the order it is sorted by, and where this one ties still
in the other. -/
theorem pairwise_mergeSort_of_pairwise {r : α → α → Prop} (h : xs.Pairwise r) :
    (xs.mergeSort le).Pairwise fun a b => le a b = true ∧ (le b a = true → r a b) := by
  rw [List.pairwise_iff_forall_sublist]
  intro a b sub
  have sorted := (List.pairwise_mergeSort trans total xs).sublist sub
  rw [List.pairwise_pair] at sorted
  refine ⟨sorted, fun back => ?_⟩
  have refl (c : α) : le c c = true := by simpa using total c c
  -- those that tie with `a` stand as they did before, and `b` is among them
  have same := filter_mergeSort trans total
    (p := fun c => le a c && le c a) (fun c d hc hd => by
      rw [Bool.and_eq_true] at hc hd
      exact trans c a d hc.2 hd.1) xs
  have kept := sub.filter fun c => le a c && le c a
  rw [same] at kept
  simp only [List.filter_cons, refl, sorted, back, Bool.and_self, if_true,
    List.filter_nil] at kept
  have before := h.sublist (kept.trans List.filter_sublist)
  rwa [List.pairwise_pair] at before

end Order

end Speedup.Ordered
