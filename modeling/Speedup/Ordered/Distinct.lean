/-!
# Distinct keys in ascending order

`distinct` sorts a list and keeps one of equal neighbours. Its two laws say what a reader of the
result relies on: it holds exactly the given keys (`mem_distinct`), and each key comes strictly
before the next ones (`ascending_distinct`).
-/

namespace Speedup.Ordered

variable {κ : Type} [Ord κ]

/-- Each key comes before all later ones. -/
def Ascending (keys : List κ) : Prop := keys.Pairwise fun a b => compare a b = .lt

def atMost (a b : κ) : Bool := compare a b != .gt

def dropRepeats : List κ → List κ
  | [] => []
  | [a] => [a]
  | a :: b :: rest =>
    if compare a b == .eq then dropRepeats (b :: rest) else a :: dropRepeats (b :: rest)

/-- The keys of a list in ascending order, each once. -/
def distinct (keys : List κ) : List κ := dropRepeats (keys.mergeSort atMost)

section Comparison

variable {α β : Type} {cmp : β → β → Ordering} [Std.TransCmp cmp] (key : α → β)

/-- Not to come after is transitive, whatever comparison of keys decides it. -/
theorem bne_gt_trans (a b c : α) (h : (cmp (key a) (key b) != .gt) = true)
    (k : (cmp (key b) (key c) != .gt) = true) : (cmp (key a) (key c) != .gt) = true := by
  simp only [bne_iff_ne, Ordering.ne_gt_iff_isLE] at *
  exact Std.TransCmp.isLE_trans h k

/-- Of two keys one does not come after the other. -/
theorem bne_gt_total (a b : α) :
    (cmp (key a) (key b) != .gt || cmp (key b) (key a) != .gt) = true := by
  have swap : cmp (key b) (key a) = (cmp (key a) (key b)).swap := Std.OrientedCmp.eq_swap
  cases h : cmp (key a) (key b) <;> simp [h, swap]

end Comparison

section Laws

variable [Std.TransOrd κ]

theorem atMost_trans (a b c : κ) (h : atMost a b = true) (k : atMost b c = true) :
    atMost a c = true :=
  bne_gt_trans id a b c h k

theorem atMost_total (a b : κ) : (atMost a b || atMost b a) = true := bne_gt_total id a b

theorem sorted_mergeSort (keys : List κ) :
    (keys.mergeSort atMost).Pairwise fun a b => atMost a b = true :=
  List.pairwise_mergeSort atMost_trans atMost_total keys

variable [Std.LawfulEqOrd κ]

omit [Std.TransOrd κ] in
@[simp] theorem mem_dropRepeats {a : κ} {keys : List κ} : a ∈ dropRepeats keys ↔ a ∈ keys := by
  fun_induction dropRepeats keys with
  | case1 => simp
  | case2 => simp
  | case3 b c rest h ih =>
    have e : b = c := by simpa using h
    subst e
    simp [ih]
  | case4 b c rest h ih => simp [ih]

theorem ascending_dropRepeats {keys : List κ} (h : keys.Pairwise fun a b => atMost a b = true) :
    Ascending (dropRepeats keys) := by
  fun_induction dropRepeats keys with
  | case1 => exact List.Pairwise.nil
  | case2 => exact List.pairwise_singleton _ _
  | case3 a b rest _ ih => exact ih h.tail
  | case4 a b rest hab ih =>
    refine List.pairwise_cons.2 ⟨fun x hx => ?_, ih h.tail⟩
    have le : atMost a b = true := (List.pairwise_cons.1 h).1 b (by simp)
    have lt : compare a b = .lt := by
      cases e : compare a b with
      | lt => rfl
      | eq => simp [e] at hab
      | gt => simp [atMost, e] at le
    rcases List.mem_cons.1 (mem_dropRepeats.1 hx) with rfl | hx
    · exact lt
    · have bx : atMost b x = true := (List.pairwise_cons.1 h.tail).1 x hx
      simp only [atMost, bne_iff_ne, Ordering.ne_gt_iff_isLE] at bx
      exact Std.TransCmp.lt_of_lt_of_isLE lt bx

omit [Std.TransOrd κ] in
@[simp] theorem mem_distinct {a : κ} {keys : List κ} : a ∈ distinct keys ↔ a ∈ keys := by
  simp [distinct]

theorem ascending_distinct (keys : List κ) : Ascending (distinct keys) :=
  ascending_dropRepeats (sorted_mergeSort keys)

end Laws

end Speedup.Ordered
