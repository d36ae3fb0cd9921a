import Mathlib.Data.List.Permutation
import Speedup.Comparison.Basic
import Speedup.Proofs.Comparison.DenseRank
import Speedup.Proofs.Ordered.StableSort

/-!
# Standings

`Ranked.standings` sorts rows and numbers them. The result holds the given rows with nothing but
the rank changed; better keys come first, tied rows keep their order, and a rank is one more
than the number of distinct better keys (`Standing`). All of it rests on the sort being stable
and on the key order being a comparison of levels.

Where no two rows share a name and the names ascend, ties are settled by the name. So the ranking
of a comparison is in a strict order (`Before`), and there is only one such list of its rows.
-/

namespace Speedup.Ranked

/-! ## What standings are -/

def withoutRank (r : Ranked) : Ranked := { r with rank := 0 }

/-- The classes of tied keys that are better than a key. -/
def betterClasses (rows : List Ranked) (k : Key) :
    Finset (WithBot ℤ ×ₗ WithBot ℤ ×ₗ WithBot ℤ) :=
  ((rows.filter fun r => r.key.Outranks k).map (·.key.level)).toFinset

/-- What it means that a list ranks some rows. -/
structure Standing (rows out : List Ranked) : Prop where
  /-- Nothing but ranks and places change. -/
  perm : (out.map withoutRank).Perm (rows.map withoutRank)
  ordered : out.Pairwise fun a b => a.key.Outranks b.key ∨ a.key.Ties b.key
  /-- Tied rows keep the order they come in. -/
  stable : ∀ k : Key, (out.filter fun r => r.key.Ties k).map withoutRank =
    (rows.filter fun r => r.key.Ties k).map withoutRank
  rank_eq : ∀ r ∈ out, r.rank = (betterClasses rows r.key).card + 1
  first : ∀ r ∈ out.head?, r.rank = 1
  ascending : out.Pairwise fun a b => a.rank ≤ b.rank
  no_gap : ∀ r ∈ out, ∀ n, 1 ≤ n → n ≤ r.rank → ∃ s ∈ out, s.rank = n
  shared : ∀ a ∈ out, ∀ b ∈ out, a.rank = b.rank ↔ a.key.Ties b.key

theorem card_betterClasses (rows : List Ranked) (k : Key) :
    (betterClasses rows k).card = above (levels rows) k.level := by
  refine congrArg Finset.card ?_
  ext l
  simp only [betterClasses, levels, List.mem_toFinset, List.mem_map, List.mem_filter,
    Finset.mem_filter, decide_eq_true_eq, Key.outranks_iff_level]
  constructor
  · rintro ⟨r, ⟨hr, better⟩, rfl⟩
    exact ⟨⟨r, hr, rfl⟩, better⟩
  · rintro ⟨⟨r, hr, rfl⟩, better⟩
    exact ⟨r, ⟨hr, better⟩, rfl⟩

/-! ## The sorted rows -/

def arranged (rows : List Ranked) : List Ranked :=
  rows.mergeSort fun a b => a.key.order b.key != .gt

theorem order_bne_gt_iff {a b : Key} : (a.order b != .gt) = true ↔ b.level ≤ a.level := by
  rw [bne_iff_ne, Key.order_eq_compare, ne_eq, compare_gt_iff_gt, not_lt]

theorem arranged_perm (rows : List Ranked) : (arranged rows).Perm rows := List.mergeSort_perm _ _

theorem bestFirst_arranged (rows : List Ranked) : BestFirst (arranged rows) :=
  (List.pairwise_mergeSort (Ordered.bne_gt_trans key) (Ordered.bne_gt_total key) rows).imp
    order_bne_gt_iff.mp

theorem filter_ties_arranged (rows : List Ranked) (k : Key) :
    ((arranged rows).filter fun r => r.key.Ties k) = rows.filter fun r => r.key.Ties k := by
  refine Ordered.filter_mergeSort (Ordered.bne_gt_trans key) (Ordered.bne_gt_total key) ?_ rows
  intro a b ha hb
  rw [decide_eq_true_eq, Key.ties_iff_level] at ha hb
  rw [order_bne_gt_iff, ha, hb]

theorem standings_eq_map (rows : List Ranked) :
    standings rows = (arranged rows).map fun r =>
      { r with rank := above (levels rows) r.key.level + 1 } := by
  rw [standings, ← arranged, number_zero_eq_map (bestFirst_arranged rows),
    levels_perm (arranged_perm rows)]

/-! ## The rows of standings -/

section Rows

variable {rows : List Ranked} {a b : Ranked}

theorem rank_of_mem_standings (h : a ∈ standings rows) :
    a.rank = above (levels rows) a.key.level + 1 := by
  rw [standings_eq_map] at h
  obtain ⟨r, _, rfl⟩ := List.mem_map.mp h
  rfl

theorem level_mem_of_mem_standings (h : a ∈ standings rows) : a.key.level ∈ levels rows := by
  rw [standings_eq_map] at h
  obtain ⟨r, hr, rfl⟩ := List.mem_map.mp h
  exact mem_levels (r := r) ((arranged_perm rows).mem_iff.mp hr)

theorem exists_mem_standings_of_mem_levels {l} (h : l ∈ levels rows) :
    ∃ r ∈ standings rows, r.key.level = l := by
  obtain ⟨r, hr, rfl⟩ := exists_of_mem_levels h
  rw [standings_eq_map]
  exact ⟨_, List.mem_map.mpr ⟨r, (arranged_perm rows).mem_iff.mpr hr, rfl⟩, rfl⟩

theorem map_withoutRank_standings (rows : List Ranked) :
    (standings rows).map withoutRank = (arranged rows).map withoutRank := by
  rw [standings_eq_map, List.map_map]
  rfl

theorem bestFirst_standings (rows : List Ranked) : BestFirst (standings rows) := by
  rw [BestFirst, standings_eq_map, List.pairwise_map]
  exact bestFirst_arranged rows

theorem filter_ties_standings (rows : List Ranked) (k : Key) :
    ((standings rows).filter fun r => r.key.Ties k).map withoutRank =
      (rows.filter fun r => r.key.Ties k).map withoutRank := by
  rw [standings_eq_map, List.filter_map, List.map_map, ← filter_ties_arranged]
  rfl

theorem rank_head_standings (h : a ∈ (standings rows).head?) : a.rank = 1 := by
  have best := bestFirst_standings rows
  cases out : standings rows with
  | nil => simp [out] at h
  | cons r rest =>
      obtain rfl : r = a := by simpa [out] using h
      rw [out] at best
      have mem : r ∈ standings rows := by
        rw [out]
        exact List.mem_cons_self
      have top : ∀ l ∈ levels rows, l ≤ r.key.level := by
        intro l hl
        obtain ⟨s, hs, rfl⟩ := exists_mem_standings_of_mem_levels hl
        rw [out] at hs
        exact best.le_head _ (mem_levels hs)
      rw [rank_of_mem_standings mem, above_eq_zero top]

theorem exists_rank_eq {n : Nat} (ha : a ∈ standings rows) (pos : 1 ≤ n) (h : n ≤ a.rank) :
    ∃ s ∈ standings rows, s.rank = n := by
  rw [rank_of_mem_standings ha] at h
  obtain ⟨l, hl, count⟩ := exists_above_eq (n := n - 1) (level_mem_of_mem_standings ha) (by omega)
  obtain ⟨s, hs, rfl⟩ := exists_mem_standings_of_mem_levels hl
  refine ⟨s, hs, ?_⟩
  rw [rank_of_mem_standings hs, count]
  omega

theorem rank_eq_iff_ties (ha : a ∈ standings rows) (hb : b ∈ standings rows) :
    a.rank = b.rank ↔ a.key.Ties b.key := by
  rw [rank_of_mem_standings ha, rank_of_mem_standings hb, Nat.add_right_cancel_iff,
    above_eq_iff (level_mem_of_mem_standings ha) (level_mem_of_mem_standings hb),
    Key.ties_iff_level]

theorem standing_standings (rows : List Ranked) : Standing rows (standings rows) where
  perm := by
    rw [map_withoutRank_standings]
    exact (arranged_perm rows).map _
  ordered := by
    refine (bestFirst_standings rows).imp ?_
    intro a b h
    rw [Key.outranks_iff_level, Key.ties_iff_level, eq_comm]
    exact h.lt_or_eq
  stable := filter_ties_standings rows
  rank_eq := by
    intro r hr
    rw [rank_of_mem_standings hr, card_betterClasses]
  first := fun _ => rank_head_standings
  ascending := by
    refine (bestFirst_standings rows).imp_of_mem ?_
    intro a b ha hb h
    rw [rank_of_mem_standings ha, rank_of_mem_standings hb]
    exact Nat.add_le_add_right (above_le_of_le h) 1
  no_gap := fun _ hr _ => exists_rank_eq hr
  shared := fun _ ha _ hb => rank_eq_iff_ties ha hb

end Rows

/-! ## Ties settled by name -/

/-- The strict order of rows: the better key first, and the smaller name where keys tie. -/
def Before (a b : Ranked) : Prop :=
  a.key.Outranks b.key ∨ a.key.Ties b.key ∧ compare a.exe b.exe = .lt

instance (a b : Ranked) : Decidable (Before a b) := inferInstanceAs (Decidable (_ ∨ _))

theorem Before.asymm {a b : Ranked} (h : Before a b) : ¬ Before b a := by
  intro h'
  simp only [Before, Key.outranks_iff_level, Key.ties_iff_level] at h h'
  rcases h with h | ⟨same, less⟩
  · rcases h' with h' | ⟨same', _⟩
    · exact absurd h' h.asymm
    · exact absurd same' h.ne
  · rcases h' with h' | ⟨_, less'⟩
    · exact absurd same h'.ne
    · rw [Std.OrientedOrd.eq_swap, less'] at less
      cases less

/-- Rows with ascending names are ranked in the strict order: if the keys of two rows tie, the
rows stand as they came. -/
theorem before_standings {rows : List Ranked}
    (names : rows.Pairwise fun a b => compare a.exe b.exe = .lt) :
    (standings rows).Pairwise Before := by
  rw [standings_eq_map, List.pairwise_map]
  refine (Ordered.pairwise_mergeSort_of_pairwise (Ordered.bne_gt_trans key)
    (Ordered.bne_gt_total key) names).imp ?_
  rintro a b ⟨best, settled⟩
  rw [order_bne_gt_iff] at best
  rcases best.lt_or_eq with less | same
  · exact Or.inl (Key.outranks_iff_level.mpr less)
  · refine Or.inr ⟨Key.ties_iff_level.mpr same.symm, settled ?_⟩
    rw [order_bne_gt_iff, same]

/-- There is one list of given rows in the strict order. -/
theorem map_withoutRank_eq_of_before {xs ys : List Ranked} (hx : xs.Pairwise Before)
    (hy : ys.Pairwise Before) (perm : (xs.map withoutRank).Perm (ys.map withoutRank)) :
    xs.map withoutRank = ys.map withoutRank := by
  have hx' : (xs.map withoutRank).Pairwise Before := List.pairwise_map.mpr hx
  have hy' : (ys.map withoutRank).Pairwise Before := List.pairwise_map.mpr hy
  refine List.Perm.eq_of_pairwise ?_ hx' hy' perm
  intro a b _ _ h h'
  exact absurd h' h.asymm

theorem levels_eq_of_perm {xs ys : List Ranked}
    (perm : (xs.map withoutRank).Perm (ys.map withoutRank)) : levels xs = levels ys := by
  have forget (zs : List Ranked) : levels (zs.map withoutRank) = levels zs := by
    rw [levels, List.map_map]
    rfl
  rw [← forget xs, ← forget ys, levels_perm perm]

/-- Rows are determined by what they hold apart from their ranks, if these follow from the
keys. -/
theorem eq_of_map_withoutRank_eq {xs ys : List Ranked} (rank : Key → Nat)
    (hx : ∀ r ∈ xs, r.rank = rank r.key) (hy : ∀ r ∈ ys, r.rank = rank r.key)
    (h : xs.map withoutRank = ys.map withoutRank) : xs = ys := by
  have restore (zs : List Ranked) (hz : ∀ r ∈ zs, r.rank = rank r.key) :
      (zs.map withoutRank).map (fun r => { r with rank := rank r.key }) = zs := by
    rw [List.map_map]
    conv_rhs => rw [← List.map_id zs]
    refine List.map_congr_left fun r hr => ?_
    show { r with rank := rank r.key } = r
    rw [← hz r hr]
  rw [← restore xs hx, ← restore ys hy, h]

/-- Rows with ascending names have one list in the strict order with dense ranks: their
standings. -/
theorem eq_standings {rows out : List Ranked}
    (names : rows.Pairwise fun a b => compare a.exe b.exe = .lt)
    (perm : (out.map withoutRank).Perm (rows.map withoutRank)) (before : out.Pairwise Before)
    (dense : ∀ r ∈ out, r.rank = (betterClasses out r.key).card + 1) : out = standings rows := by
  have standing := standing_standings rows
  have same := map_withoutRank_eq_of_before before (before_standings names)
    (perm.trans standing.perm.symm)
  refine eq_of_map_withoutRank_eq (fun k => above (levels rows) k.level + 1) ?_ ?_ same
  · intro r hr
    rw [dense r hr, card_betterClasses, levels_eq_of_perm perm]
  · intro r hr
    exact rank_of_mem_standings hr

end Speedup.Ranked
