import Mathlib.Data.List.Nodup
import Speedup.Collapsed
import Speedup.Proofs.Grouping
import Speedup.Proofs.Ordered.StableSort

/-!
# Collapsed medians

What the table of collapsed medians is, told without the two passes that make it: one row for every
series with a value, whose median is that of the medians of its invocations, and rows in a strict
order (`Collapses`). No other list is such a table, so this determines it (`Collapses.unique`).

The strict order settles ties of the order that the rows are sorted by: the series come in the order
of executables where all before that is equal, and the sort is stable.
-/

namespace Speedup.Collapsed

open Ordered

variable {rows : List Observation} {out : List Collapsed} {s : Series} {m : Double}
  {a b : Collapsed}

/-! ## Medians of medians -/

/-- The series that a row is about. -/
def measured (r : Collapsed) : Series := ⟨r.bench, r.exe, r.suite, r.inputsize⟩

/-- The values that a series has in an invocation; a missing number is an invocation as well. -/
def valuesIn (rows : List Observation) (s : Series) (invocation : Option Int) : List Double :=
  (rows.filter fun o => series o = s ∧ o.invocation = invocation).filterMap (·.value)

/-- A number is the median of the medians of all invocations of a series that have a value. -/
def IsTwoPassMedian (rows : List Observation) (s : Series) (m : Double) : Prop :=
  ∃ invocations : List (Option Int), invocations.Nodup ∧
    (∀ i, i ∈ invocations ↔ valuesIn rows s i ≠ []) ∧
    ∃ medians : List Double,
      medians.map some = invocations.map (fun i => Sample.median (valuesIn rows s i)) ∧
      Sample.median medians = some m

/-- The order in which invocations are listed does not matter. -/
theorem IsTwoPassMedian.unique {m' : Double} (h : IsTwoPassMedian rows s m)
    (h' : IsTwoPassMedian rows s m') : m = m' := by
  obtain ⟨is, nodup, mem, ms, medians, median⟩ := h
  obtain ⟨is', nodup', mem', ms', medians', median'⟩ := h'
  have same : is.Perm is' := by
    rw [List.perm_ext_iff_of_nodup nodup nodup']
    intro i
    rw [mem, mem']
  have perm : (ms.map some).Perm (ms'.map some) := by
    rw [medians, medians']
    exact same.map _
  have perm : ms.Perm ms' := by
    simpa using perm.filterMap id
  rw [Sample.median_perm perm, median'] at median
  exact (Option.some.inj median).symm

def inInvocation (o : Observation) : Pair Series (Option Int) := ⟨series o, o.invocation⟩

theorem valuesAt_inInvocation (rows : List Observation) (s : Series) (i : Option Int) :
    Grouping.valuesAt inInvocation rows ⟨s, i⟩ = valuesIn rows s i := by
  unfold Grouping.valuesAt valuesIn inInvocation
  simp only [Pair.mk.injEq]

/-- The invocations that the first pass has for a series, in the order of its groups. -/
def invocationsIn (groups : Table (Pair Series (Option Int)) (List Double)) (s : Series) :
    List (Option Int) :=
  (groups.keys.filter (·.first = s)).map (·.second)

theorem mem_invocationsIn_values_iff {i : Option Int} :
    i ∈ invocationsIn (Grouping.values inInvocation rows) s ↔ valuesIn rows s i ≠ [] := by
  rw [← valuesAt_inInvocation, ← Grouping.mem_keys_values_iff, invocationsIn]
  simp only [List.mem_map, List.mem_filter, decide_eq_true_eq]
  constructor
  · rintro ⟨⟨_, _⟩, ⟨hk, rfl⟩, rfl⟩
    exact hk
  · intro hk
    exact ⟨⟨s, i⟩, ⟨hk, rfl⟩, rfl⟩

theorem nodup_invocationsIn (groups : Table (Pair Series (Option Int)) (List Double))
    (s : Series) : (invocationsIn groups s).Nodup := by
  have keys := groups.ascending.nodup
  unfold invocationsIn
  apply List.Nodup.map_on _ (keys.filter _)
  rintro ⟨s₁, i⟩ h₁ ⟨s₂, j⟩ h₂ rfl
  obtain rfl : s₁ = s := by simpa using (List.mem_filter.mp h₁).2
  obtain rfl : s₂ = s₁ := by simpa using (List.mem_filter.mp h₂).2
  rfl

theorem invocationMedians_eq (rows : List Observation) :
    invocationMedians rows = (Grouping.values inInvocation rows).keys.filterMap fun k =>
      (Sample.median (valuesIn rows k.first k.second)).map fun m => (k.first, m) := by
  show (Grouping.values inInvocation rows).entries.filterMap _ = _
  rw [Grouping.entries_values, List.filterMap_map]
  refine List.filterMap_congr fun k _ => ?_
  rw [Function.comp_apply, valuesAt_inInvocation]

/-- What the second pass finds under a series: the median of each of its invocations. -/
theorem map_some_valuesUnder (rows : List Observation) (s : Series) :
    (Table.valuesUnder s (invocationMedians rows)).map some =
      (invocationsIn (Grouping.values inInvocation rows) s).map fun i =>
        Sample.median (valuesIn rows s i) := by
  rw [invocationMedians_eq, invocationsIn]
  have there : ∀ k ∈ (Grouping.values inInvocation rows).keys,
      valuesIn rows k.first k.second ≠ [] := by
    intro k hk
    rw [← valuesAt_inInvocation]
    exact Grouping.mem_keys_values_iff.mp hk
  generalize (Grouping.values inInvocation rows).keys = ks at there
  unfold Table.valuesUnder
  induction ks with
  | nil => rfl
  | cons k ks ih =>
      have later := ih fun k' hk' => there k' (List.mem_cons_of_mem k hk')
      obtain ⟨v, hv⟩ := Option.ne_none_iff_exists'.mp
        (mt Sample.median_eq_none_iff.mp (there k List.mem_cons_self))
      by_cases hk : k.first = s
      · subst hk
        simp [hv, later]
      · simp [hv, hk, later]

theorem valuesUnder_ne_nil_iff : Table.valuesUnder s (invocationMedians rows) ≠ [] ↔
    ∃ o ∈ rows, series o = s ∧ o.value.isSome := by
  rw [ne_eq, ← List.map_eq_nil_iff (f := some), map_some_valuesUnder, List.map_eq_nil_iff,
    ← ne_eq]
  constructor
  · intro h
    obtain ⟨i, hi⟩ := List.exists_mem_of_ne_nil _ h
    rw [mem_invocationsIn_values_iff, ← valuesAt_inInvocation, Grouping.valuesAt_ne_nil_iff] at hi
    obtain ⟨o, ho, hk, hv⟩ := hi
    exact ⟨o, ho, congrArg Pair.first hk, hv⟩
  · rintro ⟨o, ho, rfl, hv⟩
    apply List.ne_nil_of_mem (a := o.invocation)
    rw [mem_invocationsIn_values_iff, ← valuesAt_inInvocation, Grouping.valuesAt_ne_nil_iff]
    exact ⟨o, ho, rfl, hv⟩

/-! ## The rows, before they are sorted -/

def bySeries (groups : Table Series (List Double)) : List Collapsed :=
  groups.entries.filterMap fun (s, ms) => ofSeries s ms

theorem ofSeries_eq_some_iff {ms : List Double} {r : Collapsed} :
    ofSeries s ms = some r ↔ r.measured = s ∧ Sample.median ms = some r.median := by
  unfold ofSeries measured
  rw [Option.map_eq_some_iff]
  constructor
  · rintro ⟨m, hm, rfl⟩
    exact ⟨rfl, hm⟩
  · rintro ⟨rfl, hm⟩
    exact ⟨r.median, hm, rfl⟩

theorem mem_bySeries_group_iff {r : Collapsed} :
    r ∈ bySeries (Table.group (invocationMedians rows)) ↔
    Table.valuesUnder r.measured (invocationMedians rows) ≠ [] ∧
      Sample.median (Table.valuesUnder r.measured (invocationMedians rows)) = some r.median := by
  unfold bySeries
  rw [List.mem_filterMap]
  constructor
  · rintro ⟨⟨s, ms⟩, he, hr⟩
    obtain ⟨rfl, hm⟩ := ofSeries_eq_some_iff.mp hr
    obtain ⟨rfl, hne⟩ := Table.get?_group_eq_some_iff.mp (Table.get?_eq_some_iff.mpr he)
    exact ⟨hne, hm⟩
  · rintro ⟨hne, hm⟩
    refine ⟨(r.measured, _), Table.get?_eq_some_iff.mp ?_, ofSeries_eq_some_iff.mpr ⟨rfl, hm⟩⟩
    exact Table.get?_group_eq_some_iff.mpr ⟨rfl, hne⟩

theorem ascending_bySeries (groups : Table Series (List Double)) :
    (bySeries groups).Pairwise fun a b => compare a.measured b.measured = .lt := by
  unfold bySeries
  rw [List.pairwise_filterMap]
  refine (List.pairwise_map.mp groups.ascending).imp ?_
  intro e e' before a ha b hb
  rw [(ofSeries_eq_some_iff.mp ha).1, (ofSeries_eq_some_iff.mp hb).1]
  exact before

/-! ## The order of the table -/

/-- Smaller input sizes first, a missing one last. -/
def SizeBefore : Option Int → Option Int → Prop
  | some m, some n => m < n
  | some _, none => True
  | none, _ => False

/-- The strict order of rows: by suite, benchmark, input size, the bits of the median, and
executable. -/
def Precedes (a b : Collapsed) : Prop :=
  compare a.suite b.suite = .lt ∨ a.suite = b.suite ∧
    (compare a.bench b.bench = .lt ∨ a.bench = b.bench ∧
      (SizeBefore a.inputsize b.inputsize ∨ a.inputsize = b.inputsize ∧
        (a.median.totalPlace < b.median.totalPlace ∨ a.median = b.median ∧
          compare a.exe b.exe = .lt)))

def sortKey (r : Collapsed) : Pair String (Pair String (Pair Bool (Pair (Option Int) Int))) :=
  ⟨r.suite, r.bench, r.inputsize.isNone, r.inputsize, r.median.totalPlace⟩

theorem order_eq_compare (a b : Collapsed) : order a b = compare a.sortKey b.sortKey := rfl

instance : Std.TransCmp order where
  eq_swap := by
    intro a b
    rw [order_eq_compare, order_eq_compare]
    exact Std.OrientedOrd.eq_swap
  isLE_trans := by
    intro a b c
    rw [order_eq_compare, order_eq_compare, order_eq_compare]
    exact Std.TransOrd.isLE_trans

theorem order_eq_eq_iff : order a b = .eq ↔ a.sortKey = b.sortKey := by
  rw [order_eq_compare, Std.LawfulEqOrd.compare_eq_iff_eq]

theorem sortKey_eq_iff : a.sortKey = b.sortKey ↔
    a.suite = b.suite ∧ a.bench = b.bench ∧ a.inputsize = b.inputsize ∧ a.median = b.median := by
  simp only [sortKey, Pair.mk.injEq]
  constructor
  · rintro ⟨suite, bench, -, size, place⟩
    exact ⟨suite, bench, size, Double.eq_of_totalPlace_eq place⟩
  · rintro ⟨suite, bench, size, median⟩
    rw [size, median]
    exact ⟨suite, bench, rfl, rfl, rfl⟩

/-- A missing size comes last because it is asked for first whether there is one. -/
theorem sizeBefore_iff (m n : Option Int) : SizeBefore m n ↔
    compare m.isNone n.isNone = .lt ∨
      compare m.isNone n.isNone = .eq ∧ compare m n = .lt := by
  cases m with
  | none =>
      cases n with
      | none => simp [SizeBefore]
      | some n => simp [SizeBefore]
  | some m =>
      cases n with
      | none => simp [SizeBefore]; decide
      | some n =>
          have present : compare (some m) (some n) = compare m n := rfl
          simp [SizeBefore, present, compare_lt_iff_lt]

theorem order_eq_lt_iff : order a b = .lt ↔
    compare a.suite b.suite = .lt ∨ a.suite = b.suite ∧
      (compare a.bench b.bench = .lt ∨ a.bench = b.bench ∧
        (SizeBefore a.inputsize b.inputsize ∨ a.inputsize = b.inputsize ∧
          a.median.totalPlace < b.median.totalPlace)) := by
  simp only [order, Ordering.then_eq_lt, Std.LawfulEqOrd.compare_eq_iff_eq, compare_lt_iff_lt,
    sizeBefore_iff]
  refine or_congr_right (and_congr_right fun _ => or_congr_right (and_congr_right fun _ => ?_))
  constructor
  · rintro (less | ⟨same, less | ⟨size, less⟩⟩)
    · exact Or.inl (Or.inl less)
    · exact Or.inl (Or.inr ⟨same, less⟩)
    · exact Or.inr ⟨size, less⟩
  · rintro ((less | ⟨same, less⟩) | ⟨size, less⟩)
    · exact Or.inl less
    · exact Or.inr ⟨same, Or.inl less⟩
    · exact Or.inr ⟨by rw [size], Or.inr ⟨size, less⟩⟩

theorem precedes_iff : Precedes a b ↔
    order a b = .lt ∨ order a b = .eq ∧ compare a.exe b.exe = .lt := by
  rw [order_eq_lt_iff, order_eq_eq_iff, sortKey_eq_iff, Precedes]
  tauto

theorem Precedes.asymm (h : Precedes a b) : ¬ Precedes b a := by
  intro h'
  rw [precedes_iff] at h h'
  rcases h with less | ⟨same, less⟩
  · have after : order b a = .gt := Std.OrientedCmp.gt_of_lt less
    simp [after] at h'
  · have same' : order b a = .eq := Std.OrientedCmp.eq_symm same
    have after : compare b.exe a.exe = .gt := Std.OrientedCmp.gt_of_lt less
    simp [same', after] at h'

/-- Rows that tie in all they are sorted by are of the same suite, benchmark and input size, so
the order of their series is that of their executables. -/
theorem exe_lt_of_order_eq (same : order a b = .eq)
    (before : compare a.measured b.measured = .lt) : compare a.exe b.exe = .lt := by
  rw [order_eq_eq_iff, sortKey_eq_iff] at same
  obtain ⟨suite, bench, size, -⟩ := same
  simpa [Pair.compare_def, measured, suite, bench, size] using before

theorem precedes_ofRows (rows : List Observation) : (ofRows rows).Pairwise Precedes := by
  have sorted : (ofRows rows).Pairwise fun a b =>
      (order a b != .gt) = true ∧
        ((order b a != .gt) = true → compare a.measured b.measured = .lt) :=
    pairwise_mergeSort_of_pairwise (bne_gt_trans id) (bne_gt_total id)
      (ascending_bySeries (Table.group (invocationMedians rows)))
  refine sorted.imp ?_
  rintro a b ⟨atMost, settled⟩
  rw [precedes_iff]
  cases same : order a b with
  | lt => exact Or.inl rfl
  | eq =>
      refine Or.inr ⟨rfl, exe_lt_of_order_eq same (settled ?_)⟩
      rw [Std.OrientedCmp.eq_symm same]
      rfl
  | gt => simp [same] at atMost

/-! ## The table -/

/-- What it means that a table holds the collapsed medians of observations. -/
structure Collapses (rows : List Observation) (out : List Collapsed) : Prop where
  /-- No series has two rows. -/
  nodup : (out.map measured).Nodup
  /-- The series that have a row are those with a value. -/
  mem_measured : ∀ s, s ∈ out.map measured ↔ ∃ o ∈ rows, series o = s ∧ o.value.isSome
  median : ∀ r ∈ out, IsTwoPassMedian rows r.measured r.median
  ordered : out.Pairwise Precedes

theorem ofRows_perm_bySeries (rows : List Observation) :
    (ofRows rows).Perm (bySeries (Table.group (invocationMedians rows))) :=
  List.mergeSort_perm _ _

theorem collapses_ofRows (rows : List Observation) : Collapses rows (ofRows rows) where
  nodup := by
    rw [((ofRows_perm_bySeries rows).map measured).nodup_iff]
    exact Ascending.nodup (List.pairwise_map.mpr (ascending_bySeries _))
  mem_measured := by
    intro s
    rw [((ofRows_perm_bySeries rows).map measured).mem_iff, ← valuesUnder_ne_nil_iff,
      List.mem_map]
    constructor
    · rintro ⟨r, hr, rfl⟩
      exact (mem_bySeries_group_iff.mp hr).1
    · intro there
      obtain ⟨m, hm⟩ := Option.ne_none_iff_exists'.mp (mt Sample.median_eq_none_iff.mp there)
      exact ⟨⟨s.second.second.first, s.first, s.second.second.second, s.second.first, m⟩,
        mem_bySeries_group_iff.mpr ⟨there, hm⟩, rfl⟩
  median := by
    intro r hr
    have row := mem_bySeries_group_iff.mp ((ofRows_perm_bySeries rows).mem_iff.mp hr)
    exact ⟨_, nodup_invocationsIn _ r.measured, fun _ => mem_invocationsIn_values_iff, _,
      map_some_valuesUnder rows _, row.2⟩
  ordered := precedes_ofRows rows

theorem eq_of_measured_eq (series : a.measured = b.measured) (median : a.median = b.median) :
    a = b := by
  cases a
  cases b
  simp_all [measured]

/-- Observations have one table of collapsed medians. -/
theorem Collapses.unique {out' : List Collapsed} (h : Collapses rows out)
    (h' : Collapses rows out') : out = out' := by
  have part {xs ys : List Collapsed} (hx : Collapses rows xs) (hy : Collapses rows ys) :
      ∀ r ∈ xs, r ∈ ys := by
    intro r hr
    have series : r.measured ∈ ys.map measured := by
      rw [hy.mem_measured, ← hx.mem_measured]
      exact List.mem_map.mpr ⟨r, hr, rfl⟩
    obtain ⟨r', hr', same⟩ := List.mem_map.mp series
    have median := hy.median r' hr'
    rw [same] at median
    rwa [eq_of_measured_eq same (median.unique (hx.median r hr))] at hr'
  have perm : out.Perm out' := by
    rw [List.perm_ext_iff_of_nodup h.nodup.of_map h'.nodup.of_map]
    exact fun r => ⟨part h h' r, part h' h r⟩
  exact perm.eq_of_pairwise (fun _ _ _ _ ab ba => absurd ba ab.asymm) h.ordered h'.ordered

/-- The collapsed medians are the one list that has a row for exactly the series with a value,
two-pass medians in them, and the strict order of rows. -/
theorem collapses_iff (rows : List Observation) (out : List Collapsed) :
    Collapses rows out ↔ out = ofRows rows := by
  constructor
  · intro h
    exact h.unique (collapses_ofRows rows)
  · rintro rfl
    exact collapses_ofRows rows

end Speedup.Collapsed
