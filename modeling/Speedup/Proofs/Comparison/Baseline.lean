import Speedup.Proofs.Comparison.Contents
import Speedup.Proofs.Double.Value

/-!
# The baseline against itself

A finite double above zero divided by itself is exactly one, so the speedups of the baseline are
ones, as many as there are benchmarks on which it can be divided by. Their median is one for either
parity of this number, and so is their geometric mean, whether a single speedup is taken as it is or
several are led through the logarithm: the running mean of zeros stays at zero
(`running_replicate_zero`). Where no benchmark is left there is neither (`baseline_scores_one`).
-/

namespace Speedup

/-! ## Doubles -/

namespace Double

variable {x : Double}

/-- A finite double above zero is its own multiple by exactly one. -/
theorem div_self_of_pos (finite : x.isFinite = true) (positive : Double.lt 0 x = true) :
    x / x = 1 := by
  obtain ⟨-, above⟩ := zero_lt_iff.mp positive
  have some_magnitude : 0 < x.magnitude := by
    rw [← natAbs_place]
    omega
  have number := isNaN_of_isFinite finite
  have bounded : x.isInfinite = false := beq_false_of_ne (isFinite_iff.mp finite).ne
  have not_zero : x.isZero = false := beq_false_of_ne some_magnitude.ne'
  have exact_pos : 0 < x.absExact := dyadic_scaled_pos some_magnitude
  have quotient : x / x = ofMagnitude false (x.absExact / x.absExact) := by
    show Double.div x x = _
    simp [Double.div, onNumbers, number, bounded, not_zero]
  rw [quotient, div_self exact_pos.ne']
  rfl

/-- A share of nothing is nothing, also where the count of shares is rounded to infinity. -/
theorem zero_div_count {k : Nat} (hk : 0 < k) : (0 : Double) / ofNat k = 0 := by
  have nothing : ofBits (0 : Double).magnitude = 0 := by decide
  have sign : (0 : Double).negative = false := by decide
  rw [div_count_eq (by decide) hk, nothing, zero_div, sign]
  split <;> decide

end Double

/-! ## Samples of one value -/

namespace Sample

variable {x : Double} {n : Nat}

theorem running_replicate_zero (n : Nat) : (running (List.replicate n (0 : Double))).mean = 0 := by
  induction n with
  | zero => rfl
  | succ n ih =>
      have difference : (0 : Double) - 0 = 0 := by decide +kernel
      have sum : (0 : Double) + 0 = 0 := by decide +kernel
      rw [List.replicate_succ', mean_running_concat, ih, difference]
      show (0 : Double) + 0 / Double.ofNat _ = 0
      rw [Double.zero_div_count (Nat.succ_pos _), sum]

theorem usable_replicate_one (n : Nat) :
    usable (List.replicate n (1 : Double)) = List.replicate n 1 := by
  refine List.filter_eq_self.mpr fun s hs => ?_
  rw [List.eq_of_mem_replicate hs]
  decide

theorem geometricMean_replicate_one (hn : 0 < n) :
    geometricMean (List.replicate n (1 : Double)) = some 1 := by
  have logarithm : Logarithmic.ln (1 : Double) = 0 := by decide
  have exponential : Logarithmic.exp (0 : Double) = 1 := by decide
  obtain ⟨k, rfl⟩ := Nat.exists_eq_add_of_le' hn
  cases k with
  | zero => rw [geometricMean, usable_replicate_one]; rfl
  | succ k =>
      have several : geometricMean (List.replicate (k + 1 + 1) (1 : Double)) =
          (mean ((List.replicate (k + 1 + 1) 1).map Logarithmic.ln)).map Logarithmic.exp := by
        rw [geometricMean, usable_replicate_one]
        rfl
      rw [several, List.map_replicate, logarithm, mean, running_replicate_zero]
      exact congrArg some exponential

/-- The median of a sample of one value is that value, as long as it is halfway between itself and
itself. -/
theorem median_replicate (hn : 0 < n) (midpoint : (x + x) / Double.ofNat 2 = x) :
    median (List.replicate n x) = some x := by
  have order : (List.replicate n x).Pairwise fun a b => a.totalLE b = true :=
    List.pairwise_replicate.mpr (.inr (decide_eq_true le_rfl))
  have middle {i : Nat} (hi : i < n) : (List.replicate n x)[i]? = some x := by
    rw [List.getElem?_replicate, if_pos hi]
  rw [median, sorted_eq (List.Perm.refl _) order]
  simp only [List.length_replicate]
  split
  next odd => exact middle (by omega)
  next even =>
    rw [middle (by omega), middle (by omega)]
    exact congrArg some midpoint

end Sample

/-! ## The row of the baseline -/

namespace Comparison

variable {means : BenchMeans} {baseline bench : String} {c : Comparison} {r : Ranked}

/-- A benchmark on which speedups over the baseline are defined. -/
def Divides (means : BenchMeans) (baseline bench : String) : Prop :=
  ∃ m, means.mean? bench baseline = some m ∧ m.isFinite = true ∧ Double.lt 0 m = true

theorem not_divides_of_zero (h : means.mean? bench baseline = some 0) :
    ¬ Divides means baseline bench := by
  rintro ⟨m, mean, -, positive⟩
  cases Option.some.inj (mean.symm.trans h)
  exact absurd positive (by decide)

/-- What a comparison says of the baseline itself. -/
structure ScoresOne (c : Comparison) (means : BenchMeans) (baseline : String) : Prop where
  speedup_iff : ∀ bench s,
    c.speedup? bench baseline = some s ↔ Divides means baseline bench ∧ s = 1
  /-- There is one row for the baseline, in which both averages of speedups are one or undefined. -/
  row : ∃ r, c.ranking.filter (fun r => r.exe = baseline) = [r] ∧
    ((∃ bench ∈ c.benches, Divides means baseline bench) → r.geoMean = 1 ∧ r.median = 1) ∧
    ((¬ ∃ bench ∈ c.benches, Divides means baseline bench) →
      r.geoMean.isNaN = true ∧ r.median.isNaN = true)

theorem speedup?_baseline_iff (h : ofMeans means baseline = some c) {s : Double} :
    c.speedup? bench baseline = some s ↔ Divides means baseline bench ∧ s = 1 := by
  rw [speedup?_eq_some_iff h]
  constructor
  · rintro ⟨b, m, hb, hm, ⟨finite, positive⟩, rfl⟩
    rw [hb, Option.some_inj] at hm
    subst hm
    exact ⟨⟨b, hb, finite, positive⟩, Double.div_self_of_pos finite positive⟩
  · rintro ⟨⟨b, hb, finite, positive⟩, rfl⟩
    exact ⟨b, b, hb, hb, ⟨finite, positive⟩, (Double.div_self_of_pos finite positive).symm⟩

theorem speedupsOn_baseline (h : ofMeans means baseline = some c) :
    c.speedupsOn baseline = List.replicate (c.speedupsOn baseline).length 1 := by
  refine List.eq_replicate_of_mem fun s hs => ?_
  obtain ⟨bench, _, found⟩ := List.mem_filterMap.mp hs
  exact ((speedup?_baseline_iff h).mp found).2

theorem length_speedupsOn_baseline_pos_iff (h : ofMeans means baseline = some c) :
    0 < (c.speedupsOn baseline).length ↔ ∃ bench ∈ c.benches, Divides means baseline bench := by
  rw [List.length_pos_iff_exists_mem]
  constructor
  · rintro ⟨s, hs⟩
    obtain ⟨bench, hbench, found⟩ := List.mem_filterMap.mp hs
    exact ⟨bench, hbench, ((speedup?_baseline_iff h).mp found).1⟩
  · rintro ⟨bench, hbench, divides⟩
    exact ⟨1, List.mem_filterMap.mpr ⟨bench, hbench, (speedup?_baseline_iff h).mpr ⟨divides, rfl⟩⟩⟩

theorem averages_of_pos (h : ofMeans means baseline = some c) (hr : r ∈ c.ranking)
    (same : r.exe = baseline) (some_speedup : 0 < (c.speedupsOn baseline).length) :
    r.geoMean = 1 ∧ r.median = 1 := by
  have ones := speedupsOn_baseline h
  generalize (c.speedupsOn baseline).length = n at ones some_speedup
  have numbers : (List.replicate n (1 : Double)).filter (!·.isNaN) = List.replicate n 1 := by
    refine List.filter_eq_self.mpr fun s hs => ?_
    rw [List.eq_of_mem_replicate hs]
    decide
  constructor
  · rw [geoMean_eq h hr, same, ones, geometricMean, Sample.geometricMean_replicate_one some_speedup]
    rfl
  · rw [median_eq h hr, same, ones, numbers,
      Sample.median_replicate some_speedup (by decide +kernel)]
    rfl

theorem averages_of_nil (h : ofMeans means baseline = some c) (hr : r ∈ c.ranking)
    (same : r.exe = baseline) (nothing : c.speedupsOn baseline = []) :
    r.geoMean.isNaN = true ∧ r.median.isNaN = true := by
  rw [geoMean_eq h hr, median_eq h hr, same, nothing, List.filter_nil,
    Sample.median_eq_none_iff.mpr rfl]
  exact ⟨by decide, by decide⟩

theorem scoresOne_of_ofMeans (h : ofMeans means baseline = some c) :
    c.ScoresOne means baseline where
  speedup_iff _ _ := speedup?_baseline_iff h
  row := by
    have describes := describes_of_ofMeans h
    obtain ⟨r, hr, same⟩ := List.mem_map.mp describes.baseline_ranked
    refine ⟨r, ?_, fun some_bench => ?_, fun no_bench => ?_⟩
    · rw [← same]
      exact Ordered.filter_key_eq_singleton (·.exe) describes.exes_nodup hr
    · exact averages_of_pos h hr same ((length_speedupsOn_baseline_pos_iff h).mpr some_bench)
    · rw [← length_speedupsOn_baseline_pos_iff h, Nat.pos_iff_ne_zero, not_not,
        List.length_eq_zero_iff] at no_bench
      exact averages_of_nil h hr same no_bench

/-- In every comparison the baseline's speedups are one wherever they are defined, and so are their
geometric mean and their median, unless there are none. -/
theorem baseline_scores_one (means : BenchMeans) (baseline : String) :
    ∀ c ∈ ofMeans means baseline, c.ScoresOne means baseline :=
  fun _ h => scoresOne_of_ofMeans h

/-- Two benchmarks are left where the baseline has a mean of zero, of infinity or none that is
defined on the others, and none is left without these two. -/
theorem baseline_scores_one_two :
    (∃ c ∈ ofMeans ⟨[("A", ⟨[("X", 10), ("base", 20)], by decide⟩),
          ("B", ⟨[("X", 1), ("base", 0)], by decide⟩),
          ("C", ⟨[("base", .infinity false)], by decide⟩),
          ("D", ⟨[("base", .nan true)], by decide⟩), ("E", ⟨[("base", 3)], by decide⟩)],
        by decide⟩ "base",
      c.speedup? "A" "base" = some 1 ∧ c.speedup? "B" "base" = none ∧
        ∃ r ∈ c.ranking, r.exe = "base" ∧ r.geoMean = 1 ∧ r.median = 1) ∧
    ∃ c ∈ ofMeans ⟨[("B", ⟨[("X", 1), ("base", 0)], by decide⟩)], by decide⟩ "base",
      ∃ r ∈ c.ranking, r.exe = "base" ∧ r.geoMean.isNaN = true ∧ r.median.isNaN = true := by
  constructor
  · let means : BenchMeans := ⟨[("A", ⟨[("X", 10), ("base", 20)], by decide⟩),
      ("B", ⟨[("X", 1), ("base", 0)], by decide⟩), ("C", ⟨[("base", .infinity false)], by decide⟩),
      ("D", ⟨[("base", .nan true)], by decide⟩), ("E", ⟨[("base", 3)], by decide⟩)], by decide⟩
    obtain ⟨c, h⟩ := Option.isSome_iff_exists.mp
      (by decide +kernel : (ofMeans means "base").isSome = true)
    obtain ⟨speedups, r, row, ones, -⟩ := baseline_scores_one means "base" c h
    have divides : Divides means "base" "A" := ⟨20, by decide +kernel, by decide, by decide⟩
    obtain ⟨hr, named⟩ := List.mem_filter.mp (row ▸ List.mem_singleton_self r)
    refine ⟨c, h, (speedups "A" 1).mpr ⟨divides, rfl⟩, ?_, r, hr, of_decide_eq_true named,
      ones ⟨"A", (mem_benches_iff h).mpr (by decide +kernel), divides⟩⟩
    rw [Option.eq_none_iff_forall_ne_some]
    intro s defined
    exact not_divides_of_zero (by decide +kernel) ((speedups "B" s).mp defined).1
  · let means : BenchMeans := ⟨[("B", ⟨[("X", 1), ("base", 0)], by decide⟩)], by decide⟩
    obtain ⟨c, h⟩ := Option.isSome_iff_exists.mp
      (by decide +kernel : (ofMeans means "base").isSome = true)
    obtain ⟨-, r, row, -, undefined⟩ := baseline_scores_one means "base" c h
    obtain ⟨hr, named⟩ := List.mem_filter.mp (row ▸ List.mem_singleton_self r)
    refine ⟨c, h, r, hr, of_decide_eq_true named, undefined ?_⟩
    rintro ⟨bench, hbench, divides⟩
    have only : c.benches = ["B"] := (eq_of_ofMeans h).2.1.trans (by decide +kernel)
    rw [only, List.mem_singleton] at hbench
    exact not_divides_of_zero (by decide +kernel) (hbench ▸ divides)

end Comparison

end Speedup
