import Speedup.Proofs.Comparison.Standings
import Speedup.Proofs.Ordered.Lookup
import Speedup.Proofs.Sample.Median

/-!
# What a comparison holds

A comparison is described by the means alone, cell by cell: `BenchMeans.mean?` is the mean of an
executable on a benchmark. Its benchmarks are those with a mean for the baseline, its rows the
executables with a mean on one of them, and its speedups quotients of means (`Describes`).
Since all of this looks only at benchmarks with a mean for the baseline, the others can be left
out beforehand.
-/

namespace Speedup

open Ordered

/-- The mean of an executable on a benchmark. -/
def BenchMeans.mean? (means : BenchMeans) (bench exe : String) : Option Double :=
  (means.get? bench).bind (·.get? exe)

namespace Comparison

variable {means : BenchMeans} {baseline bench exe : String} {c : Comparison}

/-! ## Benchmarks and executables -/

theorem mean?_compared (means : BenchMeans) (baseline bench exe : String) :
    (compared means baseline).mean? bench exe =
      if (means.mean? bench baseline).isSome then means.mean? bench exe else none := by
  rw [BenchMeans.mean?, compared, Table.get?_filter, BenchMeans.mean?, BenchMeans.mean?]
  cases means.get? bench with
  | none => simp
  | some row => cases h : (row.get? baseline).isSome <;> simp [Option.filter, Table.contains, h]

theorem mem_keys_compared :
    bench ∈ (compared means baseline).keys ↔ (means.mean? bench baseline).isSome := by
  rw [← Table.isSome_get?_iff, compared, Table.get?_filter, BenchMeans.mean?]
  cases means.get? bench with
  | none => simp
  | some row => cases h : (row.get? baseline).isSome <;> simp [Option.filter, Table.contains, h]

theorem isEmpty_compared_iff :
    (compared means baseline).isEmpty = true ↔ ∀ bench, means.mean? bench baseline = none := by
  rw [Table.isEmpty_eq_true_iff]
  refine forall_congr' fun bench => ?_
  rw [← Option.not_isSome_iff_eq_none, ← Option.not_isSome_iff_eq_none,
    Table.isSome_get?_iff, mem_keys_compared]

theorem compared_compared (means : BenchMeans) (baseline : String) :
    compared (compared means baseline) baseline = compared means baseline := by
  rw [compared, compared]
  simp only [Table.filter, List.filter_filter, Bool.and_self]

theorem mem_exes_iff : exe ∈ exes means ↔ ∃ bench, (means.mean? bench exe).isSome := by
  rw [exes, mem_distinct, List.mem_flatMap]
  constructor
  · rintro ⟨row, hrow, hexe⟩
    obtain ⟨bench, hbench⟩ := Table.mem_values_iff.mp hrow
    refine ⟨bench, ?_⟩
    rw [BenchMeans.mean?, hbench]
    exact Table.isSome_get?_iff.mpr hexe
  · rintro ⟨bench, h⟩
    rw [BenchMeans.mean?] at h
    cases hrow : means.get? bench with
    | none => simp [hrow] at h
    | some row =>
        rw [hrow] at h
        exact ⟨row, Table.mem_values_iff.mpr ⟨bench, hrow⟩, Table.isSome_get?_iff.mp h⟩

/-! ## Speedups -/

theorem speedupOver_eq_some_iff {b m s : Double} :
    speedupOver b m = some s ↔ (b.isFinite = true ∧ Double.lt 0 b = true) ∧ s = b / m := by
  unfold speedupOver
  rw [← Bool.and_eq_true]
  by_cases h : (b.isFinite && Double.lt 0 b) = true
  · rw [if_pos h]
    simp [h, eq_comm]
  · rw [if_neg h]
    simp [h]

theorem get?_speedupsIn (means : BenchMeans) (baseline exe bench : String) :
    (speedupsIn means baseline exe).get? bench =
      (means.mean? bench baseline).bind fun b => (means.mean? bench exe).bind (speedupOver b) := by
  rw [speedupsIn, Table.get?_filterMap, BenchMeans.mean?, BenchMeans.mean?]
  cases means.get? bench <;> rfl

/-! ## The comparison -/

theorem ofMeans_eq_none_iff :
    ofMeans means baseline = none ↔ ∀ bench, means.mean? bench baseline = none := by
  rw [ofMeans, ← isEmpty_compared_iff]
  cases (compared means baseline).isEmpty <;> simp

theorem eq_of_ofMeans (h : ofMeans means baseline = some c) :
    c.baseline = baseline ∧ c.benches = (compared means baseline).keys ∧
      c.ranking = Ranked.standings ((exes (compared means baseline)).map
        (unranked (compared means baseline) baseline)) ∧
      c.speedups = (Table.ofKeys (exes (compared means baseline))
        (speedupsIn (compared means baseline) baseline)).filter fun _ row => !row.isEmpty := by
  rw [ofMeans] at h
  cases hempty : (compared means baseline).isEmpty with
  | true => simp [hempty] at h
  | false =>
      simp only [hempty, Bool.false_eq_true, if_false, Option.some.injEq] at h
      subst h
      exact ⟨rfl, rfl, rfl, rfl⟩

/-- The speedups a comparison keeps are those it was made with: an executable is left out where
it has none at all. -/
theorem get?_speedups (h : ofMeans means baseline = some c) (exe : String) :
    c.speedups.get? exe =
      (some (speedupsIn (compared means baseline) baseline exe)).filter (!·.isEmpty) := by
  obtain ⟨_, _, _, hs⟩ := eq_of_ofMeans h
  rw [hs, Table.get?_filter]
  by_cases mem : exe ∈ exes (compared means baseline)
  · rw [Table.get?_ofKeys_eq_some_iff.mpr ⟨mem, rfl⟩]
  · have absent : (Table.ofKeys (exes (compared means baseline))
        (speedupsIn (compared means baseline) baseline)).get? exe = none := by
      rw [Option.eq_none_iff_forall_ne_some]
      exact fun row hrow => mem (Table.get?_ofKeys_eq_some_iff.mp hrow).1
    have unseen : ∀ bench, (compared means baseline).mean? bench exe = none := by
      intro bench
      rw [← Option.not_isSome_iff_eq_none]
      exact fun hsome => mem (mem_exes_iff.mpr ⟨bench, hsome⟩)
    have empty : (speedupsIn (compared means baseline) baseline exe).isEmpty = true := by
      rw [Table.isEmpty_eq_true_iff]
      intro bench
      rw [get?_speedupsIn, unseen]
      cases (compared means baseline).mean? bench baseline <;> rfl
    rw [absent, Option.filter_some, empty]
    rfl

theorem speedup?_eq_get? (h : ofMeans means baseline = some c) (bench exe : String) :
    c.speedup? bench exe = (speedupsIn (compared means baseline) baseline exe).get? bench := by
  show (c.speedups.get? exe).bind (·.get? bench) = _
  rw [get?_speedups h]
  cases hempty : (speedupsIn (compared means baseline) baseline exe).isEmpty with
  | true => simp [Option.filter, hempty, Table.isEmpty_eq_true_iff.mp hempty bench]
  | false => simp [Option.filter, hempty]

theorem mem_benches_iff (h : ofMeans means baseline = some c) :
    bench ∈ c.benches ↔ (means.mean? bench baseline).isSome := by
  rw [(eq_of_ofMeans h).2.1, mem_keys_compared]

theorem speedup?_eq_some_iff (h : ofMeans means baseline = some c) {s : Double} :
    c.speedup? bench exe = some s ↔ ∃ b m, means.mean? bench baseline = some b ∧
      means.mean? bench exe = some m ∧ (b.isFinite = true ∧ Double.lt 0 b = true) ∧
        s = b / m := by
  rw [speedup?_eq_get? h, get?_speedupsIn, mean?_compared, mean?_compared]
  cases means.mean? bench baseline with
  | none => simp
  | some b => simp [Option.bind_eq_some_iff, speedupOver_eq_some_iff]

def speedupsOn (c : Comparison) (exe : String) : List Double :=
  c.benches.filterMap (c.speedup? · exe)

theorem values_speedupsIn (h : ofMeans means baseline = some c) (exe : String) :
    (speedupsIn (compared means baseline) baseline exe).values = c.speedupsOn exe := by
  rw [speedupsOn, (eq_of_ofMeans h).2.1]
  conv_lhs => rw [speedupsIn, Table.values_filterMap, ← speedupsIn]
  refine List.filterMap_congr fun bench _ => ?_
  rw [speedup?_eq_get? h]

theorem finiteSpeedups_eq (h : ofMeans means baseline = some c) (exe : String) :
    c.finiteSpeedups exe = (c.speedupsOn exe).filter (·.isFinite) := by
  rw [← values_speedupsIn h, finiteSpeedups, get?_speedups h]
  cases hempty : (speedupsIn (compared means baseline) baseline exe).isEmpty with
  | true =>
      have nothing : (speedupsIn (compared means baseline) baseline exe).values = [] := by
        rw [Table.values, List.isEmpty_iff.mp hempty, List.map_nil]
      simp [Option.filter, hempty, nothing]
  | false => simp [Option.filter, hempty]

/-! ## The ranking -/

theorem map_withoutRank_ranking (h : ofMeans means baseline = some c) :
    (c.ranking.map Ranked.withoutRank).Perm
      ((exes (compared means baseline)).map (unranked (compared means baseline) baseline)) := by
  have perm := (Ranked.standing_standings
    ((exes (compared means baseline)).map (unranked (compared means baseline) baseline))).perm
  rw [← (eq_of_ofMeans h).2.2.1, List.map_map] at perm
  exact perm

/-- The names in a ranking are the executables of its benchmarks. -/
theorem map_exe_ranking (h : ofMeans means baseline = some c) :
    (c.ranking.map (·.exe)).Perm (exes (compared means baseline)) := by
  have perm := (map_withoutRank_ranking h).map (·.exe)
  rw [List.map_map, List.map_map] at perm
  exact perm.trans (List.Perm.of_eq (List.map_id _))

/-- A row of the ranking is what its executable has, apart from the rank. -/
theorem withoutRank_eq_unranked (h : ofMeans means baseline = some c) {r : Ranked}
    (hr : r ∈ c.ranking) :
    r.withoutRank = unranked (compared means baseline) baseline r.exe := by
  have mem := (map_withoutRank_ranking h).mem_iff.mp (List.mem_map.mpr ⟨r, hr, rfl⟩)
  obtain ⟨exe, _, same⟩ := List.mem_map.mp mem
  have name : exe = r.exe := congrArg Ranked.exe same
  rw [← same, name]

theorem mem_exes_ranking_iff (h : ofMeans means baseline = some c) :
    exe ∈ c.ranking.map (·.exe) ↔ ∃ bench ∈ c.benches, (means.mean? bench exe).isSome := by
  rw [(map_exe_ranking h).mem_iff, mem_exes_iff]
  refine exists_congr fun bench => ?_
  rw [mem_benches_iff h, mean?_compared]
  split <;> simp_all

theorem geoMean_eq (h : ofMeans means baseline = some c) {r : Ranked} (hr : r ∈ c.ranking) :
    r.geoMean = geometricMean (c.speedupsOn r.exe) := by
  have row := congrArg Ranked.geoMean (withoutRank_eq_unranked h hr)
  rw [← values_speedupsIn h]
  exact row

theorem median_eq (h : ofMeans means baseline = some c) {r : Ranked} (hr : r ∈ c.ranking) :
    r.median =
      (Sample.median ((c.speedupsOn r.exe).filter (!·.isNaN))).getD Stats.undefined := by
  have row := congrArg Ranked.median (withoutRank_eq_unranked h hr)
  rw [← values_speedupsIn h]
  exact row

/-! ## All of it -/

/-- What a comparison says of the means it was made from. -/
structure Describes (c : Comparison) (means : BenchMeans) (baseline : String) : Prop where
  baseline_eq : c.baseline = baseline
  benches_ascending : Ascending c.benches
  mem_benches : ∀ bench, bench ∈ c.benches ↔ (means.mean? bench baseline).isSome
  exes_nodup : (c.ranking.map (·.exe)).Nodup
  mem_exes : ∀ exe, exe ∈ c.ranking.map (·.exe) ↔
    ∃ bench ∈ c.benches, (means.mean? bench exe).isSome
  baseline_ranked : baseline ∈ c.ranking.map (·.exe)
  speedup_iff : ∀ bench exe s, c.speedup? bench exe = some s ↔
    bench ∈ c.benches ∧ ∃ b m, means.mean? bench baseline = some b ∧
      means.mean? bench exe = some m ∧ (b.isFinite = true ∧ Double.lt 0 b = true) ∧ s = b / m
  geoMean : ∀ r ∈ c.ranking, r.geoMean = geometricMean (c.speedupsOn r.exe)
  /-- The median of the speedups that are numbers. -/
  median : ∀ r ∈ c.ranking, (c.speedupsOn r.exe).filter (!·.isNaN) ≠ [] →
    Sample.median ((c.speedupsOn r.exe).filter (!·.isNaN)) = some r.median
  median_undefined : ∀ r ∈ c.ranking, (c.speedupsOn r.exe).filter (!·.isNaN) = [] →
    r.median.isNaN = true

theorem describes_of_ofMeans (h : ofMeans means baseline = some c) :
    c.Describes means baseline where
  baseline_eq := (eq_of_ofMeans h).1
  benches_ascending := by
    rw [(eq_of_ofMeans h).2.1]
    exact (compared means baseline).ascending
  mem_benches := fun _ => mem_benches_iff h
  exes_nodup := (map_exe_ranking h).nodup_iff.mpr (ascending_distinct _).nodup
  mem_exes := fun _ => mem_exes_ranking_iff h
  baseline_ranked := by
    have some_bench : ¬ ∀ bench, means.mean? bench baseline = none := by
      rw [← ofMeans_eq_none_iff, h]
      exact Option.some_ne_none c
    obtain ⟨bench, hb⟩ := not_forall.mp some_bench
    have has := Option.isSome_iff_ne_none.mpr hb
    exact (mem_exes_ranking_iff h).mpr ⟨bench, (mem_benches_iff h).mpr has, has⟩
  speedup_iff := by
    intro bench exe s
    rw [speedup?_eq_some_iff h, mem_benches_iff h]
    constructor
    · rintro ⟨b, m, hb, rest⟩
      exact ⟨by rw [hb]; rfl, b, m, hb, rest⟩
    · rintro ⟨_, found⟩
      exact found
  geoMean := fun _ => geoMean_eq h
  median := by
    intro r hr some_number
    obtain ⟨m, hm⟩ := Option.ne_none_iff_exists'.mp (mt Sample.median_eq_none_iff.mp some_number)
    rw [median_eq h hr, hm]
    rfl
  median_undefined := by
    intro r hr no_number
    rw [median_eq h hr, no_number, Sample.median_eq_none_iff.mpr rfl]
    decide

/-- There is no comparison exactly without a mean for the baseline; otherwise the comparison is
described by the means, and benchmarks without a mean for the baseline could have been left out
beforehand. -/
theorem ofMeans_describes (means : BenchMeans) (baseline : String) :
    (match ofMeans means baseline with
      | none => ∀ bench, means.mean? bench baseline = none
      | some c => (∃ bench, (means.mean? bench baseline).isSome) ∧ c.Describes means baseline) ∧
    ofMeans (means.filter fun _ row => row.contains baseline) baseline =
      ofMeans means baseline := by
  constructor
  · cases h : ofMeans means baseline with
    | none => exact ofMeans_eq_none_iff.mp h
    | some c =>
        have described := describes_of_ofMeans h
        obtain ⟨bench, hbench, _⟩ := (described.mem_exes baseline).mp described.baseline_ranked
        exact ⟨⟨bench, (described.mem_benches bench).mp hbench⟩, described⟩
  · show ofMeans (compared means baseline) baseline = ofMeans means baseline
    rw [ofMeans, ofMeans, compared_compared]

/-! ## The order of the ranking -/

theorem pairwise_exe_unranked (means : BenchMeans) (baseline : String) :
    ((exes means).map (unranked means baseline)).Pairwise
      fun a b => compare a.exe b.exe = .lt := by
  rw [List.pairwise_map]
  exact ascending_distinct _

theorem ranking_before (h : ofMeans means baseline = some c) :
    c.ranking.Pairwise Ranked.Before := by
  rw [(eq_of_ofMeans h).2.2.1]
  exact Ranked.before_standings (pairwise_exe_unranked _ _)

theorem eq_ranking (h : ofMeans means baseline = some c) {out : List Ranked}
    (perm : (out.map Ranked.withoutRank).Perm (c.ranking.map Ranked.withoutRank))
    (before : out.Pairwise Ranked.Before)
    (dense : ∀ r ∈ out, r.rank = (Ranked.betterClasses out r.key).card + 1) :
    out = c.ranking := by
  rw [(eq_of_ofMeans h).2.2.1] at perm ⊢
  exact Ranked.eq_standings (pairwise_exe_unranked _ _)
    (perm.trans (Ranked.standing_standings _).perm) before dense

/-- Standings arrange any rows stably by their keys and number them densely. The ranking of a
comparison is moreover in a strict order, keys first and then names, so that its rows have no
other list in that order with dense ranks. -/
theorem standings_stable_dense_unique :
    (∀ rows : List Ranked, Ranked.Standing rows (Ranked.standings rows)) ∧
    ∀ (means : BenchMeans) (baseline : String), ∀ c ∈ ofMeans means baseline,
      c.ranking.Pairwise Ranked.Before ∧
      ∀ out : List Ranked,
        (out.map Ranked.withoutRank).Perm (c.ranking.map Ranked.withoutRank) →
        out.Pairwise Ranked.Before →
        (∀ r ∈ out, r.rank = (Ranked.betterClasses out r.key).card + 1) → out = c.ranking := by
  refine ⟨Ranked.standing_standings, ?_⟩
  intro means baseline c h
  exact ⟨ranking_before h, fun _ => eq_ranking h⟩

/-- A benchmark with two executables and one without the baseline: the only list of the two rows
in order is their ranking. -/
theorem standings_stable_dense_unique_two :
    ∃ c ∈ ofMeans ⟨[("A", ⟨[("X", 10), ("base", 20)], by decide⟩), ("B", ⟨[("X", 5)], by decide⟩)],
        by decide⟩ "base",
      c.ranking = [⟨1, "X", 2, 2, 1⟩, ⟨2, "base", 1, 1, 0⟩] := by
  let means : BenchMeans :=
    ⟨[("A", ⟨[("X", 10), ("base", 20)], by decide⟩), ("B", ⟨[("X", 5)], by decide⟩)], by decide⟩
  obtain ⟨c, h⟩ := Option.isSome_iff_exists.mp
    (by decide +kernel : (ofMeans means "base").isSome = true)
  refine ⟨c, h, (((standings_stable_dense_unique.2 means "base" c h).2 _ ?_ ?_ ?_).symm)⟩
  · have names : exes (compared means "base") = ["X", "base"] := by cbv
    refine List.Perm.trans ?_ (map_withoutRank_ranking h).symm
    rw [names]
    exact List.Perm.of_eq (by decide +kernel)
  · decide +kernel
  · decide +kernel

end Comparison

end Speedup
