import Speedup.Proofs.Comparison.Contents
import Speedup.Proofs.Double.Division
import Speedup.Proofs.Sample.Extremes

/-!
# Wins

An executable leads a benchmark if its mean there is a number that no mean of the benchmark is
below (`BenchMeans.Leads`). The comparison takes the least mean, with infinity where no mean is
a number, and credits who equals it; this credits the leaders and nobody else (`wins_iff`). So a
win rate is a number of led benchmarks divided by the number of all, every benchmark with a
number among its means is led by somebody, and the wins of all add up to at least the number of
these benchmarks.
-/

namespace Speedup

open Ordered

namespace BenchMeans

/-- An executable has a mean on a benchmark that is a number and that no mean there is below. -/
def Leads (means : BenchMeans) (bench exe : String) : Prop :=
  ∃ m, means.mean? bench exe = some m ∧ m.isNaN = false ∧
    ∀ other m', means.mean? bench other = some m' → m'.lt m = false

/-- Some mean of a benchmark is a number. -/
def HasNumber (means : BenchMeans) (bench : String) : Prop :=
  ∃ exe m, means.mean? bench exe = some m ∧ m.isNaN = false

end BenchMeans

namespace Comparison

variable {means : BenchMeans} {baseline bench exe : String} {row : Table String Double}
  {c : Comparison}

/-! ## One benchmark -/

theorem mean?_of_get? (h : means.get? bench = some row) (exe : String) :
    means.mean? bench exe = row.get? exe := by
  rw [BenchMeans.mean?, h]
  rfl

/-- Where some mean is a number, the least mean is one of them that is at most all of them. -/
theorem best_spec {m : Double} (hm : m ∈ row.values) (number : m.isNaN = false) :
    best row ∈ row.values ∧ (best row).isNaN = false ∧
      ∀ m' ∈ row.values, m'.isNaN = false → (best row).level ≤ m'.level := by
  unfold best
  cases found : Sample.least row.values with
  | none =>
      have undefined : m.isNaN = true := Sample.least_eq_none_iff.mp found m hm
      rw [number] at undefined
      cases undefined
  | some b =>
      obtain ⟨⟨mem, defd⟩, lowest⟩ := Sample.least_spec Sample.readsAs_double found
      exact ⟨mem, defd, lowest⟩

/-- A number equals the least mean exactly if no mean is below it. -/
theorem ieeeEq_best_iff {m : Double} (hm : m ∈ row.values) :
    m.ieeeEq (best row) = true ↔ m.isNaN = false ∧ ∀ m' ∈ row.values, m'.lt m = false := by
  rw [Double.ieeeEq_iff_level]
  refine and_congr_right fun number => ?_
  obtain ⟨mem, defd, lowest⟩ := best_spec hm number
  constructor
  · intro same m' hm'
    rw [Bool.eq_false_iff]
    intro below
    obtain ⟨number', less⟩ := Double.lt_iff_level.mp below
    rw [same] at less
    exact absurd (lowest m' hm' number') (not_le.mpr less)
  · intro lowest'
    have le := Double.level_le_of_lt_eq_false defd (lowest' (best row) mem)
    exact le_antisymm le (lowest m hm number)

/-- Who is credited with a benchmark is who leads it. -/
theorem wins_iff (h : means.get? bench = some row) :
    wins row exe = true ↔ means.Leads bench exe := by
  rw [wins, Option.any_eq_true, BenchMeans.Leads]
  simp only [mean?_of_get? h]
  refine exists_congr fun m => and_congr_right fun found => ?_
  rw [ieeeEq_best_iff (Table.mem_values_iff.mpr ⟨exe, found⟩)]
  refine and_congr_right fun _ => ?_
  constructor
  · intro lowest other m' hm'
    exact lowest m' (Table.mem_values_iff.mpr ⟨other, hm'⟩)
  · intro lowest m' hm'
    obtain ⟨other, found'⟩ := Table.mem_values_iff.mp hm'
    exact lowest other m' found'

theorem leads_iff_any :
    (means.get? bench).any (wins · exe) = true ↔ means.Leads bench exe := by
  cases h : means.get? bench with
  | none => simp [BenchMeans.Leads, BenchMeans.mean?, h]
  | some row => exact wins_iff h

instance : Decidable (means.Leads bench exe) := decidable_of_iff _ leads_iff_any

theorem hasNumber_iff_any :
    (means.get? bench).any (fun row => row.values.any (!·.isNaN)) = true ↔
      means.HasNumber bench := by
  rw [Option.any_eq_true, BenchMeans.HasNumber]
  constructor
  · rintro ⟨row, h, some_number⟩
    obtain ⟨m, hm, number⟩ := List.any_eq_true.mp some_number
    obtain ⟨exe, found⟩ := Table.mem_values_iff.mp hm
    exact ⟨exe, m, (mean?_of_get? h exe).trans found, by simpa using number⟩
  · rintro ⟨exe, m, found, number⟩
    obtain ⟨row, h, hm⟩ := Option.bind_eq_some_iff.mp found
    refine ⟨row, h, List.any_eq_true.mpr ⟨m, Table.mem_values_iff.mpr ⟨exe, hm⟩, ?_⟩⟩
    rw [number]
    rfl

instance : Decidable (means.HasNumber bench) := decidable_of_iff _ hasNumber_iff_any

/-- A benchmark with a number among its means has a leader: who has the least one. -/
theorem exists_leads (h : means.HasNumber bench) : ∃ exe, means.Leads bench exe := by
  obtain ⟨exe, m, found, number⟩ := h
  obtain ⟨row, hrow, hm⟩ := Option.bind_eq_some_iff.mp found
  obtain ⟨mem, defd, _⟩ := best_spec (Table.mem_values_iff.mpr ⟨exe, hm⟩) number
  obtain ⟨leader, hb⟩ := Table.mem_values_iff.mp mem
  refine ⟨leader, (wins_iff hrow).mp ?_⟩
  rw [wins, hb, Option.any_some]
  exact Double.ieeeEq_iff_level.mpr ⟨defd, rfl⟩

/-- Equal means lead alike. -/
theorem leads_of_ieeeEq {m m' : Double} {other : String} (h : means.Leads bench exe)
    (hm : means.mean? bench exe = some m) (hm' : means.mean? bench other = some m')
    (same : m.ieeeEq m' = true) : means.Leads bench other := by
  obtain ⟨_, found, number, lowest⟩ := h
  obtain rfl := Option.some.inj (hm.symm.trans found)
  obtain ⟨_, level⟩ := Double.ieeeEq_iff_level.mp same
  have number' : m'.isNaN = false := by
    rw [← Bool.not_eq_true, ← Double.level_eq_bot_iff, ← level, Double.level_eq_bot_iff, number]
    exact Bool.false_ne_true
  refine ⟨m', hm', number', ?_⟩
  intro third m'' hm''
  rw [Bool.eq_false_iff, ne_eq, Double.lt_iff_level, ← level, ← Double.lt_iff_level,
    lowest third m'' hm'']
  exact Bool.false_ne_true

/-! ## All benchmarks -/

/-- On how many benchmarks of a comparison an executable leads. -/
def winsOf (c : Comparison) (means : BenchMeans) (exe : String) : Nat :=
  (c.benches.filter fun bench => means.Leads bench exe).length

theorem winsOf_le (c : Comparison) (means : BenchMeans) (exe : String) :
    c.winsOf means exe ≤ c.benches.length :=
  List.length_filter_le _ _

theorem length_filter_wins (h : ofMeans means baseline = some c) (exe : String) :
    ((compared means baseline).values.filter (wins · exe)).length = c.winsOf means exe := by
  rw [winsOf, (eq_of_ofMeans h).2.1, Table.values, Table.keys, List.filter_map, List.filter_map,
    List.length_map, List.length_map]
  refine congrArg List.length (List.filter_congr ?_)
  intro e he
  have found : means.get? e.1 = some e.2 :=
    Table.get?_eq_some_iff.mpr (List.mem_of_mem_filter he)
  rw [Function.comp_apply, Function.comp_apply, Bool.eq_iff_iff, wins_iff found,
    decide_eq_true_eq]

theorem winRate_eq (h : ofMeans means baseline = some c) {r : Ranked} (hr : r ∈ c.ranking) :
    r.winRate = Double.ofNat (c.winsOf means r.exe) / Double.ofNat c.benches.length := by
  have row := congrArg Ranked.winRate (withoutRank_eq_unranked h hr)
  have count : c.benches.length = (compared means baseline).entries.length := by
    rw [(eq_of_ofMeans h).2.1, Table.keys, List.length_map]
  rw [← length_filter_wins h, count]
  exact row

/-- Counting per row what is credited per benchmark: if every benchmark of a kind is credited to
some row, the rows have at least as many credits as there are such benchmarks. -/
theorem length_filter_le_sum {α β : Type} {rows : List α} {benches : List β} {p : β → Bool}
    {credit : β → α → Bool} (h : ∀ b ∈ benches, p b = true → ∃ a ∈ rows, credit b a = true) :
    (benches.filter p).length ≤
      (rows.map fun a => (benches.filter (credit · a)).length).sum := by
  induction benches with
  | nil => simp
  | cons b rest ih =>
      have later := ih fun b' hb' => h b' (List.mem_cons_of_mem b hb')
      -- the credits of the first benchmark are counted apart from those of the rest
      have split : (rows.map fun a => ((b :: rest).filter (credit · a)).length).sum =
          (rows.map fun a => (credit b a).toNat).sum +
            (rows.map fun a => (rest.filter (credit · a)).length).sum := by
        rw [← List.sum_map_add]
        refine congrArg List.sum (List.map_congr_left fun a _ => ?_)
        cases hc : credit b a <;> simp [hc, Nat.add_comm]
      rw [split, List.filter_cons]
      split_ifs with hp
      · obtain ⟨a, ha, hc⟩ := h b List.mem_cons_self hp
        have one : (credit b a).toNat ≤ (rows.map fun a => (credit b a).toNat).sum :=
          List.le_sum_of_mem (List.mem_map.mpr ⟨a, ha, rfl⟩)
        rw [hc, Bool.toNat_true] at one
        rw [List.length_cons]
        omega
      · exact later.trans (Nat.le_add_left _ _)

/-! ## The accounts -/

/-- How the wins of a comparison add up. -/
structure CountsWins (c : Comparison) (means : BenchMeans) : Prop where
  winRate : ∀ r ∈ c.ranking,
    r.winRate = Double.ofNat (c.winsOf means r.exe) / Double.ofNat c.benches.length
  wins_le : ∀ exe, c.winsOf means exe ≤ c.benches.length
  winRate_bounds : ∀ r ∈ c.ranking, r.winRate.lt 0 = false ∧ Double.lt 1 r.winRate = false
  credited : ∀ bench ∈ c.benches, means.HasNumber bench →
    ∃ r ∈ c.ranking, means.Leads bench r.exe
  /-- Whoever ties with a leader is ranked and leads too. -/
  tied : ∀ bench ∈ c.benches, ∀ exe other m m', means.Leads bench exe →
    means.mean? bench exe = some m → means.mean? bench other = some m' → m.ieeeEq m' = true →
      (∃ r ∈ c.ranking, r.exe = other) ∧ means.Leads bench other
  total : (c.benches.filter fun bench => means.HasNumber bench).length ≤
    (c.ranking.map fun r => c.winsOf means r.exe).sum

theorem exists_ranked (h : ofMeans means baseline = some c) (hb : bench ∈ c.benches)
    (hm : (means.mean? bench exe).isSome) : ∃ r ∈ c.ranking, r.exe = exe :=
  List.mem_map.mp ((mem_exes_ranking_iff h).mpr ⟨bench, hb, hm⟩)

theorem isSome_of_leads (h : means.Leads bench exe) : (means.mean? bench exe).isSome := by
  obtain ⟨m, found, _⟩ := h
  rw [found]
  rfl

/-- Every leader of a benchmark of the comparison is ranked. -/
theorem exists_ranked_leads (h : ofMeans means baseline = some c) (hb : bench ∈ c.benches)
    (number : means.HasNumber bench) : ∃ r ∈ c.ranking, means.Leads bench r.exe := by
  obtain ⟨exe, leads⟩ := exists_leads number
  obtain ⟨r, hr, rfl⟩ := exists_ranked h hb (isSome_of_leads leads)
  exact ⟨r, hr, leads⟩

theorem length_benches_pos (h : ofMeans means baseline = some c) : 0 < c.benches.length := by
  obtain ⟨bench, hb, _⟩ :=
    (mem_exes_ranking_iff h).mp (describes_of_ofMeans h).baseline_ranked
  exact List.length_pos_of_mem hb

/-- In every comparison wins are credited to exactly the leaders of its benchmarks, and a win
rate is the share of led benchmarks. -/
theorem countsWins_of_ofMeans (means : BenchMeans) (baseline : String) :
    ∀ c ∈ ofMeans means baseline, c.CountsWins means := by
  intro c h
  refine ⟨fun _ => winRate_eq h, c.winsOf_le means, ?_, fun _ => exists_ranked_leads h, ?_, ?_⟩
  · intro r hr
    rw [winRate_eq h hr]
    exact Double.share_bounds (length_benches_pos h) (c.winsOf_le means r.exe)
  · intro bench hb exe other m m' leads hm hm' same
    exact ⟨exists_ranked h hb (by rw [hm']; rfl), leads_of_ieeeEq leads hm hm' same⟩
  · refine length_filter_le_sum ?_
    intro bench hb number
    obtain ⟨r, hr, leads⟩ := exists_ranked_leads h hb (of_decide_eq_true number)
    exact ⟨r, hr, decide_eq_true leads⟩

/-- The two zeros tie beside a NaN, and infinity leads where nothing is smaller. -/
theorem countsWins_of_ofMeans_ties :
    ∃ c ∈ ofMeans ⟨[("A", ⟨[("X", .zero false), ("Y", .zero true), ("base", .nan false)],
          by decide⟩), ("B", ⟨[("X", .infinity false), ("base", .infinity false)], by decide⟩)],
        by decide⟩ "base",
      ∀ r ∈ c.ranking, r.winRate = if r.exe = "X" then 1 else 1 / 2 := by
  let means : BenchMeans :=
    ⟨[("A", ⟨[("X", .zero false), ("Y", .zero true), ("base", .nan false)], by decide⟩),
      ("B", ⟨[("X", .infinity false), ("base", .infinity false)], by decide⟩)], by decide⟩
  obtain ⟨c, h⟩ := Option.isSome_iff_exists.mp
    (by decide +kernel : (ofMeans means "base").isSome = true)
  have counts := countsWins_of_ofMeans means "base" c h
  have benches : c.benches = ["A", "B"] := (eq_of_ofMeans h).2.1.trans (by decide +kernel)
  refine ⟨c, h, fun r hr => ?_⟩
  have named : r.exe ∈ ["X", "Y", "base"] := by
    have names : exes (compared means "base") = ["X", "Y", "base"] := by cbv
    rw [← names]
    exact (map_exe_ranking h).mem_iff.mp (List.mem_map.mpr ⟨r, hr, rfl⟩)
  rw [counts.winRate r hr, winsOf, benches]
  generalize r.exe = exe at named
  revert exe
  decide +kernel

end Comparison

end Speedup
