import Speedup.Proofs.Comparison.Wins

/-!
# What other executables cannot change

Two tables of means that agree on the baseline, and on an executable wherever the baseline has a
mean, give comparisons that say the same of this executable, whatever they hold for the others
(`Alike`). Only its win rate looks at the others, through the least mean of a benchmark. It does
so in one direction: with fewer others there is less to be beaten by.
-/

namespace Speedup

open Ordered

namespace BenchMeans

variable {means means₁ means₂ : BenchMeans} {baseline bench exe : String}

/-- The same means for the baseline, and for an executable wherever the baseline has one. -/
structure AgreeOn (means₁ means₂ : BenchMeans) (baseline exe : String) : Prop where
  ofBaseline : ∀ bench, means₁.mean? bench baseline = means₂.mean? bench baseline
  ofExe : ∀ bench, (means₁.mean? bench baseline).isSome →
    means₁.mean? bench exe = means₂.mean? bench exe

/-- Some means of a table, and no others. -/
def PartOf (part means : BenchMeans) : Prop :=
  ∀ bench exe m, part.mean? bench exe = some m → means.mean? bench exe = some m

def keep (means : BenchMeans) (test : String → String → Bool) : BenchMeans :=
  means.map fun bench row => row.filter fun exe _ => test bench exe

theorem mean?_keep (means : BenchMeans) (test : String → String → Bool) (bench exe : String) :
    (means.keep test).mean? bench exe =
      if test bench exe then means.mean? bench exe else none := by
  unfold mean? keep
  rw [Table.get?_map]
  cases means.get? bench with
  | none => simp
  | some row =>
      show (row.filter _).get? exe = if test bench exe then row.get? exe else none
      rw [Table.get?_filter]
      cases row.get? exe <;> cases test bench exe <;> rfl

theorem partOf_keep (means : BenchMeans) (test : String → String → Bool) :
    (means.keep test).PartOf means := by
  intro bench exe m h
  rw [mean?_keep] at h
  by_cases kept : test bench exe = true
  · rwa [if_pos kept] at h
  · rw [if_neg kept] at h
    cases h

/-- Means of other executables can be deleted without a trace in the means of these two. -/
theorem agreeOn_keep {test : String → String → Bool} (hb : ∀ bench, test bench baseline = true)
    (he : ∀ bench, test bench exe = true) : means.AgreeOn (means.keep test) baseline exe := by
  constructor
  · intro bench
    rw [mean?_keep, if_pos (hb bench)]
  · intro bench _
    rw [mean?_keep, if_pos (he bench)]

/-- Who leads a benchmark leads it still when means of others are deleted: no mean is left that
was not there before. -/
theorem Leads.of_partOf (part : means₂.PartOf means₁)
    (same : means₁.mean? bench exe = means₂.mean? bench exe) (leads : means₁.Leads bench exe) :
    means₂.Leads bench exe := by
  obtain ⟨m, found, number, lowest⟩ := leads
  refine ⟨m, same.symm.trans found, number, ?_⟩
  intro other m' found'
  exact lowest other m' (part bench other m' found')

end BenchMeans

namespace Comparison

variable {means₁ means₂ : BenchMeans} {baseline exe : String} {c₁ c₂ : Comparison}

/-- What two comparisons say alike of an executable. -/
structure Alike (c₁ c₂ : Comparison) (exe : String) : Prop where
  benches : c₁.benches = c₂.benches
  ranked : exe ∈ c₁.ranking.map (·.exe) ↔ exe ∈ c₂.ranking.map (·.exe)
  speedup? : ∀ bench, c₁.speedup? bench exe = c₂.speedup? bench exe
  finiteSpeedups : c₁.finiteSpeedups exe = c₂.finiteSpeedups exe
  geoMean : ∀ r₁ ∈ c₁.ranking, ∀ r₂ ∈ c₂.ranking, r₁.exe = exe → r₂.exe = exe →
    r₁.geoMean = r₂.geoMean
  median : ∀ r₁ ∈ c₁.ranking, ∀ r₂ ∈ c₂.ranking, r₁.exe = exe → r₂.exe = exe →
    r₁.median = r₂.median

section Agreeing

variable (agree : means₁.AgreeOn means₂ baseline exe)

include agree

theorem isSome_ofMeans_eq :
    (ofMeans means₁ baseline).isSome = (ofMeans means₂ baseline).isSome := by
  have none_iff : ofMeans means₁ baseline = none ↔ ofMeans means₂ baseline = none := by
    rw [ofMeans_eq_none_iff, ofMeans_eq_none_iff]
    simp only [agree.ofBaseline]
  rw [Bool.eq_iff_iff, Option.isSome_iff_ne_none, Option.isSome_iff_ne_none]
  exact not_congr none_iff

theorem mean?_eq_of_mem_benches (h : ofMeans means₁ baseline = some c₁) {bench : String}
    (hb : bench ∈ c₁.benches) :
    means₁.mean? bench exe = means₂.mean? bench exe :=
  agree.ofExe bench ((mem_benches_iff h).mp hb)

variable (h₁ : ofMeans means₁ baseline = some c₁) (h₂ : ofMeans means₂ baseline = some c₂)

include h₁ h₂

theorem benches_eq : c₁.benches = c₂.benches := by
  apply Ascending.eq_of_mem_iff (describes_of_ofMeans h₁).benches_ascending
    (describes_of_ofMeans h₂).benches_ascending
  intro bench
  rw [mem_benches_iff h₁, mem_benches_iff h₂, agree.ofBaseline]

theorem mem_ranking_iff : exe ∈ c₁.ranking.map (·.exe) ↔ exe ∈ c₂.ranking.map (·.exe) := by
  rw [mem_exes_ranking_iff h₁, mem_exes_ranking_iff h₂, ← benches_eq agree h₁ h₂]
  constructor
  · rintro ⟨bench, hb, has⟩
    exact ⟨bench, hb, by rwa [← mean?_eq_of_mem_benches agree h₁ hb]⟩
  · rintro ⟨bench, hb, has⟩
    exact ⟨bench, hb, by rwa [mean?_eq_of_mem_benches agree h₁ hb]⟩

theorem speedup?_eq (bench : String) : c₁.speedup? bench exe = c₂.speedup? bench exe := by
  rw [speedup?_eq_get? h₁, speedup?_eq_get? h₂, get?_speedupsIn, get?_speedupsIn]
  simp only [mean?_compared, ← agree.ofBaseline]
  cases hb : (means₁.mean? bench baseline).isSome with
  | true => rw [agree.ofExe bench hb]
  | false => rfl

theorem speedupsOn_eq : c₁.speedupsOn exe = c₂.speedupsOn exe := by
  unfold speedupsOn
  rw [benches_eq agree h₁ h₂]
  exact List.filterMap_congr fun bench _ => speedup?_eq agree h₁ h₂ bench

/-- Tables that agree on the baseline and on an executable give comparisons that are alike for
that executable. -/
theorem alike_of_agreeOn : c₁.Alike c₂ exe where
  benches := benches_eq agree h₁ h₂
  ranked := mem_ranking_iff agree h₁ h₂
  speedup? := speedup?_eq agree h₁ h₂
  finiteSpeedups := by
    rw [finiteSpeedups_eq h₁, finiteSpeedups_eq h₂, speedupsOn_eq agree h₁ h₂]
  geoMean := by
    intro r₁ hr₁ r₂ hr₂ named₁ named₂
    rw [geoMean_eq h₁ hr₁, geoMean_eq h₂ hr₂, named₁, named₂, speedupsOn_eq agree h₁ h₂]
  median := by
    intro r₁ hr₁ r₂ hr₂ named₁ named₂
    rw [median_eq h₁ hr₁, median_eq h₂ hr₂, named₁, named₂, speedupsOn_eq agree h₁ h₂]

/-! ## Wins with fewer others -/

variable (part : means₂.PartOf means₁)

include part

/-- Deleting means of other executables takes no win away. -/
theorem winsOf_le_of_partOf : c₁.winsOf means₁ exe ≤ c₂.winsOf means₂ exe := by
  unfold winsOf
  rw [← benches_eq agree h₁ h₂, ← List.countP_eq_length_filter, ← List.countP_eq_length_filter]
  apply List.countP_mono_left
  intro bench hb leads
  rw [decide_eq_true_eq] at leads ⊢
  exact leads.of_partOf part (mean?_eq_of_mem_benches agree h₁ hb)

variable {r₁ r₂ : Ranked} (hr₁ : r₁ ∈ c₁.ranking) (hr₂ : r₂ ∈ c₂.ranking) (named₁ : r₁.exe = exe)
  (named₂ : r₂.exe = exe)

include hr₁ hr₂ named₁ named₂

/-- Nor does it lower the win rate, as the number of benchmarks is the same. -/
theorem winRate_mono : r₂.winRate.lt r₁.winRate = false := by
  have wins := winsOf_le_of_partOf agree h₁ h₂ part
  rw [winRate_eq h₁ hr₁, winRate_eq h₂ hr₂, named₁, named₂, benches_eq agree h₁ h₂]
  exact Double.share_mono (length_benches_pos h₂) wins (c₂.winsOf_le means₂ exe)

theorem winRate_le (word : c₁.benches.length < 2 ^ 64) :
    r₁.winRate.lt r₂.winRate = true ∨ r₁.winRate.ieeeEq r₂.winRate = true := by
  apply Double.lt_or_ieeeEq _ _ (winRate_mono agree h₁ h₂ part hr₁ hr₂ named₁ named₂)
  · rw [winRate_eq h₁ hr₁]
    exact Double.share_isNaN (length_benches_pos h₁) (c₁.winsOf_le means₁ _) word
  · rw [benches_eq agree h₁ h₂] at word
    rw [winRate_eq h₂ hr₂]
    exact Double.share_isNaN (length_benches_pos h₂) (c₂.winsOf_le means₂ _) word

end Agreeing

/-- Of an executable a comparison depends on its own means and those of the baseline only, apart
from the win rate. That one is at least as large after means of others are deleted: never less,
and with no more benchmarks than a machine word counts a number that is more or equal. -/
theorem ofMeans_independent {means₁ means₂ : BenchMeans} {baseline exe : String}
    (agree : means₁.AgreeOn means₂ baseline exe) :
    (ofMeans means₁ baseline).isSome = (ofMeans means₂ baseline).isSome ∧
    ∀ c₁ ∈ ofMeans means₁ baseline, ∀ c₂ ∈ ofMeans means₂ baseline,
      c₁.Alike c₂ exe ∧
      (means₂.PartOf means₁ →
        c₁.winsOf means₁ exe ≤ c₂.winsOf means₂ exe ∧
        ∀ r₁ ∈ c₁.ranking, ∀ r₂ ∈ c₂.ranking, r₁.exe = exe → r₂.exe = exe →
          r₂.winRate.lt r₁.winRate = false ∧
          (c₁.benches.length < 2 ^ 64 →
            r₁.winRate.lt r₂.winRate = true ∨ r₁.winRate.ieeeEq r₂.winRate = true)) := by
  refine ⟨isSome_ofMeans_eq agree, ?_⟩
  intro c₁ h₁ c₂ h₂
  refine ⟨alike_of_agreeOn agree h₁ h₂, ?_⟩
  intro part
  refine ⟨winsOf_le_of_partOf agree h₁ h₂ part, ?_⟩
  intro r₁ hr₁ r₂ hr₂ named₁ named₂
  exact ⟨winRate_mono agree h₁ h₂ part hr₁ hr₂ named₁ named₂,
    winRate_le agree h₁ h₂ part hr₁ hr₂ named₁ named₂⟩

/-- Without the faster `Y` nothing changes for `X`, except that it wins. -/
theorem ofMeans_independent_deleted :
    ∃ c₁ ∈ ofMeans ⟨[("A", ⟨[("X", 10), ("Y", 5), ("base", 20)], by decide⟩)], by decide⟩ "base",
    ∃ c₂ ∈ ofMeans ⟨[("A", ⟨[("X", 10), ("base", 20)], by decide⟩)], by decide⟩ "base",
      c₁.Alike c₂ "X" ∧ ∀ r₁ ∈ c₁.ranking, ∀ r₂ ∈ c₂.ranking, r₁.exe = "X" → r₂.exe = "X" →
        r₁.winRate.lt r₂.winRate = true ∨ r₁.winRate.ieeeEq r₂.winRate = true := by
  let means : BenchMeans :=
    ⟨[("A", ⟨[("X", 10), ("Y", 5), ("base", 20)], by decide⟩)], by decide⟩
  let others : String → String → Bool := fun _ exe => exe != "Y"
  obtain ⟨c₁, h₁⟩ := Option.isSome_iff_exists.mp
    (by decide +kernel : (ofMeans means "base").isSome = true)
  obtain ⟨c₂, h₂⟩ := Option.isSome_iff_exists.mp
    (by decide +kernel : (ofMeans (means.keep others) "base").isSome = true)
  have agree : means.AgreeOn (means.keep others) "base" "X" :=
    BenchMeans.agreeOn_keep (fun _ => rfl) (fun _ => rfl)
  have word : c₁.benches.length < 2 ^ 64 := by
    rw [(eq_of_ofMeans h₁).2.1]
    decide +kernel
  obtain ⟨alike, wins⟩ := (ofMeans_independent agree).2 c₁ h₁ c₂ h₂
  refine ⟨c₁, h₁, c₂, h₂, alike, ?_⟩
  intro r₁ hr₁ r₂ hr₂ named₁ named₂
  exact ((wins (BenchMeans.partOf_keep means others)).2 r₁ hr₁ r₂ hr₂ named₁ named₂).2 word

end Comparison

end Speedup
