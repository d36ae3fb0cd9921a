import Speedup.Proofs.Report.Places

/-!
# Reports keep their documents

Every document of a report is written once, and where names do not meet it has a place of its own.
So a report loses none (`keepsAll_steps`). Each of the conditions on names is needed: without it
there is a report of one or two observations that writes two documents to one place
(`not_keepsAll_steps`).
-/

namespace Speedup.Report

open Ordered Files
open Tables (fileStem)

/-! ## The documents of a report -/

variable {t : Files.Tree Document} {root : Path} {rows : List Observation} {metrics : List Metric}
  {baseline : String} {m : Metric} {part : Part}

theorem Reported.of_environment {envid bench : String}
    (h : Reported (Observation.ofEnvironment envid rows) metrics bench) :
    Reported rows metrics bench := by
  obtain ⟨m, hm, o, ho, hb⟩ := h
  rw [Metric.mem_select, Observation.mem_ofEnvironment] at ho
  exact ⟨m, hm, o, Metric.mem_select.mpr ⟨ho.1.1, ho.2⟩, hb⟩

theorem among_mainParts (h : part ∈ mainParts rows metrics baseline) :
    part.Among (metrics.map (·.key)) (Reported rows metrics) := by
  simp only [mainParts, List.mem_append, List.mem_flatMap] at h
  obtain ((⟨m, hm, h | h⟩ | h) | ⟨m, hm, h⟩) | h := h
  · refine (among_environmentParts ?_).1
    exact List.mem_append_left _ (List.mem_flatMap.mpr ⟨m, hm, h⟩)
  · rw [(mem_pivotParts_iff.mp h).1]
    exact List.mem_map_of_mem hm
  · exact (among_environmentParts (List.mem_append_right _ h)).1
  · obtain ⟨rfl, _⟩ | rfl | rfl := mem_rankingParts_iff.mp h <;> exact List.mem_map_of_mem hm
  · obtain rfl | rfl : part = .dashboard ∨ part = .text := by simpa using h
    · trivial
    · trivial

theorem among_items {item : Item} {environments : Bool}
    (h : item ∈ items rows metrics baseline environments) :
    item.Among (metrics.map (·.key)) (Reported rows metrics)
      (if environments then Grouping.environments rows else []) := by
  rw [items, List.mem_append] at h
  obtain h | h := h
  · obtain ⟨part, hp, rfl⟩ := List.mem_map.mp h
    exact ⟨among_mainParts hp, nofun⟩
  · split at h
    next on =>
      obtain ⟨envid, he, h⟩ := List.mem_flatMap.mp h
      obtain ⟨part, hp, rfl⟩ := List.mem_map.mp h
      obtain ⟨among, repeated⟩ := among_environmentParts hp
      refine ⟨among.imp fun _ => Reported.of_environment, ?_⟩
      rintro _ ⟨⟩
      rw [if_pos on]
      exact ⟨he, repeated⟩
    · cases h

/-! ## Each document once -/

def Part.key? : Part → Option String
  | box key _ | table key _ | master key | pivot key | overall key | summary key | detailed key =>
    some key
  | panel _ | dashboard | text => none

/-- The part of the report that a document belongs to. -/
def Part.turn : Part → Nat
  | box _ _ | table _ _ | master _ | pivot _ => 0
  | panel _ => 1
  | overall _ | summary _ | detailed _ => 2
  | dashboard | text => 3

theorem nodup_flatMap_of_mark {α β γ : Type} {xs : List α} {f : α → List β} (mark : α → γ)
    (mark' : β → γ) (distinct : (xs.map mark).Nodup) (each : ∀ x ∈ xs, (f x).Nodup)
    (marked : ∀ x ∈ xs, ∀ y ∈ f x, mark' y = mark x) : (xs.flatMap f).Nodup := by
  rw [List.nodup_flatMap]
  refine ⟨each, ?_⟩
  rw [List.Nodup, List.pairwise_map] at distinct
  refine distinct.imp_of_mem ?_
  intro a b ha hb apart y hy hy'
  exact apart ((marked a ha y hy).symm.trans (marked b hb y hy'))

/-- Documents without repetition, all of which belong to the parts before one. -/
structure Before (turn : Nat) (parts : List Part) : Prop where
  nodup : parts.Nodup
  earlier : ∀ part ∈ parts, part.turn < turn

theorem Before.nil : Before 0 [] := ⟨List.nodup_nil, nofun⟩

theorem Before.append {turn : Nat} {xs ys : List Part} (h : Before turn xs) (once : ys.Nodup)
    (now : ∀ part ∈ ys, part.turn = turn) : Before (turn + 1) (xs ++ ys) where
  nodup := by
    refine List.nodup_append.mpr ⟨h.nodup, once, ?_⟩
    rintro a ha _ hb rfl
    exact Nat.ne_of_lt (h.earlier a ha) (now a hb)
  earlier := by
    intro part hp
    obtain hp | hp := List.mem_append.mp hp
    · exact (h.earlier part hp).trans (Nat.lt_succ_self turn)
    · rw [now part hp]
      exact Nat.lt_succ_self turn

theorem nodup_measured (rows : List Observation) : (measured rows).Nodup :=
  (Grouping.values (·.bench) rows).ascending.nodup

theorem nodup_metricParts (key : String) (rows : List Observation) :
    (metricParts key rows).Nodup := by
  unfold metricParts
  split
  · exact List.nodup_nil
  · have boxes := (nodup_measured rows).map (f := Part.box key) fun _ _ h => (Part.box.inj h).2
    have tables := (nodup_measured rows).map (f := Part.table key) fun _ _ h => (Part.table.inj h).2
    refine List.nodup_append.mpr ⟨List.nodup_append.mpr ⟨boxes, tables, ?_⟩, ?_, ?_⟩
    · simp
    · exact List.nodup_singleton _
    · intro a ha b hb
      rw [List.mem_singleton.mp hb]
      simp only [List.mem_append, List.mem_map] at ha
      obtain ⟨bench, _, rfl⟩ | ⟨bench, _, rfl⟩ := ha <;> exact nofun

theorem nodup_panelParts (metrics : List Metric) (rows : List Observation) :
    (panelParts metrics rows).Nodup :=
  (nodup_measured _).map fun _ _ h => Part.panel.inj h

theorem Before.append_metrics {turn : Nat} {xs : List Part} {f : Metric → List Part}
    (h : Before turn xs) (distinct : (metrics.map (·.key)).Nodup)
    (each : ∀ m ∈ metrics, (f m).Nodup)
    (own : ∀ m ∈ metrics, ∀ part ∈ f m, part.key? = some m.key ∧ part.turn = turn) :
    Before (turn + 1) (xs ++ metrics.flatMap f) := by
  refine h.append ?_ ?_
  · refine nodup_flatMap_of_mark (fun m => some m.key) Part.key? ?_ each
      fun m hm part hp => (own m hm part hp).1
    rw [← Function.comp_def, ← List.map_map]
    exact distinct.map (Option.some_injective _)
  · intro part hp
    obtain ⟨m, hm, hp⟩ := List.mem_flatMap.mp hp
    exact (own m hm part hp).2

theorem key?_metricParts {key : String} (h : part ∈ metricParts key rows) :
    part.key? = some key ∧ part.turn = 0 := by
  obtain ⟨_, ⟨bench, _, rfl | rfl⟩ | rfl⟩ := mem_metricParts_iff.mp h <;> exact ⟨rfl, rfl⟩

theorem key?_rankingParts {key : String} (h : part ∈ rankingParts baseline key rows) :
    part.key? = some key ∧ part.turn = 2 := by
  obtain ⟨rfl, _⟩ | rfl | rfl := mem_rankingParts_iff.mp h <;> exact ⟨rfl, rfl⟩

theorem turn_panelParts (h : part ∈ panelParts metrics rows) : part.turn = 1 := by
  obtain ⟨bench, _, rfl⟩ := mem_panelParts_iff.mp h
  rfl

theorem key?_valueParts (h : part ∈ metricParts m.key rows ++ pivotParts m rows) :
    part.key? = some m.key ∧ part.turn = 0 := by
  obtain h | h := List.mem_append.mp h
  · exact key?_metricParts h
  · rw [(mem_pivotParts_iff.mp h).1]
    exact ⟨rfl, rfl⟩

theorem nodup_environmentParts (distinct : (metrics.map (·.key)).Nodup)
    (rows : List Observation) : (environmentParts metrics rows).Nodup := by
  have values := Before.nil.append_metrics distinct
    (fun m _ => nodup_metricParts m.key (m.select rows)) fun _ _ _ => key?_metricParts
  exact (values.append (nodup_panelParts metrics rows) fun _ => turn_panelParts).nodup

theorem nodup_valueParts (m : Metric) (rows : List Observation) :
    (metricParts m.key rows ++ pivotParts m rows).Nodup := by
  refine List.nodup_append.mpr ⟨nodup_metricParts _ _, ?_, ?_⟩
  · unfold pivotParts
    split
    · exact List.nodup_singleton _
    · exact List.nodup_nil
  · intro a ha b hb
    rw [(mem_pivotParts_iff.mp hb).1]
    obtain ⟨_, ⟨bench, _, rfl | rfl⟩ | rfl⟩ := mem_metricParts_iff.mp ha <;> exact nofun

theorem nodup_rankingParts (baseline key : String) (rows : List Observation) :
    (rankingParts baseline key rows).Nodup := by
  unfold rankingParts
  split <;> simp

theorem nodup_mainParts (distinct : (metrics.map (·.key)).Nodup) (rows : List Observation)
    (baseline : String) : (mainParts rows metrics baseline).Nodup := by
  have values := Before.nil.append_metrics distinct
    (fun m _ => nodup_valueParts m (m.select rows)) fun _ _ _ => key?_valueParts
  have panels := values.append (nodup_panelParts metrics rows) fun _ => turn_panelParts
  have rankings := panels.append_metrics distinct
    (fun m _ => nodup_rankingParts baseline m.key (m.select rows)) fun _ _ _ => key?_rankingParts
  exact (rankings.append (by decide) (by decide)).nodup

theorem nodup_items (distinct : (metrics.map (·.key)).Nodup) (rows : List Observation)
    (baseline : String) (environments : Bool) :
    (items rows metrics baseline environments).Nodup := by
  have inScope (environment : Option String) {parts : List Part} (h : parts.Nodup) :
      (parts.map (Item.mk environment)).Nodup := h.map fun _ _ h => (Item.mk.inj h).2
  unfold items
  refine List.nodup_append.mpr ⟨inScope none (nodup_mainParts distinct rows baseline), ?_, ?_⟩
  · split
    · refine nodup_flatMap_of_mark some Item.environment ?_ ?_ ?_
      · exact (ascending_distinct _).nodup.map (Option.some_injective _)
      · exact fun envid _ => inScope (some envid) (nodup_environmentParts distinct _)
      · intro envid _ item h
        obtain ⟨part, _, rfl⟩ := List.mem_map.mp h
        rfl
    · exact List.nodup_nil
  · intro a ha b hb
    obtain ⟨part, _, rfl⟩ := List.mem_map.mp ha
    split at hb
    · obtain ⟨envid, _, hb⟩ := List.mem_flatMap.mp hb
      obtain ⟨part', _, rfl⟩ := List.mem_map.mp hb
      simp
    · cases hb

/-! ## What is kept -/

theorem places_eq (t : Files.Tree Document) (root : Path) (rows : List Observation)
    (metrics : List Metric) (baseline : String) (environments : Bool) :
    Step.places t root (steps root rows metrics baseline environments) =
      (items rows metrics baseline environments).map fun item =>
        t.placeOf (Path.below root item.within) := by
  rw [Step.places, written_steps, List.map_map]
  rfl

/-- A report keeps all its documents, if keys are different and names do not meet. -/
theorem keepsAll_steps (t : Files.Tree Document) (root : Path) (rows : List Observation)
    (metrics : List Metric) (baseline : String) (environments : Bool)
    (distinct : (metrics.map (·.key)).Nodup)
    (names : Distinguishable (metrics.map (·.key)) (Reported rows metrics))
    (separated : environments = true →
      Separated (metrics.map (·.key)) (Grouping.environments rows)) :
    Progress.KeepsAll t root (steps root rows metrics baseline environments) := by
  have apart : Separated (metrics.map (·.key))
      (if environments then Grouping.environments rows else []) := by
    split
    next on => exact separated on
    · exact ⟨nofun, nofun, fun _ => nofun⟩
  apply Progress.keepsAll_of_nodup
  rw [places_eq]
  refine (nodup_items distinct rows baseline environments).map_on ?_
  intro a ha b hb same
  exact place_injective names apart (among_items ha) (among_items hb) same

/-- Two benchmarks in two environments, one of which has no name. -/
theorem keepsAll_steps_two :
    let rows : List Observation :=
      [⟨"Json/Small", "X", "s", "total", "ms", "", some 1, none, none, none⟩,
        ⟨"Sieve", "X", "s", "total", "ms", "2", some 3, none, none, none⟩]
    let metrics := [Metric.time, Metric.bytes]
    (metrics.map (·.key)).Nodup ∧
    Distinguishable (metrics.map (·.key)) (Reported rows metrics) ∧
    Separated (metrics.map (·.key)) (Grouping.environments rows) ∧
    Progress.KeepsAll (Tree.bare []) "out" (steps "out" rows metrics "X" true) := by
  intro rows metrics
  have names : Distinguishable (metrics.map (·.key)) (Reported rows metrics) := by
    refine ⟨by decide, by decide, by decide, by decide, fun h => absurd h (by decide), ?_⟩
    have stems : ∀ o ∈ rows, ∀ o' ∈ rows, fileStem o.bench = fileStem o'.bench →
        o.bench = o'.bench := by decide
    rintro _ _ ⟨m, _, o, ho, rfl, _⟩ ⟨m', _, o', ho', rfl, _⟩
    exact stems o (Metric.mem_select.mp ho).1 o' (Metric.mem_select.mp ho').1
  have separated : Separated (metrics.map (·.key)) (Grouping.environments rows) := by
    have proper : ∀ o ∈ rows, fileStem o.envid ≠ ".." := by decide
    have folders : ∀ o ∈ rows, ∀ o' ∈ rows,
        environmentFolders o.envid = environmentFolders o'.envid → o.envid = o'.envid := by decide
    refine ⟨?_, ?_, fun h => absurd h (by decide)⟩
    · intro envid he
      obtain ⟨o, ho, rfl⟩ := Grouping.mem_environments_iff.mp he
      exact proper o ho
    · intro envid he envid' he'
      obtain ⟨o, ho, rfl⟩ := Grouping.mem_environments_iff.mp he
      obtain ⟨o', ho', rfl⟩ := Grouping.mem_environments_iff.mp he'
      exact folders o ho o' ho'
  exact ⟨by decide, names, separated,
    keepsAll_steps _ _ _ _ _ _ (by decide) names fun _ => separated⟩

/-- Two documents in one place are not both kept. -/
theorem not_keepsAll_of_mem {environments : Bool} {a b : Item}
    (ha : a ∈ items rows metrics baseline environments)
    (hb : b ∈ items rows metrics baseline environments) (other : a ≠ b)
    (same : t.placeOf (Path.below root a.within) = t.placeOf (Path.below root b.within)) :
    ¬ Progress.KeepsAll t root (steps root rows metrics baseline environments) := by
  intro h
  have distinct := h.distinct
  rw [places_eq] at distinct
  exact other (List.inj_on_of_nodup_map distinct ha hb same)

/-- How names meet: two benchmarks in one file; two environments in one folder; keys that stand for
one path; a key beside the detailed chart of another one, the dashboard, the panels, the pivots, and
the tables of the metric `summaries` in an environment without a name. -/
theorem not_keepsAll_steps :
    let row (bench envid : String) : Observation :=
      ⟨bench, "X", "s", "total", "ms", envid, some 1, none, none, none⟩
    let metric (key : String) : Metric := ⟨key, "total", "ms", "", "", 0⟩
    let kept (rows : List Observation) (keys : List String) (environments : Bool) :=
      Progress.KeepsAll (Tree.bare []) "out"
        (steps "out" rows (keys.map metric) "X" environments)
    ¬ kept [row "a/b" "1", row "a:b" "1"] ["x"] false ∧
    ¬ kept [row "a" "e/1", row "a" "e:1"] ["x"] true ∧
    ¬ kept [row "a" "1"] ["x", "./x"] false ∧
    ¬ kept [row "a" "1"] ["x", "x_detailed"] false ∧
    ¬ kept [row "a" "1"] ["dashboard"] false ∧
    ¬ kept [row "a" "1"] ["panels"] false ∧
    ¬ kept [row "x" "1"] ["pivots", "x"] false ∧
    ¬ kept [row "MASTER_x" "", row "a" "summaries"] ["summaries", "x"] true := by
  intro row metric kept
  -- Of every report the two documents that meet, and why they are there.
  refine ⟨not_keepsAll_of_mem (a := ⟨none, .box "x" "a/b"⟩) (b := ⟨none, .box "x" "a:b"⟩) ?_ ?_
      (by decide) (by decide +kernel),
    not_keepsAll_of_mem (a := ⟨some "e/1", .master "x"⟩) (b := ⟨some "e:1", .master "x"⟩) ?_ ?_
      (by decide) (by decide +kernel),
    not_keepsAll_of_mem (a := ⟨none, .box "x" "a"⟩) (b := ⟨none, .box "./x" "a"⟩) ?_ ?_
      (by decide) (by decide +kernel),
    not_keepsAll_of_mem (a := ⟨none, .detailed "x"⟩) (b := ⟨none, .summary "x_detailed"⟩) ?_ ?_
      (by decide) (by decide +kernel),
    not_keepsAll_of_mem (a := ⟨none, .summary "dashboard"⟩) (b := ⟨none, .dashboard⟩) ?_ ?_
      (by decide) (by decide +kernel),
    not_keepsAll_of_mem (a := ⟨none, .box "panels" "a"⟩) (b := ⟨none, .panel "a"⟩) ?_ ?_
      (by decide) (by decide +kernel),
    not_keepsAll_of_mem (a := ⟨none, .box "pivots" "x"⟩) (b := ⟨none, .pivot "x"⟩) ?_ ?_
      (by decide) (by decide +kernel),
    not_keepsAll_of_mem (a := ⟨some "", .table "summaries" "MASTER_x"⟩)
      (b := ⟨some "summaries", .master "x"⟩) ?_ ?_ (by decide) (by decide +kernel)⟩
  all_goals simp [mem_items_iff, mainParts, environmentParts, mem_metricParts_iff, mem_measured_iff,
    mem_pivotParts_iff, mem_panelParts_iff, mem_rankingParts_iff, Reported, Metric.select,
    Grouping.environments, Observation.ofEnvironment, Metric.covers, Metric.sameName,
    Text.sameLetters_refl, and_assoc, row, metric]

end Speedup.Report
