import Mathlib.Data.List.Nodup
import Mathlib.Data.List.Perm.Basic
import Speedup.Ordered.Table

/-!
# Looking up in ordered tables

What `Table.get?` answers after each operation. Since the entries ascend strictly by key, an
entry is found exactly under its own key (`get?_eq_some_iff`), and a table is nothing but what
it answers (`ext_get?`): two tables with the same answers have the same entries in the same
order. So a law about a table built in several steps is a calculation with `get?`.
-/

namespace Speedup.Ordered

variable {κ ν μ : Type} [Ord κ]

/-! ## Ascending keys -/

section Ascending

instance (keys : List κ) : Decidable (Ascending keys) :=
  inferInstanceAs (Decidable (List.Pairwise _ _))

variable [Std.LawfulEqOrd κ]

theorem ne_of_compare_lt {a b : κ} (h : compare a b = .lt) : a ≠ b := by
  rintro rfl
  rw [Std.ReflOrd.compare_self] at h
  cases h

theorem Ascending.nodup {keys : List κ} (h : Ascending keys) : keys.Nodup :=
  List.Pairwise.imp ne_of_compare_lt h

/-- Ascending lists with the same members are equal. -/
theorem Ascending.eq_of_mem_iff [Std.TransOrd κ] {xs ys : List κ} (hx : Ascending xs)
    (hy : Ascending ys) (h : ∀ a, a ∈ xs ↔ a ∈ ys) : xs = ys := by
  have perm : xs.Perm ys := (List.perm_ext_iff_of_nodup hx.nodup hy.nodup).mpr h
  refine List.Perm.eq_of_pairwise ?_ hx hy perm
  intro a b _ _ hab hba
  rw [Std.OrientedOrd.eq_swap, hba] at hab
  cases hab

/-- Of an ascending list, what another one has as well comes in the same order in both. -/
theorem Ascending.sublist_of_subset [Std.TransOrd κ] [DecidableEq κ] {xs ys : List κ}
    (hx : Ascending xs) (hy : Ascending ys) (h : xs ⊆ ys) : xs.Sublist ys := by
  have same : xs = ys.filter (· ∈ xs) := by
    refine hx.eq_of_mem_iff (hy.sublist List.filter_sublist) fun a => ?_
    rw [List.mem_filter, decide_eq_true_eq]
    exact ⟨fun ha => ⟨h ha, ha⟩, And.right⟩
  rw [same]
  exact List.filter_sublist

end Ascending

/-! ## At most one -/

theorem nodup_toList {α : Type} (o : Option α) : o.toList.Nodup := by
  cases o <;> simp

theorem eq_toList_of_perm {α : Type} {xs : List α} {o : Option α} (h : xs.Perm o.toList) :
    xs = o.toList := by
  cases o with
  | none => exact h.eq_nil
  | some a => exact List.perm_singleton.mp h

/-- Where keys are distinct, an element is all there is under its key. -/
theorem filter_key_eq_singleton {α β : Type} [DecidableEq α] (key : β → α) {xs : List β} {x : β}
    (distinct : (xs.map key).Nodup) (hx : x ∈ xs) : xs.filter (fun y => key y = key x) = [x] := by
  refine List.perm_singleton.mp ((List.perm_ext_iff_of_nodup
    (distinct.of_map.filter _) (List.nodup_singleton x)).mpr fun y => ?_)
  simp only [List.mem_filter, decide_eq_true_eq, List.mem_singleton]
  constructor
  · rintro ⟨hy, same⟩
    exact List.inj_on_of_nodup_map distinct hy hx same
  · rintro rfl
    exact ⟨hx, rfl⟩

/-- Where only one element of a list has anything, that is all there is. -/
theorem flatMap_eq_of_only {α β : Type} [DecidableEq α] {xs : List α} {f : α → List β} {a : α}
    (distinct : xs.Nodup) (only : ∀ x ∈ xs, x ≠ a → f x = []) :
    xs.flatMap f = if a ∈ xs then f a else [] := by
  induction xs with
  | nil => rfl
  | cons x rest ih =>
      rw [List.nodup_cons] at distinct
      rw [List.flatMap_cons, ih distinct.2 fun y hy => only y (List.mem_cons_of_mem _ hy)]
      by_cases here : x = a
      · subst here
        simp [distinct.1]
      · simp [only x List.mem_cons_self here, Ne.symm here]

/-- The parts of a list under different keys that cover it are the whole list. -/
theorem flatMap_filter_perm {α β : Type} [DecidableEq α] (key : β → α) {keys : List α}
    {xs : List β} (distinct : keys.Nodup) (covered : ∀ x ∈ xs, key x ∈ keys) :
    (keys.flatMap fun k => xs.filter fun x => key x = k).Perm xs := by
  induction xs with
  | nil => simp
  | cons x rest ih =>
      obtain ⟨here, covered⟩ := List.forall_mem_cons.mp covered
      have own : keys.flatMap (fun k => if key x = k then [x] else []) = [x] := by
        rw [flatMap_eq_of_only distinct fun k _ other => if_neg (Ne.symm other), if_pos here,
          if_pos rfl]
      have split (k : α) : (x :: rest).filter (fun x => key x = k) =
          (if key x = k then [x] else []) ++ rest.filter fun x => key x = k := by
        by_cases same : key x = k <;> simp [same]
      have parts := List.flatMap_append_perm keys (fun k => if key x = k then [x] else [])
        fun k => rest.filter fun x => key x = k
      rw [funext split]
      refine parts.symm.trans ?_
      rw [own]
      exact (ih covered).cons x

namespace Table

variable [Std.LawfulEqOrd κ] {t s : Table κ ν} {k : κ} {v : ν}

/-! ## Entries and lookups -/

/-- An entry is found under its own key and nowhere else. -/
theorem get?_eq_some_iff : t.get? k = some v ↔ (k, v) ∈ t.entries := by
  rw [get?, Option.map_eq_some_iff]
  constructor
  · rintro ⟨e, he, rfl⟩
    have key : e.1 = k := by simpa using List.find?_some he
    subst key
    exact List.mem_of_find?_eq_some he
  · intro h
    cases hf : t.entries.find? (fun e => compare e.1 k == .eq) with
    | none => exact absurd (List.find?_eq_none.mp hf _ h) (by simp)
    | some e =>
        have key : e.1 = k := by simpa using List.find?_some hf
        have same := List.inj_on_of_nodup_map t.ascending.nodup
          (List.mem_of_find?_eq_some hf) h key
        exact ⟨e, rfl, by rw [same]⟩

theorem isSome_get?_iff : (t.get? k).isSome ↔ k ∈ t.keys := by
  rw [Option.isSome_iff_exists, keys, List.mem_map]
  constructor
  · rintro ⟨v, h⟩
    exact ⟨(k, v), get?_eq_some_iff.mp h, rfl⟩
  · rintro ⟨e, he, rfl⟩
    exact ⟨e.2, get?_eq_some_iff.mpr he⟩

theorem lookup_entries [BEq κ] [LawfulBEq κ] (t : Table κ ν) (k : κ) :
    t.entries.lookup k = t.get? k := by
  have same (a : κ) : (k == a) = (compare a k == .eq) := by
    rw [Bool.eq_iff_iff, beq_iff_eq, beq_iff_eq, Std.compare_eq_iff_eq, eq_comm]
  unfold get?
  induction t.entries with
  | nil => rfl
  | cons e rest ih =>
      obtain ⟨a, v⟩ := e
      rw [List.lookup_cons, List.find?_cons, same, ih]
      cases compare a k == .eq <;> rfl

theorem mem_values_iff : v ∈ t.values ↔ ∃ k, t.get? k = some v := by
  simp only [values, List.mem_map, get?_eq_some_iff]
  constructor
  · rintro ⟨e, he, rfl⟩
    exact ⟨e.1, he⟩
  · rintro ⟨k, h⟩
    exact ⟨(k, v), h, rfl⟩

theorem isEmpty_eq_true_iff : t.isEmpty = true ↔ ∀ k, t.get? k = none := by
  rw [isEmpty, List.isEmpty_iff]
  constructor
  · intro h k
    rw [get?, h]
    rfl
  · intro h
    rw [List.eq_nil_iff_forall_not_mem]
    intro e he
    exact absurd (get?_eq_some_iff.mpr he) (by rw [h]; simp)

theorem entries_eq_filterMap (t : Table κ ν) :
    t.entries = t.keys.filterMap fun k => (t.get? k).map (Prod.mk k) := by
  rw [keys, List.filterMap_map]
  conv_lhs => rw [← List.filterMap_some (l := t.entries)]
  refine List.filterMap_congr ?_
  intro e he
  rw [Function.comp_apply, get?_eq_some_iff.mpr he]
  rfl

theorem filter_entries [DecidableEq κ] (t : Table κ ν) (k : κ) :
    (t.entries.filter fun e => e.1 = k) = ((t.get? k).map (Prod.mk k)).toList := by
  apply eq_toList_of_perm
  rw [List.perm_ext_iff_of_nodup (t.ascending.nodup.of_map.filter _) (nodup_toList _)]
  rintro ⟨k', v⟩
  simp only [List.mem_filter, decide_eq_true_eq, Option.mem_toList, Option.map_eq_some_iff,
    get?_eq_some_iff, Prod.mk.injEq]
  constructor
  · rintro ⟨he, rfl⟩
    exact ⟨v, he, rfl, rfl⟩
  · rintro ⟨_, he, rfl, rfl⟩
    exact ⟨he, rfl⟩

section Transitive

variable [Std.TransOrd κ]

/-- The keys of a table are those it answers, whatever its values are. -/
theorem keys_ext {s : Table κ μ} (h : ∀ k, (t.get? k).isSome = (s.get? k).isSome) :
    t.keys = s.keys := by
  refine Ascending.eq_of_mem_iff t.ascending s.ascending ?_
  intro k
  rw [← isSome_get?_iff, h, isSome_get?_iff]

/-- A table is determined by what it answers. -/
theorem ext_get? (h : ∀ k, t.get? k = s.get? k) : t = s := by
  have keys : t.keys = s.keys := keys_ext fun k => by rw [h k]
  have entries : t.entries = s.entries := by
    rw [entries_eq_filterMap t, entries_eq_filterMap s, keys]
    simp only [h]
  cases t
  cases s
  congr

end Transitive

/-! ## Operations -/

theorem get?_filter (t : Table κ ν) (p : κ → ν → Bool) (k : κ) :
    (t.filter p).get? k = (t.get? k).filter (p k) := by
  ext v
  rw [get?_eq_some_iff, Option.filter_eq_some_iff, get?_eq_some_iff, filter, List.mem_filter]

theorem get?_map (t : Table κ ν) (f : κ → ν → μ) (k : κ) :
    (t.map f).get? k = (t.get? k).map (f k) := by
  ext w
  rw [get?_eq_some_iff, Option.map_eq_some_iff, map, List.mem_map]
  constructor
  · rintro ⟨⟨k', v⟩, he, hw⟩
    obtain ⟨rfl, rfl⟩ := Prod.mk.inj hw
    exact ⟨v, get?_eq_some_iff.mpr he, rfl⟩
  · rintro ⟨v, hv, rfl⟩
    exact ⟨(k, v), get?_eq_some_iff.mp hv, rfl⟩

theorem get?_filterMap (t : Table κ ν) (f : κ → ν → Option μ) (k : κ) :
    (t.filterMap f).get? k = (t.get? k).bind (f k) := by
  ext w
  rw [get?_eq_some_iff, Option.bind_eq_some_iff, filterMap, List.mem_filterMap]
  constructor
  · rintro ⟨⟨k', v⟩, he, hw⟩
    obtain ⟨w', hf, rfl, rfl⟩ : ∃ w', f k' v = some w' ∧ k' = k ∧ w' = w := by
      simpa using hw
    exact ⟨v, get?_eq_some_iff.mpr he, hf⟩
  · rintro ⟨v, hv, hf⟩
    exact ⟨(k, v), get?_eq_some_iff.mp hv, by simp [hf]⟩

/-- The values of a table made from another one, in the order of the keys of that one. -/
theorem values_filterMap (t : Table κ ν) (f : κ → ν → Option μ) :
    (t.filterMap f).values = t.keys.filterMap (t.filterMap f).get? := by
  rw [values, filterMap, List.map_filterMap, keys, List.filterMap_map]
  refine List.filterMap_congr ?_
  intro e he
  show _ = (t.filterMap f).get? e.1
  rw [get?_filterMap, get?_eq_some_iff.mpr he]
  simp [Function.comp_def]

variable [Std.TransOrd κ]

theorem get?_ofKeys_eq_some_iff {keys : List κ} {f : κ → ν} :
    (ofKeys keys f).get? k = some v ↔ k ∈ keys ∧ f k = v := by
  rw [get?_eq_some_iff, ofKeys, List.mem_map]
  constructor
  · rintro ⟨a, ha, he⟩
    obtain ⟨rfl, rfl⟩ := Prod.mk.inj he
    exact ⟨mem_distinct.mp ha, rfl⟩
  · rintro ⟨hk, rfl⟩
    exact ⟨k, mem_distinct.mpr hk, rfl⟩

theorem mem_insertEntry {e : κ × ν} {entries : List (κ × ν)}
    (ascending : Ascending (entries.map (·.1))) :
    e ∈ insertEntry k v entries ↔ e = (k, v) ∨ (e ∈ entries ∧ e.1 ≠ k) := by
  induction entries with
  | nil => simp [insertEntry]
  | cons first rest ih =>
      obtain ⟨before, tail⟩ := List.pairwise_cons.mp ascending
      have later : ∀ e ∈ rest, compare first.1 e.1 = .lt := fun e he =>
        before e.1 (List.mem_map_of_mem he)
      unfold insertEntry
      split
      next c =>
        have other : ∀ e ∈ first :: rest, e.1 ≠ k := by
          intro e he
          rcases List.mem_cons.mp he with rfl | he
          · exact (ne_of_compare_lt c).symm
          · exact (ne_of_compare_lt (Std.TransCmp.lt_trans c (later e he))).symm
        rw [List.mem_cons]
        exact or_congr_right ⟨fun he => ⟨he, other e he⟩, And.left⟩
      next c =>
        have same : k = first.1 := Std.LawfulEqCmp.eq_of_compare c
        subst same
        have other : ∀ e ∈ rest, e.1 ≠ first.1 := fun e he => (ne_of_compare_lt (later e he)).symm
        rw [List.mem_cons, List.mem_cons]
        refine or_congr_right ⟨fun he => ⟨.inr he, other e he⟩, ?_⟩
        rintro ⟨rfl | he, ne⟩
        · exact absurd rfl ne
        · exact he
      next c =>
        have ne : first.1 ≠ k := ne_of_compare_lt (Std.OrientedCmp.lt_of_gt c)
        rw [List.mem_cons, List.mem_cons, ih tail]
        constructor
        · rintro (rfl | rfl | ⟨he, other⟩)
          · exact .inr ⟨.inl rfl, ne⟩
          · exact .inl rfl
          · exact .inr ⟨.inr he, other⟩
        · rintro (rfl | ⟨rfl | he, other⟩)
          · exact .inr (.inl rfl)
          · exact .inl rfl
          · exact .inr (.inr ⟨he, other⟩)

theorem get?_insert_self (t : Table κ ν) (k : κ) (v : ν) : (t.insert k v).get? k = some v :=
  get?_eq_some_iff.mpr ((mem_insertEntry t.ascending).mpr (.inl rfl))

theorem get?_insert_of_ne (t : Table κ ν) {a : κ} (h : a ≠ k) (v : ν) :
    (t.insert k v).get? a = t.get? a := by
  ext w
  rw [get?_eq_some_iff, get?_eq_some_iff, insert, mem_insertEntry t.ascending]
  simp [h]

/-! ## Groups -/

omit [Std.LawfulEqOrd κ] [Std.TransOrd κ] in
/-- The values that pairs hold under a key, in their order. -/
def valuesUnder (k : κ) (pairs : List (κ × ν)) : List ν :=
  (pairs.filter fun p => compare p.1 k == .eq).map (·.2)

omit [Std.TransOrd κ] in
theorem mem_map_fst_iff {pairs : List (κ × ν)} :
    k ∈ pairs.map (·.1) ↔ valuesUnder k pairs ≠ [] := by
  rw [valuesUnder, ne_eq, List.map_eq_nil_iff, List.filter_eq_nil_iff, List.mem_map]
  simp

/-- A group holds all values of its key, and there is none without any. -/
theorem get?_group_eq_some_iff {pairs : List (κ × ν)} {vs : List ν} :
    (group pairs).get? k = some vs ↔ valuesUnder k pairs = vs ∧ vs ≠ [] := by
  show (ofKeys _ fun k => valuesUnder k pairs).get? k = some vs ↔ _
  rw [get?_ofKeys_eq_some_iff, mem_map_fst_iff, and_comm]
  refine and_congr_right ?_
  rintro rfl
  rfl

/-- What is computed from the values of a key, where nothing comes of no values. -/
theorem bind_get?_group {f : List ν → Option μ} (nothing : f [] = none) (pairs : List (κ × ν))
    (k : κ) : ((group pairs).get? k).bind f = f (valuesUnder k pairs) := by
  by_cases none_there : valuesUnder k pairs = []
  · have absent : (group pairs).get? k = none := by
      rw [Option.eq_none_iff_forall_ne_some]
      intro vs found
      obtain ⟨rfl, some_value⟩ := get?_group_eq_some_iff.mp found
      exact some_value none_there
    rw [absent, none_there, nothing]
    rfl
  · rw [get?_group_eq_some_iff.mpr ⟨rfl, none_there⟩]
    rfl

/-- Of pairs with one key the last one counts. -/
theorem get?_ofList (pairs : List (κ × ν)) (k : κ) :
    (ofList pairs).get? k = (valuesUnder k pairs).getLast? := by
  rw [ofList, get?_filterMap]
  exact bind_get?_group rfl pairs k

end Table

end Speedup.Ordered
