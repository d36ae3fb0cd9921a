import Speedup.Ordered.Distinct

/-!
# Tables ordered by key

A finite map as its entries in ascending order of keys. The order is part of the type, so a table
is determined by what `get?` answers, and listing it needs no sorting.
-/

namespace Speedup.Ordered

/-- Entries in strictly ascending order of their keys. -/
structure Table (κ ν : Type) [Ord κ] where
  entries : List (κ × ν)
  ascending : Ascending (entries.map (·.1))

namespace Table

variable {κ ν μ : Type} [Ord κ]

def empty : Table κ ν := ⟨[], List.Pairwise.nil⟩

instance : Inhabited (Table κ ν) := ⟨empty⟩

def keys (t : Table κ ν) : List κ := t.entries.map (·.1)

def values (t : Table κ ν) : List ν := t.entries.map (·.2)

def isEmpty (t : Table κ ν) : Bool := t.entries.isEmpty

def get? (t : Table κ ν) (k : κ) : Option ν :=
  (t.entries.find? fun e => compare e.1 k == .eq).map (·.2)

def contains (t : Table κ ν) (k : κ) : Bool := (t.get? k).isSome

def filter (t : Table κ ν) (p : κ → ν → Bool) : Table κ ν :=
  ⟨t.entries.filter fun e => p e.1 e.2, (t.ascending.sublist (List.filter_sublist.map _))⟩

def map (t : Table κ ν) (f : κ → ν → μ) : Table κ μ :=
  ⟨t.entries.map fun e => (e.1, f e.1 e.2), by
    simpa [Function.comp_def] using t.ascending⟩

omit [Ord κ] in
theorem map_fst_filterMap (f : κ → ν → Option μ) (entries : List (κ × ν)) :
    ((entries.filterMap fun e => (f e.1 e.2).map fun v => (e.1, v)).map (·.1)).Sublist
      (entries.map (·.1)) := by
  induction entries with
  | nil => simp
  | cons e rest ih =>
    cases h : f e.1 e.2 with
    | none => simpa [List.filterMap_cons, h] using ih.cons e.1
    | some v => simpa [List.filterMap_cons, h] using ih.cons_cons e.1

/-- Changes the values that have an image and leaves the others out. -/
def filterMap (t : Table κ ν) (f : κ → ν → Option μ) : Table κ μ :=
  ⟨t.entries.filterMap fun e => (f e.1 e.2).map fun v => (e.1, v),
    t.ascending.sublist (map_fst_filterMap f t.entries)⟩

section Build

variable [Std.TransOrd κ] [Std.LawfulEqOrd κ]

def ofKeys (keys : List κ) (f : κ → ν) : Table κ ν :=
  ⟨(distinct keys).map fun k => (k, f k), by
    simpa [Function.comp_def] using ascending_distinct keys⟩

/-- The values of pairs gathered under their keys, in their order. -/
def group (pairs : List (κ × ν)) : Table κ (List ν) :=
  ofKeys (pairs.map (·.1)) fun k =>
    (pairs.filter fun p => compare p.1 k == .eq).map (·.2)

/-- A table of pairs; of pairs with one key the last one counts. -/
def ofList (pairs : List (κ × ν)) : Table κ ν :=
  (group pairs).filterMap fun _ values => values.getLast?

def insertEntry (k : κ) (v : ν) : List (κ × ν) → List (κ × ν)
  | [] => [(k, v)]
  | e :: rest =>
    match compare k e.1 with
    | .lt => (k, v) :: e :: rest
    | .eq => (k, v) :: rest
    | .gt => e :: insertEntry k v rest

omit [Std.TransOrd κ] [Std.LawfulEqOrd κ] in
theorem mem_keys_insertEntry {k a : κ} {v : ν} {entries : List (κ × ν)}
    (h : a ∈ (insertEntry k v entries).map (·.1)) : a = k ∨ a ∈ entries.map (·.1) := by
  induction entries with
  | nil => simpa [insertEntry] using h
  | cons e rest ih =>
    unfold insertEntry at h
    split at h <;> simp only [List.map_cons, List.mem_cons] at h ⊢
    · exact h
    · rcases h with h | h
      · exact .inl h
      · exact .inr (.inr h)
    · rcases h with h | h
      · exact .inr (.inl h)
      · rcases ih h with h | h
        · exact .inl h
        · exact .inr (.inr h)

theorem ascending_insertEntry {k : κ} {v : ν} {entries : List (κ × ν)}
    (h : Ascending (entries.map (·.1))) : Ascending ((insertEntry k v entries).map (·.1)) := by
  induction entries with
  | nil => exact List.pairwise_singleton _ _
  | cons e rest ih =>
    have before : ∀ a ∈ rest.map (·.1), compare e.1 a = .lt := (List.pairwise_cons.mp h).1
    have tail : Ascending (rest.map (·.1)) := (List.pairwise_cons.mp h).2
    unfold insertEntry
    split
    next c =>
      refine List.pairwise_cons.mpr ⟨fun a m => ?_, h⟩
      rcases List.mem_cons.mp m with rfl | m
      · exact c
      · exact Std.TransCmp.lt_trans c (before a m)
    next c =>
      have e' : k = e.1 := Std.LawfulEqCmp.eq_of_compare c
      exact List.pairwise_cons.mpr ⟨fun a m => e' ▸ before a m, tail⟩
    next c =>
      refine List.pairwise_cons.mpr ⟨fun a m => ?_, ih tail⟩
      rcases mem_keys_insertEntry m with rfl | m
      · exact Std.OrientedCmp.lt_of_gt c
      · exact before a m

def insert (t : Table κ ν) (k : κ) (v : ν) : Table κ ν :=
  ⟨insertEntry k v t.entries, ascending_insertEntry t.ascending⟩

end Build

end Table

end Speedup.Ordered
