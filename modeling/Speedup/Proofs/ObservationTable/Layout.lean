import Speedup.Proofs.ObservationTable.Acceptance

/-!
# The layout of columns

A table whose records are as long as its header can be seen column by column (`exists_tableOf`).
Which cell an observation takes is then a question of names only: of the known columns, what stands
below the columns that stand for them. These cells are kept, each as often as it is there, when
columns are put in another order, unknown ones are added or names are spelled in another way
(`Relaid.standing_perm`). An accepted table has at most one column for each name, so all that is
read from it is the same afterwards (`reading_of_relaid`).
-/

namespace Speedup.ObservationTable

open Text

/-! ## Tables in columns -/

/-- A name in the header and, by the number of the record, the cells below it. -/
structure Column where
  name : String
  cell : Nat → String

/-- The header and the records of a table that is given by its columns. -/
def tableOf (n : Nat) (xs : List Column) : List (List String) :=
  xs.map (·.name) :: (List.range n).map fun k => xs.map (·.cell k)

/-- The known column that a name stands for. Names with the same normalized form stand for the same
one. -/
def known? (name : String) : Option String :=
  if columnName name ∈ knownColumns then some (columnName name) else none

/-- Columns in another order, with further ones that no known column has the name of, and with names
spelled in another way. -/
inductive Relaid : List Column → List Column → Prop where
  | perm {xs ys : List Column} : xs.Perm ys → Relaid xs ys
  | insert (xs ys : List Column) (new : Column) :
      known? new.name = none → Relaid (xs ++ ys) (xs ++ new :: ys)
  | rename (xs ys : List Column) (old : Column) (name : String) :
      known? name = known? old.name → Relaid (xs ++ old :: ys) (xs ++ ⟨name, old.cell⟩ :: ys)
  | trans {xs ys zs : List Column} : Relaid xs ys → Relaid ys zs → Relaid xs zs

section Columns

variable {xs ys : List Column} {c : String} {n : Nat}

theorem known?_eq_some_iff {name : String} (known : c ∈ knownColumns) :
    known? name = some c ↔ columnName name = c := by
  unfold known?
  constructor
  · intro h
    split at h
    · exact Option.some.inj h
    · cases h
  · rintro rfl
    rw [if_pos known]

/-- Every table whose records are as long as its header is a table of columns. -/
theorem exists_tableOf {header : List String} {rows : List (List String)}
    (rectangular : ∀ cells ∈ rows, cells.length = header.length) :
    ∃ xs, header :: rows = tableOf rows.length xs := by
  refine ⟨header.zipIdx.map fun x => ⟨x.1, fun k => (rows.getD k []).getD x.2 ""⟩, ?_⟩
  rw [tableOf, List.map_map, List.cons.injEq]
  constructor
  · exact (List.zipIdx_map_fst 0 header).symm
  · apply List.ext_getElem
    · simp
    · intro k hk _
      have length := rectangular rows[k] (List.getElem_mem hk)
      apply List.ext_getElem
      · simp [length]
      · intro i hi _
        simp [hk, hi]

def standing (c : String) (xs : List Column) : List (Nat → String) :=
  (xs.filter (columnName ·.name == c)).map (·.cell)

theorem standing_append (c : String) (xs ys : List Column) :
    standing c (xs ++ ys) = standing c xs ++ standing c ys := by
  simp [standing]

theorem standing_cons (c : String) (x : Column) (xs : List Column) :
    standing c (x :: xs) = (if columnName x.name = c then [x.cell] else []) ++ standing c xs := by
  by_cases h : columnName x.name = c <;> simp [standing, h]

theorem Relaid.standing_perm (h : Relaid xs ys) (known : c ∈ knownColumns) :
    (standing c xs).Perm (standing c ys) := by
  induction h with
  | perm h => exact (h.filter _).map _
  | insert xs ys new unknown =>
      have other : columnName new.name ≠ c := by
        rw [ne_eq, ← known?_eq_some_iff known, unknown]
        exact nofun
      rw [standing_append, standing_append, standing_cons, if_neg other, List.nil_append]
  | rename xs ys old name same =>
      have spelled : columnName name = c ↔ columnName old.name = c := by
        rw [← known?_eq_some_iff known, ← known?_eq_some_iff known, same]
      simp only [standing_append, standing_cons, spelled]
      exact List.Perm.refl _
  | trans _ _ first later => exact first.trans later

/-! ## What is read of them -/

theorem columnsOf_tableOf (n : Nat) (xs : List Column) :
    columnsOf (tableOf n xs) = xs.map (columnName ·.name) := by
  rw [tableOf, columnsOf, List.headD_cons, List.map_map]
  exact List.map_congr_left fun x _ => Function.comp_apply

theorem count_columnName (c : String) (xs : List Column) :
    (xs.map (columnName ·.name)).count c = (standing c xs).length := by
  rw [standing, List.length_map, ← List.countP_eq_length_filter, List.count, List.countP_map]
  rfl

theorem mem_columnName_iff : c ∈ xs.map (columnName ·.name) ↔ standing c xs ≠ [] := by
  rw [← List.count_pos_iff, count_columnName, List.length_pos_iff]

theorem cell_columns (c : String) (xs : List Column) (k : Nat) :
    cell (xs.map (columnName ·.name)) (xs.map (·.cell k)) c =
      ((standing c xs).head?.map (· k)).getD "" := by
  unfold cell standing
  rw [List.zip_map', List.find?_map, Option.map_map, List.head?_map, List.head?_filter,
    Option.map_map]
  simp only [Function.comp_def]

/-- An observation has no more of a record than the cells of the known columns. -/
theorem observation_congr {columns cells columns' cells' : List String}
    (same : ∀ c ∈ knownColumns, cell columns cells c = cell columns' cells' c) :
    observation columns cells = observation columns' cells' := by
  unfold observation
  simp only [knownColumns, requiredColumns, optionalColumns, List.cons_append, List.nil_append,
    List.forall_mem_cons] at same
  simp only [same]

theorem eq_of_perm_of_length_le_one {α : Type} {as bs : List α} (h : as.Perm bs)
    (short : as.length ≤ 1) : as = bs := by
  match as with
  | [] => exact (List.nil_perm.mp h).symm
  | [a] => exact (List.perm_singleton.mp h.symm).symm

theorem Relaid.acceptable (h : Relaid xs ys)
    (accepted : Acceptable (columnsOf (tableOf n xs)) (tableOf n xs).tail) :
    Acceptable (columnsOf (tableOf n ys)) (tableOf n ys).tail := by
  obtain ⟨required, _, unrepeated⟩ := accepted
  rw [columnsOf_tableOf] at required unrepeated
  rw [columnsOf_tableOf]
  refine ⟨?_, ?_, ?_⟩
  · intro c hc
    have kept := h.standing_perm (List.mem_append_left _ hc)
    rw [mem_columnName_iff]
    intro gone
    rw [gone, List.perm_nil] at kept
    exact mem_columnName_iff.mp (required c hc) kept
  · simp [tableOf]
  · intro some c hc
    have once := unrepeated (by simpa [tableOf] using some) c hc
    rwa [count_columnName, ← (h.standing_perm hc).length_eq, ← count_columnName]

theorem Relaid.rowOf_eq (h : Relaid xs ys) (unrepeated : Unrepeated (xs.map (columnName ·.name)))
    (k : Nat) :
    rowOf (xs.map (columnName ·.name)) (xs.map (·.cell k)) =
      rowOf (ys.map (columnName ·.name)) (ys.map (·.cell k)) := by
  apply observation_congr
  intro c hc
  have once := unrepeated c hc
  rw [count_columnName] at once
  have same := eq_of_perm_of_length_le_one (h.standing_perm hc) once
  rw [cell_map_trim, cell_map_trim, cell_columns, cell_columns, same]

theorem Relaid.map_rowOf_eq (h : Relaid xs ys)
    (accepted : Acceptable (columnsOf (tableOf n xs)) (tableOf n xs).tail) :
    (tableOf n xs).tail.map (rowOf (columnsOf (tableOf n xs))) =
      (tableOf n ys).tail.map (rowOf (columnsOf (tableOf n ys))) := by
  have unrepeated := accepted.unrepeated
  rw [columnsOf_tableOf] at unrepeated
  rw [columnsOf_tableOf, columnsOf_tableOf, tableOf, tableOf, List.tail_cons, List.tail_cons,
    List.map_map, List.map_map]
  refine List.map_congr_left fun k hk => ?_
  exact h.rowOf_eq (unrepeated (by simpa [tableOf] using List.ne_nil_of_mem hk)) k

end Columns

/-! ## The whole table -/

/-- What is read from octets, and what is logged of it. -/
def reading (octets : List UInt8) : Except LoadError (List Observation × List Log.Entry) :=
  (ofOctets octets).map fun os => (os, readLog os)

/-- Another layout of the columns of an accepted table, which every such table has, leaves all that
is read and logged as it is. -/
theorem reading_of_relaid {octets : List UInt8} {table : List (List String)}
    (holds : Csv.Holds octets table) (accepted : ∃ os, ofOctets octets = .ok os) :
    (∃ n xs, table = tableOf n xs) ∧
      ∀ n xs ys octets', table = tableOf n xs → Relaid xs ys → Csv.Holds octets' (tableOf n ys) →
        reading octets' = reading octets := by
  obtain ⟨os, read⟩ := accepted
  obtain ⟨acceptable, rfl⟩ := (ofOctets_eq_ok_iff holds).mp read
  constructor
  · cases table with
    | nil => exact absurd (acceptable.required "bench" (by decide)) List.not_mem_nil
    | cons header rows =>
        refine ⟨rows.length, exists_tableOf fun cells hc => ?_⟩
        rw [acceptable.rectangular cells hc, columnsOf, List.headD_cons, List.length_map]
  · rintro n xs ys octets' rfl relaid holds'
    have read' := (ofOctets_eq_ok_iff holds').mpr ⟨relaid.acceptable acceptable, rfl⟩
    rw [reading, reading, read, read', relaid.map_rowOf_eq acceptable]

/-- The last column is put first, spelled in another way, and an unknown one added behind it. -/
theorem reading_of_value_first :
    let others : List Column := [⟨"bench", fun _ => "a"⟩, ⟨"exe", fun _ => "b"⟩,
      ⟨"suite", fun _ => "s"⟩, ⟨"criterion", fun _ => "c"⟩, ⟨"unit", fun _ => "u"⟩,
      ⟨"envid", fun _ => "1"⟩]
    let value : Column := ⟨"value", fun _ => "2.5"⟩
    let size : Column := ⟨"Input Size", fun _ => "9"⟩
    let octets := Utf8.encode "bench,exe,suite,criterion,unit,envid,value\na,b,s,c,u,1,2.5\n"
    let octets' := Utf8.encode
      " Value ,Input Size,bench,exe,suite,criterion,unit,envid\n2.5,9,a,b,s,c,u,1\n"
    Csv.Holds octets (tableOf 1 (others ++ [value])) ∧ (∃ os, ofOctets octets = .ok os) ∧
      Relaid (others ++ [value]) (⟨" Value ", value.cell⟩ :: size :: others) ∧
      Csv.Holds octets' (tableOf 1 (⟨" Value ", value.cell⟩ :: size :: others)) ∧
      reading octets' = reading octets := by
  intro others value size octets octets'
  have holds : Csv.Holds octets (tableOf 1 (others ++ [value])) := by decide +kernel
  have holds' : Csv.Holds octets' (tableOf 1 (⟨" Value ", value.cell⟩ :: size :: others)) := by
    decide +kernel
  have accepted : ∃ os, ofOctets octets = .ok os := by
    refine ⟨_, (ofOctets_eq_ok_iff holds).mpr ⟨⟨?_, ?_, fun _ => ?_⟩, rfl⟩⟩
    · decide +kernel
    · decide +kernel
    · unfold Unrepeated
      decide +kernel
  have relaid : Relaid (others ++ [value]) (⟨" Value ", value.cell⟩ :: size :: others) := by
    refine .trans (.perm List.perm_append_comm) (.trans (.rename [] others value " Value " ?_)
      (.insert [_] others size ?_))
    · decide +kernel
    · decide +kernel
  exact ⟨holds, accepted, relaid, holds',
    (reading_of_relaid holds accepted).2 1 _ _ octets' rfl relaid holds'⟩

end Speedup.ObservationTable
