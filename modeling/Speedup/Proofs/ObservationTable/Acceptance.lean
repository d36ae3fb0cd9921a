import Mathlib.Data.List.Forall2
import Speedup.ObservationTable.Reader
import Speedup.Proofs.Csv.Records

/-!
# Which tables are read, and as what

A table of text is refused in two ways only. Its header may lack a required column, of which the
first one is told before any record is looked at; or a record may have too many or too few cells, or
there is a record at all and a known column occurs twice. Every other table is read record by record
(`ofOctets_eq_ok_iff`): an observation has the trimmed cells below the names of its columns, and
what is no number in a cell leaves the value of this observation missing and nothing else
(`loads_ofOctets`).
-/

namespace Speedup.ObservationTable

open Text

/-! ## Columns -/

section Columns

variable {columns : List String}

theorem missingColumn_eq_none_iff :
    missingColumn columns = none ↔ ∀ c ∈ requiredColumns, c ∈ columns := by
  simp [missingColumn, List.find?_eq_none]

/-- A required column is missing, and all before it are there. -/
def FirstMissing (columns : List String) (c : String) : Prop :=
  ∃ before after, requiredColumns = before ++ c :: after ∧ (∀ b ∈ before, b ∈ columns) ∧ c ∉ columns

theorem missingColumn_eq_some_iff {c : String} :
    missingColumn columns = some c ↔ FirstMissing columns c := by
  rw [missingColumn, List.find?_eq_some_iff_append]
  constructor
  · rintro ⟨missing, before, after, parts, there⟩
    exact ⟨before, after, parts, by simpa using there, by simpa using missing⟩
  · rintro ⟨before, after, parts, there, missing⟩
    exact ⟨by simpa using missing, before, after, parts, by simpa using there⟩

/-- No known column occurs twice. -/
def Unrepeated (columns : List String) : Prop := ∀ c ∈ knownColumns, columns.count c ≤ 1

theorem repeatedColumn_eq_none_iff {seen : List String} :
    repeatedColumn seen columns = none ↔
      ∀ c ∈ knownColumns, (c ∈ seen → c ∉ columns) ∧ columns.count c ≤ 1 := by
  induction columns generalizing seen with
  | nil => simp [repeatedColumn]
  | cons name rest ih =>
      unfold repeatedColumn
      split
      next again =>
        simp only [Bool.and_eq_true, List.contains_iff_mem] at again
        simp only [reduceCtorEq, false_iff]
        intro h
        exact (h name again.1).1 again.2 List.mem_cons_self
      next first =>
        rw [ih]
        simp only [Bool.and_eq_true, List.contains_iff_mem, not_and] at first
        refine forall₂_congr fun c hc => ?_
        by_cases same : c = name
        · subst same
          have new : c ∉ seen := first hc
          rw [List.count_cons_self, ← List.count_eq_zero]
          simp only [List.mem_cons_self, forall_const, new, false_implies, true_and]
          omega
        · simp [same, Ne.symm same]

theorem repeatedColumn_nil_eq_none_iff :
    repeatedColumn [] columns = none ↔ Unrepeated columns := by
  simp [repeatedColumn_eq_none_iff, Unrepeated]

end Columns

/-! ## Records -/

section Records

variable {α β γ ε : Type} {f : α → Except ε β} {P : γ → Prop} {g : γ → β}

/-- Results one after the other, where it is known of each when there is one and which. -/
theorem mapM_eq_ok_iff {xs : List α} {zs : List γ} {ys : List β}
    (each : List.Forall₂ (fun x z => ∀ y, f x = .ok y ↔ P z ∧ y = g z) xs zs) :
    xs.mapM f = .ok ys ↔ (∀ z ∈ zs, P z) ∧ ys = zs.map g := by
  induction each generalizing ys with
  | nil => simp [pure, Except.pure, eq_comm]
  | @cons x z xs zs first _ ih =>
      rw [List.mapM_cons, List.forall_mem_cons, List.map_cons]
      cases head : f x with
      | error e =>
          have never : ¬ P z := fun h => by simpa [head] using (first (g z)).mpr ⟨h, rfl⟩
          simp [bind, Except.bind, never]
      | ok y =>
          obtain ⟨holds, rfl⟩ := (first y).mp head
          cases tail : xs.mapM f with
          | error e =>
              have never : ¬ ∀ z ∈ zs, P z := fun h => by simpa [tail] using ih.mpr ⟨h, rfl⟩
              simp [bind, Except.bind, never]
          | ok ys' =>
              obtain ⟨all, rfl⟩ := ih.mp tail
              rw [and_iff_right (And.intro holds all)]
              simp [bind, Except.bind, pure, Except.pure, eq_comm]

end Records

/-! ## Cells -/

section Cells

variable {columns cells : List String} {name c : String}

theorem exists_mem_zip (rectangular : cells.length = columns.length) (there : name ∈ columns) :
    ∃ c, (name, c) ∈ columns.zip cells := by
  obtain ⟨i, hi, rfl⟩ := List.getElem_of_mem there
  refine ⟨cells[i], List.mem_iff_getElem.mpr ⟨i, ?_, ?_⟩⟩
  · rw [List.length_zip, rectangular, min_self]
    exact hi
  · rw [List.getElem_zip]

theorem cell_eq_of_mem_zip (once : columns.count name ≤ 1) (h : (name, c) ∈ columns.zip cells) :
    cell columns cells name = c := by
  induction columns generalizing cells with
  | nil => cases h
  | cons first columns ih =>
      cases cells with
      | nil => cases h
      | cons head cells =>
          rw [List.zip_cons_cons, List.mem_cons] at h
          by_cases same : first = name
          · subst same
            have away : first ∉ columns := by
              rw [← List.count_eq_zero]
              rw [List.count_cons_self] at once
              omega
            rcases h with h | later
            · cases h
              simp [cell]
            · exact absurd (List.of_mem_zip later).1 away
          · rcases h with h | later
            · cases h
              exact absurd rfl same
            · have rest := ih (by simpa [same] using once) later
              simpa [cell, same] using rest

theorem cell_eq_empty (absent : name ∉ columns) : cell columns cells name = "" := by
  have none : (columns.zip cells).find? (·.1 == name) = none := by
    rw [List.find?_eq_none]
    rintro ⟨other, c⟩ h same
    exact absent (beq_iff_eq.mp same ▸ (List.of_mem_zip h).1)
  rw [cell, none]
  rfl

theorem cell_map_trim (columns cells : List String) (name : String) :
    cell columns (cells.map trim) name = trim (cell columns cells name) := by
  unfold cell
  rw [List.zip_map_right, List.find?_map, Option.map_map]
  show (((columns.zip cells).find? (·.1 == name)).map _).getD "" = _
  cases (columns.zip cells).find? (·.1 == name) with
  | none => exact (by decide +kernel : "" = trim "")
  | some _ => rfl

end Cells

/-- The columns of a table whose first record is its header. -/
def columnsOf (table : List (List String)) : List String := (table.headD []).map columnName

/-- The observation of a record as it stands in the table. -/
def rowOf (columns cells : List String) : Observation := observation columns (cells.map trim)

/-- What is asked of a table of text. -/
structure Acceptable (columns : List String) (rows : List (List String)) : Prop where
  required : ∀ c ∈ requiredColumns, c ∈ columns
  rectangular : ∀ cells ∈ rows, cells.length = columns.length
  unrepeated : rows ≠ [] → Unrepeated columns

section Tables

variable {octets : List UInt8} {table : List (List String)} {columns : List String}

theorem ofRecord_eq_ok_iff {r : Csv.Record (List UInt8)} {cells : List String}
    (h : r.fields.map Utf8.decode? = cells.map .ok) (o : Observation) :
    ofRecord (fun position fields => Csv.textFields position 0 (fields.map Csv.trimOctets))
        columns r = .ok o ↔
      (cells.length = columns.length ∧ Unrepeated columns) ∧ o = rowOf columns cells := by
  have length : r.fields.length = cells.length := by simpa using congrArg List.length h
  obtain ⟨trimmed, read, same⟩ := Csv.exists_textFields_trimOctets r.position h
  rw [ofRecord, length, ← repeatedColumn_nil_eq_none_iff, rowOf, ← same]
  by_cases rectangular : cells.length = columns.length
  · rw [if_neg (not_not.mpr rectangular), read]
    cases repeatedColumn [] columns <;> simp [rectangular, eq_comm]
  · rw [if_pos rectangular]
    simp [rectangular]

theorem forall₂_of_holds (holds : Csv.Holds octets table) :
    List.Forall₂ (fun r cells => r.fields.map Utf8.decode? = cells.map .ok)
      (Csv.records octets) table := by
  rw [Csv.Holds, ← List.forall₂_eq_eq_eq, List.forall₂_map_left_iff,
    List.forall₂_map_right_iff] at holds
  exact holds

/-- The header of a table of text is text, also where there is none. -/
theorem ofOctets_eq (holds : Csv.Holds octets table) :
    ofOctets octets =
      ofRecords (fun position fields => Csv.textFields position 0 (fields.map Csv.trimOctets))
        (table.headD []) (Csv.records octets).tail := by
  have header : ∀ position, Csv.textFields position 0
      ((Csv.records octets).headD ⟨⟨0, 1, 0⟩, []⟩).fields = .ok (table.headD []) := by
    intro position
    rw [Csv.textFields_eq_ok_iff]
    have each := forall₂_of_holds holds
    generalize Csv.records octets = records at each ⊢
    cases each with
    | nil => rfl
    | cons first _ => exact first
  unfold ofOctets
  dsimp only
  rw [header]

theorem mapM_ofRecord_eq_ok_iff {os : List Observation} (holds : Csv.Holds octets table) :
    (Csv.records octets).tail.mapM (ofRecord (fun position fields =>
        Csv.textFields position 0 (fields.map Csv.trimOctets)) columns) = .ok os ↔
      (∀ cells ∈ table.tail, cells.length = columns.length ∧ Unrepeated columns) ∧
        os = table.tail.map (rowOf columns) := by
  refine mapM_eq_ok_iff (List.Forall₂.imp (fun r cells h => ofRecord_eq_ok_iff h) ?_)
  have each := forall₂_of_holds holds
  generalize Csv.records octets = records at each ⊢
  cases each with
  | nil => exact .nil
  | cons _ rest => exact rest

theorem acceptable_iff {rows : List (List String)} :
    Acceptable columns rows ↔ (∀ c ∈ requiredColumns, c ∈ columns) ∧
      ∀ cells ∈ rows, cells.length = columns.length ∧ Unrepeated columns := by
  constructor
  · intro h
    exact ⟨h.required, fun cells hc =>
      ⟨h.rectangular cells hc, h.unrepeated (List.ne_nil_of_mem hc)⟩⟩
  · rintro ⟨required, each⟩
    refine ⟨required, fun cells hc => (each cells hc).1, fun some => ?_⟩
    obtain ⟨cells, hc⟩ := List.exists_mem_of_ne_nil rows some
    exact (each cells hc).2

/-- With all required columns there, only a record can be what is wrong with a table. -/
theorem not_acceptable_iff {rows : List (List String)}
    (required : ∀ c ∈ requiredColumns, c ∈ columns) :
    ¬ Acceptable columns rows ↔ (∃ cells ∈ rows, cells.length ≠ columns.length) ∨
      rows ≠ [] ∧ ∃ c ∈ knownColumns, 2 ≤ columns.count c := by
  have parts : Acceptable columns rows ↔
      (∀ cells ∈ rows, cells.length = columns.length) ∧ (rows ≠ [] → Unrepeated columns) :=
    ⟨fun h => ⟨h.rectangular, h.unrepeated⟩, fun h => ⟨required, h.1, h.2⟩⟩
  rw [parts, not_and_or, Unrepeated]
  push Not
  rfl

/-- A table is read exactly if it is acceptable, and record by record. -/
theorem ofOctets_eq_ok_iff {os : List Observation} (holds : Csv.Holds octets table) :
    ofOctets octets = .ok os ↔
      Acceptable (columnsOf table) table.tail ∧ os = table.tail.map (rowOf (columnsOf table)) := by
  rw [ofOctets_eq holds, acceptable_iff, and_assoc, ← missingColumn_eq_none_iff,
    ← mapM_ofRecord_eq_ok_iff holds, columnsOf, ofRecords]
  generalize table.headD [] = header
  split
  next missing => simp [missing]
  next there =>
    rw [and_iff_right there]
    split
    next failed => simp [failed]
    next read => simp [read]

/-- The first required column that is missing is told, whatever the records are. -/
theorem ofOctets_eq_missingColumn_iff {c : String} (holds : Csv.Holds octets table) :
    ofOctets octets = .error (.missingColumn c) ↔ FirstMissing (columnsOf table) c := by
  rw [ofOctets_eq holds, ← missingColumn_eq_some_iff, columnsOf, ofRecords]
  generalize table.headD [] = header
  split
  next missing => simp [missing]
  next there => split <;> simp [there]

theorem ofOctets_ne_open (octets : List UInt8) (path reason : String) :
    ofOctets octets ≠ .error (.open path reason) := by
  unfold ofOctets ofRecords
  dsimp only
  split
  · simp
  · split
    · simp
    · split <;> simp

theorem exists_malformed_iff (holds : Csv.Holds octets table) :
    (∃ problem, ofOctets octets = .error (.malformed problem)) ↔
      (∀ c ∈ requiredColumns, c ∈ columnsOf table) ∧ ¬ Acceptable (columnsOf table) table.tail := by
  constructor
  · rintro ⟨problem, h⟩
    constructor
    · rw [← missingColumn_eq_none_iff, Option.eq_none_iff_forall_ne_some]
      intro c missing
      rw [missingColumn_eq_some_iff, ← ofOctets_eq_missingColumn_iff holds, h] at missing
      cases missing
    · intro acceptable
      have ok := (ofOctets_eq_ok_iff holds).mpr ⟨acceptable, rfl⟩
      rw [h] at ok
      cases ok
  · rintro ⟨required, wrong⟩
    cases result : ofOctets octets with
    | ok os => exact absurd ((ofOctets_eq_ok_iff holds).mp result).1 wrong
    | error e =>
        cases e with
        | «open» path reason => exact absurd result (ofOctets_ne_open octets path reason)
        | missingColumn c =>
            obtain ⟨_, _, parts, _, missing⟩ := (ofOctets_eq_missingColumn_iff holds).mp result
            exact absurd (required c (by rw [parts]; simp)) missing
        | malformed problem => exact ⟨problem, rfl⟩

end Tables

/-! ## What is read -/

/-- The columns of text, with what is read from them. -/
def textColumns : List (String × (Observation → String)) :=
  [("bench", (·.bench)), ("exe", (·.exe)), ("suite", (·.suite)), ("criterion", (·.criterion)),
    ("unit", (·.unit)), ("envid", (·.envid))]

/-- The columns of whole numbers, with what is read from them. -/
def integerColumns : List (String × (Observation → Option Int)) :=
  [("inputsize", (·.inputsize)), ("invocation", (·.invocation)), ("iteration", (·.iteration))]

/-- A text is a number, and no NaN. -/
def IsNumber (s : String) (x : Double) : Prop := Decimal.parse? s = some x ∧ x.isNaN = false

/-- A text is a whole number of 64 bits, or else a number without a fraction, which is held within
64 bits. -/
def IsInteger (s : String) (n : Int) : Prop :=
  int64? s.toList = some n ∨
    int64? s.toList = none ∧ ∃ x, Decimal.parse? s = some x ∧ x.isFinite = true ∧
      x.fract.isZero = true ∧ x.toInt64Clamped = n

/-- An observation has what stands below the names of its columns, and has no number where there is
no such column or no number in its cell. -/
structure Shows (columns cells : List String) (o : Observation) : Prop where
  texts : ∀ column ∈ textColumns, ∃ c, (column.1, c) ∈ columns.zip cells ∧ column.2 o = trim c
  value : ∀ x, o.value = some x ↔ ∃ c, ("value", c) ∈ columns.zip cells ∧ IsNumber (trim c) x
  integers : ∀ column ∈ integerColumns, ∀ n,
    column.2 o = some n ↔ ∃ c, (column.1, c) ∈ columns.zip cells ∧ IsInteger (trim c) n

/-- The warning that so many values are missing. -/
def coercionWarning (missing : Nat) : Log.Entry :=
  ⟨.warn, .loader, Nat.repr missing ++
    " value(s) could not be parsed as numbers and are treated as missing"⟩

/-- A log warns of missing values, if there are any. -/
def Warns (missing : Nat) (log : List Log.Entry) : Prop :=
  missing = 0 ∧ log = [] ∨ 0 < missing ∧ log = [coercionWarning missing]

/-- What comes of a table with these columns and records. -/
structure Loads (columns : List String) (rows : List (List String))
    (result : Except LoadError (List Observation)) : Prop where
  missing : ∀ c, result = .error (.missingColumn c) ↔ FirstMissing columns c
  malformed : (∃ problem, result = .error (.malformed problem)) ↔
    (∀ c ∈ requiredColumns, c ∈ columns) ∧
      ((∃ cells ∈ rows, cells.length ≠ columns.length) ∨
        rows ≠ [] ∧ ∃ c ∈ knownColumns, 2 ≤ columns.count c)
  accepted : (∃ os, result = .ok os) ↔ Acceptable columns rows
  observations : ∀ os, result = .ok os → List.Forall₂ (Shows columns) rows os
  numbers : ∀ os, result = .ok os → ∀ o ∈ os, ∀ x, o.value = some x → x.isNaN = false
  warning : ∀ os, result = .ok os → Warns (os.countP (·.value.isNone)) (readLog os)

section Reading

variable {columns cells : List String} {s : String}

theorem value?_eq_some_iff {x : Double} : value? s = some x ↔ IsNumber s x := by
  simp [value?, IsNumber, Option.filter_eq_some_iff]

theorem integer?_eq_some_iff {n : Int} : integer? s = some n ↔ IsInteger s n := by
  rw [integer?, IsInteger]
  cases int64? s.toList with
  | some m => simp
  | none => simp [Option.filter_eq_some_iff, and_assoc]

/-- What is read below a column, or from an empty cell where there is no such column. -/
theorem read_cell_eq_some_iff {α : Type} {read? : String → Option α} {a : α} {name : String}
    (empty : read? "" = none) (rectangular : cells.length = columns.length)
    (once : columns.count name ≤ 1) :
    read? (cell columns (cells.map trim) name) = some a ↔
      ∃ c, (name, c) ∈ columns.zip cells ∧ read? (trim c) = some a := by
  rw [cell_map_trim]
  by_cases there : name ∈ columns
  · obtain ⟨c, hc⟩ := exists_mem_zip rectangular there
    rw [cell_eq_of_mem_zip once hc]
    constructor
    · exact fun h => ⟨c, hc, h⟩
    · rintro ⟨c', hc', h⟩
      rwa [← cell_eq_of_mem_zip once hc, cell_eq_of_mem_zip once hc']
  · rw [cell_eq_empty there, show trim "" = "" by decide +kernel, empty]
    constructor
    · exact nofun
    · rintro ⟨c, hc, _⟩
      exact absurd (List.of_mem_zip hc).1 there

theorem shows_rowOf (required : ∀ c ∈ requiredColumns, c ∈ columns)
    (rectangular : cells.length = columns.length) (unrepeated : Unrepeated columns) :
    Shows columns cells (rowOf columns cells) := by
  have once (name : String) (known : name ∈ knownColumns) := unrepeated name known
  refine ⟨?_, ?_, ?_⟩
  · have below (name : String) (h : name ∈ requiredColumns) :
        ∃ c, (name, c) ∈ columns.zip cells ∧ cell columns (cells.map trim) name = trim c := by
      obtain ⟨c, hc⟩ := exists_mem_zip rectangular (required name h)
      refine ⟨c, hc, ?_⟩
      rw [cell_map_trim, cell_eq_of_mem_zip (once name (List.mem_append_left _ h)) hc]
    simp only [textColumns, List.forall_mem_cons, List.not_mem_nil, false_implies, implies_true,
      and_true]
    exact ⟨below _ (by decide), below _ (by decide), below _ (by decide), below _ (by decide),
      below _ (by decide), below _ (by decide)⟩
  · have empty : value? "" = none := by decide +kernel
    intro x
    simp only [← value?_eq_some_iff]
    exact read_cell_eq_some_iff empty rectangular (once "value" (by decide))
  · have below (name : String) (h : name ∈ knownColumns) (n : Int) :
        integer? (cell columns (cells.map trim) name) = some n ↔
          ∃ c, (name, c) ∈ columns.zip cells ∧ integer? (trim c) = some n :=
      read_cell_eq_some_iff (by decide +kernel) rectangular (once name h)
    simp only [← integer?_eq_some_iff, integerColumns, List.forall_mem_cons, List.not_mem_nil,
      false_implies, implies_true, and_true]
    exact ⟨below _ (by decide), below _ (by decide), below _ (by decide)⟩

theorem warns_readLog (os : List Observation) :
    Warns (os.countP (·.value.isNone)) (readLog os) := by
  rw [readLog, missingValues, ← List.countP_eq_length_filter, Warns]
  split
  next none => exact .inl ⟨none, rfl⟩
  next some => exact .inr ⟨Nat.pos_of_ne_zero some, rfl⟩

end Reading

/-- Every table of text is refused for its header, refused for a record, or read record by
record. -/
theorem loads_ofOctets {octets : List UInt8} {table : List (List String)}
    (holds : Csv.Holds octets table) : Loads (columnsOf table) table.tail (ofOctets octets) := by
  refine ⟨fun c => ofOctets_eq_missingColumn_iff holds, ?_, ?_, ?_, ?_, ?_⟩
  · rw [exists_malformed_iff holds]
    exact and_congr_right not_acceptable_iff
  · simp [ofOctets_eq_ok_iff holds]
  · intro os h
    obtain ⟨acceptable, rfl⟩ := (ofOctets_eq_ok_iff holds).mp h
    rw [List.forall₂_map_right_iff, List.forall₂_same]
    intro cells hc
    exact shows_rowOf acceptable.required (acceptable.rectangular cells hc)
      (acceptable.unrepeated (List.ne_nil_of_mem hc))
  · intro os h o ho x hx
    obtain ⟨_, rfl⟩ := (ofOctets_eq_ok_iff holds).mp h
    obtain ⟨cells, _, rfl⟩ := List.mem_map.mp ho
    exact (value?_eq_some_iff.mp hx).2
  · intro os _
    exact warns_readLog os

/-- A header with two unknown columns of one name, and two records, the first one without a number
for its value. -/
def twoRecords : String :=
  "Bench,exe,Suite,criterion,unit,EnvID, VALUE ,Input Size,input size\n" ++
    "a, b ,s,\"c,d\",u,1,oops,3,4\n" ++ "a,b,s,c,u,1,2.5,,\n"

theorem loads_twoRecords :
    let table :=
      [["Bench", "exe", "Suite", "criterion", "unit", "EnvID", " VALUE ", "Input Size",
          "input size"],
        ["a", " b ", "s", "c,d", "u", "1", "oops", "3", "4"],
        ["a", "b", "s", "c", "u", "1", "2.5", "", ""]]
    Csv.Holds (Utf8.encode twoRecords) table ∧
      Loads (columnsOf table) table.tail (ofOctets (Utf8.encode twoRecords)) := by
  intro table
  have holds : Csv.Holds (Utf8.encode twoRecords) table := by decide +kernel
  exact ⟨holds, loads_ofOctets holds⟩

end Speedup.ObservationTable
