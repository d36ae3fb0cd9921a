import Mathlib.Data.List.Forall2
import Speedup.Text.Align

/-!
# Columns of aligned tables

Every row of a table takes part in its column widths. Where all rows have the same number of cells,
there is exactly one width for each of them (`length_columnWidths`), so that no cell is cut off when
a row is written as a line, and a width is at least the length of each cell of its column
(`fits_columnWidths`). So a line consists of pieces whose lengths are those of the columns, and
where the columns end it can be cut into these pieces again (`aligned_tableLines`).
-/

namespace Speedup.Text

theorem length_columns (row : List String) (widths : List Nat) :
    (columnWidths.columns row widths).length = max row.length widths.length := by
  fun_induction columnWidths.columns row widths with
  | case1 widths => simp
  | case2 cells => simp
  | case3 cell cells w widths ih => simp [ih]

/-- Rows of one length have as many columns. -/
theorem length_columnWidths {n : Nat} {first : List String} {rest : List (List String)}
    (h : ∀ row ∈ first :: rest, row.length = n) : (columnWidths (first :: rest)).length = n := by
  induction rest generalizing first with
  | nil =>
      show (columnWidths.columns first []).length = n
      rw [length_columns, h first List.mem_cons_self]
      exact Nat.max_eq_left (Nat.zero_le n)
  | cons second more ih =>
      obtain ⟨one, later⟩ := List.forall_mem_cons.mp h
      show (columnWidths.columns first (columnWidths (second :: more))).length = n
      rw [length_columns, ih later, one, Nat.max_self]

/-! ## Rows that fit -/

/-- There is a width for every cell of a row, and it is not too small. -/
def Fits (row : List String) (widths : List Nat) : Prop :=
  List.Forall₂ (fun cell width => cell.length ≤ width) row widths

variable {row other : List String} {widths : List Nat}

theorem fits_columns_self (h : widths.length ≤ row.length) :
    Fits row (columnWidths.columns row widths) := by
  fun_induction columnWidths.columns row widths with
  | case1 widths =>
      cases List.length_eq_zero_iff.mp (Nat.le_zero.mp h)
      exact .nil
  | case2 cells =>
      exact List.forall₂_map_right_iff.mpr (List.forall₂_same.mpr fun _ _ => Nat.le_refl _)
  | case3 cell cells w widths ih =>
      exact .cons (Nat.le_max_left _ _) (ih (Nat.le_of_succ_le_succ h))

/-- Another row makes no column narrower. -/
theorem Fits.columns (fits : Fits row widths) (h : other.length ≤ widths.length) :
    Fits row (columnWidths.columns other widths) := by
  induction fits generalizing other with
  | nil =>
      cases List.length_eq_zero_iff.mp (Nat.le_zero.mp h)
      exact .nil
  | cons narrow rest ih =>
      cases other with
      | nil => exact .cons narrow rest
      | cons cell cells =>
          exact .cons (Nat.le_trans narrow (Nat.le_max_right _ _)) (ih (Nat.le_of_succ_le_succ h))

theorem fits_columnWidths {n : Nat} {rows : List (List String)}
    (h : ∀ row ∈ rows, row.length = n) : ∀ row ∈ rows, Fits row (columnWidths rows) := by
  induction rows with
  | nil => simp
  | cons first rest ih =>
      obtain ⟨one, later⟩ := List.forall_mem_cons.mp h
      have widths : (columnWidths rest).length ≤ n := by
        cases rest with
        | nil => exact Nat.zero_le n
        | cons second more => exact Nat.le_of_eq (length_columnWidths later)
      refine List.forall_mem_cons.mpr ⟨fits_columns_self (one ▸ widths), fun row hr => ?_⟩
      refine (ih later row hr).columns ?_
      cases rest with
      | nil => cases hr
      | cons second more => exact Nat.le_of_eq (one.trans (length_columnWidths later).symm)

/-! ## Cutting a line -/

/-- The pieces of a line from `start` on that end at the given places. -/
def cut (start : Nat) (line : List Char) : List Nat → List (List Char)
  | [] => []
  | stop :: more => (line.take stop).drop start :: cut stop line more

/-- Where pieces of the given lengths end, the first of which begins at `start`. -/
def endsFrom (start : Nat) : List Nat → List Nat
  | [] => []
  | n :: more => (start + n) :: endsFrom (start + n) more

/-- A line is cut into the pieces it consists of. -/
theorem cut_endsFrom (front : List Char) (pieces : List (List Char)) :
    cut front.length (front ++ pieces.flatten) (endsFrom front.length (pieces.map List.length)) =
      pieces := by
  induction pieces generalizing front with
  | nil => rfl
  | cons piece rest ih =>
      have next := ih (front ++ piece)
      rw [List.length_append, List.append_assoc] at next
      rw [List.flatten_cons, List.map_cons, endsFrom, cut, next, ← List.append_assoc,
        List.take_left' List.length_append, List.drop_left]

theorem getLast?_endsFrom (start : Nat) {pieces : List (List Char)} (some_piece : pieces ≠ []) :
    (endsFrom start (pieces.map List.length)).getLast? = some (start + pieces.flatten.length) := by
  induction pieces generalizing start with
  | nil => exact absurd rfl some_piece
  | cons piece rest ih =>
      cases rest with
      | nil => simp [endsFrom]
      | cons next more =>
          have later := ih (start + piece.length) (List.cons_ne_nil next more)
          rw [List.map_cons, endsFrom] at later
          rw [List.map_cons, List.map_cons, endsFrom, endsFrom, List.getLast?_cons_cons, later,
            Nat.add_assoc, ← List.length_append]
          rfl

theorem lt_of_mem_endsFrom {start e : Nat} {lengths : List Nat} (positive : ∀ n ∈ lengths, 0 < n)
    (h : e ∈ endsFrom start lengths) : start < e := by
  induction lengths generalizing start with
  | nil => cases h
  | cons n more ih =>
      obtain ⟨some_length, later⟩ := List.forall_mem_cons.mp positive
      rcases List.mem_cons.mp h with rfl | further
      · omega
      · have := ih later further
        omega

theorem pairwise_endsFrom {start n : Nat} {lengths : List Nat}
    (positive : ∀ n ∈ lengths, 0 < n) : (endsFrom start (n :: lengths)).Pairwise (· < ·) := by
  induction lengths generalizing start n with
  | nil => exact List.pairwise_singleton _ _
  | cons m more ih =>
      refine List.pairwise_cons.mpr ⟨fun e => lt_of_mem_endsFrom positive, ?_⟩
      exact ih (List.forall_mem_cons.mp positive).2

/-! ## Lines of a table -/

/-- The pieces of the columns of a line. All but the first begin with a space. -/
def linePieces (widths : List Nat) (row : List String) : List (List Char) :=
  match List.zipWith alignRight widths row with
  | [] => []
  | first :: more => first.toList :: more.map fun s => ' ' :: s.toList

/-- The lengths of these pieces. -/
def pieceLengths : List Nat → List Nat
  | [] => []
  | width :: more => width :: more.map (· + 1)

/-- The places where the columns of a table end. -/
def columnEnds (widths : List Nat) : List Nat := endsFrom 0 (pieceLengths widths)

theorem toList_intercalate_space (first : String) (more : List String) :
    (String.intercalate " " (first :: more)).toList =
      first.toList ++ (more.map fun s => ' ' :: s.toList).flatten := by
  induction more generalizing first with
  | nil => simp
  | cons second more ih =>
      rw [String.intercalate_cons_cons, String.toList_append, ih]
      simp

theorem toList_tableLine (widths : List Nat) (row : List String) :
    (tableLine widths row).toList = (linePieces widths row).flatten := by
  unfold tableLine linePieces
  split
  next nothing => rw [nothing]; rfl
  next first more aligned => rw [aligned, toList_intercalate_space, List.flatten_cons]

theorem length_zipWith_alignRight (fits : Fits row widths) :
    (List.zipWith alignRight widths row).map String.length = widths := by
  induction fits with
  | nil => rfl
  | cons narrow rest ih =>
      rw [List.zipWith_cons_cons, List.map_cons, length_alignRight, Nat.max_eq_left narrow, ih]

theorem length_linePieces (fits : Fits row widths) :
    (linePieces widths row).map List.length = pieceLengths widths := by
  have lengths := length_zipWith_alignRight fits
  unfold linePieces
  split
  next nothing =>
    rw [nothing] at lengths
    rw [← lengths]
    rfl
  next first more aligned =>
    rw [aligned] at lengths
    rw [← lengths]
    simp [pieceLengths, String.length_toList]

/-- What it means that a piece of a line holds a cell: the cell stands behind spaces, so that
without them it is found again, unless it begins with a space itself. -/
structure Holds (cell : String) (piece : List Char) : Prop where
  padded : ∃ n, piece = List.replicate n ' ' ++ cell.toList
  text : cell.toList.head? ≠ some ' ' → piece.dropWhile (· = ' ') = cell.toList

theorem holds_of_padded {cell : String} {piece : List Char}
    (h : ∃ n, piece = List.replicate n ' ' ++ cell.toList) : Holds cell piece where
  padded := h
  text := by
    intro start
    obtain ⟨n, rfl⟩ := h
    rw [List.dropWhile_append_of_pos fun c hc => decide_eq_true (List.eq_of_mem_replicate hc)]
    cases chars : cell.toList with
    | nil => rfl
    | cons c rest =>
        rw [chars, List.head?_cons, ne_eq, Option.some_inj] at start
        exact List.dropWhile_cons_of_neg (by simpa using start)

theorem holds_alignRight (width : Nat) (cell : String) :
    Holds cell (alignRight width cell).toList := by
  refine holds_of_padded ⟨width - cell.length, ?_⟩
  rw [alignRight, fill, String.toList_append, String.toList_ofList]

theorem Holds.cons_space {cell : String} {piece : List Char} (h : Holds cell piece) :
    Holds cell (' ' :: piece) := by
  obtain ⟨n, rfl⟩ := h.padded
  exact holds_of_padded ⟨n + 1, rfl⟩

theorem holds_spaced (h : row.length = widths.length) : List.Forall₂ Holds row
    ((List.zipWith alignRight widths row).map fun s => ' ' :: s.toList) := by
  induction row generalizing widths with
  | nil => cases widths <;> exact .nil
  | cons cell cells ih =>
      cases widths with
      | nil => cases h
      | cons w ws => exact .cons (holds_alignRight w cell).cons_space (ih (Nat.succ.inj h))

theorem holds_linePieces (h : row.length = widths.length) :
    List.Forall₂ Holds row (linePieces widths row) := by
  cases row with
  | nil => cases widths <;> exact .nil
  | cons cell cells =>
      cases widths with
      | nil => cases h
      | cons w ws => exact .cons (holds_alignRight w cell) (holds_spaced (Nat.succ.inj h))

/-- What it means that lines show rows in columns with the given ends: there is a line for every
row, it ends with its last column, and cut at the ends it gives the cells. -/
structure Aligned (ends : List Nat) (rows : List (List String)) (lines : List String) : Prop where
  ascending : ends.Pairwise (· < ·)
  line_end : ∀ line ∈ lines, ends.getLast? = some line.length
  cells : List.Forall₂ (fun row line => List.Forall₂ Holds row (cut 0 line.toList ends)) rows lines

theorem aligned_tableLines {rows : List (List String)} (some_column : widths ≠ [])
    (fits : ∀ row ∈ rows, Fits row widths) :
    Aligned (columnEnds widths) rows (rows.map (tableLine widths)) where
  ascending := by
    obtain ⟨width, more, rfl⟩ := List.exists_cons_of_ne_nil some_column
    exact pairwise_endsFrom (List.forall_mem_map.mpr fun _ _ => Nat.succ_pos _)
  line_end := by
    refine List.forall_mem_map.mpr fun row hr => ?_
    have lengths := length_linePieces (fits row hr)
    have some_piece : linePieces widths row ≠ [] := by
      intro none
      obtain ⟨width, more, rfl⟩ := List.exists_cons_of_ne_nil some_column
      rw [none] at lengths
      cases lengths
    rw [columnEnds, ← lengths, getLast?_endsFrom 0 some_piece, Nat.zero_add, ← toList_tableLine,
      String.length_toList]
  cells := by
    refine List.forall₂_map_right_iff.mpr (List.forall₂_same.mpr fun row hr => ?_)
    have pieces := cut_endsFrom [] (linePieces widths row)
    rw [length_linePieces (fits row hr), List.nil_append, ← toList_tableLine] at pieces
    rw [columnEnds]
    exact pieces ▸ holds_linePieces (fits row hr).length_eq

/-- A table of rows with as many cells as the header is aligned. -/
theorem aligned_table {header : List String} {rows : List (List String)}
    (some_column : header ≠ []) (h : ∀ row ∈ rows, row.length = header.length) :
    let widths := columnWidths (header :: rows)
    Aligned (columnEnds widths) (header :: rows) ((header :: rows).map (tableLine widths)) := by
  have lengths : ∀ row ∈ header :: rows, row.length = header.length :=
    List.forall_mem_cons.mpr ⟨rfl, h⟩
  refine aligned_tableLines ?_ (fits_columnWidths lengths)
  rw [← List.length_pos_iff, length_columnWidths lengths]
  exact List.length_pos_iff.mpr some_column

end Speedup.Text
