/-!
# Aligned text

Texts filled up with spaces to a width counted in characters, and tables whose columns are
aligned at their right ends.

In the program: `render_table` (`table`).
-/

namespace Speedup.Text

def fill (width : Nat) (s : String) : String :=
  String.ofList (List.replicate (width - s.length) ' ')

def alignLeft (width : Nat) (s : String) : String := s ++ fill width s

def alignRight (width : Nat) (s : String) : String := fill width s ++ s

theorem length_alignRight (width : Nat) (s : String) :
    (alignRight width s).length = max width s.length := by
  simp [alignRight, fill]
  omega

/-- The width of every column: that of its longest cell. -/
def columnWidths (rows : List (List String)) : List Nat :=
  rows.foldr (fun row widths => columns row widths) []
where
  columns : List String → List Nat → List Nat
    | [], widths => widths
    | cells, [] => cells.map String.length
    | cell :: cells, w :: widths => max cell.length w :: columns cells widths

def tableLine (widths : List Nat) (row : List String) : String :=
  String.intercalate " " (List.zipWith alignRight widths row)

/-- A table with its columns aligned at their right ends, the header first. -/
def table (header : List String) (rows : List (List String)) : String :=
  let all := header :: rows
  String.intercalate "\n" (all.map (tableLine (columnWidths all)))

example : table ["a", "long"] [["xyz", "1"]] = "  a long\nxyz    1" := by decide +kernel

end Speedup.Text
