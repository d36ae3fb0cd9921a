import Speedup.Csv.Reader
import Speedup.Files.Tree
import Speedup.Decimal.Basic
import Speedup.Double.Arithmetic
import Speedup.Log
import Speedup.Observation
import Speedup.Text.Blank
import Speedup.Text.Letters

/-!
# Reading a table of observations

The first record names the columns, in any order and with further columns among them. Seven
columns are required and three may be absent. Every other record is an observation: a value that
is no number is missing, and never makes the record invalid.

In the program: `read_observations` (`ofOctets`), `load_observations` (`load`),
`normalize_column_name`, `parse_value` (`value?`) and `parse_integer` (`integer?`).
-/

namespace Speedup.ObservationTable

/-! ## Columns -/

/-- The columns that have to be there, in the order in which a missing one is reported. -/
def requiredColumns : List String :=
  ["bench", "exe", "suite", "criterion", "unit", "envid", "value"]

def optionalColumns : List String := ["inputsize", "invocation", "iteration"]

def knownColumns : List String := requiredColumns ++ optionalColumns

/-- The name of a column without regard to blanks and case. The known names are of plain letters,
none of which is the lower case of another character, so only plain letters are lowered. -/
def columnName (cell : String) : String := String.intercalate "_" (Text.words (Text.lower cell))

def missingColumn (columns : List String) : Option String :=
  requiredColumns.find? fun c => !columns.contains c

def repeatedColumn : List String → List String → Option String
  | _, [] => none
  | seen, c :: rest =>
    if knownColumns.contains c && seen.contains c then some c else repeatedColumn (c :: seen) rest

/-! ## Cells -/

/-- The number in a cell; a NaN is none. -/
def value? (cell : String) : Option Double := (Decimal.parse? cell).filter (!·.isNaN)

/-- The whole number in a cell: written as one, or as a number without a fraction. -/
def integer? (cell : String) : Option Int :=
  Text.int64? cell.toList <|>
    ((Decimal.parse? cell).filter fun x => x.isFinite && x.fract.isZero).map (·.toInt64Clamped)

def cell (columns : List String) (cells : List String) (column : String) : String :=
  (((columns.zip cells).find? (·.1 == column)).map (·.2)).getD ""

def observation (columns cells : List String) : Observation :=
  let cell := cell columns cells
  { bench := cell "bench", exe := cell "exe", suite := cell "suite"
    criterion := cell "criterion", unit := cell "unit", envid := cell "envid"
    value := value? (cell "value")
    inputsize := integer? (cell "inputsize")
    invocation := integer? (cell "invocation")
    iteration := integer? (cell "iteration") }

/-! ## Records -/

inductive LoadError where
  | open (path reason : String)
  | missingColumn (name : String)
  | malformed (problem : Csv.Problem)
  deriving DecidableEq, Repr

def LoadError.message : LoadError → String
  | .open path reason => "Failed to open " ++ path ++ ": " ++ reason
  | .missingColumn name => "Missing required column '" ++ name ++ "' in input table"
  | .malformed problem => "Malformed CSV input: " ++ problem.message

/-- What lies behind a failure, outermost first. -/
def LoadError.causes : LoadError → List String
  | .open _ reason => [reason]
  | .missingColumn _ => []
  | .malformed problem => [problem.message]

variable {β : Type}

/-- The observation of one record, which must have a cell for every column, be text, and not name
a known column twice. `text` makes text of the fields. -/
def ofRecord (text : Csv.Position → List β → Except Csv.Problem (List String))
    (columns : List String) (r : Csv.Record β) : Except Csv.Problem Observation :=
  if r.fields.length ≠ columns.length then
    .error (.fieldCount r.position r.fields.length columns.length)
  else
    match text r.position r.fields with
    | .error problem => .error problem
    | .ok cells =>
      match repeatedColumn [] columns with
      | some name => .error (.duplicateColumn r.position name)
      | none => .ok (observation columns (cells.map Text.trim))

/-- The observations below a header, one for each record. -/
def ofRecords (text : Csv.Position → List β → Except Csv.Problem (List String))
    (header : List String) (records : List (Csv.Record β)) : Except LoadError (List Observation) :=
  let columns := header.map columnName
  match missingColumn columns with
  | some name => .error (.missingColumn name)
  | none =>
    match records.mapM (ofRecord text columns) with
    | .error problem => .error (.malformed problem)
    | .ok rows => .ok rows

def ofOctets (octets : List UInt8) : Except LoadError (List Observation) :=
  let records := Csv.records octets
  let header : Csv.Record (List UInt8) := records.headD ⟨⟨0, 1, 0⟩, []⟩
  match Csv.textFields header.position 0 header.fields with
  | .error problem => .error (.malformed problem)
  | .ok header =>
    let text := fun position fields => Csv.textFields position 0 (fields.map Csv.trimOctets)
    ofRecords text header records.tail

def load (path : Path) (octets : Except Files.Problem (List UInt8)) :
    Except LoadError (List Observation) :=
  match octets with
  | .ok octets => ofOctets octets
  | .error .isFolder => .error (.malformed (.unreadable Files.Problem.isFolder.message))
  | .error problem => .error (.open path problem.message)

/-! ## What is said of it -/

def missingValues (rows : List Observation) : Nat := (rows.filter (·.value.isNone)).length

def readLog (rows : List Observation) : List Log.Entry :=
  if missingValues rows = 0 then []
  else
    [⟨.warn, .loader, Nat.repr (missingValues rows) ++
      " value(s) could not be parsed as numbers and are treated as missing"⟩]

def loadLog (path : Path) (rows : List Observation) : List Log.Entry :=
  readLog rows ++
    [⟨.debug, .loader, "Loaded " ++ Nat.repr rows.length ++ " observations from " ++ path⟩]

end Speedup.ObservationTable
