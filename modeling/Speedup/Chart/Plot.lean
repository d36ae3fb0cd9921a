import Speedup.Chart.Basic
import Speedup.Json.Basic

/-!
# Charts as plot documents

The document that a chart is drawn from: traces, layout and configuration.

In the program: `axis_ids`, `with_axes`, `grid`, `hidden_axis` and `text_trace`.
-/

namespace Speedup.Chart

/-- The name of an axis of a plot; the first plot has the plain letter. -/
def axisId (letter : String) (plot : Nat) : String :=
  if plot = 0 then letter else letter ++ Nat.repr (plot + 1)

def axisField (letter : String) (plot : Nat) : String :=
  letter ++ "axis" ++ if plot = 0 then "" else Nat.repr (plot + 1)

/-! ## Traces -/

def axisReferences (plot : Nat) : List (String × Json) :=
  [("xaxis", .string (axisId "x" plot)), ("yaxis", .string (axisId "y" plot))]

def noLegend : String × Json := ("showlegend", .bool false)

def doubleOrNull (x : Option Double) : Json := (x.map Json.double).getD .null

def traceFields (plot : Nat) : Trace → List (String × Json)
  | .box exe values =>
    [("type", .string "box"), ("name", .string exe), ("x", .doubles values),
      ("y", .strings (values.map fun _ => exe)), ("orientation", .string "h"),
      ("boxpoints", .bool false), noLegend] ++ axisReferences plot
  | .means points =>
    [("type", .string "scatter"), ("name", .string "mean"), ("mode", .string "markers+text"),
      ("x", .doubles (points.map (·.mean))), ("y", .strings (points.map (·.exe))),
      ("text", .strings (points.map (·.label))), ("textposition", .string "top right"),
      ("hovertext", .strings (points.map (·.hover))),
      ("marker", .object [("color", .string "black"), ("size", .integer 7)]), noLegend] ++
      axisReferences plot
  | .bars name bars =>
    [("type", .string "bar")] ++ (name.map fun n => ("name", Json.string n)).toList ++
      [("x", .doubles (bars.map (·.value))), ("y", .strings (bars.map (·.exe))),
        ("orientation", .string "h"), ("text", .strings (bars.map (·.label))),
        ("textposition", .string "outside"), noLegend] ++ axisReferences plot
  | .columns exe benches medians =>
    [("type", .string "bar"), ("name", .string exe), ("x", .strings benches),
      ("y", .array (medians.map doubleOrNull))]
  | .labels bars =>
    [("type", .string "scatter"), ("mode", .string "text"),
      ("x", .doubles (bars.map (·.value))), ("y", .strings (bars.map (·.exe))),
      ("text", .strings (bars.map (·.label))), ("textposition", .string "middle right"),
      noLegend] ++ axisReferences plot
  | .remark text =>
    [("type", .string "scatter"), ("mode", .string "text"), ("x", .doubles [0]),
      ("y", .doubles [0]), ("text", .strings [text]), ("textposition", .string "middle center"),
      noLegend] ++ axisReferences plot

/-! ## Layout -/

def axisJson : Axis → Json
  | .shown title autoMargin =>
    .object ((title.map fun t => ("title", Json.titled t)).toList ++
      if autoMargin then [("automargin", .bool true)] else [])
  | .hidden =>
    .object [("visible", .bool false), ("showgrid", .bool false), ("zeroline", .bool false)]

def lineShape (line : BaselineLine) : Json :=
  .object [("type", .string "line"), ("xref", .string "x"), ("yref", .string "paper"),
    ("x0", .double line.mean), ("x1", .double line.mean), ("y0", .double 0), ("y1", .double 1),
    ("line", .object [("color", .string "gray"), ("width", .double 1), ("dash", .string "dash")])]

def lineLabel (line : BaselineLine) : Json :=
  .object [("text", .string line.label), ("xref", .string "x"), ("yref", .string "paper"),
    ("x", .double line.mean), ("y", .double 1), ("xanchor", .string "left"),
    ("yanchor", .string "bottom"), ("showarrow", .bool false)]

def gridJson (g : Grid) : Json :=
  .object [("rows", .integer g.rows), ("columns", .integer g.columns),
    ("pattern", .string "independent")]

/-- The number of plots whose axes a layout can describe. -/
def maxAxes : Nat := 8

/-- The axes of the plots; those of plots without a place in the layout are left out. -/
def axisFields (axes : List (Axis × Axis)) : List (String × Json) :=
  (axes.take maxAxes).zipIdx.flatMap fun ((x, y), i) =>
    [(axisField "x" i, axisJson x), (axisField "y" i, axisJson y)]

def layout (c : Chart) : Json :=
  .object ([("title", .titled c.heading), ("height", .integer c.height)] ++
    (if c.legend then [] else [noLegend]) ++
    (c.grid.map fun g => ("grid", gridJson g)).toList ++
    (if c.grouped then [("barmode", .string "group")] else []) ++
    axisFields c.axes ++
    (match c.baselineLine with
      | some line => [("shapes", .array [lineShape line]), ("annotations", .array [lineLabel line])]
      | none => []))

def plot (c : Chart) : Json :=
  .object [
    ("data", .array (c.traces.map fun (i, t) => .object (traceFields i t))),
    ("layout", c.layout),
    ("config", .object [("responsive", .bool true), ("fillFrame", .bool false)]),
    ("frames", .null)]

end Speedup.Chart
