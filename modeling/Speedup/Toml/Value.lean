import Speedup.Double.Basic

/-!
# Values of TOML documents
-/

namespace Speedup.Toml

/-- A value. Dates and times are kept as text in their standard form. -/
inductive Value where
  | string (text : String)
  | integer (n : Int)
  | float (x : Double)
  | boolean (b : Bool)
  | datetime (text : String)
  | array (items : List Value)
  | table (entries : List (String × Value))

end Speedup.Toml
