/-! # Values of a TOML document

Tables keep their keys in order, each once. Of floats and of dates and times only the sort is kept.
-/

namespace FleetWatch.Toml

/-- A value of a TOML document. -/
inductive Value where
  | string (text : String)
  | integer (value : Int)
  | float
  | boolean (value : Bool)
  | datetime
  | array (items : List Value)
  | table (pairs : List (String × Value))
  deriving Repr, Inhabited

end FleetWatch.Toml
