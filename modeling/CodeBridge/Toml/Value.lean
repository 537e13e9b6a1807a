/-! # TOML values

What a TOML document says. Numbers and date-times are checked for their form by the reader and not
kept apart, because no setting takes one.
-/

namespace CodeBridge.Toml

/-- A TOML value. -/
inductive Value where
  | string (text : String)
  | boolean (value : Bool)
  /-- A number, a date or a time. -/
  | scalar
  | array (items : List Value)
  | table (entries : List (String × Value))
  deriving Inhabited, Repr

end CodeBridge.Toml
