import HostLookup.Decimal.Notation
import HostLookup.Text.Quoted

/-!
# Values of settings

What a layer of settings may say of a key, before anyone has asked whether the key wants it.
-/

namespace HostLookup

/-- A value as it was read. -/
inductive Value where
  | text (value : String)
  | boolean (value : Bool)
  /-- A number that was read as one without a sign. -/
  | unsigned (value : Nat)
  /-- A number that was read as one with a sign, whether it shows it or not. -/
  | signed (value : Int)
  | decimal (value : Float)
  | list (items : List Value)
  | table (entries : List (String × Value))

namespace Value

/-- How a message shows a value that was found in the place of another. -/
def found : Value → String
  | .text value => "string " ++ Text.quoted value
  | .boolean value => if value then "bool true" else "bool false"
  | .unsigned value => "unsigned int `" ++ toString value ++ "`"
  | .signed value => "signed int `" ++ toString value ++ "`"
  | .decimal value => "float `" ++ Decimal.plain value ++ "`"
  | .list _ => "sequence"
  | .table _ => "map"

end Value

end HostLookup
