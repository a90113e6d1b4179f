import PhasePortrait.Decimal.Style
import PhasePortrait.Text.Quoted

/-! # Documents

The values of a data exchange format. Whole numbers and numbers written with a point or an exponent
are kept apart, and so are whole numbers with and without a sign. A record holds a name at most once.
-/
namespace PhasePortrait

inductive Document
  | null
  | boolean (b : Bool)
  | natural (n : UInt64)
  | negative (n : Int)
  | real (x : Float)
  | text (s : String)
  | sequence (items : List Document)
  | record (entries : List (String × Document))

namespace Document
open Decimal Text

def entry? (entries : List (String × Document)) (name : String) : Option Document := entries.lookup name

/-- What kind of value this is, with the value itself where it is short. -/
def description : Document → String
  | null => "null"
  | boolean b => "boolean `" ++ (if b then "true" else "false") ++ "`"
  | natural n => "integer `" ++ toString n ++ "`"
  | negative n => "integer `" ++ toString n ++ "`"
  | real x => "floating point `" ++ Style.exchange.write x ++ "`"
  | text s => "string " ++ quoted s
  | sequence _ => "sequence"
  | record _ => "map"

end Document
end PhasePortrait
