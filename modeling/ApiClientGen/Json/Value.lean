import ApiClientGen.Decimal.Binary64

/-!
# JSON values

The tree that a document is read into, from either of its two formats.  A whole
number that fits a signed or an unsigned word of 64 bits keeps its exact value;
every other number is a double.
-/

namespace ApiClientGen
namespace Json

/-- A number as the document means it. -/
inductive Number where
  | integer (value : Int)
  | real (value : Decimal.Binary64)
deriving Repr, DecidableEq

/-- A JSON value.  The fields of an object are in document order. -/
inductive Value where
  | null
  | bool (value : Bool)
  | number (value : Number)
  | string (text : String)
  | array (items : List Value)
  | object (fields : List (String × Value))
deriving Repr, Inhabited

end Json
end ApiClientGen
