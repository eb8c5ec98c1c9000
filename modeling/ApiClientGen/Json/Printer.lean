import ApiClientGen.Decimal.Shortest
import ApiClientGen.Json.Value
import ApiClientGen.Text.Quoted

/-!
# Writing JSON texts

The compact form of a value: no blanks, keys in order, and escapes only where
the format demands them.
-/

namespace ApiClientGen
namespace Json

/-- One character of a string between quotes. -/
def escapeChar (c : Char) : List Char :=
  match c with
  | '"' => ['\\', '"']
  | '\\' => ['\\', '\\']
  | '\x08' => ['\\', 'b']
  | '\t' => ['\\', 't']
  | '\n' => ['\\', 'n']
  | '\x0C' => ['\\', 'f']
  | '\r' => ['\\', 'r']
  | c =>
    if c.toNat < 0x10 then ['\\', 'u', '0', '0', '0'] ++ Text.hexDigits c.toNat
    else if c.toNat < 0x20 then ['\\', 'u', '0', '0'] ++ Text.hexDigits c.toNat
    else [c]

def stringText (text : String) : String :=
  String.ofList ('"' :: text.toList.flatMap escapeChar ++ ['"'])

/-- A number: a whole number in full, and a double with the fewest digits that
read back. -/
def Number.text : Number → String
  | .integer value => toString value
  | .real value => value.text

mutual
/-- The compact text of a value. -/
def Value.text : Value → String
  | .null => "null"
  | .bool true => "true"
  | .bool false => "false"
  | .number n => n.text
  | .string text => stringText text
  | .array items => "[" ++ String.intercalate "," (itemTexts items) ++ "]"
  | .object fields =>
    "\x7b" ++ String.intercalate "," (fieldTexts fields) ++ "\x7d"

def itemTexts : List Value → List String
  | [] => []
  | item :: rest => item.text :: itemTexts rest

def fieldTexts : List (String × Value) → List String
  | [] => []
  | (key, value) :: rest =>
    (stringText key ++ ":" ++ value.text) :: fieldTexts rest
end

end Json
end ApiClientGen
