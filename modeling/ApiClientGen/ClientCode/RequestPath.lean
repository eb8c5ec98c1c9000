import ApiClientGen.ClientCode.SourceText
import ApiClientGen.PathTemplate

/-!
# Paths as interpolated strings

The path of a request is written between the quotes of `$"..."`.  A placeholder
that is named after a parameter becomes a hole with the parameter's identifier;
every other brace is doubled, so that it stays a character of the path.
-/

namespace ApiClientGen
namespace ClientCode

open Api (Parameter)
open PathTemplate (behind? length_of_behind?)

/-- One character inside an interpolated string. -/
def interpolatedChar (c : Char) : List Char :=
  if c = '{' then ['{', '{']
  else if c = '}' then ['}', '}']
  else if c = '"' then ['\\', '"']
  else if c = '\\' then ['\\', '\\']
  else [c]

/-- A placeholder: a hole for the first parameter with its name, and else the
same text. -/
def placeholderText (parameters : List Parameter) (name : List Char) :
    List Char :=
  match parameters.find? (·.originalName == String.ofList name) with
  | some parameter => '{' :: (identifier parameter.name).toList ++ ['}']
  | none => ['{', '{'] ++ name.flatMap interpolatedChar ++ ['}', '}']

/-- The characters of a path inside an interpolated string. -/
def interpolate (parameters : List Parameter) : List Char → List Char
  | [] => []
  | c :: rest =>
    if c = '{' then
      match _hclose : behind? '}' rest with
      | some after =>
        placeholderText parameters (rest.takeWhile (· != '}')) ++
          interpolate parameters after
      | none => interpolatedChar c ++ interpolate parameters rest
    else interpolatedChar c ++ interpolate parameters rest
termination_by path => path.length
decreasing_by
  · exact Nat.lt_succ_of_lt (length_of_behind? _hclose)
  · exact Nat.lt_succ_self _
  · exact Nat.lt_succ_self _

/-- A path for the inside of an interpolated string. -/
def interpolatedPath (path : String) (parameters : List Parameter) : String :=
  String.ofList (interpolate parameters path.toList)

end ClientCode
end ApiClientGen
