import ApiClientGen.Api.Warning

/-!
# Names that are not taken yet

The first use of a name keeps it.  A later use gets the least number from two on
that makes a new name.
-/

namespace ApiClientGen
namespace Api

/-- A name with a number behind it. -/
def numbered (base : String) (number : Nat) : String :=
  base ++ toString number

/-- The name itself if it is not taken, and else the name with the least number
from two on that is not taken.  Among as many numbers as there are taken names
one is always left, since the name without a number is taken too.  Numbers have
no bound here: a counter of 32 bits finds the same name as long as fewer than
`2 ^ 31 - 2` names are taken. -/
def freshName (taken : List String) (base : String) : String :=
  if taken.contains base then
    match (List.range taken.length).find? fun i =>
      !taken.contains (numbered base (i + 2)) with
    | some i => numbered base (i + 2)
    | none => base
  else base

def renameWarnings (location base name : String) : List Warning :=
  if name = base then [] else [⟨location, .renamed base name⟩]

end Api
end ApiClientGen
