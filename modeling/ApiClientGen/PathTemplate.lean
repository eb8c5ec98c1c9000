/-!
# Path templates

A path such as `/pets/{petId}` holds placeholders between braces.  A placeholder
reaches from an opening brace to the next closing one; an opening brace without
a closing one behind it is an ordinary character.
-/

namespace ApiClientGen
namespace PathTemplate

/-- What stands behind the first `c`, if there is one. -/
def behind? (c : Char) : List Char → Option (List Char)
  | [] => none
  | d :: rest => if d = c then some rest else behind? c rest

theorem length_of_behind? {c : Char} {cs rest : List Char}
    (hrest : behind? c cs = some rest) :
    rest.length < cs.length := by
  induction cs with
  | nil => simp [behind?] at hrest
  | cons d cs ih =>
    by_cases hd : d = c
    · simp only [behind?, hd, if_true, Option.some.injEq] at hrest
      simp [hrest]
    · simp only [behind?, hd, if_false] at hrest
      exact Nat.lt_succ_of_lt (ih hrest)

/-- The names between the braces of a path, in order. -/
def placeholderNames (path : List Char) : List (List Char) :=
  match _hopen : behind? '{' path with
  | none => []
  | some inner =>
    match _hclose : behind? '}' inner with
    | none => []
    | some rest => inner.takeWhile (· != '}') :: placeholderNames rest
termination_by path.length
decreasing_by
  exact Nat.lt_trans (length_of_behind? _hclose) (length_of_behind? _hopen)

def placeholders (path : String) : List String :=
  (placeholderNames path.toList).map String.ofList

end PathTemplate
end ApiClientGen
