/-!
# Sets of code points

A Unicode property is written as an ascending list of inclusive ranges of code
points.  The tables of the modules beside this one have that form, and
`inRanges` looks a code point up in them.
-/

namespace ApiClientGen
namespace Text

/-- Whether one of the ranges holds `n`.  The ranges ascend, so the search ends
at the first range that starts above `n`. -/
def inRanges : List (Nat × Nat) → Nat → Bool
  | [], _ => false
  | (first, last) :: ranges, n =>
    if n < first then false else if n ≤ last then true else inRanges ranges n

end Text
end ApiClientGen
