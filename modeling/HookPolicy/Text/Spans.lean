/-!
# Character sets given as sorted spans

A span `(lo, hi)` holds the code points from `lo` to `hi`. Membership in a sorted list of disjoint
spans is found by halving.
-/

namespace HookPolicy.Text

def spanAt (spans : Array (Nat × Nat)) (n lo hi : Nat) : Bool :=
  if _h : lo < hi then
    let mid := (lo + hi) / 2
    match spans[mid]? with
    | none => false
    | some (a, b) =>
      if n < a then spanAt spans n lo mid
      else if b < n then spanAt spans n (mid + 1) hi
      else true
  else false
termination_by hi - lo

def inSpans (spans : Array (Nat × Nat)) (n : Nat) : Bool := spanAt spans n 0 spans.size

end HookPolicy.Text
