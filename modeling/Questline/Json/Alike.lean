import Questline.Json.Basic

/-!
# Values that compare equal

A truth value, an integer and a number with a fraction are compared as
numbers, true being one; objects are compared without regard to member order.
NaN differs from itself, except inside a list or an object, where the one NaN
of documents is met on both sides.
-/

namespace Questline.Json

/-- The integer that a value stands for in comparisons. -/
def countingValue? : Json → Option Int
  | .bool b => some (if b then 1 else 0)
  | .int n => some n
  | _ => none

def alikeScalar (nested : Bool) (a b : Json) : Bool :=
  match a, b with
  | .null, .null => true
  | .str s, .str t => s == t
  | .float x, .float y => x.sameValue y || (nested && x == .nan && y == .nan)
  | .float x, b => (b.countingValue?.map x.isInteger).getD false
  | a, .float y => (a.countingValue?.map y.isInteger).getD false
  | a, b =>
    match a.countingValue?, b.countingValue? with
    | some m, some n => m == n
    | _, _ => false

mutual

def alikeWithin (nested : Bool) : (a b : Json) → Bool
  | .arr xs, b =>
    match b with
    | .arr ys => alikeList xs ys
    | _ => false
  | .obj ms, b =>
    match b with
    | .obj ns => ms.length == ns.length && alikeMembers ms ns
    | _ => false
  | a, b => alikeScalar nested a b

def alikeList : (xs ys : List Json) → Bool
  | [], [] => true
  | x :: xs, y :: ys => alikeWithin true x y && alikeList xs ys
  | _, _ => false

def alikeMembers : (ms ns : List (String × Json)) → Bool
  | [], _ => true
  | (k, x) :: ms, ns =>
    (match Table.get? k ns with
      | some y => alikeWithin true x y
      | none => false) && alikeMembers ms ns

end

def alike (a b : Json) : Bool := alikeWithin false a b

end Questline.Json
