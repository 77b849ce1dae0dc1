import Questline.Json.Binary64
import Questline.Table

/-!
# Data values

The values of JSON documents.  Integers are exact and distinct from numbers
with a fraction or an exponent; the members of an object keep their order, and
no name occurs twice.
-/

namespace Questline

inductive Json where
  | null
  | bool (b : Bool)
  | int (n : Int)
  | float (x : Binary64)
  | str (s : String)
  | arr (xs : List Json)
  | obj (members : List (String × Json))
deriving Inhabited

namespace Json

mutual

/-- Decides whether two values are the same, member order included. -/
def decEq : (a b : Json) → Decidable (a = b)
  | .null, b => by cases b <;> first | exact isTrue rfl | exact isFalse nofun
  | .bool x, b => by
    cases b
    case bool y =>
      exact if h : x = y then isTrue (h ▸ rfl) else isFalse fun e => h (by cases e; rfl)
    all_goals exact isFalse nofun
  | .int x, b => by
    cases b
    case int y =>
      exact if h : x = y then isTrue (h ▸ rfl) else isFalse fun e => h (by cases e; rfl)
    all_goals exact isFalse nofun
  | .float x, b => by
    cases b
    case float y =>
      exact if h : x = y then isTrue (h ▸ rfl) else isFalse fun e => h (by cases e; rfl)
    all_goals exact isFalse nofun
  | .str x, b => by
    cases b
    case str y =>
      exact if h : x = y then isTrue (h ▸ rfl) else isFalse fun e => h (by cases e; rfl)
    all_goals exact isFalse nofun
  | .arr xs, b => by
    cases b
    case arr ys =>
      exact match decEqList xs ys with
        | isTrue h => isTrue (h ▸ rfl)
        | isFalse h => isFalse fun e => h (by cases e; rfl)
    all_goals exact isFalse nofun
  | .obj ms, b => by
    cases b
    case obj ns =>
      exact match decEqMembers ms ns with
        | isTrue h => isTrue (h ▸ rfl)
        | isFalse h => isFalse fun e => h (by cases e; rfl)
    all_goals exact isFalse nofun

def decEqList : (xs ys : List Json) → Decidable (xs = ys)
  | [], [] => isTrue rfl
  | [], _ :: _ => isFalse nofun
  | _ :: _, [] => isFalse nofun
  | x :: xs, y :: ys =>
    match decEq x y with
    | isFalse h => isFalse fun e => h (List.cons.inj e).1
    | isTrue h =>
      match decEqList xs ys with
      | isFalse h' => isFalse fun e => h' (List.cons.inj e).2
      | isTrue h' => isTrue (h ▸ h' ▸ rfl)

def decEqMembers : (ms ns : List (String × Json)) → Decidable (ms = ns)
  | [], [] => isTrue rfl
  | [], _ :: _ => isFalse nofun
  | _ :: _, [] => isFalse nofun
  | (k, x) :: ms, (l, y) :: ns =>
    if hk : k = l then
      match decEq x y with
      | isFalse h => isFalse fun e => h (Prod.mk.inj (List.cons.inj e).1).2
      | isTrue h =>
        match decEqMembers ms ns with
        | isFalse h' => isFalse fun e => h' (List.cons.inj e).2
        | isTrue h' => isTrue (hk ▸ h ▸ h' ▸ rfl)
    else isFalse fun e => hk (Prod.mk.inj (List.cons.inj e).1).1

end

instance : DecidableEq Json := decEq

def asText? : Json → Option String
  | .str s => some s
  | _ => none

def asInt? : Json → Option Int
  | .int n => some n
  | _ => none

def asBool? : Json → Option Bool
  | .bool b => some b
  | _ => none

def asList? : Json → Option (List Json)
  | .arr xs => some xs
  | _ => none

def asObject? : Json → Option (Table Json)
  | .obj ms => some ms
  | _ => none

def isNull : Json → Bool
  | .null => true
  | _ => false

def isObject (v : Json) : Bool := v.asObject?.isSome

/-- A member of an object; other values have none. -/
def member? (v : Json) (key : String) : Option Json := v.asObject?.bind (Table.get? key)

/-- A member of an object, a missing one counting as null. -/
def memberOrNull (v : Json) (key : String) : Json := (v.member? key).getD .null

/-- Whether a value counts as given: empty texts, lists and objects, zero, null and false do not. -/
def isGiven : Json → Bool
  | .null => false
  | .bool b => b
  | .int n => n != 0
  | .float x => !x.isZero
  | .str s => !s.isEmpty
  | .arr xs => !xs.isEmpty
  | .obj ms => !ms.isEmpty

/-- The value itself if it counts as given. -/
def given? (v : Json) : Option Json := if v.isGiven then some v else none

/-- What a value offers one after the other: the elements of a list, the characters of a text, the
names of an object.  Other values offer nothing to go through. -/
def items? : Json → Option (List Json)
  | .arr xs => some xs
  | .str s => some (s.toList.map fun c => .str (String.singleton c))
  | .obj ms => some (ms.map fun p => .str p.1)
  | _ => none

/-- Lists and objects cannot be looked up in a set or used as a name. -/
def isContainer : Json → Bool
  | .arr _ => true
  | .obj _ => true
  | _ => false

end Json

end Questline
