/-!
# Ordered tables

A table is a list of named values in the order in which the names were first
set.  Setting a name again keeps its place and replaces its value.
-/

namespace Questline

abbrev Table (α : Type) := List (String × α)

namespace Table

variable {α β : Type}

def get? (key : String) : Table α → Option α
  | [] => none
  | (k, v) :: rest => if k = key then some v else get? key rest

def contains (key : String) (t : Table α) : Bool := (get? key t).isSome

def set (key : String) (v : α) : Table α → Table α
  | [] => [(key, v)]
  | (k, w) :: rest => if k = key then (k, v) :: rest else (k, w) :: set key v rest

def erase (key : String) (t : Table α) : Table α := t.filter fun p => p.1 ≠ key

def keys (t : Table α) : List String := t.map (·.1)

def values (t : Table α) : List α := t.map (·.2)

/-- The entries of `new` set one after the other. -/
def update (t new : Table α) : Table α := new.foldl (fun t p => set p.1 p.2 t) t

def ofPairs (ps : List (String × α)) : Table α := update [] ps

def mapValues (f : α → β) (t : Table α) : Table β := t.map fun p => (p.1, f p.2)

@[simp] theorem get?_nil (key : String) : get? key ([] : Table α) = none := rfl

@[simp] theorem get?_set_self (key : String) (v : α) (t : Table α) :
    get? key (set key v t) = some v := by
  induction t with
  | nil => simp [set, get?]
  | cons p t ih =>
    by_cases h : p.1 = key <;> simp [set, get?, h, ih]

theorem get?_set_of_ne {key other : String} (h : other ≠ key) (v : α) (t : Table α) :
    get? other (set key v t) = get? other t := by
  induction t with
  | nil => simp [set, get?, Ne.symm h]
  | cons p t ih =>
    by_cases hk : p.1 = key
    · simp [set, get?, hk, Ne.symm h]
    · by_cases ho : p.1 = other
      · simp [set, get?, ho, h]
      · simp [set, get?, hk, ho, ih]

@[simp] theorem get?_erase_self (key : String) (t : Table α) : get? key (erase key t) = none := by
  induction t with
  | nil => rfl
  | cons p t ih =>
    by_cases h : p.1 = key
    · simpa [erase, h] using ih
    · simpa [erase, get?, h] using ih

theorem get?_erase_of_ne {key other : String} (h : other ≠ key) (t : Table α) :
    get? other (erase key t) = get? other t := by
  induction t with
  | nil => rfl
  | cons p t ih =>
    by_cases hk : p.1 = key
    · simpa [erase, get?, hk, Ne.symm h] using ih
    · by_cases ho : p.1 = other
      · simp [erase, get?, ho, h]
      · simpa [erase, get?, hk, ho] using ih

end Table

end Questline
