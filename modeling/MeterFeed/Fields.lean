/-!
# Fields

Named values in order of first appearance: the members of a JSON object, the labels of a record,
the attributes of a point, the table of metric handles.

* `Fields.put` keeps the place of a name that is present and replaces its value, else it appends;
* `Fields.ofPairs` reads a list of pairs in which a name may repeat: first place, last value;
* `Fields.value?` is the value of a name.
-/

namespace MeterFeed

/-- Named values in order of first appearance. -/
abbrev Fields (α : Type) := List (String × α)

namespace Fields

variable {α : Type}

/-- Gives `name` the value `x`, in its old place if it has one and at the end otherwise. -/
def put (name : String) (x : α) : Fields α → Fields α
  | [] => [(name, x)]
  | (k, y) :: rest => if k = name then (k, x) :: rest else (k, y) :: put name x rest

/-- The fields that a list of pairs denotes: a repeated name keeps its first place, last value. -/
def ofPairs (pairs : List (String × α)) : Fields α :=
  pairs.foldl (fun fields pair => put pair.1 pair.2 fields) []

def value? (name : String) : Fields α → Option α
  | [] => none
  | (k, x) :: rest => if k = name then some x else value? name rest

def names (fields : Fields α) : List String :=
  fields.map Prod.fst

def without (name : String) (fields : Fields α) : Fields α :=
  fields.filter fun field => field.1 != name

theorem value?_put_self (name : String) (x : α) (fields : Fields α) :
    value? name (put name x fields) = some x := by
  induction fields with
  | nil => simp [put, value?]
  | cons field rest ih =>
    obtain ⟨k, y⟩ := field
    by_cases h : k = name <;> simp [put, value?, h, ih]

theorem value?_put_of_ne {name other : String} (h : other ≠ name) (x : α) (fields : Fields α) :
    value? other (put name x fields) = value? other fields := by
  induction fields with
  | nil => simp [put, value?, Ne.symm h]
  | cons field rest ih =>
    obtain ⟨k, y⟩ := field
    by_cases hk : k = name
    · subst hk
      simp [put, value?, Ne.symm h]
    · simp [put, value?, hk, ih]

theorem names_put (name : String) (x : α) (fields : Fields α) :
    names (put name x fields) =
      if name ∈ names fields then names fields else names fields ++ [name] := by
  induction fields with
  | nil => simp [put, names]
  | cons field rest ih =>
    obtain ⟨k, y⟩ := field
    by_cases hk : k = name
    · simp [put, names, hk]
    · have hk' : ¬ name = k := fun h => hk h.symm
      simp only [put, hk, if_false, names, List.map_cons, List.mem_cons, hk', false_or]
      simp only [names] at ih
      rw [ih]
      split <;> rename_i h <;> simp [h]

end Fields

end MeterFeed
