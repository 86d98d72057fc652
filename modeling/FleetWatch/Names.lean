/-! # Sets of names

Sets of names as lists in strictly increasing order, which is the order of their bytes in UTF-8.
-/

namespace FleetWatch

/-- The name put into an increasing list, unless it is there. -/
def insertName (name : String) : List String → List String
  | [] => [name]
  | first :: rest =>
      if name < first then name :: first :: rest
      else if name = first then first :: rest
      else first :: insertName name rest

def distinctSorted (names : List String) : List String := names.foldr insertName []

theorem mem_insertName {a name : String} {names : List String} :
    a ∈ insertName name names ↔ a = name ∨ a ∈ names := by
  induction names with
  | nil => simp [insertName]
  | cons first rest ih =>
      unfold insertName
      split
      · simp
      · split
        next h => subst h; simp
        next => simp [ih, or_left_comm]

theorem mem_distinctSorted {a : String} {names : List String} :
    a ∈ distinctSorted names ↔ a ∈ names := by
  induction names with
  | nil => simp [distinctSorted]
  | cons first rest ih =>
      have h : distinctSorted (first :: rest) = insertName first (distinctSorted rest) := rfl
      rw [h, mem_insertName, ih, List.mem_cons]

end FleetWatch
