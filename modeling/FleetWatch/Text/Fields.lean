/-! # Splitting at a separator

`fields` cuts a text at every separator and so has one piece more than the text has separators;
`cut` cuts at the first one only.
-/

namespace FleetWatch.Text

/-- The pieces between the separators, at least one. -/
def fieldsOf (sep : Char) : List Char → List (List Char)
  | [] => [[]]
  | c :: rest =>
      if c = sep then [] :: fieldsOf sep rest
      else
        match fieldsOf sep rest with
        | [] => [[c]]
        | first :: more => (c :: first) :: more

/-- The pieces of a string between the separators, at least one. -/
def fields (sep : Char) (s : String) : List String :=
  (fieldsOf sep s.toList).map String.ofList

/-- What stands before and after the first separator, if there is one. -/
def cut (sep : Char) : List Char → Option (List Char × List Char)
  | [] => none
  | c :: rest =>
      if c = sep then some ([], rest)
      else (cut sep rest).map fun (before, after) => (c :: before, after)

/-- The text before the first separator, the whole text if there is none. -/
def upTo (sep : Char) (s : List Char) : List Char := s.takeWhile (· ≠ sep)

theorem fieldsOf_ne_nil (sep : Char) (s : List Char) : fieldsOf sep s ≠ [] := by
  induction s with
  | nil => simp [fieldsOf]
  | cons c rest ih =>
      unfold fieldsOf
      split
      · simp
      · split <;> simp

end FleetWatch.Text
