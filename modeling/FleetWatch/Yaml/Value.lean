import FleetWatch.Number.Binary64
import FleetWatch.Number.Width
import FleetWatch.Yaml.Node

/-! # Values of a document

What a document means: null, truth values, numbers, strings, sequences, mappings, and values with a
local tag. A plain scalar without a tag is what its text looks like by the core schema; a quoted one
is a string. A standard tag asks for a type, and a scalar that is not of it is an error; so are
equal keys in one mapping, an integer too large for 64 bits but not for 128, a nesting of more than
128 collections, and aliases that would repeat the document more than a hundred times.
-/

namespace FleetWatch.Yaml

/-- A number. Zero has no sign. -/
inductive Number where
  | integer (value : Int)
  | float (negative : Bool) (magnitude : Binary64)
  | infinite (negative : Bool)
  | notANumber
  deriving DecidableEq, Repr

/-- What a document means. -/
inductive Value where
  | null
  | bool (value : Bool)
  | number (value : Number)
  | string (text : String)
  | sequence (items : List Value)
  | mapping (pairs : List (Value × Value))
  | tagged (tag : String) (value : Value)

/-! ## Plain scalars -/

def isNullText (s : String) : Bool := ["null", "Null", "NULL", "~"].contains s

def boolOfText? (s : String) : Option Bool :=
  if ["true", "True", "TRUE"].contains s then some true
  else if ["false", "False", "FALSE"].contains s then some false
  else none

/-- Digits with a zero before them, after a sign or without one: these are strings. -/
def hasLeadingZero (s : List Char) : Bool :=
  let digits :=
    match s with
    | '-' :: rest => rest
    | '+' :: rest => rest
    | _ => s
  match digits with
  | '0' :: c :: rest => (c :: rest).all Char.isDigit
  | _ => false

/-- The digits of a natural number in the base that its first characters name, or in base ten. -/
def naturalOfText? : List Char → Option Nat
  | '0' :: 'x' :: digits => natOfDigits? 16 digits
  | '0' :: 'o' :: digits => natOfDigits? 8 digits
  | '0' :: 'b' :: digits => natOfDigits? 2 digits
  | digits => if hasLeadingZero digits then none else natOfDigits? 10 digits

/-- An integer of any size, as plain text. -/
def integerOfText? : List Char → Option Int
  | '+' :: digits => (naturalOfText? digits).map fun n => (n : Int)
  | '-' :: digits => (naturalOfText? digits).map fun n => -(n : Int)
  | digits => (naturalOfText? digits).map fun n => (n : Int)

/-- The exponent at the end of a decimal: none at all, or a letter, a sign or none, and digits. -/
def exponentOfText? (s : List Char) : Option Int :=
  let value (digits : List Char) : Option Int := (natOfDigits? 10 digits).map fun n => (n : Int)
  let signed (rest : List Char) : Option Int :=
    match rest with
    | '+' :: digits => value digits
    | '-' :: digits => (value digits).map fun n => -n
    | digits => value digits
  match s with
  | [] => some 0
  | 'e' :: rest => signed rest
  | 'E' :: rest => signed rest
  | _ => none

/-- The magnitude of a decimal: digits with a point or without, and an exponent or none. -/
def magnitudeOfText? (s : List Char) : Option Binary64 := do
  let whole := s.takeWhile Char.isDigit
  let afterWhole := s.dropWhile Char.isDigit
  let (fraction, afterFraction) :=
    match afterWhole with
    | '.' :: rest => (rest.takeWhile Char.isDigit, rest.dropWhile Char.isDigit)
    | _ => ([], afterWhole)
  if whole.isEmpty && fraction.isEmpty then none
  let exponent ← exponentOfText? afterFraction
  Binary64.ofDecimal (decimalValue (whole ++ fraction)) (exponent - (fraction.length : Int))

/-- A float, as plain text. A decimal beyond all doubles is none. -/
def floatOfText? (s : List Char) : Option Number :=
  let infinity (rest : List Char) : Bool :=
    [".inf", ".Inf", ".INF"].contains (String.ofList rest)
  let finite (negative : Bool) (rest : List Char) : Option Number :=
    (magnitudeOfText? rest).map fun m => .float (negative && m.significand != 0) m
  match s with
  | '+' :: rest => if infinity rest then some (.infinite false) else finite false rest
  | '-' :: rest => if infinity rest then some (.infinite true) else finite true rest
  | _ =>
      if infinity s then some (.infinite false)
      else if [".nan", ".NaN", ".NAN"].contains (String.ofList s) then some .notANumber
      else finite false s

/-- An integer has a value if it fits into 64 bits, and none if it only fits into 128. -/
def integerValue? (n : Int) : Option (Option Value) :=
  if minInt64 ≤ n && n < twoTo 64 then some (some (.number (.integer n)))
  else if -(twoTo 127 : Int) ≤ n && n < twoTo 128 then some none
  else none

/-- A number, as plain text; the inner option is empty for an integer that is too large. -/
def integerScalar? (s : String) : Option (Option Value) :=
  (integerOfText? s.toList).bind integerValue?

/-- What a plain scalar without a tag means. -/
def plainValue (s : String) : Option Value :=
  if s.isEmpty || isNullText s then some .null
  else
    match boolOfText? s with
    | some b => some (.bool b)
    | none =>
        match integerScalar? s with
        | some value => value
        | none =>
            if hasLeadingZero s.toList then some (.string s)
            else some (((floatOfText? s.toList).map Value.number).getD (.string s))

/-- What a scalar means, with its tag in full if it has one that is not local. -/
def scalarValue (tag : Option String) (text : String) (plain : Bool) : Option Value :=
  match tag with
  | none => if plain then plainValue text else some (.string text)
  | some "tag:yaml.org,2002:bool" => (boolOfText? text).map .bool
  | some "tag:yaml.org,2002:int" => (integerScalar? text).bind id
  | some "tag:yaml.org,2002:float" => (floatOfText? text.toList).map .number
  | some "tag:yaml.org,2002:null" => if isNullText text then some .null else none
  | some _ => some (.string text)

/-! ## Equality of keys -/

/-- A tag without the mark it starts with, unless it is the mark alone. Tags are compared in this
form. -/
def tagName (tag : String) : String :=
  match tag.toList with
  | ['!'] => tag
  | '!' :: rest => String.ofList rest
  | _ => tag

mutual

/-- Two values are the same. The order in a mapping does not matter. -/
def Value.same : Value → Value → Bool
  | .null, .null => true
  | .bool a, .bool b => a == b
  | .number a, .number b => a == b
  | .string a, .string b => a == b
  | .sequence as, .sequence bs => sameItems as bs
  | .mapping as, .mapping bs => as.length == bs.length && samePairs as bs
  | .tagged s a, .tagged t b => tagName s == tagName t && a.same b
  | _, _ => false

/-- The values are the same, one by one. -/
def sameItems : List Value → List Value → Bool
  | [], [] => true
  | a :: as, b :: bs => a.same b && sameItems as bs
  | _, _ => false

/-- Every pair of the first list is in the second. -/
def samePairs : List (Value × Value) → List (Value × Value) → Bool
  | [], _ => true
  | (k, v) :: as, bs => (bs.any fun (key, value) => k.same key && v.same value) && samePairs as bs

end

/-! ## Resolution -/

mutual

/-- How often a reader of the document's events would be called. -/
def Node.events : Node → Nat
  | .scalar _ _ _ => 1
  | .reference _ => 1
  | .anchored _ node => node.events
  | .sequence _ items => itemEvents items + 2
  | .mapping _ pairs => pairEvents pairs + 2

def itemEvents : List Node → Nat
  | [] => 0
  | item :: rest => item.events + itemEvents rest

def pairEvents : List (Node × Node) → Nat
  | [] => 0
  | (key, value) :: rest => key.events + value.events + pairEvents rest

end

mutual

/-- The nodes that have been given slots, in the order in which they start. -/
def Node.slots : Node → List (Nat × Node)
  | .scalar _ _ _ => []
  | .reference _ => []
  | .anchored slot node => (slot, node) :: node.slots
  | .sequence _ items => itemSlots items
  | .mapping _ pairs => pairSlots pairs

/-- The nodes in items that have been given slots. -/
def itemSlots : List Node → List (Nat × Node)
  | [] => []
  | item :: rest => item.slots ++ itemSlots rest

/-- The nodes in keys and values that have been given slots. -/
def pairSlots : List (Node × Node) → List (Nat × Node)
  | [] => []
  | (key, value) :: rest => key.slots ++ value.slots ++ pairSlots rest

end

/-- What aliases stand for, and how many may still be followed. -/
structure Resolver where
  slots : List (Nat × Node)
  aliases : Nat

/-- A step that may follow aliases, or finds the document not well formed. -/
abbrev Resolve := StateT Resolver Option

def target : Node → Resolve Node
  | .anchored _ node => pure node
  | .reference slot => fun r =>
      if r.aliases = 0 then none
      else (r.slots.lookup slot).map fun node => (node, { r with aliases := r.aliases - 1 })
  | node => pure node

/-- A local tag, and otherwise a tag in full. -/
def localTag? (tag : Option String) : Option String := tag.filter fun t => t.toList.head? == some '!'

/-- The value under its local tag, if it has one. The tag loses the mark it starts with. -/
def withTag (tag : Option String) (value : Value) : Value :=
  match localTag? tag with
  | some t => .tagged (tagName t) value
  | none => value

/-- A mapping in which no two keys are the same. -/
def distinctKeys : List (Value × Value) → Bool
  | [] => true
  | (key, _) :: rest => (rest.all fun (other, _) => !key.same other) && distinctKeys rest

/-- What a node means, with at most the given number of collections one in another. -/
def Node.value : Nat → Node → Resolve Value
  | depth, node => do
      match ← target node with
      | .scalar tag text plain =>
          let standard := if (localTag? tag).isSome then none else tag
          return withTag tag (← (scalarValue standard text plain : Option Value))
      | .sequence tag items =>
          match depth with
          | 0 => failure
          | depth + 1 => return withTag tag (.sequence (← items.mapM (Node.value depth)))
      | .mapping tag pairs =>
          match depth with
          | 0 => failure
          | depth + 1 =>
              let pairs ← pairs.mapM fun (key, value) => do
                return (← Node.value depth key, ← Node.value depth value)
              if distinctKeys pairs then return withTag tag (.mapping pairs) else failure
      | _ => failure

/-- What a document means, if it is well formed. -/
def Value.parse? (text : String) : Option Value := do
  let root ← Node.ofText? text
  let resolver : Resolver := { slots := root.slots.reverse, aliases := 100 * root.events }
  return (← (root.value 128).run resolver).1

end FleetWatch.Yaml
