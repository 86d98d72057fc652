import FleetWatch.Toml.Scalar

/-! # TOML documents

A document is a list of lines: keys with values, and headers that say which table the lines after
them belong to. Tables that are only passed on the way to others are implicit: a header may make one
of them explicit once. Tables that dotted keys make are dotted: only dotted keys of the same place
may add to them.
-/

namespace FleetWatch.Toml

/-! ## Tables under construction -/

/-- What stands under a key of a table under construction. -/
inductive Item where
  | value (v : Value)
  | table (implicit dotted : Bool) (members : List (String × Item))
  /-- Tables that headers in double brackets make. -/
  | tables (elements : List (List (String × Item)))

abbrev Members := List (String × Item)

namespace Members

/-- The members with the item under a key in place of what was there, or at the end. -/
def put : Members → String → Item → Members
  | [], key, item => [(key, item)]
  | (k, old) :: rest, key, item =>
      if k = key then (key, item) :: rest else (k, old) :: put rest key item

def without (ms : Members) (key : String) : Members := ms.filter (·.1 ≠ key)

/-- Changes the table that a path leads to, and makes the tables on the way that are missing. The
change is told whether the table is dotted. A path of a dotted key passes implicit tables only, and
the last of several tables stands for all. -/
def change {α : Type} (dotted : Bool) (act : Bool → Members → Option (α × Members)) :
    List String → Bool → Members → Option (α × Members)
  | [], isDotted, ms => act isDotted ms
  | key :: path, _, ms =>
      match ms.lookup key with
      | none =>
          (change dotted act path dotted []).map fun (a, inner) =>
            (a, ms.put key (.table true dotted inner))
      | some (.table implicit d inner) =>
          if dotted && !implicit then none
          else
            (change dotted act path d inner).map fun (a, inner) =>
              (a, ms.put key (.table implicit d inner))
      | some (.tables elements) =>
          match elements.reverse with
          | [] => none
          | last :: before =>
              (change dotted act path false last).map fun (a, last) =>
                (a, ms.put key (.tables (last :: before).reverse))
      | some (.value _) => none

/-- Adds a value under a key with one part or more. Keys of one part and of several do not mix in a
table, and no key is given twice. -/
def addValue (ms : Members) (key : List String) (v : Value) : Option Members :=
  let path := key.dropLast
  let last := key.getLastD ""
  let add (isDotted : Bool) (inner : Members) : Option (Unit × Members) :=
    if isDotted == path.isEmpty || (inner.lookup last).isSome then none
    else some ((), inner ++ [(last, .value v)])
  (change true add path false ms).map Prod.snd

end Members

mutual

/-- The value of what stands under a key. -/
def Item.toValue : Item → Value
  | .value v => v
  | .table _ _ members => .table (membersValue members)
  | .tables elements => .array (elementsValue elements)

def membersValue : List (String × Item) → List (String × Value)
  | [] => []
  | (key, item) :: rest => (key, item.toValue) :: membersValue rest

def elementsValue : List (List (String × Item)) → List Value
  | [] => []
  | members :: rest => .table (membersValue members) :: elementsValue rest

end

/-! ## Values -/

mutual

/-- A value, with fewer than so many collections one in another. -/
def value : Nat → Nat → Read Value
  | 0, _, _ => none
  | steps + 1, depth, s =>
      match s with
      | '"' :: _ => (string '"' s).map fun (t, rest) => (.string t, rest)
      | '\'' :: _ => (string '\'' s).map fun (t, rest) => (.string t, rest)
      | '[' :: rest =>
          match depth with
          | 0 => none
          | depth + 1 => (arrayItems steps depth rest).map fun (vs, rest) => (.array vs, rest)
      | '{' :: rest =>
          match depth with
          | 0 => none
          | depth + 1 =>
              match skipBlanks rest with
              | '}' :: rest => some (.table [], rest)
              | rest =>
                  (inlineMembers steps depth [] rest).map fun (ms, rest) =>
                    (.table (membersValue ms), rest)
      | _ => scalar s

/-- The items of an array up to its end. A comma may stand after the last. -/
def arrayItems : Nat → Nat → Read (List Value)
  | 0, _, _ => none
  | steps + 1, depth, s =>
      match skipGap (s.length + 1) s with
      | none => none
      | some (']' :: rest) => some ([], rest)
      | some s =>
          match value steps depth s with
          | none => none
          | some (v, s) =>
              match skipGap (s.length + 1) s with
              | some (',' :: rest) =>
                  (arrayItems steps depth rest).map fun (vs, rest) => (v :: vs, rest)
              | some (']' :: rest) => some ([v], rest)
              | _ => none

/-- The members of a table in braces up to its end, all on one line. -/
def inlineMembers : Nat → Nat → Members → Read Members
  | 0, _, _, _ => none
  | steps + 1, depth, ms, s =>
      match key s with
      | some (k, '=' :: rest) =>
          match value steps depth (skipBlanks rest) with
          | none => none
          | some (v, rest) =>
              match ms.addValue k v, skipBlanks rest with
              | some ms, ',' :: rest => inlineMembers steps depth ms rest
              | some ms, '}' :: rest => some (ms, rest)
              | _, _ => none
      | _ => none

end

/-! ## Lines -/

/-- A document that has been read in part: the tables that are finished, and the one that lines are
added to now, with its place. -/
structure Draft where
  root : Members := []
  current : Members := []
  path : List String := []
  /-- The place holds several tables. -/
  isElement : Bool := false

namespace Draft

def finish (d : Draft) : Option Members :=
  match d.path.getLast? with
  | none => some d.current
  | some last =>
      let place (_ : Bool) (ms : Members) : Option (Unit × Members) :=
        match d.isElement, ms.lookup last with
        | true, some (.tables elements) =>
            some ((), ms.put last (.tables (elements ++ [d.current])))
        | true, none => some ((), ms.put last (.tables [d.current]))
        | false, none => some ((), ms.put last (.table false false d.current))
        | _, _ => none
      (Members.change false place d.path.dropLast false d.root).map Prod.snd

/-- Starts the table of a header. An implicit table keeps what is in it. -/
def startTable (d : Draft) (path : List String) : Option Draft := do
  let root ← d.finish
  let last := path.getLastD ""
  let take (_ : Bool) (ms : Members) : Option (Members × Members) :=
    match ms.lookup last with
    | none => some ([], ms)
    | some (.table true false inner) => some (inner, ms.without last)
    | _ => none
  let (current, root) ← Members.change false take path.dropLast false root
  return { root, current, path }

/-- Starts another table of a header in double brackets. -/
def startElement (d : Draft) (path : List String) : Option Draft := do
  let root ← d.finish
  let last := path.getLastD ""
  let check (_ : Bool) (ms : Members) : Option (Unit × Members) :=
    match ms.lookup last with
    | none => some ((), ms)
    | some (.tables _) => some ((), ms)
    | _ => none
  let (_, root) ← Members.change false check path.dropLast false root
  return { root, path, isElement := true }

/-- A line with a header, at its bracket. -/
def header (d : Draft) (s : List Char) : Option (Draft × List Char) :=
  match s with
  | '[' :: '[' :: rest =>
      match key rest with
      | some (path, ']' :: ']' :: rest) => do
          return (← d.startElement path, ← restOfLine? rest)
      | _ => none
  | _ =>
      match key (s.drop 1) with
      | some (path, ']' :: rest) => do return (← d.startTable path, ← restOfLine? rest)
      | _ => none

/-- A line with a key and its value. -/
def keyValue (d : Draft) (s : List Char) : Option (Draft × List Char) :=
  match key s with
  | some (k, '=' :: rest) => do
      let (v, rest) ← value (2 * rest.length + 4) 79 (skipBlanks rest)
      let current ← d.current.addValue k v
      return ({ d with current }, ← restOfLine? rest)
  | _ => none

def line (d : Draft) (s : List Char) : Option (Draft × List Char) :=
  match s with
  | '#' :: _ => (restOfLine? s).map fun rest => (d, rest)
  | '\n' :: _ => (lineEnd? s).map fun rest => (d, rest)
  | '\r' :: _ => (lineEnd? s).map fun rest => (d, rest)
  | '[' :: _ => d.header s
  | _ => d.keyValue s

/-- Adds all lines to a draft; each takes a character at least. -/
def lines : Nat → Draft → List Char → Option Draft
  | 0, _, _ => none
  | steps + 1, d, s =>
      match skipBlanks s with
      | [] => some d
      | s =>
          match d.line s with
          | some (d, rest) => lines steps d rest
          | none => none

end Draft

/-- The table that a document writes, if it is well formed. A byte order mark may stand at its
start. -/
def parse? (text : String) : Option Value :=
  let s :=
    match text.toList with
    | c :: rest => if c.toNat = 0xFEFF then rest else c :: rest
    | [] => []
  ((Draft.lines (s.length + 1) {} s).bind Draft.finish).map fun ms => .table (membersValue ms)

end FleetWatch.Toml
