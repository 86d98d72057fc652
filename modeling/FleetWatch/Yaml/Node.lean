import FleetWatch.Yaml.Token

/-! # Nodes of a document

The tokens of a document as a tree. Each anchor is given a slot, and an alias refers to a slot, so
that what an alias stands for is the last node that was given its slot. The slot of an anchor is
the number of names used before it: an anchor whose name is used again shares its slot with the
next new name.
-/

namespace FleetWatch.Yaml

/-- A node of a document. -/
inductive Node where
  | scalar (tag : Option String) (text : String) (plain : Bool)
  | sequence (tag : Option String) (items : List Node)
  | mapping (tag : Option String) (pairs : List (Node × Node))
  | reference (slot : Nat)
  | anchored (slot : Nat) (node : Node)

namespace Node

def empty : Node := scalar none "" true

/-- What nodes are built from: the tokens that are left, the start of tags for each handle, and
the slot that each name of an anchor has now. -/
structure Source where
  tokens : List Token
  handles : List (String × String) := []
  anchors : List (String × Nat) := []

/-- A step that takes tokens, or finds them not well formed. -/
abbrev Build := StateT Source Option

/-- The next token is one of those given. -/
def nextIn (expected : List Token) : Build Bool := fun s =>
  some (s.tokens.head?.any expected.contains, s)

def skip : Build Unit := fun s => some ((), { s with tokens := s.tokens.tail })

/-- Passes over the next token if it is the one given, and says whether it was. -/
def takeIf (t : Token) : Build Bool := fun s =>
  if s.tokens.head? == some t then some (true, { s with tokens := s.tokens.tail })
  else some (false, s)

/-- Passes over the given token, which must be the next. -/
def expect (t : Token) : Build Unit := do
  if !(← takeIf t) then failure

/-- The name of an anchor, if it is next. -/
def anchorName? : Build (Option String) := fun s =>
  match s.tokens with
  | .anchor name :: rest => some (some name, { s with tokens := rest })
  | _ => some (none, s)

def tagToken? : Build (Option (String × String)) := fun s =>
  match s.tokens with
  | .tag handle suffix :: rest => some (some (handle, suffix), { s with tokens := rest })
  | _ => some (none, s)

/-- The anchor and the tag of a node, in either order. -/
def properties : Build (Option String × Option (String × String)) := do
  match ← anchorName? with
  | some name => return (some name, ← tagToken?)
  | none =>
      match ← tagToken? with
      | some tag => return (← anchorName?, some tag)
      | none => return (none, none)

/-- A tag in full: its handle stands for the start of it. -/
def fullTag (handle suffix : String) : Build String := fun s =>
  if handle.isEmpty then some (suffix, s)
  else (s.handles.lookup handle).map fun lead => (lead ++ suffix, s)

/-- Gives a slot to the name of an anchor. -/
def newSlot (name : String) : Build Nat := fun s =>
  let slot := s.anchors.length
  some (slot, { s with anchors := (name, slot) :: s.anchors.filter (·.1 ≠ name) })

def slotOf (name : String) : Build Nat := fun s =>
  (s.anchors.lookup name).map fun slot => (slot, s)

/-- The tokens that open a collection, and those after which a plain scalar or an alias stands. -/
inductive Start where
  | scalar (text : String) (plain : Bool)
  | reference (name : String)
  | collection (opening : Token)

/-- How the node that is next starts. A hyphen starts one where a list may stand without being
indented, and only within brackets no block may start. -/
def start? (block indentless : Bool) : Build (Option Start) := fun s =>
  match s.tokens with
  | .scalar text plain :: rest => some (some (.scalar text plain), { s with tokens := rest })
  | .reference name :: rest => some (some (.reference name), { s with tokens := rest })
  | .openSequence :: rest => some (some (.collection .openSequence), { s with tokens := rest })
  | .openMapping :: rest => some (some (.collection .openMapping), { s with tokens := rest })
  | .entry :: _ => some (if indentless then some (.collection .entry) else none, s)
  | .blockSequence :: rest =>
      if block then some (some (.collection .blockSequence), { s with tokens := rest })
      else some (none, s)
  | .blockMapping :: rest =>
      if block then some (some (.collection .blockMapping), { s with tokens := rest })
      else some (none, s)
  | _ => some (none, s)

mutual

/-- A node. `block` admits blocks, and `indentless` a list that is not indented. -/
def read : Nat → Bool → Bool → Build Node
  | 0, _, _ => failure
  | steps + 1, block, indentless => do
      let (anchor, tagToken) ← properties
      let tag ← tagToken.mapM fun (handle, suffix) => fullTag handle suffix
      let slot ← anchor.mapM newSlot
      let node ←
        match ← start? block indentless with
        | some (.scalar text plain) => pure (scalar tag text plain)
        | some (.reference name) =>
            if anchor.isSome || tag.isSome then failure else reference <$> slotOf name
        | some (.collection .entry) => sequence tag <$> listItems steps
        | some (.collection .blockSequence) => sequence tag <$> blockItems steps
        | some (.collection .blockMapping) => mapping tag <$> blockPairs steps
        | some (.collection .openSequence) => sequence tag <$> flowItems steps true
        | some (.collection _) => mapping tag <$> flowPairs steps true
        | none => if anchor.isSome || tag.isSome then pure (scalar tag "" true) else failure
      return match slot with
        | some n => anchored n node
        | none => node

/-- A node, or none where one of the given tokens is next. -/
def readUnless : Nat → List Token → Bool → Bool → Build Node
  | 0, _, _, _ => failure
  | steps + 1, ends, block, indentless => do
      if ← nextIn ends then return empty
      read steps block indentless

/-- The items of a block up to its end. -/
def blockItems : Nat → Build (List Node)
  | 0 => failure
  | steps + 1 => do
      if ← takeIf .entry then
        let item ← readUnless steps [.entry, .blockEnd] true false
        return item :: (← blockItems steps)
      expect .blockEnd
      return []

/-- The items of a list that is not indented. -/
def listItems : Nat → Build (List Node)
  | 0 => failure
  | steps + 1 => do
      if ← takeIf .entry then
        let item ← readUnless steps [.entry, .key, .value, .blockEnd] true false
        return item :: (← listItems steps)
      return []

/-- The keys and values of a block up to its end. -/
def blockPairs : Nat → Build (List (Node × Node))
  | 0 => failure
  | steps + 1 => do
      if ← takeIf .key then
        let key ← readUnless steps [.key, .value, .blockEnd] true true
        let value ←
          if ← takeIf .value then readUnless steps [.key, .value, .blockEnd] true true
          else pure empty
        return (key, value) :: (← blockPairs steps)
      expect .blockEnd
      return []

/-- The items between brackets. A key among them makes a mapping of one pair; where a separator
comes in place of the key, the separator is lost. -/
def flowItems : Nat → Bool → Build (List Node)
  | 0, _ => failure
  | steps + 1, first => do
      if ← takeIf .closeSequence then return []
      if !first then expect .separator
      if ← takeIf .key then
        let key ←
          if ← nextIn [.value, .separator, .closeSequence] then do
            skip
            pure empty
          else read steps false false
        let value ←
          if ← takeIf .value then readUnless steps [.separator, .closeSequence] false false
          else pure empty
        return mapping none [(key, value)] :: (← flowItems steps false)
      if ← takeIf .closeSequence then return []
      let item ← read steps false false
      return item :: (← flowItems steps false)

/-- The keys and values between braces. A key without a mark has no value. -/
def flowPairs : Nat → Bool → Build (List (Node × Node))
  | 0, _ => failure
  | steps + 1, first => do
      if ← takeIf .closeMapping then return []
      if !first then expect .separator
      if ← takeIf .key then
        let key ← readUnless steps [.value, .separator, .closeMapping] false false
        let value ←
          if ← takeIf .value then readUnless steps [.separator, .closeMapping] false false
          else pure empty
        return (key, value) :: (← flowPairs steps false)
      if ← takeIf .closeMapping then return []
      let key ← read steps false false
      return (key, empty) :: (← flowPairs steps false)

end

/-- The directives at the start: the version at most once, and every handle at most once. -/
def directives : Bool → List (String × String) → List Token →
    Option (List (String × String) × List Token)
  | versioned, handles, .version major minor :: rest =>
      if versioned || major != 1 || (minor != 1 && minor != 2) then none
      else directives true handles rest
  | versioned, handles, .tagDirective handle lead :: rest =>
      if (handles.lookup handle).isSome then none
      else directives versioned (handles ++ [(handle, lead)]) rest
  | _, handles, rest => some (handles, rest)

/-- The start of tags for the handles that no directive is about. -/
def defaultHandles : List (String × String) := [("!", "!"), ("!!", "tag:yaml.org,2002:")]

def isDirective : Token → Bool
  | .version _ _ => true
  | .tagDirective _ _ => true
  | _ => false

/-- A whole document: directives with a start marker, or a start marker, or none of both; then one
node, which may be missing after a marker. Nothing may follow but end markers. -/
def document : List Token → Option Node
  | [] => some empty
  | first :: rest => do
      let explicit := isDirective first || first == .documentStart
      let (handles, rest) ← directives false [] (first :: rest)
      let content ←
        if explicit then
          match rest with
          | .documentStart :: rest => some rest
          | _ => none
        else some rest
      let missing :=
        match content with
        | [] => true
        | t :: _ => isDirective t || t == .documentStart || t == .documentEnd
      let source : Source := { tokens := content, handles := handles ++ defaultHandles }
      let (node, source) ←
        if explicit && missing then some (empty, source)
        else (read (4 * content.length + 8) true false).run source
      if (source.tokens.dropWhile (· == .documentEnd)).isEmpty then some node else none

/-- The root node of a document, if the document is well formed. -/
def ofText? (text : String) : Option Node := (Token.ofText? text).bind document

end Node

end FleetWatch.Yaml
