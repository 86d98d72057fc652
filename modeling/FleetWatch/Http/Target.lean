import FleetWatch.Number.Digits
import FleetWatch.Text.Utf8

/-! # Request targets

The path of a request target, which is a path with or without a query, an absolute URI, or an
authority alone, and the percent encoding of its segments.
-/

namespace FleetWatch.Http

/-- A character of a path. Those beyond ASCII are admitted as they are. -/
def isPathChar (c : Char) : Bool :=
  let n := c.toNat
  n == 0x21 || (0x24 ≤ n && n ≤ 0x3B) || n == 0x3D || (0x40 ≤ n && n ≤ 0x5F) ||
    (0x61 ≤ n && n ≤ 0x7A) || n == 0x7C || 0x7E ≤ n || c == '"' || c == '{' || c == '}'

def isQueryChar (c : Char) : Bool :=
  let n := c.toNat
  n == 0x21 || (0x24 ≤ n && n ≤ 0x3B) || n == 0x3D || 0x3F ≤ n

/-- The path before a query and a fragment, both of which may be missing. -/
def pathPart? (s : List Char) : Option (List Char) :=
  let isPathEnd (c : Char) : Bool := c == '?' || c == '#'
  let path := s.takeWhile fun c => !isPathEnd c
  let query :=
    match s.dropWhile fun c => !isPathEnd c with
    | '?' :: rest => rest.takeWhile (· != '#')
    | _ => []
  if path.all isPathChar && query.all isQueryChar then some path else none

def isSchemeChar (c : Char) : Bool := c.isAlphanum || "+-.~".toList.contains c

/-- A character of an authority, apart from the percent sign. -/
def isAuthorityChar (c : Char) : Bool :=
  c.isAlphanum || "!$&'()*+,-.:;=@[]_~".toList.contains c

/-- What has been seen of an authority. -/
structure Authority where
  colons : Nat := 0
  opened : Bool := false
  closed : Bool := false
  percent : Bool := false
  /-- The last character is the sign after a user's name. -/
  endsAtUser : Bool := false

namespace Authority

/-- One more character of an authority. Colons and percent signs do not count before the sign after
a user's name or inside brackets. -/
def step (a : Authority) (c : Char) : Option Authority :=
  let a := { a with endsAtUser := false }
  match c with
  | ':' => if 8 ≤ a.colons then none else some { a with colons := a.colons + 1 }
  | '[' => if a.percent || a.opened then none else some { a with opened := true }
  | ']' =>
      if !a.opened || a.closed then none
      else some { a with closed := true, colons := 0, percent := false }
  | '@' => some { a with endsAtUser := true, colons := 0, percent := false }
  | '%' => some { a with percent := true }
  | c => if isAuthorityChar c then some a else none

def isComplete (a : Authority) : Bool :=
  a.opened == a.closed && a.colons ≤ 1 && !a.endsAtUser && !a.percent

end Authority

/-- What follows an authority, and whether it has any characters. -/
def afterAuthority? (s : List Char) : Option (Bool × List Char) :=
  let isEnd (c : Char) : Bool := c == '/' || c == '?' || c == '#'
  let text := s.takeWhile fun c => !isEnd c
  match text.foldlM Authority.step {} with
  | some a =>
      if a.isComplete then some (!text.isEmpty, s.dropWhile fun c => !isEnd c) else none
  | none => none

/-- What follows a scheme, if the target has one. -/
def afterScheme? (s : List Char) : Option (Nat × List Char) :=
  match s.dropWhile isSchemeChar with
  | ':' :: '/' :: '/' :: rest => some ((s.takeWhile isSchemeChar).length, rest)
  | _ => none

/-- The path of a target, if the target is well formed. An absolute URI has at least the path `/`,
and an authority alone has an empty one. -/
def targetPath? (target : String) : Option (List Char) :=
  match target.toList with
  | [] => none
  | '/' :: rest => if 65534 < target.utf8ByteSize then none else pathPart? ('/' :: rest)
  | s =>
      if 65534 < target.utf8ByteSize then none
      else
        match afterScheme? s with
        | some (length, rest) =>
            if 64 < length then none
            else
              match afterAuthority? rest with
              | some (true, rest) =>
                  (pathPart? rest).map fun path => if path.isEmpty then ['/'] else path
              | _ => none
        | none =>
            match afterAuthority? s with
            | some (_, []) => some []
            | _ => none

/-- The bytes of a segment without its percent encoding. A percent sign that no two hexadecimal
digits follow stands for itself. -/
def percentDecoded : List UInt8 → List UInt8
  | [] => []
  | 0x25 :: a :: b :: rest =>
      match natOfDigits? 16 [Char.ofNat a.toNat, Char.ofNat b.toNat] with
      | some n => n.toUInt8 :: percentDecoded rest
      | none => 0x25 :: percentDecoded (a :: b :: rest)
  | byte :: rest => byte :: percentDecoded rest

/-- The text of a segment, if its bytes are UTF-8. -/
def segmentText? (segment : List Char) : Option String :=
  (Text.decodeUtf8? (percentDecoded (Text.utf8Bytes (String.ofList segment)))).map String.ofList

end FleetWatch.Http
