import FleetWatch.Text.LetterCase

/-! # Requests

A request with the parts that can be wrong about it: the method and the names of headers are
tokens, and the values of headers hold no control characters but the tab.
-/

namespace FleetWatch.Http

def isTokenChar (c : Char) : Bool :=
  c.isAlphanum || "!#$%&'*+-.^_\x60|~".toList.contains c

def isToken (s : String) : Bool := !s.isEmpty && s.toList.all isTokenChar

/-- A character that a header value may hold. -/
def isValueChar (c : Char) : Bool := (32 ≤ c.toNat && c.toNat ≠ 127) || c == '\t'

/-- A character of header values that are read as text. -/
def isVisible (c : Char) : Bool := (32 ≤ c.toNat && c.toNat < 127) || c == '\t'

/-- A request. -/
structure Request where
  method : String
  /-- The target, as it stands in the request line. -/
  target : String
  headers : List (String × String) := []
  body : String := ""
  deriving Repr

namespace Request

def isWellFormed (r : Request) : Bool :=
  isToken r.method &&
    r.headers.all fun (name, value) => isToken name && value.toList.all isValueChar

def normalName (name : String) : List Char := Text.lowerAscii name.toList

/-- The value of the first header with the given name, which is compared without regard to
case. -/
def header? (r : Request) (name : String) : Option String :=
  (r.headers.find? fun h => normalName h.1 == normalName name).map Prod.snd

/-- The value of the first header with the given name, if it can be read as text. -/
def textHeader? (r : Request) (name : String) : Option String :=
  (r.header? name).filter fun value => value.toList.all isVisible

/-- The token that the request is authorized by: what follows `Bearer `, if anything does. -/
def bearer? (r : Request) : Option String :=
  (r.textHeader? "authorization").bind fun value =>
    let scheme := "Bearer ".toList
    let token := value.toList.drop scheme.length
    if scheme.isPrefixOf value.toList && !token.isEmpty then some (String.ofList token) else none

end Request

end FleetWatch.Http
