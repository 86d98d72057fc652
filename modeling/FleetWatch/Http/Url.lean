import FleetWatch.Http.Target
import FleetWatch.Text.Fields
import FleetWatch.Text.LetterCase

/-! # Paths of URLs

The path that a URL asks for, from the text after its host: blanks at the end and line breaks
inside are dropped, backslashes are slashes, query and fragment do not count, segments of dots are
resolved, and characters that may not stand in a path are percent-encoded.
-/

namespace FleetWatch.Http

/-- The segment stands for the directory it is in. -/
def isSingleDot (segment : List Char) : Bool :=
  [".", "%2e"].contains (String.ofList (Text.lowerAscii segment))

def isDoubleDot (segment : List Char) : Bool :=
  ["..", ".%2e", "%2e.", "%2e%2e"].contains (String.ofList (Text.lowerAscii segment))

/-- The segments of a path without dots; `above` are those before, the last first. A segment of
dots at the end leaves an empty one. -/
def resolveDots (above : List (List Char)) : List (List Char) → List (List Char)
  | [] => above.reverse
  | segment :: rest =>
      let kept := if isDoubleDot segment then above.tail else above
      if isDoubleDot segment || isSingleDot segment then
        resolveDots (if rest.isEmpty then [] :: kept else kept) rest
      else resolveDots (segment :: above) rest

def percentByte (b : UInt8) : List Char :=
  let digit (n : Nat) : Char := if n < 10 then Char.ofNat (48 + n) else Char.ofNat (55 + n)
  ['%', digit (b.toNat / 16), digit (b.toNat % 16)]

/-- A character as it stands in a path. -/
def pathChar (c : Char) : List Char :=
  if c.toNat ≤ 0x20 || 0x7E < c.toNat || "\"<>\x60\x7b\x7d".toList.contains c then
    (Text.utf8Bytes (String.ofList [c])).flatMap percentByte
  else [c]

/-- The path that a URL asks for, from what follows its host. -/
def urlPath (afterHost : String) : String :=
  let kept := (Text.dropEnd (fun c => c.toNat ≤ 0x20) afterHost.toList).filter
    fun c => c != '\t' && c != '\n' && c != '\r'
  let path := kept.takeWhile fun c => c != '?' && c != '#'
  let slashed := path.map fun c => if c == '\\' then '/' else c
  let segments := resolveDots [] (Text.fieldsOf '/' slashed).tail
  String.ofList (segments.flatMap fun segment => '/' :: segment.flatMap pathChar)

end FleetWatch.Http
