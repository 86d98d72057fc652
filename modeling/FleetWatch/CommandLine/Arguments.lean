import FleetWatch.Number.Digits
import FleetWatch.Number.Width
import FleetWatch.Text.Fields

/-! # Arguments

How the arguments of a command are told apart: options with and without a value, and the rest in
their order. What starts with a hyphen is an option unless it stands after `--`, so it is no value
of an option either; a hyphen alone is an ordinary argument. The first fault decides, and a request
for help before any fault is answered.
-/

namespace FleetWatch.CommandLine

/-- Why there is no command to run. -/
inductive Stop where
  /-- Help is asked for, on one command or on all. -/
  | help (topic : Option String)
  /-- The arguments are not understood. -/
  | usage
  deriving DecidableEq, Repr

/-- What a command takes. -/
structure Shape where
  name : String
  /-- Its options without a value. -/
  flags : List String := []
  /-- Its options with a value, and which values they take. -/
  options : List (String × (String → Bool)) := []
  /-- How many other arguments there may be, if that is limited. -/
  most : Option Nat := none
  /-- Which other arguments are taken. -/
  takes : String → Bool := fun _ => true

/-- The arguments of a command, told apart. -/
structure Arguments where
  flags : List String := []
  options : List (String × String) := []
  others : List String := []
  deriving Repr

/-- What an argument looks like. -/
inductive Form where
  /-- The end of options. -/
  | divider
  /-- An option by its long name, with a value attached or none. -/
  | long (name : String) (value : Option String)
  /-- Options by their letters. -/
  | letters (cs : List Char)
  | other

def Form.of (arg : String) : Form :=
  match arg.toList with
  | ['-', '-'] => .divider
  | '-' :: '-' :: rest =>
      match Text.cut '=' rest with
      | some (name, value) => .long (String.ofList name) (some (String.ofList value))
      | none => .long (String.ofList rest) none
  | '-' :: c :: rest => .letters (c :: rest)
  | _ => .other

/-- The argument can be the value of the option before it. -/
def canBeValue (arg : String) : Bool :=
  match Form.of arg with
  | .other => true
  | _ => false

namespace Arguments

/-- The arguments with one more that is no option. -/
def addOther (shape : Shape) (a : Arguments) (arg : String) : Except Stop Arguments :=
  let full := shape.most.any fun most => most ≤ a.others.length
  if full || !shape.takes arg then .error .usage else .ok { a with others := a.others ++ [arg] }

/-- The arguments with an option and its value; an option may be given once. -/
def addOption (shape : Shape) (a : Arguments) (name value : String) : Except Stop Arguments :=
  match shape.options.lookup name with
  | some valid =>
      if (a.options.lookup name).isSome || !valid value then .error .usage
      else .ok { a with options := a.options ++ [(name, value)] }
  | none => .error .usage

/-- The arguments with an option that has no value; it may be given once. -/
def addFlag (shape : Shape) (a : Arguments) (name : String) : Except Stop Arguments :=
  if name = "help" then .error (.help (some shape.name))
  else if shape.flags.contains name && !a.flags.contains name then
    .ok { a with flags := a.flags ++ [name] }
  else .error .usage

def parse (shape : Shape) : Arguments → List String → Except Stop Arguments
  | a, [] => .ok a
  | a, arg :: rest =>
      match Form.of arg with
      | .divider => rest.foldlM (addOther shape) a
      | .letters cs => .error (if cs.head? == some 'h' then .help (some shape.name) else .usage)
      | .other =>
          match a.addOther shape arg with
          | .ok a => parse shape a rest
          | .error stop => .error stop
      | .long name (some value) =>
          match a.addOption shape name value with
          | .ok a => parse shape a rest
          | .error stop => .error stop
      | .long name none =>
          match (shape.options.lookup name).isSome, rest with
          | true, value :: rest =>
              match if canBeValue value then a.addOption shape name value else .error .usage with
              | .ok a => parse shape a rest
              | .error stop => .error stop
          | true, [] => .error .usage
          | false, rest =>
              match a.addFlag shape name with
              | .ok a => parse shape a rest
              | .error stop => .error stop

end Arguments

def integer64? (s : String) : Option Int :=
  let digits (cs : List Char) : Option Nat :=
    if cs.all Char.isDigit then natOfDigits? 10 cs else none
  let value : Option Int :=
    match s.toList with
    | '-' :: cs => (digits cs).map fun n => -(n : Int)
    | '+' :: cs => (digits cs).map fun n => (n : Int)
    | cs => (digits cs).map fun n => (n : Int)
  value.filter isInt64

end FleetWatch.CommandLine
