import FleetWatch.Api
import FleetWatch.CommandLine.Arguments
import FleetWatch.CommandLine.Help
import FleetWatch.Compose
import FleetWatch.Http.Url
import FleetWatch.Status.Aggregate
import FleetWatch.Status.Label

/-! # The command line

Commands that ask the service over HTTP, and commands that work on their arguments alone. The code
is 2 where the arguments are not understood and 1 where a command fails; an answer of the service
that is no success is told as an error, but it is not a failure of the command.
-/

namespace FleetWatch.CommandLine

/-- What the command line can do. -/
inductive Command where
  | resources
  | get (kind id : String)
  /-- Mark a resource as being deployed, or as done. -/
  | deploying (kind id : String) (on : Bool)
  | format (status : String)
  | aggregate (statuses : List String) (maxRestarts : Int)
  | exclusions (file : String)
  deriving DecidableEq, Repr

/-- A command with the service that it asks. -/
structure Invocation where
  url : String := "http://localhost:8000"
  key : String := "CHANGE_ME_IN_PRODUCTION"
  command : Command
  deriving DecidableEq, Repr

def shapes : List Shape := [
  { name := "resources", most := some 0 },
  { name := "get", most := some 2 },
  { name := "deploying", flags := ["done"], most := some 2 },
  { name := "format", most := some 1 },
  { name := "aggregate"
    options := [("max-restart-count", fun s => (integer64? s).isSome)] },
  { name := "exclusions", most := some 1, takes := fun s => !s.isEmpty }]

/-- The command of a name with its arguments. -/
def Command.of? (name : String) (a : Arguments) : Option Command :=
  match name, a.others with
  | "resources", [] => some .resources
  | "get", [kind, id] => some (.get kind id)
  | "deploying", [kind, id] => some (.deploying kind id (!a.flags.contains "done"))
  | "format", [status] => some (.format status)
  | "aggregate", first :: more =>
      let count := (a.options.lookup "max-restart-count").bind integer64?
      some (.aggregate (first :: more) (count.getD 0))
  | "exclusions", [file] => some (.exclusions file)
  | _, _ => none

/-- The command that a name and its arguments give. -/
def command (name : String) (args : List String) : Except Stop Command :=
  match shapes.find? (·.name == name) with
  | none => .error .usage
  | some shape =>
      match Arguments.parse shape {} args with
      | .error stop => .error stop
      | .ok a =>
          match Command.of? name a with
          | some c => .ok c
          | none => .error .usage

/-- What follows a command for help: at most the name of a command. -/
def helpTopic : List String → Stop
  | [] => .help none
  | [name] =>
      if name == "help" || shapes.any (·.name == name) then .help (some name) else .usage
  | _ => .usage

/-- The options before the command. -/
structure Leading where
  url : Option String := none
  key : Option String := none

/-- The options with one more, which may be given once. -/
def Leading.add (l : Leading) (letter : Char) (value : String) : Option Leading :=
  match letter, l.url, l.key with
  | 'u', none, _ => some { l with url := some value }
  | 'k', _, none => some { l with key := some value }
  | _, _, _ => none

/-- The letter of an option by its long name. -/
def letterOf? : String → Option Char
  | "url" => some 'u'
  | "key" => some 'k'
  | _ => none

/-- An option before the command: its letter and its value, if that is attached. -/
def leadingOption : Form → Except Stop (Option (Char × Option String))
  | .other => .ok none
  | .divider => .error .usage
  | .long "help" none => .error (.help none)
  | .long name value =>
      match letterOf? name with
      | some letter => .ok (some (letter, value))
      | none => .error .usage
  | .letters ('h' :: _) => .error (.help none)
  | .letters (c :: rest) =>
      if c == 'u' || c == 'k' then
        match rest with
        | [] => .ok (some (c, none))
        | '=' :: value => .ok (some (c, some (String.ofList value)))
        | value => .ok (some (c, some (String.ofList value)))
      else .error .usage
  | .letters [] => .error .usage

def parseAfter : Leading → List String → Except Stop Invocation
  | _, [] => .error .usage
  | l, arg :: rest =>
      match leadingOption (Form.of arg) with
      | .error stop => .error stop
      | .ok none =>
          if arg = "help" then .error (helpTopic rest)
          else
            (command arg rest).map fun c =>
              let plain : Invocation := { command := c }
              { plain with url := l.url.getD plain.url, key := l.key.getD plain.key }
      | .ok (some (letter, some value)) =>
          match l.add letter value with
          | some l => parseAfter l rest
          | none => .error .usage
      | .ok (some (letter, none)) =>
          match rest with
          | [] => .error .usage
          | value :: rest =>
              match if canBeValue value then l.add letter value else none with
              | some l => parseAfter l rest
              | none => .error .usage

def parse (args : List String) : Except Stop Invocation := parseAfter {} args

/-! ## Running -/

/-- What a run of the command line comes to. -/
structure Output where
  code : Nat := 0
  stdout : String := ""
  stderr : String := ""
  deriving DecidableEq, Repr

def Output.failure (reason : String) : Output := { code := 1, stderr := "Error: " ++ reason ++ "\n" }

/-- What is written where there is no command to run. -/
def Stop.output : Stop → Output
  | help none => { stdout := generalHelp }
  | help (some topic) => { stdout := commandHelp topic }
  | usage => { code := 2, stderr := generalHelp }

/-- How the answer of the service is shown. -/
def Output.ofResponse (r : Api.Response) : Output :=
  if 200 ≤ r.code && r.code < 300 then
    match r.body with
    | .json value => { stdout := value.sorted.pretty ++ "\n" }
    | _ => Output.failure "the answer is not JSON"
  else
    { stderr :=
        "Error: API returned status " ++ String.ofList (Json.numText r.code) ++ " " ++
          Api.reason r.code ++ "\nResponse: " ++ r.body.text ++ "\n" }

/-- What a command does: it is done with an output, or it asks the service. -/
inductive Action where
  | done (output : Output)
  | ask (request : Http.Request)

/-- The header that authorizes a request. Blanks at the end of a value are not sent. -/
def authorization (key : String) : String × String :=
  ("authorization",
    String.ofList (Text.dropEnd (fun c => c == ' ' || c == '\t') ("Bearer " ++ key).toList))

def resourcePath (kind id : String) : String := "/api/resources/" ++ kind ++ "/" ++ id

/-- What a command does. `file` gives the text of a file that can be read. -/
def action (file : String → Option String) (i : Invocation) : Action :=
  match i.command with
  | .format status => .done { stdout := labelOf status ++ "\n" }
  | .aggregate statuses maxRestarts =>
      .done { stdout := (Status.ofTexts statuses maxRestarts).text ++ "\n" }
  | .exclusions path =>
      match file path with
      | some text => .done { stdout := linesText (ComposeFile.parse text).excluded }
      | none => .done (Output.failure (path ++ " cannot be read"))
  | .resources => .ask { method := "GET", target := "/api/resources" }
  | .get kind id => .ask { method := "GET", target := Http.urlPath (resourcePath kind id) }
  | .deploying kind id on =>
      if i.key.toList.all Http.isValueChar then
        .ask {
          method := "PUT"
          target := Http.urlPath (resourcePath kind id ++ "/deploying")
          headers := [authorization i.key, ("content-type", "application/json")]
          body := (Json.obj [("deploying", .bool on)]).compact }
      else .done (Output.failure "InvalidHeaderValue")

/-- Runs the command line beside a service that answers its requests. -/
def run (file : String → Option String) (f : Fleet) (around : Surroundings)
    (args : List String) : Fleet × Output :=
  match parse args with
  | .error stop => (f, stop.output)
  | .ok i =>
      match action file i with
      | .done output => (f, output)
      | .ask request =>
          match Api.respond f around request with
          | some (f, response) => (f, .ofResponse response)
          | none => (f, Output.failure "the request cannot be sent")

end FleetWatch.CommandLine
