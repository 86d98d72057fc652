/-! # Help texts

What the command line answers when help is asked for.
-/

namespace FleetWatch.CommandLine

def linesText (lines : List String) : String := String.join (lines.map fun line => line ++ "\n")

def generalHelp : String := linesText [
  "Query and exercise the fleet status service",
  "",
  "Usage: fleet-cli [OPTIONS] <COMMAND>",
  "",
  "Commands:",
  "  resources   List every tracked resource",
  "  get         Show one resource with its sub-resources",
  "  deploying   Mark a resource as deploying, or clear the flag with --done",
  "  format      Render a status string as a display label",
  "  aggregate   Aggregate container status strings offline",
  "  exclusions  List the services a Compose file excludes from health checks",
  "  help        Print this message or the help of the given subcommand(s)",
  "",
  "Options:",
  "  -u, --url <URL>  [default: http://localhost:8000]",
  "  -k, --key <KEY>  [env: FLEET_STATUS_API_KEY=] [default: CHANGE_ME_IN_PRODUCTION]",
  "  -h, --help       Print help"]

/-- The last line on a command without options of its own. -/
def helpOption : List String := ["Options:", "  -h, --help  Print help"]

def commandHelp : String → String
  | "resources" => linesText (["List every tracked resource", "",
      "Usage: fleet-cli resources", ""] ++ helpOption)
  | "get" => linesText (["Show one resource with its sub-resources", "",
      "Usage: fleet-cli get <KIND> <ID>", "", "Arguments:", "  <KIND>  ", "  <ID>    ", ""] ++
      helpOption)
  | "deploying" => linesText ["Mark a resource as deploying, or clear the flag with --done", "",
      "Usage: fleet-cli deploying [OPTIONS] <KIND> <ID>", "", "Arguments:", "  <KIND>  ",
      "  <ID>    ", "", "Options:", "      --done  ", "  -h, --help  Print help"]
  | "format" => linesText (["Render a status string as a display label", "",
      "Usage: fleet-cli format <STATUS>", "", "Arguments:", "  <STATUS>  ", ""] ++ helpOption)
  | "aggregate" => linesText ["Aggregate container status strings offline", "",
      "Usage: fleet-cli aggregate [OPTIONS] <STATUSES>...", "", "Arguments:", "  <STATUSES>...  ",
      "", "Options:", "      --max-restart-count <MAX_RESTART_COUNT>  [default: 0]",
      "  -h, --help                                   Print help"]
  | "exclusions" => linesText (["List the services a Compose file excludes from health checks", "",
      "Usage: fleet-cli exclusions <COMPOSE_FILE>", "", "Arguments:", "  <COMPOSE_FILE>  ", ""] ++
      helpOption)
  | "help" => linesText ["Print this message or the help of the given subcommand(s)", "",
      "Usage: fleet-cli help [COMMAND]...", "", "Arguments:",
      "  [COMMAND]...  Print help for the subcommand(s)"]
  | _ => generalHelp

end FleetWatch.CommandLine
