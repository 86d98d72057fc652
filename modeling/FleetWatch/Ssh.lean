import FleetWatch.Container.Inspect
import FleetWatch.Settings
import FleetWatch.Text.Utf8

/-! # Inspection over SSH

The containers of a server are listed by a fixed command that the SSH client runs there. Only the
connection varies from server to server.
-/

namespace FleetWatch

/-- Why the containers of a server are not known. -/
inductive InspectError where
  /-- The client could not be started. -/
  | spawn (server : String) (reason : String)
  /-- The command failed; without a code it was ended by a signal. -/
  | command (server : String) (code : Option Int) (stderr : String)
  | timeout (server : String) (secs : Nat)
  /-- The output could not be read. -/
  | decode (server : String) (fault : Json.Fault)
  deriving Repr

/-- The wording of an error, without what the reader of the output says about it. -/
def InspectError.message : InspectError → String
  | spawn server reason => "failed to run ssh for " ++ server ++ ": " ++ reason
  | command server code stderr =>
      let shown :=
        match code with
        | some n => "Some(" ++ String.ofList (Json.numText n) ++ ")"
        | none => "None"
      "remote command on " ++ server ++ " exited with " ++ shown ++ ": " ++ stderr
  | timeout server secs =>
      "remote command on " ++ server ++ " timed out after " ++
        String.ofList (Json.numText secs) ++ " seconds"
  | decode server _ => "invalid docker inspect output from " ++ server

abbrev Inspector := Server → Except InspectError (List Observation)

namespace Ssh

/-- The command that lists the containers of a server. -/
def remoteCommand : String :=
  "docker ps -aq --no-trunc --filter label=" ++ resourceLabel ++ " | xargs -r docker inspect"

/-- The arguments of the client for a server. -/
def arguments (server : Server) : List String :=
  ["-o", "BatchMode=yes", "-o", "ConnectTimeout=10", "-p", String.ofList (Json.numText server.port)]
    ++ (match server.identityFile with | some file => ["-i", file] | none => [])
    ++ [server.user ++ "@" ++ server.host, remoteCommand]

/-- How a run of the client ended. -/
inductive Run where
  /-- There is no such program. -/
  | missing
  /-- It did not end in time. -/
  | overdue
  /-- It ended with a code, or by a signal. -/
  | ended (code : Option Int) (stdout stderr : List UInt8)

/-- The containers that a run of the client lists. Output is read as UTF-8 as far as it is, and a
failure is told with what the command said about it. -/
def Run.containers (server : Server) (timeoutSecs : Nat) :
    Run → Except InspectError (List Observation)
  | missing => .error (.spawn server.name "No such file or directory (os error 2)")
  | overdue => .error (.timeout server.name timeoutSecs)
  | ended code stdout stderr =>
      if code = some 0 then
        match Observation.parseAll (String.ofList (Text.decodeUtf8Lossy stdout)) with
        | .ok (containers, _) => .ok containers
        | .error fault => .error (.decode server.name fault)
      else
        .error (.command server.name code
          (String.ofList (Text.trimChars (Text.decodeUtf8Lossy stderr))))

end Ssh

end FleetWatch
