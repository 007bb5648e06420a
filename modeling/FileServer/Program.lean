import FileServer.Config.Wording
import FileServer.Diagnostics
import FileServer.Http.MediaTable
import FileServer.Server

/-!
# The program

From the command line and the environment to a server that listens, or to the text and the exit
code with which the program ends instead. The program comes with the usual table of media types.
-/

namespace FileServer

/-- The parts of the program that report something. -/
inductive Part where
  | program
  | server
  | exchange
  | site
  deriving DecidableEq, Repr

/-- The name of a part in a filter of diagnostics. -/
def Part.name : Part → Text
  | program => "static_httpd".toList
  | server => "static_httpd::server".toList
  | exchange => "static_httpd::handlers".toList
  | site => "static_httpd::files".toList

namespace Event

/-- The part that reports an event. -/
def part : Event → Part
  | listening _ _ => .program
  | noRequest _ | connectionFailed _ _ | notAccepted _ | shuttingDown => .server
  | requestRejected _ _ | shutdownFailed _ | discarded _ | keptOpen => .exchange
  | outsideRoot _ | unlistable _ _ => .site

/-- The event on a line of the diagnostics with its time in microseconds since the beginning of
1970. The levels end in one column. -/
def timedLine (event : Event) (microseconds : Nat) : Text :=
  let time := DateTime.ofSeconds (microseconds / 1000000)
  Decimal.padded 4 time.date.year ++ ['-'] ++ Decimal.padded 2 time.date.month ++ ['-'] ++
    Decimal.padded 2 time.date.day ++ ['T'] ++ time.clock ++ ['.'] ++
    Decimal.padded 6 (microseconds % 1000000) ++ ['Z', ' '] ++
    List.replicate (5 - event.level.name.length) ' ' ++ event.line

end Event

/-- How the program starts. -/
inductive Start where
  /-- It ends, with what it has written. -/
  | ended (output errors : Text) (exitCode : Nat)
  /-- It serves, after it has written some lines about its settings. -/
  | serving (complaints : List Text) (server : Server) (diagnostics : Diagnostics)

namespace Start

/-- The text of a startup error with its cause. -/
def errorText (error : StartupError) : Text :=
  "Error: ".toList ++ error.headline ++ "\n".toList ++
    match error.cause? with
    | some cause => "\nCaused by:\n    ".toList ++ cause ++ "\n".toList
    | none => []

/-- Starts the program in a working directory. -/
def ofCommandLine (disk : Disk) (host : Host) (directory : Path) (arguments : List Text)
    (environment : Environment) (zone : Zone := .utc) : Start :=
  match Config.ofCommandLine arguments environment with
  | .error refusal =>
    if refusal.exitCode = 0 then .ended (refusal.written environment) [] 0
    else .ended [] (refusal.written environment) refusal.exitCode
  | .ok config =>
    let (diagnostics, complaints) :=
      Diagnostics.choose (environment.get? "RUST_LOG".toList) config.logLevel
    match Server.bind disk host directory (Utf8.encode config.root) config.address rawIp zone with
    | .error error => .ended [] (complaints.flatMap (· ++ ['\n']) ++ errorText error) 1
    | .ok server => .serving complaints server diagnostics

end Start

/-- What a server writes when it is ready. -/
def Server.banner (server : Server) : Text :=
  "httpd serving at port ".toList ++ Decimal.render server.address.port.toNat ++ "\n".toList

/-- What a server reports when it is ready and when it stops. -/
def Server.milestones (server : Server) : List Event :=
  [.listening server.address.render server.site.root, .shuttingDown]

/-- The events that are shown. -/
def Diagnostics.shown (diagnostics : Diagnostics) (events : List Event) : List Event :=
  events.filter fun event => diagnostics.shows event.part.name event

end FileServer
