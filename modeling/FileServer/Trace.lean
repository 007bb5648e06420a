import FileServer.Disk.Basic
import FileServer.Http.RequestError

/-!
# Diagnostics

What the server reports about its own work, apart from the access log. Every event has a level, a
message and named fields; the wording stands here and nowhere else.
-/

namespace FileServer

/-- Why reading from or writing to a connection failed. -/
inductive StreamError where
  | connectionReset
  | connectionAborted
  | brokenPipe
  | notConnected
  | timedOut
  deriving DecidableEq, Repr

/-- The wording of a failure. -/
def StreamError.message : StreamError → Text
  | connectionReset => "connection reset".toList
  | connectionAborted => "connection aborted".toList
  | brokenPipe => "broken pipe".toList
  | notConnected => "not connected".toList
  | timedOut => "timed out".toList

/-- How important an event is; the most important level is 1. -/
inductive Level where
  | error
  | warn
  | info
  | debug
  | trace
  deriving DecidableEq, Repr

namespace Level

/-- The place of a level among the levels. -/
def rank : Level → Nat
  | error => 1
  | warn => 2
  | info => 3
  | debug => 4
  | trace => 5

/-- The name of a level in the diagnostics. -/
def name : Level → Text
  | error => "ERROR".toList
  | warn => "WARN".toList
  | info => "INFO".toList
  | debug => "DEBUG".toList
  | trace => "TRACE".toList

end Level

/-- Something worth reporting. -/
inductive Event where
  /-- A request head was rejected. -/
  | requestRejected (error : RequestError) (line : Text)
  /-- A path led out of the served root. -/
  | outsideRoot (path : Path)
  /-- A directory could not be listed. -/
  | unlistable (directory : Path) (fault : Fault)
  /-- The sending side of a connection could not be closed. -/
  | shutdownFailed (error : StreamError)
  /-- The peer sent more than the request head. -/
  | discarded (bytes : Nat)
  /-- The peer did not close its side in time. -/
  | keptOpen
  /-- The peer sent no request. -/
  | noRequest (peer : Text)
  /-- A connection broke. -/
  | connectionFailed (peer : Text) (error : StreamError)
  /-- A client could not be let in. -/
  | notAccepted (error : StreamError)
  /-- The server is ready. -/
  | listening (address : Text) (root : Path)
  /-- The server stops. -/
  | shuttingDown
  deriving DecidableEq, Repr

namespace Event

/-- How important an event is. -/
def level : Event → Level
  | requestRejected _ _ | outsideRoot _ | unlistable _ _ | shutdownFailed _ | discarded _
  | keptOpen | noRequest _ => .debug
  | connectionFailed _ _ | notAccepted _ => .warn
  | listening _ _ | shuttingDown => .info

/-- What happened. -/
def message : Event → Text
  | requestRejected _ _ => "rejecting request".toList
  | outsideRoot _ => "refusing path outside served root".toList
  | unlistable _ _ => "cannot list directory".toList
  | shutdownFailed _ => "failed to shut down connection".toList
  | discarded _ => "discarded unread request data".toList
  | keptOpen => "peer kept the connection open after the response".toList
  | noRequest _ => "connection closed without a request".toList
  | connectionFailed _ _ => "connection failed".toList
  | notAccepted _ => "failed to accept connection".toList
  | listening _ _ => "listening".toList
  | shuttingDown => "shutting down".toList

/-- The particulars, by name. -/
def fields : Event → List (Text × Text)
  | requestRejected error line =>
    [("error".toList, error.message), ("request_line".toList, line)]
  | outsideRoot path => [("path".toList, path.text)]
  | unlistable directory fault =>
    [("dir".toList, directory.text), ("error".toList, fault.message)]
  | shutdownFailed error => [("error".toList, error.message)]
  | discarded bytes => [("discarded".toList, Decimal.render bytes)]
  | keptOpen => []
  | noRequest peer => [("peer".toList, peer)]
  | connectionFailed peer error => [("peer".toList, peer), ("error".toList, error.message)]
  | notAccepted error => [("error".toList, error.message)]
  | listening address root => [("addr".toList, address), ("root".toList, root.text)]
  | shuttingDown => []

/-- The names by which a filter can ask for the particulars; the message is one of them. -/
def fieldNames (event : Event) : List Text := "message".toList :: event.fields.map Prod.fst

/-- The event on a line of the diagnostics, without its time. -/
def line (event : Event) : Text :=
  event.level.name ++ [' '] ++ event.message ++
    event.fields.flatMap fun (name, value) => [' '] ++ name ++ ['='] ++ value

end Event

end FileServer
