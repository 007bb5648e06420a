import FileServer.Disk.Change
import FileServer.Program
import Std.Async.Signal
import Std.Async.TCP
import Std.Async.Timer

/-!
# The command line

The program on a machine: it takes the arguments, the environment and the entries of the file
system that an answer depends on, asks the library what to do, and does it. Every connection is
served on its own, so that a slow client holds up no other; an interrupt from the keyboard ends
the program.
-/

namespace FileServer.Machine

open Std.Async
open Std.Async.TCP.Socket

/-! ## The file system -/

/-- Whether an action succeeds. -/
def succeeds {α : Type} (action : IO α) : IO Bool := do
  match ← action.toBaseIO with
  | .ok _ => return true
  | .error _ => return false

/-- The names of an absolute path of the machine. -/
def pathOfString (written : String) : Path :=
  (splitOn 0x2F (Utf8.encode written.toList)).filter (· ≠ [])

/-- The entry of the machine with a name. Names that are not UTF-8 are not to be had. -/
def entry? (directory : Path) (name : Name) : Option IO.FS.DirEntry :=
  match Utf8.decode? directory.bytes, Utf8.decode? name with
  | some above, some name => some ⟨String.ofList above, String.ofList name⟩
  | _, _ => none

/-- What an entry is, as this process sees it, apart from the contents of files. A link is given
with the real path to which it leads; one that leads nowhere is given as a link to itself. What is
read like a file without being one, such as a pipe or a device, is given as a file. -/
def node? (entry : IO.FS.DirEntry) : IO (Option Node) := do
  let .ok seen ← entry.path.symlinkMetadata.toBaseIO | return none
  match seen.type with
  | .file | .other =>
    return some (.object (.file ⟨.all, ⟨seen.modified.sec, seen.modified.nsec.toNat⟩, []⟩))
  | .dir =>
    let read ← succeeds entry.path.readDir
    let search ← succeeds (entry.path / ".").metadata
    return some (.object (.directory ⟨read, true, search⟩))
  | .symlink =>
    match ← (IO.FS.realPath entry.path).toBaseIO with
    | .ok target => return some (.link (Utf8.encode target.toString.toList))
    | .error _ => return some (.link (Utf8.encode entry.fileName.toList))

/-- Whether an entry leads to what is neither a file nor a directory. -/
def isSpecial (entry : IO.FS.DirEntry) : IO Bool := do
  match ← entry.path.metadata.toBaseIO with
  | .ok seen => return seen.type == .other
  | .error _ => return false

/-- Takes over the entries on a way that starts in a real directory. Gives the real path at the end
of the way. -/
partial def survey (disk : Disk) (directory : Path) : List Step → IO (Disk × Path)
  | [] => return (disk, directory)
  | .up :: steps => survey disk directory.dropLast steps
  | .enter name :: steps => do
    let some entry := entry? directory name | return (disk, directory)
    let some node ← node? entry | return (disk, directory)
    let disk := disk.set directory name node
    match node with
    | .object _ => survey disk (directory ++ [name]) steps
    | .link target =>
      if target.head? = some 0x2F then survey disk [] (Step.ofBytes target ++ steps)
      else return (disk, directory)
  | _ :: steps => survey disk directory steps

/-- Takes over the contents of the file at a real path. -/
def load (disk : Disk) (path : Path) : IO Disk := do
  let some name := path.getLast? | return disk
  let some (.object (.file file)) := disk.node? path | return disk
  let some entry := entry? path.dropLast name | return disk
  let file ← match ← (IO.FS.readBinFile entry.path).toBaseIO with
    | .ok contents => pure { file with contents := contents.toList }
    | .error _ => pure { file with access := ⟨false, false, false⟩ }
  return disk.set path.dropLast name (.object (.file file))

/-- Takes over the entries of a real directory, and the contents of its index files. What is no file
is no index file: it is taken over as a link to itself. -/
def surveyChildren (disk : Disk) (directory : Path) : IO Disk := do
  let some path := Utf8.decode? directory.bytes | return disk
  let .ok top ← (IO.FS.realPath (String.ofList path)).toBaseIO | return disk
  let .ok entries ← top.readDir.toBaseIO | return disk
  entries.foldlM (fun disk entry => do
    let name := Utf8.encode entry.fileName.toList
    let (disk, found) ← survey disk directory [.enter name]
    if !Site.indexNames.contains name then return disk
    else if ← isSpecial entry then return disk.set directory name (.link name)
    else load disk found) disk

/-- The part of the file system on which the answer to a request depends. -/
def diskFor (site : Site) (request : Request) : IO Disk := do
  let (disk, real) ← survey .empty [] ((site.locate request.path).map .enter)
  match disk.node? real with
  | some (.object (.file _)) => load disk real
  | some (.object (.directory _)) => surveyChildren disk real
  | _ => return disk

/-- The part of the file system on which the start of the program depends. -/
def diskToStart (directory : Path) (arguments : List Text) (environment : Environment) :
    IO Disk := do
  let (disk, real) ← survey .empty [] (directory.map .enter)
  match Config.ofCommandLine arguments environment with
  | .error _ => return disk
  | .ok config =>
    let root := Utf8.encode config.root
    let start := if root.head? = some 0x2F then [] else real
    return (← survey disk start (Step.ofBytes root)).1

/-! ## The network -/

/-- An address as the library has it. -/
def addressOf : Std.Net.SocketAddress → SocketAddress
  | .v4 ⟨⟨octets⟩, port⟩ => ⟨.v4 octets[0] octets[1] octets[2] octets[3], port⟩
  | .v6 ⟨⟨groups⟩, port⟩ => ⟨.v6 groups, port⟩

/-- An address as the machine has it. -/
def addressTo (address : SocketAddress) : Std.Net.SocketAddress :=
  match address.ip with
  | .v4 a b c d => .v4 ⟨.ofParts a b c d, address.port⟩
  | .v6 groups => .v6 ⟨⟨groups⟩, address.port⟩

/-- Why the machine does not let the server listen. -/
def bindFault : IO.Error → BindFault
  | .resourceBusy _ _ => .inUse
  | .permissionDenied _ _ _ => .permissionDenied
  | .invalidArgument _ _ _ => .invalid
  | _ => .notAvailable

/-- Why a connection broke. -/
def streamError : IO.Error → StreamError
  | .timeExpired _ _ => .timedOut
  | .resourceVanished _ _ => .connectionReset
  | _ => .notConnected

/-- Listens at an address. Gives the port at which it listens. -/
def listen (address : SocketAddress) : IO (Except BindFault (TCP.Socket.Server × UInt16)) := do
  let listener ← TCP.Socket.Server.mk
  try
    listener.bind (addressTo address)
    listener.listen 1024
    return .ok (listener, (← listener.getSockName).port)
  catch error => return .error (bindFault error)

/-- What an action gives, or why it failed. -/
def attempt {α : Type} (action : Async α) : Async (Except StreamError α) := do
  try return .ok (← action) catch error => return .error (streamError error)

/-- How many bytes are read at once. -/
def readSize : UInt64 := 8192

/-- The pieces in which a request head arrives, and what comes after the last of them. -/
partial def receive (stream : TCP.Socket.Client) (scan : Scan) : Async (List Bytes × Ending) := do
  match ← attempt (stream.recv? readSize) with
  | .error error => return ([], .failed error)
  | .ok none => return ([], .closed)
  | .ok (some bytes) =>
    match (scan.advance bytes.toList).1 with
    | .more next =>
      let (chunks, ending) ← receive stream next
      return (bytes.toList :: chunks, ending)
    | _ => return ([bytes.toList], .silent)

/-- What arrives on a connection until the peer closes its side, or until a time. -/
partial def arrivals (stream : TCP.Socket.Client) (deadline : Nat) :
    Async (List Arriving × Ending) := do
  let asked ← IO.monoMsNow
  let timer ← Selector.sleep (.ofNat (deadline - asked))
  let received ← attempt (Selectable.one #[
    .case (stream.recvSelector readSize) fun bytes? => return some bytes?,
    .case timer fun _ => return none])
  match received with
  | .error error => return ([], .failed error)
  | .ok none => return ([], .silent)
  | .ok (some none) => return ([], .closed)
  | .ok (some (some bytes)) =>
    let now ← IO.monoMsNow
    let (rest, ending) ← arrivals stream deadline
    return (⟨now - asked, bytes.toList⟩ :: rest, ending)

/-- Closes the sending side of a connection and waits for the peer to close the other. -/
def close (stream : TCP.Socket.Client) : Async Closing := do
  match ← attempt stream.shutdown with
  | .error error => return ⟨some error, [], .silent⟩
  | .ok _ =>
    let (arriving, ending) ← arrivals stream ((← IO.monoMsNow) + Closing.patience)
    return ⟨none, arriving, ending⟩

/-! ## Running -/

/-- The microseconds since the beginning of 1970. -/
def clock : IO Nat := do
  return (← Std.Time.Timestamp.now).toNanosecondsSinceUnixEpoch.val.toNat / 1000

/-- The zone of the machine's clocks, or UTC if that is not known. -/
def zone : IO Zone := do
  let .ok rules ← Std.Time.Database.defaultGetLocalZoneRules.toBaseIO | return .utc
  return ⟨fun n => (rules.timezoneAt (.ofSecondsSinceUnixEpoch (.ofNat n))).offset.second.val⟩

/-- Writes the events that are shown. -/
def report (diagnostics : Diagnostics) (events : List Event) : IO Unit :=
  (diagnostics.shown events).forM fun event => do
    IO.eprintln (String.ofList (event.timedLine (← clock)))

/-- Serves one connection. -/
def serve (server : Server) (diagnostics : Diagnostics) (stream : TCP.Socket.Client)
    (client : SocketAddress) : Async Unit := do
  let (chunks, ending) ← receive stream .start
  let peer : Peer := ⟨chunks, ending, none, none⟩
  let disk ← match peer.readHead with
    | (.head head, _) =>
      match Reply.parseHead head with
      | .ok request => diskFor server.site request
      | .error _ => pure .empty
    | _ => pure .empty
  let now := (← clock) / 1000000
  let answered := Conversation.hold server.site disk now peer
  let peer := match ← attempt (stream.send ⟨answered.written.toArray⟩) with
    | .error error => { peer with writeLimit := some (0, error) }
    | .ok _ => peer
  let visit := server.serve disk now client peer ⟨none, [], .closed⟩
  report diagnostics visit.events
  match visit.log with
  | none => return
  | some entry =>
    IO.eprintln (String.ofList entry.line)
    report diagnostics (← close stream).run.events

/-- Serves connections, one after the other and each on its own. -/
partial def accept (server : Server) (diagnostics : Diagnostics) (listener : TCP.Socket.Server) :
    Async Unit := do
  let accepted ← attempt do
    let stream ← listener.accept
    return (stream, addressOf (← stream.getPeerName))
  match accepted with
  | .ok (stream, client) => background (serve server diagnostics stream client)
  | .error error => report diagnostics [.notAccepted error]
  accept server diagnostics listener

/-- The variables of the environment that the program looks at. -/
def environment : IO Environment := do
  let names := Setting.all.filterMap (·.source?) ++ ["RUST_LOG".toList]
  names.filterMapM fun name => do
    return (← IO.getEnv (String.ofList name)).map fun value => (name, value.toList)

/-- Ends the program, or runs the server. -/
def run (start : Start) (listener? : Option TCP.Socket.Server) : IO UInt32 := do
  match start, listener? with
  | .ended output errors exitCode, _ =>
    IO.print (String.ofList output)
    IO.eprint (String.ofList errors)
    return exitCode.toUInt32
  | .serving complaints server diagnostics, some listener =>
    complaints.forM fun line => IO.eprintln (String.ofList line)
    let interrupt ← Signal.Waiter.mk .sigint false
    IO.print (String.ofList server.banner)
    (← IO.getStdout).flush
    let (before, after) := server.milestones.splitAt 1
    report diagnostics before
    Async.block do
      background (accept server diagnostics listener)
      discard <| await (← interrupt.wait)
    report diagnostics after
    return 0
  | .serving _ _ _, none => return 0

end FileServer.Machine

open FileServer in
/-- Serves a directory over HTTP. -/
def main (arguments : List String) : IO UInt32 := do
  let arguments := arguments.map String.toList
  let environment ← Machine.environment
  let directory := Machine.pathOfString (← IO.currentDir).toString
  let disk ← Machine.diskToStart directory arguments environment
  let zone ← Machine.zone
  let start (host : Host) := Start.ofCommandLine disk host directory arguments environment zone
  let wanted := start ⟨fun _ => none, 0⟩
  match wanted with
  | .ended _ _ _ => Machine.run wanted none
  | .serving _ server _ =>
    match ← Machine.listen server.address with
    | .error fault => Machine.run (start ⟨fun _ => some fault, 0⟩) none
    | .ok (listener, port) => Machine.run (start ⟨fun _ => none, port⟩) (some listener)
