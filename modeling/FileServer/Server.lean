import FileServer.AccessLog
import FileServer.Closing

/-!
# The server

A server has a site and an address at which it listens. The site is opened before the address is
taken, so that nothing listens when the root is wrong. A connection that ends in an exchange is
logged and then closed with patience; one without a request, or one that breaks, is only reported.

* `log_serve_eq_some_iff`: there is an entry in the log exactly when the exchange was completed.
-/

namespace FileServer

/-- What a server finds when it wants to listen. -/
structure Host where
  /-- Why nobody may begin to listen at an address now. -/
  refusal? : SocketAddress → Option BindFault
  /-- The port that is given out when none in particular is asked for. -/
  freePort : UInt16

/-- A server that listens. -/
structure Server where
  site : Site
  address : SocketAddress
  client : ClientFormat
  /-- The zone of the clocks that the log goes by. -/
  zone : Zone

namespace Server

/-- Opens the site at a written path and listens at an address. -/
def bind [MediaTypes] (disk : Disk) (host : Host) (directory : Path) (root : Bytes)
    (address : SocketAddress) (client : ClientFormat) (zone : Zone := .utc) :
    Except StartupError Server :=
  match Site.ofPath disk directory root with
  | .error error => .error error
  | .ok site =>
    match host.refusal? address with
    | some fault => .error (.notBound address.render fault)
    | none =>
      let port := if address.port = 0 then host.freePort else address.port
      .ok ⟨site, { address with port }, client, zone⟩

/-- What came of a connection. -/
structure Visit where
  conversation : Conversation
  log : Option LogEntry
  closed : Option Closed
  events : List Event

/-- Serves one connection. `closing` is what comes after the exchange. -/
def serve (server : Server) (disk : Disk) (now : Nat) (client : SocketAddress) (peer : Peer)
    (closing : Closing) : Visit :=
  let conversation := Conversation.hold server.site disk now peer
  match conversation.finish with
  | .exchanged exchange =>
    let closed := closing.run
    ⟨conversation, some ⟨server.client client, server.zone.timeAt now, exchange⟩, some closed,
      conversation.events ++ closed.events⟩
  | .noRequest =>
    ⟨conversation, none, none, conversation.events ++ [.noRequest client.render]⟩
  | .failed error =>
    ⟨conversation, none, none, conversation.events ++ [.connectionFailed client.render error]⟩
  | .waiting => ⟨conversation, none, none, conversation.events⟩

theorem conversation_serve (server : Server) (disk : Disk) (now : Nat) (client : SocketAddress)
    (peer : Peer) (closing : Closing) :
    (server.serve disk now client peer closing).conversation =
      Conversation.hold server.site disk now peer := by
  unfold serve
  dsimp only
  split <;> rfl

theorem log_serve_eq_some_iff {server : Server} {disk : Disk} {now : Nat} {client : SocketAddress}
    {peer : Peer} {closing : Closing} {entry : LogEntry} :
    (server.serve disk now client peer closing).log = some entry ↔
      ∃ exchange, (Conversation.hold server.site disk now peer).finish = .exchanged exchange ∧
        entry = ⟨server.client client, server.zone.timeAt now, exchange⟩ := by
  unfold serve
  generalize Conversation.hold server.site disk now peer = conversation
  obtain ⟨finish, written, flushed, unread, events⟩ := conversation
  cases finish <;> simp [eq_comm]

/-! ## Clients -/

/-- Whether the network carries a client's packets to the server. -/
inductive Route where
  | exists
  | missing
  deriving DecidableEq, Repr

/-- A client that connects, sends some bytes and reads the answer to its end. -/
structure Client where
  address : SocketAddress
  bytes : Bytes
  /-- Whether it closes its sending side before it reads. -/
  closesSide : Bool

/-- What the client does on the connection, as the server sees it. A client that sends nothing and
keeps its side open makes the server wait. -/
def Client.peer (client : Client) : Peer where
  chunks := if client.bytes = [] then [] else [client.bytes]
  ending := if client.closesSide then .closed else .silent
  writeLimit := none
  flushError := none

/-- The connection of a client, when there is a route to the server. The client closes its side
when it has read the answer. -/
def visit? (server : Server) (disk : Disk) (now : Nat) (route : Route) (client : Client) :
    Option Visit :=
  match route with
  | .missing => none
  | .exists => some (server.serve disk now client.address client.peer ⟨none, [], .closed⟩)

end Server

end FileServer
