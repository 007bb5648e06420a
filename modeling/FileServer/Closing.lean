import FileServer.Connection

/-!
# Closing a connection

After the exchange the server closes its sending side. It reads on until the peer closes the other
side or two seconds are over, and discards what it reads: a connection that is dropped with bytes to
be read is reset, and the reset can destroy an answer that the peer has not read.

* `total_of_read`: what is read and what is left are all that was to arrive.
-/

namespace FileServer

/-- A piece that arrives some time after the one before it. Without bytes it is a pause, which can
also come before the end. -/
structure Arriving where
  milliseconds : Nat
  bytes : Bytes
  deriving DecidableEq, Repr

/-- The number of bytes in pieces. -/
def Arriving.total : List Arriving → Nat
  | [] => 0
  | piece :: pieces => piece.bytes.length + total pieces

/-- What is left of a connection after the exchange. -/
structure Closing where
  /-- Why closing the sending side fails. -/
  shutdownError : Option StreamError
  /-- What still arrives. -/
  arriving : List Arriving
  /-- What comes right after the last piece. -/
  ending : Ending
  deriving DecidableEq, Repr

/-- What the server asks of a connection. -/
inductive Call where
  /-- To close the sending side. -/
  | shutdown
  /-- To give up to so many bytes. -/
  | read (room : Nat)
  | write (bytes : Bytes)
  deriving DecidableEq, Repr

/-- What happened while a connection was closed. -/
structure Closed where
  /-- What was asked of the connection, in this order. -/
  calls : List Call
  /-- How long it took, from when the sending side was closed. -/
  milliseconds : Nat
  discarded : Nat
  /-- The pieces of which nothing was read. -/
  unread : List Arriving
  events : List Event

/-- How often the sending side was closed. -/
def Closed.shutdowns (closed : Closed) : Nat := closed.calls.count .shutdown

/-- What comes of a read, and when, and what arrives after it. -/
inductive Reading where
  /-- Without bytes it is the end of what the peer sends. -/
  | given (clock : Nat) (bytes : Bytes) (left : List Arriving)
  | failed (clock : Nat) (error : StreamError) (left : List Arriving)
  /-- The time was up before it came back. -/
  | late (left : List Arriving)
  deriving DecidableEq, Repr

namespace Closing

/-- How long, in milliseconds, the server goes on to read what it discards. -/
def patience : Nat := 2000

/-- How many bytes are read at once. -/
def bufferSize : Nat := 8 * 1024

/-- Reads what comes next into a buffer, from a time on. -/
def read (room : Nat) (ending : Ending) (clock : Nat) : List Arriving → Reading
  | [] =>
    match ending with
    | .closed => .given clock [] []
    | .failed error => .failed clock error []
    | .silent => .late []
  | piece :: pieces =>
    let clock := clock + piece.milliseconds
    if patience ≤ clock then .late (piece :: pieces)
    else if piece.bytes = [] then read room ending clock pieces
    else .given clock (piece.bytes.take room) (⟨0, piece.bytes.drop room⟩ :: pieces)

theorem total_of_read {room clock next : Nat} {ending : Ending} {arriving left : List Arriving}
    {bytes : Bytes} (h : read room ending clock arriving = .given next bytes left) :
    bytes.length + Arriving.total left = Arriving.total arriving := by
  induction arriving generalizing clock with
  | nil => cases ending <;> simp_all [read, Arriving.total]
  | cons piece pieces ih =>
    simp only [read] at h
    split at h
    · cases h
    · split at h
      · rename_i hpause
        simp [ih h, hpause, Arriving.total]
      · simp only [Reading.given.injEq] at h
        obtain ⟨-, rfl, rfl⟩ := h
        simp only [Arriving.total, List.length_take, List.length_drop]
        omega

/-- What is reported at the end of what the peer sends. -/
def report (discarded : Nat) : List Event :=
  if discarded = 0 then [] else [.discarded discarded]

/-- Reads and discards what arrives, from a time on and until the time is up. An error is taken for
the end of what the peer sends. -/
def drain (room : Nat) (ending : Ending) (clock discarded : Nat) (arriving : List Arriving) :
    Closed :=
  match h : read room ending clock arriving with
  | .late left => ⟨[.read room], patience, discarded, left, [.keptOpen]⟩
  | .given next (b :: bytes) left =>
    have : Arriving.total left < Arriving.total arriving := by
      have := total_of_read h
      simp only [List.length_cons] at this
      omega
    let closed := drain room ending next (discarded + (b :: bytes).length) left
    { closed with calls := .read room :: closed.calls }
  | .given next [] left | .failed next _ left =>
    ⟨[.read room], next, discarded, left, report discarded⟩
termination_by Arriving.total arriving

/-- Closes the sending side, and discards what still arrives through a buffer of a size. -/
def runWith (room : Nat) (closing : Closing) : Closed :=
  match closing.shutdownError with
  | some error => ⟨[.shutdown], 0, 0, closing.arriving, [.shutdownFailed error]⟩
  | none =>
    let closed := drain room closing.ending 0 0 closing.arriving
    { closed with calls := .shutdown :: closed.calls }

/-- Closes the sending side and discards what still arrives. -/
def run (closing : Closing) : Closed := closing.runWith bufferSize

end Closing

end FileServer
