import FileServer.Calendar
import FileServer.Exchange
import FileServer.Net.Address

/-!
# The access log

One line per exchange. It names the client, what the clocks of the server show, the request line,
the status and the number of body bytes, of which there is a dash in place of a zero. Clocks show
the time of their zone (`Zone`), and the line does not say by how much that is ahead of UTC.

* `ofSeconds_natCast`, `ofSeconds_add_era`: what a clock shows is a date of the calendar, which
  repeats itself every 400 years.
-/

namespace FileServer

/-- The time of a place: by how many seconds the clocks there are ahead of UTC, at a point of time
that is given in seconds since the beginning of 1970. -/
structure Zone where
  offset : Nat → Int

/-- The zone in which clocks show UTC. -/
def Zone.utc : Zone := ⟨fun _ => 0⟩

/-- What a clock shows. Years before the year 0 are negative; January is month 1. -/
structure LogTime where
  year : Int
  month : Nat
  day : Nat
  hour : Nat
  minute : Nat
  second : Nat
  deriving DecidableEq, Repr

namespace LogTime

/-- What a clock shows at a date and time of the calendar. -/
def ofDateTime (t : DateTime) : LogTime :=
  ⟨t.date.year, t.date.month, t.date.day, t.hour, t.minute, t.second⟩

/-- What a clock shows 400 years later, or as many times 400 years. -/
def later (time : LogTime) (eras : Int) : LogTime :=
  { time with year := time.year + 400 * eras }

/-- What a clock shows some seconds after it showed the beginning of 1970, or before that. -/
def ofSeconds (n : Int) : LogTime :=
  (ofDateTime (.ofSeconds (n % DateTime.secondsPerEra).toNat)).later (n / DateTime.secondsPerEra)

/-- A year of at least four digits, with a sign unless it lies between 0 and 9999. -/
def yearText (year : Int) : Text :=
  let digits := Decimal.padded 4 year.natAbs
  if year < 0 then '-' :: digits else if 9999 < year then '+' :: digits else digits

/-- The time in writing, such as `09/Mar/2024 14:05:07`. -/
def render (time : LogTime) : Text :=
  Decimal.padded 2 time.day ++ ['/'] ++ monthName time.month ++ ['/'] ++ yearText time.year ++
    [' '] ++ Decimal.padded 2 time.hour ++ [':'] ++ Decimal.padded 2 time.minute ++ [':'] ++
    Decimal.padded 2 time.second

theorem later_later (time : LogTime) (eras more : Int) :
    (time.later eras).later more = time.later (eras + more) := by
  simp only [later, Int.mul_add, Int.add_assoc]

theorem ofDateTime_later (t : DateTime) (eras : Nat) :
    ofDateTime { t with date := { t.date with year := t.date.year + 400 * eras } } =
      (ofDateTime t).later eras := by
  simp [ofDateTime, later]

/-- From the beginning of 1970 on, a clock shows a date of the calendar. -/
theorem ofSeconds_natCast (n : Nat) : ofSeconds n = ofDateTime (.ofSeconds n) := by
  have hrest : ((n : Int) % DateTime.secondsPerEra).toNat = n % DateTime.secondsPerEra := by
    rw [← Int.natCast_emod, Int.toNat_natCast]
  rw [ofSeconds, hrest, ← Int.natCast_ediv, ← ofDateTime_later, ← DateTime.ofSeconds_add_era,
    Nat.mod_add_div]

/-- Clocks repeat themselves every 400 years, but for the year. -/
theorem ofSeconds_add_era (n k : Int) :
    ofSeconds (n + DateTime.secondsPerEra * k) = (ofSeconds n).later k := by
  have hpos : (DateTime.secondsPerEra : Int) ≠ 0 := by decide
  rw [ofSeconds, Int.add_mul_emod_self_left, Int.add_mul_ediv_left _ _ hpos, ← later_later,
    ← ofSeconds]

end LogTime

/-- What the clocks of a zone show at a point of time. -/
def Zone.timeAt (zone : Zone) (n : Nat) : LogTime := .ofSeconds (n + zone.offset n)

/-- An entry of the access log. -/
structure LogEntry where
  client : Text
  time : LogTime
  exchange : Exchange
  deriving DecidableEq, Repr

namespace LogEntry

/-- The number of bytes in writing. -/
def bytesText (n : Nat) : Text := if n = 0 then ['-'] else Decimal.render n

/-- The line of an entry. -/
def line (entry : LogEntry) : Text :=
  entry.client ++ " - - [".toList ++ entry.time.render ++ "] \"".toList ++
    entry.exchange.requestLine ++ "\" ".toList ++ entry.exchange.status.text ++ [' '] ++
    bytesText entry.exchange.bytes

end LogEntry

/-- How the log names a client. -/
abbrev ClientFormat := SocketAddress → Text

/-- Names a client by its IP address. -/
def rawIp : ClientFormat := fun peer => peer.ip.render

end FileServer
