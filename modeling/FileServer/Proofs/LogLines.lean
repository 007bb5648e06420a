import FileServer.Proofs.Http.Dates
import FileServer.Proofs.Net.Clients
import FileServer.Proofs.RequestLine
import FileServer.Proofs.Truthful

/-!
# What a log line tells

The request line of an entry is whatever the client sent, and stands in the log as it is. Yet it
cannot pass for another part of the line: what is before it ends at the first `]` after the first
space, and what is after it begins at the last quote. Nor can it begin another line, being cut out
of the head before the first LF.

* `LogTime.render_injective`: what a clock showed is told by its writing;
* `Zone.timeAt_eq_iff`: when clocks show the same;
* `LogEntry.parts_of_line`: the parts of two equal lines are equal;
* `LogEntry.line_faithful`: an entry is on one line, and is told by it.
-/

namespace FileServer

/-! ## Times -/

/-- A date is in one of the twelve months. -/
theorem Date.month_ofDays (n : Nat) : 1 ≤ (ofDays n).month ∧ (ofDays n).month ≤ 12 := by
  have hday : (epoch + n) % 146097 < 146097 := Nat.mod_lt _ (by decide)
  have hmonth := (monthOfYear_spec (yearOfEra_spec hday).2.2).1
  unfold ofDays ofMarch
  simp only
  split
  · simp only
    omega
  · simp only
    omega

namespace LogTime

/-- Whether the month is one of the twelve. -/
def HasMonth (time : LogTime) : Prop := 1 ≤ time.month ∧ time.month ≤ 12

instance (time : LogTime) : Decidable time.HasMonth :=
  inferInstanceAs (Decidable (1 ≤ time.month ∧ time.month ≤ 12))

theorem hasMonth_ofSeconds (n : Int) : (ofSeconds n).HasMonth :=
  Date.month_ofDays ((n % DateTime.secondsPerEra).toNat / 86400)

theorem ofDateTime_injective {t u : DateTime} (h : ofDateTime t = ofDateTime u) : t = u := by
  obtain ⟨⟨year, month, day⟩, hour, minute, second⟩ := t
  obtain ⟨⟨year', month', day'⟩, hour', minute', second'⟩ := u
  simpa [ofDateTime, Int.natCast_inj, and_assoc] using h

theorem natCast_eq_of_ofSeconds {m n : Nat} (h : ofSeconds m = ofSeconds n) : m = n := by
  rw [ofSeconds_natCast, ofSeconds_natCast] at h
  have hseconds := congrArg DateTime.toSeconds (ofDateTime_injective h)
  rwa [DateTime.toSeconds_ofSeconds, DateTime.toSeconds_ofSeconds] at hseconds

/-- What a clock shows tells for how long it has gone on. -/
theorem ofSeconds_injective {m n : Int} (h : ofSeconds m = ofSeconds n) : m = n := by
  -- As many eras later, both clocks show a time from 1970 on.
  let eras : Nat := m.natAbs + n.natAbs
  have hlater : ∀ k : Int, k.natAbs ≤ eras → ∃ a : Nat, k + DateTime.secondsPerEra * eras = a := by
    intro k hk
    refine Int.eq_ofNat_of_zero_le ?_
    have heras : (eras : Int) ≤ DateTime.secondsPerEra * eras := by
      unfold DateTime.secondsPerEra
      omega
    omega
  obtain ⟨a, ha⟩ := hlater m (Nat.le_add_right _ _)
  obtain ⟨b, hb⟩ := hlater n (Nat.le_add_left _ _)
  have hsame : ofSeconds a = ofSeconds b := by
    rw [← ha, ← hb, ofSeconds_add_era, ofSeconds_add_era, h]
  have := natCast_eq_of_ofSeconds hsame
  omega

theorem render_eq (time : LogTime) :
    time.render = Decimal.padded 2 time.day ++ '/' :: (monthName time.month ++ '/' ::
      (yearText time.year ++ ' ' :: (Decimal.padded 2 time.hour ++ ':' ::
        (Decimal.padded 2 time.minute ++ ':' :: Decimal.padded 2 time.second)))) := by
  simp [render]

theorem not_mem_yearText {c : Char} (hdigit : c.isDigit = false) (hsign : c ∉ "+-".toList)
    (year : Int) : c ∉ yearText year := by
  have hdigits := Decimal.not_mem_padded hdigit 4 year.natAbs
  obtain ⟨hplus, hminus⟩ : c ≠ '+' ∧ c ≠ '-' := by simpa using hsign
  unfold yearText
  simp only
  split
  · exact List.not_mem_cons_of_ne_of_not_mem hminus hdigits
  split
  · exact List.not_mem_cons_of_ne_of_not_mem hplus hdigits
  · exact hdigits

theorem not_mem_monthName {c : Char} (hdigit : c.isDigit = false) (hsign : c ∉ HttpDate.signs)
    (month : Nat) : c ∉ monthName month := by
  intro hc
  have hletters : monthNames.flatten ⊆ HttpDate.signs := by decide
  obtain h | h := HttpDate.isDateText_getD hletters (month - 1) c hc
  · rw [h] at hdigit
    cases hdigit
  · exact hsign h

/-- The characters of a time are digits, letters of months and a few signs. -/
theorem not_mem_render {c : Char} (hdigit : c.isDigit = false) (hsigns : c ∉ "/+-".toList)
    (hname : c ∉ HttpDate.signs) (time : LogTime) : c ∉ time.render := by
  have hcolon : c ≠ ':' := fun h => hname (h ▸ by decide)
  have hspace : c ≠ ' ' := fun h => hname (h ▸ by decide)
  obtain ⟨hslash, hplus, hminus⟩ : c ≠ '/' ∧ c ≠ '+' ∧ c ≠ '-' := by simpa using hsigns
  have hyear := not_mem_yearText hdigit (by simp [hplus, hminus]) time.year
  simp only [render_eq, List.mem_append, List.mem_cons, not_or]
  simp only [Decimal.not_mem_padded hdigit, not_mem_monthName hdigit hname, hyear, hcolon, hspace,
    hslash, not_false_eq_true, and_self]

theorem yearText_injective {year other : Int} (h : yearText year = yearText other) :
    year = other := by
  have hsign : ∀ {c : Char} {ds : Text} {n : Nat}, c.isDigit = false →
      c :: ds ≠ Decimal.padded 4 n := fun {c ds n} hc heq =>
    Decimal.not_mem_padded hc 4 n (heq ▸ List.mem_cons_self)
  have habs : ∀ {m n : Nat}, Decimal.padded 4 m = Decimal.padded 4 n → m = n :=
    Decimal.padded_injective
  unfold yearText at h
  simp only at h
  split_ifs at h
  · have := habs (List.cons.inj h).2
    omega
  · cases (List.cons.inj h).1
  · exact absurd h (hsign rfl)
  · cases (List.cons.inj h).1
  · have := habs (List.cons.inj h).2
    omega
  · exact absurd h (hsign rfl)
  · exact absurd h.symm (hsign rfl)
  · exact absurd h.symm (hsign rfl)
  · have := habs h
    omega

theorem monthName_injective {m n : Nat} (hm : 1 ≤ m ∧ m ≤ 12) (hn : 1 ≤ n ∧ n ≤ 12)
    (h : monthName m = monthName n) : m = n := by
  have hread := HttpDate.month_monthName hm.1 hm.2 []
  rw [h, HttpDate.month_monthName hn.1 hn.2] at hread
  exact (Prod.mk.inj (Option.some.inj hread)).1.symm

/-- A time is told by its writing: each sign between its fields is in none of the fields before. -/
theorem render_injective {time other : LogTime} (hmonth : time.HasMonth) (hother : other.HasMonth)
    (h : time.render = other.render) : time = other := by
  have hdigits : ∀ {c : Char}, c.isDigit = false → ∀ n, c ∉ Decimal.padded 2 n := fun hc =>
    Decimal.not_mem_padded hc 2
  have hname : ∀ month, '/' ∉ monthName month := not_mem_monthName rfl (by decide)
  have hyears : ∀ year, ' ' ∉ yearText year := not_mem_yearText rfl (by decide)
  rw [render_eq, render_eq] at h
  obtain ⟨hday, h⟩ := append_cons_inj_left (hdigits rfl _) (hdigits rfl _) h
  obtain ⟨hmonths, h⟩ := append_cons_inj_left (hname _) (hname _) h
  obtain ⟨hyear, h⟩ := append_cons_inj_left (hyears _) (hyears _) h
  obtain ⟨hhour, h⟩ := append_cons_inj_left (hdigits rfl _) (hdigits rfl _) h
  obtain ⟨hminute, hsecond⟩ := append_cons_inj_left (hdigits rfl _) (hdigits rfl _) h
  cases time
  cases other
  simp only [LogTime.mk.injEq]
  exact ⟨yearText_injective hyear, monthName_injective hmonth hother hmonths,
    Decimal.padded_injective hday, Decimal.padded_injective hhour,
    Decimal.padded_injective hminute, Decimal.padded_injective hsecond⟩

end LogTime

/-- Clocks show the same at two points of time exactly if these are as far apart as the distances
of the clocks to UTC. -/
theorem Zone.timeAt_eq_iff (zone other : Zone) (m n : Nat) :
    zone.timeAt m = other.timeAt n ↔ m + zone.offset m = n + other.offset n := by
  refine ⟨LogTime.ofSeconds_injective, fun h => ?_⟩
  rw [timeAt, h, timeAt]

namespace LogEntry

/-! ## Counts -/

theorem not_mem_bytesText {c : Char} (hdigit : c.isDigit = false) (hdash : c ≠ '-') (n : Nat) :
    c ∉ bytesText n := by
  rw [bytesText]
  split
  · exact mt List.mem_singleton.1 hdash
  · exact Decimal.not_mem_render hdigit n

theorem bytesText_injective {m n : Nat} (h : bytesText m = bytesText n) : m = n := by
  have hdash : ∀ k, ['-'] ≠ Decimal.render k := fun k heq =>
    Decimal.not_mem_render (c := '-') rfl k (heq ▸ List.mem_singleton_self _)
  unfold bytesText at h
  split_ifs at h with hm hn hn
  · rw [hm, hn]
  · exact absurd h (hdash n)
  · exact absurd h.symm (hdash m)
  · exact Decimal.render_injective h

/-! ## Lines -/

/-- What a line says of the response. -/
def suffix (entry : LogEntry) : Text :=
  ' ' :: (entry.exchange.status.text ++ ' ' :: bytesText entry.exchange.bytes)

theorem line_eq (entry : LogEntry) :
    entry.line = entry.client ++ ' ' :: ("- - [".toList ++ (entry.time.render ++ ']' ::
      (" \"".toList ++ (entry.exchange.requestLine ++ '"' :: entry.suffix)))) := by
  simp [line, suffix]

theorem not_mem_suffix {c : Char} (hdigit : c.isDigit = false) (hspace : c ≠ ' ') (hdash : c ≠ '-')
    (entry : LogEntry) : c ∉ entry.suffix := by
  have hstatus : c ∉ entry.exchange.status.text := Decimal.not_mem_render hdigit _
  simp only [suffix, List.mem_append, List.mem_cons, not_or]
  exact ⟨hspace, hstatus, hspace, not_mem_bytesText hdigit hdash _⟩

theorem suffix_injective {entry other : LogEntry} (h : entry.suffix = other.suffix) :
    entry.exchange.status = other.exchange.status ∧
      entry.exchange.bytes = other.exchange.bytes := by
  have hspace : ∀ status : Status, ' ' ∉ status.text := fun _ => Decimal.not_mem_render rfl _
  obtain ⟨hstatus, hbytes⟩ := append_cons_inj_left (hspace _) (hspace _) (List.cons.inj h).2
  exact ⟨Status.code_injective (Decimal.render_injective hstatus), bytesText_injective hbytes⟩

/-- The parts of two equal lines are equal. -/
theorem parts_of_line {entry other : LogEntry} (hclient : ' ' ∉ entry.client)
    (hother : ' ' ∉ other.client) (h : entry.line = other.line) :
    entry.client = other.client ∧ entry.time.render = other.time.render ∧
      entry.exchange.requestLine = other.exchange.requestLine ∧ entry.suffix = other.suffix := by
  have htime : ∀ time : LogTime, ']' ∉ time.render :=
    LogTime.not_mem_render rfl (by decide) (by decide)
  have hsuffix : ∀ entry : LogEntry, '"' ∉ entry.suffix :=
    not_mem_suffix rfl (by decide) (by decide)
  rw [line_eq, line_eq] at h
  obtain ⟨hclients, h⟩ := append_cons_inj_left hclient hother h
  obtain ⟨htimes, h⟩ := append_cons_inj_left (htime _) (htime _) (List.append_cancel_left h)
  -- From the right: the request line may contain quotes itself.
  obtain ⟨hlines, hsuffixes⟩ := append_cons_inj_right (hsuffix _) (hsuffix _)
    (List.append_cancel_left h)
  exact ⟨hclients, htimes, hlines, hsuffixes⟩

theorem lf_not_mem_line {entry : LogEntry} (hclient : '\n' ∉ entry.client)
    (hline : '\n' ∉ entry.exchange.requestLine) : '\n' ∉ entry.line := by
  have htime := LogTime.not_mem_render (c := '\n') rfl (by decide) (by decide) entry.time
  have hsuffix := not_mem_suffix (c := '\n') rfl (by decide) (by decide) entry
  rw [line_eq]
  simp [hclient, htime, hline, hsuffix]

/-- The entry of an exchange with a client that is named by its address is on one line: there is
no LF in it. Whatever their request lines, entries with equal lines agree in everything that a line
is about, if the names of their clients have no spaces. Names that are addresses have none. What a
line is about is not the point of time but what the clocks of the server showed then, in one of the
twelve months. Clocks show the same at two points of time exactly if these are as far apart as the
distances of the clocks to UTC, so a line tells the point of time as long as that distance is
known. -/
theorem line_faithful :
    (∀ site disk now peer exchange,
      (Conversation.hold site disk now peer).finish = .exchanged exchange →
        ∀ client time, '\n' ∉ (LogEntry.mk (rawIp client) time exchange).line) ∧
    (∀ client, ' ' ∉ rawIp client) ∧
    (∀ (server : Server) disk now client peer closing entry,
      (server.serve disk now client peer closing).log = some entry →
        entry.time = server.zone.timeAt now ∧ entry.time.HasMonth) ∧
    (∀ (zone other : Zone) m n,
      (zone.timeAt m = other.timeAt n ↔ m + zone.offset m = n + other.offset n) ∧
      (zone.timeAt m = other.timeAt n → zone.offset m = other.offset n → m = n)) ∧
    ∀ entry other : LogEntry, ' ' ∉ entry.client → ' ' ∉ other.client →
      entry.time.HasMonth → other.time.HasMonth → entry.line = other.line →
        entry.client = other.client ∧ entry.time = other.time ∧
          entry.exchange.requestLine = other.exchange.requestLine ∧
          entry.exchange.status = other.exchange.status ∧
          entry.exchange.bytes = other.exchange.bytes := by
  have hchar : ∀ {c : Char}, ¬ IpAddress.IsAddressChar c → ∀ client, c ∉ rawIp client :=
    fun hc client => IpAddress.not_mem_render hc client.ip
  refine ⟨fun site disk now peer exchange hfinish client time => ?_, fun client => ?_,
    fun server disk now client peer closing entry hlog => ?_, fun zone other m n => ?_,
    fun entry other hclient hother hmonth hmonth' h => ?_⟩
  · obtain ⟨head, -, -, -, -, rfl⟩ := Conversation.finish_hold_eq_exchanged_iff.1 hfinish
    refine lf_not_mem_line (hchar (by decide) client) ?_
    rw [Reply.requestLine_exchange]
    exact Text.lf_not_mem_firstLine _
  · exact hchar (by decide) client
  · obtain ⟨exchange, -, rfl⟩ := Server.log_serve_eq_some_iff.1 hlog
    exact ⟨rfl, LogTime.hasMonth_ofSeconds _⟩
  · have hclocks := zone.timeAt_eq_iff other m n
    refine ⟨hclocks, fun htime hoffset => ?_⟩
    have := hclocks.1 htime
    omega
  · obtain ⟨hclients, htimes, hlines, hsuffixes⟩ := parts_of_line hclient hother h
    obtain ⟨hstatus, hbytes⟩ := suffix_injective hsuffixes
    exact ⟨hclients, LogTime.render_injective hmonth hmonth' htimes, hlines, hstatus, hbytes⟩

/-- A request line that imitates the end of a line, and an entry that it is not taken for. An hour
and a half after the clocks were set back, they show another time than before. -/
theorem line_faithful_of_imitation :
    let head := Utf8.encode "GET /\" 200 7\r\n\r\n".toList
    let zone : Zone := ⟨fun n => if n < 1730613600 then -14400 else -18000⟩
    let client : SocketAddress := ⟨.v4 127 0 0 1, 8080⟩
    let server : Server := ⟨⟨[]⟩, client, rawIp, zone⟩
    let peer : Peer := ⟨[head], .closed, none, none⟩
    let imitated : Exchange := ⟨"GET /".toList, none, none, none, .ok, 7⟩
    ∃ entry, (server.serve ⟨[]⟩ 1730611800 client peer ⟨none, [], .closed⟩).log = some entry ∧
      '\n' ∉ entry.line ∧ entry.line ≠ (LogEntry.mk entry.client entry.time imitated).line ∧
      zone.timeAt 1730619000 ≠ entry.time := by
  intro head zone client server peer imitated
  obtain ⟨honLine, hspace, hserved, hclocks, htold⟩ := line_faithful
  have hhead := Reply.requestLine_exchange ⟨[]⟩ ⟨[]⟩ 1730611800 head
  have hfinish : (Conversation.hold ⟨[]⟩ ⟨[]⟩ 1730611800 peer).finish =
      .exchanged (Reply.respond ⟨[]⟩ ⟨[]⟩ 1730611800 head).exchange := by decide +kernel
  generalize (Reply.respond ⟨[]⟩ ⟨[]⟩ 1730611800 head).exchange = exchange at hhead hfinish
  let entry : LogEntry := ⟨rawIp client, zone.timeAt 1730611800, exchange⟩
  let other : LogEntry := ⟨rawIp client, zone.timeAt 1730611800, imitated⟩
  have hlog : (server.serve ⟨[]⟩ 1730611800 client peer ⟨none, [], .closed⟩).log = some entry :=
    Server.log_serve_eq_some_iff.2 ⟨exchange, hfinish, rfl⟩
  obtain ⟨-, hmonth⟩ := hserved server ⟨[]⟩ 1730611800 client peer ⟨none, [], .closed⟩ entry hlog
  refine ⟨entry, hlog, honLine _ _ _ _ _ hfinish client _, fun h => ?_, fun h => ?_⟩
  · obtain ⟨-, -, hline, -⟩ := htold entry other (hspace client) (hspace client) hmonth hmonth h
    have hdiffers : Reply.requestLine head ≠ "GET /".toList := by decide +kernel
    exact hdiffers (hhead.symm.trans hline)
  · have hapart : (1730619000 : Nat) + zone.offset 1730619000 ≠
        (1730611800 : Nat) + zone.offset 1730611800 := by decide
    exact hapart ((hclocks zone zone 1730619000 1730611800).1.1 h)

/-- In the hour after the clocks were set back, a server writes the line that it wrote an hour
before. -/
theorem line_faithful_of_clockBack :
    let head := Utf8.encode "GET /a HTTP/1.0\r\n\r\n".toList
    let zone : Zone := ⟨fun n => if n < 1730613600 then -14400 else -18000⟩
    let client : SocketAddress := ⟨.v4 127 0 0 1, 8080⟩
    let server : Server := ⟨⟨[]⟩, client, rawIp, zone⟩
    let line := fun now => ((server.serve ⟨[]⟩ now client ⟨[head], .closed, none, none⟩
      ⟨none, [], .closed⟩).log.map LogEntry.line)
    line 1730611800 = some
        "127.0.0.1 - - [03/Nov/2024 01:30:00] \"GET /a HTTP/1.0\" 404 271".toList ∧
      line 1730615400 = line 1730611800 := by
  intro head zone client server line
  constructor <;> decide +kernel

end LogEntry

end FileServer
