import FileServer.Proofs.Reply
import FileServer.Proofs.Text.Cut
import FileServer.Proofs.Text.Replacement

/-!
# The request line of an exchange

What is reported as the request line is cut out of the text that the whole head is read as, whether
or not it is ill-formed; what is reported of the request itself comes from the parser, which reads
well-formed heads only and has its own notion of a line. Both speak of the same line: the bytes
before the first LF.

* `firstLine_eq`, `firstLine_decodeLossy`: the first line of a text, and of the text of bytes;
* `requestLine_of_parseHead`: what an accepted head begins with;
* `requestLine_respond`: the request line of an exchange, and the request.
-/

namespace FileServer

/-! ## First lines -/

/-- What stands before the first LF, without a CR right before it; everything if there is no LF. -/
def firstLineOf {α : Type} [DecidableEq α] (lf cr : α) (xs : List α) : List α :=
  match cutAt? [lf] xs with
  | some (line, _) => if line.getLast? = some cr then line.dropLast else line
  | none => xs

section

variable {α : Type} [DecidableEq α] {lf : α}

theorem firstLineOf_of_not_mem {xs : List α} (h : lf ∉ xs) (cr : α) :
    firstLineOf lf cr xs = xs := by
  rw [firstLineOf, cutAt?_of_not_mem h]

theorem firstLineOf_append {line : List α} (h : lf ∉ line) (cr : α) (more : List α) :
    firstLineOf lf cr (line ++ lf :: more) =
      if line.getLast? = some cr then line.dropLast else line := by
  rw [firstLineOf, List.append_cons, cutAt?_piece h]

/-- What follows an LF has no influence on the first line. -/
theorem firstLineOf_append_congr (cr : α) (line more other : List α) :
    firstLineOf lf cr (line ++ lf :: more) = firstLineOf lf cr (line ++ lf :: other) := by
  obtain ⟨front, back, hline, hfront⟩ :=
    List.eq_append_cons_of_mem (List.mem_append_right line (List.mem_cons_self (a := lf) (l := [])))
  have hcut : ∀ rest, line ++ lf :: rest = front ++ lf :: (back ++ rest) := fun rest => by
    rw [List.append_cons, hline, List.append_assoc, List.cons_append]
  rw [hcut, hcut, firstLineOf_append hfront, firstLineOf_append hfront]

end

namespace Text

/-- The line before the first LF is the first line, and loses a CR at its end. -/
theorem lines_append_lf {t : Text} (h : '\n' ∉ t) (more : Text) :
    lines (t ++ '\n' :: more) =
      (if t.getLast? = some '\r' then ⟨t.dropLast, .crlf⟩ else ⟨t, .lf⟩) :: lines more := by
  induction t with
  | nil => simp [Line.push]
  | cons c t ih =>
    obtain ⟨hc, ht⟩ := not_or.1 (mt List.mem_cons.2 h)
    rw [List.cons_append, lines_cons, ih ht, Line.push, if_neg (Ne.symm hc)]
    obtain - | ⟨d, t⟩ := t
    · by_cases hcr : c = '\r'
      · simp [hcr]
      · simp [hcr]
    · rw [List.getLast?_cons_cons, List.dropLast_cons_cons]
      split
      · simp
      · simp

theorem firstLine_eq (t : Text) : firstLine t = firstLineOf '\n' '\r' t := by
  by_cases h : '\n' ∈ t
  · obtain ⟨line, more, rfl, hline⟩ := List.eq_append_cons_of_mem h
    rw [firstLineOf_append hline, firstLine, lines_append_lf hline]
    exact apply_ite Line.text _ _ _
  · rw [firstLineOf_of_not_mem h, firstLine]
    split
    · next hlines => exact (eq_nil_of_lines hlines).symm
    · next line ls hlines =>
      obtain ⟨rest, rfl, -, hlf, hlast⟩ := lines_eq_cons hlines
      have hending : line.ending = .missing := by
        cases hline : line.ending with
        | missing => rfl
        | lf | crlf => simp [Line.render, hline, LineEnd.text] at h
      obtain ⟨-, rfl⟩ := hlast hending
      simp [Line.render, hending, LineEnd.text]

theorem lf_not_mem_firstLine (t : Text) : '\n' ∉ firstLine t := by
  rw [firstLine]
  split
  · exact List.not_mem_nil
  · next line ls hlines =>
    obtain ⟨-, -, -, hlf, -⟩ := lines_eq_cons hlines
    exact hlf

end Text

namespace Utf8

/-- An LF in what bytes are read as is one of the bytes. -/
theorem lf_not_mem_decodeLossy {bs : Bytes} (h : (0x0A : UInt8) ∉ bs) : '\n' ∉ decodeLossy bs :=
  mt (mem_of_mem_decodeLossy (c := '\n') (by decide)) h

/-- A CR at the end of what bytes are read as is their last byte. -/
theorem dropReturn_decodeLossy (bs : Bytes) :
    (if (decodeLossy bs).getLast? = some '\r' then (decodeLossy bs).dropLast
      else decodeLossy bs) =
      decodeLossy (if bs.getLast? = some 0x0D then bs.dropLast else bs) := by
  have hbyte : ∀ front : Bytes, decodeLossy (front ++ [0x0D]) = decodeLossy front ++ ['\r'] :=
    fun front => decodeLossy_append_ascii (b := 0x0D) (by decide) front []
  by_cases h : bs.getLast? = some 0x0D
  · obtain ⟨front, rfl⟩ := List.getLast?_eq_some_iff.1 h
    rw [if_pos h, hbyte, List.dropLast_concat, List.dropLast_concat, if_pos (by simp)]
  · have htext : (decodeLossy bs).getLast? ≠ some '\r' := fun hlast => by
      obtain ⟨s, hs⟩ := List.getLast?_eq_some_iff.1 hlast
      obtain ⟨front, back, rfl, -, hback⟩ := exists_of_decodeLossy_eq_append (by decide) hs
      rw [eq_nil_of_decodeLossy hback] at h
      exact h (List.getLast?_concat ..)
    rw [if_neg h, if_neg htext]

/-- The first line of what bytes are read as is what their first line is read as. -/
theorem firstLine_decodeLossy (bs : Bytes) :
    Text.firstLine (decodeLossy bs) = decodeLossy (firstLineOf 0x0A 0x0D bs) := by
  rw [Text.firstLine_eq]
  by_cases hlf : (0x0A : UInt8) ∈ bs
  · obtain ⟨line, more, rfl, hline⟩ := List.eq_append_cons_of_mem hlf
    rw [firstLineOf_append hline, decodeLossy_append_ascii (by decide), ← dropReturn_decodeLossy]
    exact firstLineOf_append (lf_not_mem_decodeLossy hline) '\r' (decodeLossy more)
  · rw [firstLineOf_of_not_mem hlf, firstLineOf_of_not_mem (lf_not_mem_decodeLossy hlf)]

end Utf8

namespace Reply

theorem requestLine_exchange (site : Site) (disk : Disk) (now : Nat) (head : Bytes) :
    (respond site disk now head).exchange.requestLine = requestLine head := by
  unfold respond
  split
  · rfl
  · rfl

/-- An accepted head begins with its request line, in which the version stands as some token. -/
theorem requestLine_of_parseHead {head : Bytes} {request : Request}
    (h : parseHead head = .ok request) : ∃ token,
      Version.parse token = .ok request.version ∧ requestLine head = request.requestLine token := by
  obtain ⟨text, rfl, hparse⟩ := exists_parse_of_parseHead h
  obtain ⟨rest, hhead⟩ := Request.isHead_of_parse hparse
  obtain @⟨_, token, fields, _, ending, htarget, htoken, hversion, hlast, -⟩ := hhead
  have hline := Request.isOneLine_requestLine htarget htoken
  have hne : request.requestLine token ≠ [] := by simp [Request.requestLine]
  refine ⟨token, hversion, ?_⟩
  rw [requestLine_encode, Text.firstLine, Text.lines_first hline hne hlast]

/-- The request line of an exchange is what the bytes before the first LF are read as, without a CR
right before it, and all bytes if there is no LF; nothing after the LF has an influence on it. Of an
accepted head the exchange has the method, the target and the version as well, and the request line
consists of them; of any other head it has none of the three. -/
theorem requestLine_respond (site : Site) (disk : Disk) (now : Nat) (head : Bytes) :
    let exchange := fun head => (respond site disk now head).exchange
    (exchange head).requestLine = Utf8.decodeLossy (firstLineOf 0x0A 0x0D head) ∧
      (∀ line more other, (exchange (line ++ 0x0A :: more)).requestLine =
        (exchange (line ++ 0x0A :: other)).requestLine) ∧
      (∀ request, parseHead head = .ok request →
        (exchange head).method = some request.method ∧
        (exchange head).target = some request.target ∧
        (exchange head).version = some request.version ∧
        ∃ token, Version.parse token = .ok request.version ∧ (exchange head).requestLine =
          request.method.token ++ ' ' :: (request.target ++ ' ' :: token)) ∧
      ∀ error, parseHead head = .error error →
        (exchange head).method = none ∧ (exchange head).target = none ∧
          (exchange head).version = none := by
  intro exchange
  have hline : ∀ head, (exchange head).requestLine =
      Utf8.decodeLossy (firstLineOf 0x0A 0x0D head) := fun head =>
    (requestLine_exchange site disk now head).trans (Utf8.firstLine_decodeLossy head)
  refine ⟨hline head, fun line more other => ?_, fun request hparse => ?_, fun error hparse => ?_⟩
  · rw [hline, hline, firstLineOf_append_congr 0x0D line more other]
  · obtain ⟨token, hversion, htoken⟩ := requestLine_of_parseHead hparse
    have hexchange : exchange head =
        (toRequest site disk now (requestLine head) request).exchange := by
      simp only [exchange, respond, hparse]
    rw [hexchange]
    exact ⟨rfl, rfl, rfl, token, hversion, htoken⟩
  · simp only [exchange, respond_of_error hparse]
    exact ⟨rfl, rfl, rfl⟩

/-- A request with leading zeros in its version, and a head that is cut off within a character. -/
theorem requestLine_respond_of_zeros :
    let exchange := fun head => (respond ⟨[]⟩ ⟨[]⟩ 0 head).exchange
    let put := Utf8.encode "PUT /a?b HTTP/01.1\r\nc: d\r\n\r\n".toList
    let cut : Bytes := 0x47 :: 0xE2 :: 0x82 :: 0x0D :: 0x0A :: [0x78]
    (∃ token, Version.parse token = .ok .http11 ∧
      (exchange put).requestLine = "PUT /a?b ".toList ++ token) ∧
      (exchange cut).requestLine = ['G', Utf8.replacement] ∧ (exchange cut).method = none := by
  intro exchange put cut
  have hput : parseHead put = .ok ⟨.put, "/a?b".toList, .http11, [⟨['c'], ['d']⟩]⟩ := by
    decide +kernel
  have hcut : parseHead cut = .error .encoding := by decide +kernel
  obtain ⟨-, -, haccepted, -⟩ := requestLine_respond ⟨[]⟩ ⟨[]⟩ 0 put
  obtain ⟨hline, -, -, hrejected⟩ := requestLine_respond ⟨[]⟩ ⟨[]⟩ 0 cut
  obtain ⟨-, -, -, token, hversion, htoken⟩ := haccepted _ hput
  exact ⟨⟨token, hversion, htoken⟩, hline.trans (by decide +kernel), (hrejected _ hcut).1⟩

end Reply

end FileServer
