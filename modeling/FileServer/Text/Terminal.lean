import FileServer.Text.Utf8

/-!
# Texts for terminals

A text for a terminal may hold escape sequences, which the terminal obeys instead of showing them.
Where there is no terminal they are left out, together with the control characters that are not
blank. A sequence begins with an ESC; how it ends depends on the character after that. Blank
controls are shown even within a sequence, and so is what follows them, up to the next character
that is never shown. What happens then depends on how the text is given out: in a text that is
taken as a whole the sequence is over, and in a stream it goes on.
-/

namespace FileServer.Terminal

/-- Where a terminal stands in what it receives. -/
inductive State where
  /-- Outside all sequences. -/
  | ground
  /-- After an ESC. -/
  | escape
  /-- After an ESC and characters that need another. -/
  | escapeMore
  /-- In a control sequence. -/
  | control
  /-- At the front of a device control string, before its parameters. -/
  | deviceStart
  | deviceParameters
  /-- Between the parameters of a device control string and its final character. -/
  | deviceMore
  /-- In the data of a device control string, or in a string that is not understood. -/
  | data
  /-- In a command to the operating system. -/
  | command
  deriving DecidableEq, Repr

/-- How a text is given out. -/
inductive Manner where
  /-- At once. -/
  | whole
  /-- To a stream. -/
  | stream
  deriving DecidableEq, Repr

/-- Whether a byte lies in a range. -/
def within (first last b : UInt8) : Bool := first ≤ b && b ≤ last

/-- Whether a byte is a control character that counts as blank. -/
def isBlankControl (b : UInt8) : Bool := b = 0x09 || b = 0x0A || b = 0x0C || b = 0x0D

/-- Whether a byte is shown after another that is shown. The later bytes of a character are shown
with its first byte. -/
def goesOn (b : UInt8) : Bool := within 0x20 0x7E b || 0x80 ≤ b || isBlankControl b

namespace State

/-- The state after a byte that is not shown. -/
def next (state : State) (b : UInt8) : State :=
  if b = 0x1B then escape
  else if b = 0x18 ∨ b = 0x1A then ground
  else
    match state with
    | ground => ground
    | escape =>
      if b = 0x5B then control
      else if b = 0x50 then deviceStart
      else if b = 0x5D then command
      else if b = 0x58 ∨ b = 0x5E ∨ b = 0x5F then data
      else if within 0x20 0x2F b then escapeMore
      else if within 0x30 0x7E b then ground
      else escape
    | escapeMore => if within 0x30 0x7E b then ground else escapeMore
    | control => if within 0x40 0x7E b then ground else control
    | deviceStart =>
      if within 0x40 0x7E b then data
      else if within 0x20 0x2F b then deviceMore
      else if within 0x30 0x3F b then deviceParameters
      else deviceStart
    | deviceParameters =>
      if within 0x3C 0x7E b then data
      else if within 0x20 0x2F b then deviceMore
      else deviceParameters
    | deviceMore => if within 0x30 0x7E b then data else deviceMore
    | data => if b = 0x9C then ground else data
    | command => if b = 0x07 then ground else command

/-- Whether a byte is shown after another that is not shown. -/
def shows (state : State) (b : UInt8) : Bool :=
  match state with
  | ground => within 0x20 0x7E b || 0xC0 ≤ b || isBlankControl b
  | escape | escapeMore | control => isBlankControl b
  | _ => false

/-- The state after a byte that is shown. A character that is not ASCII ends any sequence. -/
def afterShown (manner : Manner) (state : State) (b : UInt8) : State :=
  if manner = .whole ∨ 0x80 ≤ b then ground else state

end State

/-- The bytes that are shown, from a state on. The flag says whether the last byte was shown. -/
def strip (manner : Manner) : State → Bool → Bytes → Bytes
  | _, _, [] => []
  | state, going, b :: bs =>
    if if going then goesOn b else state.shows b then
      b :: strip manner (state.afterShown manner b) true bs
    else strip manner (state.next b) false bs

/-- What is shown of a text. -/
def shown (manner : Manner) (t : Text) : Text :=
  Utf8.decodeLossy (strip manner .ground true (Utf8.encode t))

/-- A text in bold letters. -/
def bold (t : Text) : Text := "\x1b[1m".toList ++ t ++ "\x1b[0m".toList

/-- A text in the colour of what is wrong. -/
def wrong (t : Text) : Text := "\x1b[33m".toList ++ t ++ "\x1b[0m".toList

end FileServer.Terminal
