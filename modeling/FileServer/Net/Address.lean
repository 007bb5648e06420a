import FileServer.Text.Hexadecimal
import FileServer.Text.Reader

/-!
# Addresses

IP addresses and socket addresses as text. An IPv4 address is four decimal numbers. An IPv6
address is eight hexadecimal groups; in writing, the first of its longest runs of two or more zero
groups is left out, and an address that stands for an IPv4 address ends with that one. In reading,
any one run of zero groups may be left out, and the last two groups of either part may be an IPv4
address.
-/

namespace FileServer

/-- An IP address. -/
inductive IpAddress where
  | v4 (a b c d : UInt8)
  | v6 (groups : Vector UInt16 8)
  deriving DecidableEq, Repr

/-- An IP address and a port. -/
structure SocketAddress where
  ip : IpAddress
  port : UInt16
  deriving DecidableEq, Repr

namespace IpAddress

/-! ## Writing -/

/-- An IPv4 address in writing. -/
def renderV4 (a b c d : UInt8) : Text :=
  ['.'].intercalate ([a, b, c, d].map fun n => Decimal.render n.toNat)

/-- Groups of an IPv6 address in writing. -/
def renderGroups (groups : List UInt16) : Text :=
  [':'].intercalate (groups.map fun n => Nat.toDigits 16 n.toNat)

/-- The number of zero groups at the front. -/
def leadingZeros (groups : List UInt16) : Nat := (groups.takeWhile (· = 0)).length

/-- Where the first of the longest runs of zero groups begins, and its length. -/
def zeroRun : List UInt16 → Nat × Nat
  | [] => (0, 0)
  | group :: groups =>
    let here := leadingZeros (group :: groups)
    let (start, length) := zeroRun groups
    if length ≤ here then (0, here) else (start + 1, length)

/-- The IPv4 address that an IPv6 address stands for. -/
def mapped? (groups : List UInt16) : Option (UInt8 × UInt8 × UInt8 × UInt8) :=
  match groups with
  | [0, 0, 0, 0, 0, 0xFFFF, high, low] =>
    some ((high >>> 8).toUInt8, high.toUInt8, (low >>> 8).toUInt8, low.toUInt8)
  | _ => none

/-- An IPv6 address in writing. -/
def renderV6 (groups : List UInt16) : Text :=
  match mapped? groups with
  | some (a, b, c, d) => "::ffff:".toList ++ renderV4 a b c d
  | none =>
    let (start, length) := zeroRun groups
    if 2 ≤ length then
      renderGroups (groups.take start) ++ "::".toList ++ renderGroups (groups.drop (start + length))
    else renderGroups groups

/-- An address in writing. -/
def render : IpAddress → Text
  | v4 a b c d => renderV4 a b c d
  | v6 groups => renderV6 groups.toList

/-! ## Reading -/

/-- Reads a decimal number of one to three digits that fits in a byte. It has no leading zero. -/
def octet : Reader UInt8 := fun input =>
  let digits := input.takeWhile Char.isDigit
  if digits = [] ∨ 3 < digits.length ∨ (digits.head? = some '0' ∧ digits ≠ ['0']) then none
  else if Decimal.value digits < 256 then
    some (UInt8.ofNat (Decimal.value digits), input.dropWhile Char.isDigit)
  else none

/-- Reads an IPv4 address. -/
def readV4 : Reader IpAddress := do
  let a ← octet
  Reader.literal ['.']
  let b ← octet
  Reader.literal ['.']
  let c ← octet
  Reader.literal ['.']
  let d ← octet
  return v4 a b c d

/-- Reads a group of one to four hexadecimal digits. -/
def group : Reader UInt16 := fun input =>
  let digits := input.takeWhile fun c => (Hexadecimal.digit? c).isSome
  if digits = [] ∨ 4 < digits.length then none
  else some (UInt16.ofNat (Hexadecimal.value digits), input.drop digits.length)

/-- Reads an IPv4 address as two groups. -/
def readV4Groups : Reader (List UInt16) := fun input =>
  match readV4 input with
  | some (v4 a b c d, rest) =>
    some ([a.toUInt16 <<< 8 ||| b.toUInt16, c.toUInt16 <<< 8 ||| d.toUInt16], rest)
  | _ => none

/-- Reads up to `limit` groups, which may end with an IPv4 address for the last two. Before every
group but the first stands a colon. The flag says whether there was an IPv4 address. -/
def readGroups : Nat → Bool → Text → List UInt16 × Bool × Text
  | 0, _, input => ([], false, input)
  | limit + 1, first, input =>
    let separator : Reader Unit := if first then pure () else Reader.literal [':']
    let embedded : Option (List UInt16 × Text) :=
      if 1 ≤ limit then (do separator; readV4Groups) input else none
    match embedded with
    | some (groups, rest) => (groups, true, rest)
    | none =>
      match (do separator; group) input with
      | some (group, rest) =>
        let (groups, isEmbedded, rest) := readGroups limit false rest
        (group :: groups, isEmbedded, rest)
      | none => ([], false, input)

/-- The address with these groups, if there are eight. -/
def ofGroups? (groups : List UInt16) : Option IpAddress :=
  if h : groups.length = 8 then some (v6 ⟨groups.toArray, by simp [h]⟩) else none

/-- Reads an IPv6 address. The groups that are left out are at least one. -/
def readV6 : Reader IpAddress := fun input =>
  let (front, isEmbedded, rest) := readGroups 8 true input
  if front.length = 8 then (ofGroups? front).map (·, rest)
  else if isEmbedded then none
  else
    match Reader.literal "::".toList rest with
    | none => none
    | some (_, rest) =>
      let (back, _, rest) := readGroups (7 - front.length) true rest
      let zeros := List.replicate (8 - front.length - back.length) 0
      (ofGroups? (front ++ zeros ++ back)).map (·, rest)

/-- Reads an address that is the whole text. -/
def parse? (t : Text) : Option IpAddress := Reader.readAll (readV4 <|> readV6) t

end IpAddress

namespace SocketAddress

/-- A socket address in writing; an IPv6 address is put in brackets. -/
def render (address : SocketAddress) : Text :=
  let ip :=
    match address.ip with
    | .v4 _ _ _ _ => address.ip.render
    | .v6 _ => ['['] ++ address.ip.render ++ [']']
  ip ++ [':'] ++ Decimal.render address.port.toNat

/-- Reads a decimal number below a bound. Leading zeros are allowed. -/
def numberBelow (bound : Nat) : Reader Nat := fun input =>
  match Decimal.parse? (input.takeWhile Char.isDigit) with
  | some n => if n < bound then some (n, input.dropWhile Char.isDigit) else none
  | none => none

/-- Reads a colon and a port. -/
def readPort : Reader UInt16 := do
  Reader.literal [':']
  UInt16.ofNat <$> numberBelow 65536

/-- Reads the scope of an IPv6 address, which does not matter further. -/
def readScope : Reader Unit := do
  Reader.literal ['%']
  let _ ← numberBelow UInt32.size

/-- Reads a socket address with an IPv4 address. -/
def readV4 : Reader SocketAddress := do
  let ip ← IpAddress.readV4
  return ⟨ip, ← readPort⟩

/-- Reads a socket address with an IPv6 address. -/
def readV6 : Reader SocketAddress := do
  Reader.literal ['[']
  let ip ← IpAddress.readV6
  readScope <|> pure ()
  Reader.literal [']']
  return ⟨ip, ← readPort⟩

/-- Reads a socket address that is the whole text. -/
def parse? (t : Text) : Option SocketAddress := Reader.readAll (readV4 <|> readV6) t

end SocketAddress

end FileServer
