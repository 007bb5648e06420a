import FileServer.Http.RequestError

/-!
# Protocol versions

A version token is `HTTP/`, a number, a point and a number; each number has to fit in a byte.
Versions from 2.0 upwards are well formed and yet refused.

* `parse_eq_ok`: a version is accepted exactly when its token is well formed and below 2.0.
-/

namespace FileServer

/-- A protocol version. -/
structure Version where
  major : UInt8
  minor : UInt8
  deriving DecidableEq, Repr

namespace Version

/-- HTTP/1.0, which promises a single exchange on each connection. -/
def http10 : Version := ⟨1, 0⟩

/-- HTTP/1.1. -/
def http11 : Version := ⟨1, 1⟩

/-- The text of a version. -/
def render (v : Version) : Text :=
  "HTTP/".toList ++ Decimal.render v.major.toNat ++ ".".toList ++ Decimal.render v.minor.toNat

/-- Versions are ordered by the first number, then by the second. -/
instance : Ord Version where
  compare v w := (compare v.major w.major).then (compare v.minor w.minor)

/-- Reads a number that fits in a byte. -/
def byte? (digits : Text) : Option UInt8 :=
  match Decimal.parse? digits with
  | some n => if n < 256 then some (UInt8.ofNat n) else none
  | none => none

/-- Reads the two numbers of a version token. -/
def numbers? (token : Text) : Option (UInt8 × UInt8) :=
  match token with
  | 'H' :: 'T' :: 'T' :: 'P' :: '/' :: numbers =>
    match splitOn '.' numbers with
    | [major, minor] =>
      match byte? major, byte? minor with
      | some a, some b => some (a, b)
      | _, _ => none
    | _ => none
  | _ => none

/-- Reads a version token; 2.0 and above are refused. -/
def parse (token : Text) : Except RequestError Version :=
  match numbers? token with
  | none => .error (.version token)
  | some (major, minor) =>
    if 2 ≤ major then .error (.unsupportedVersion major.toNat minor.toNat) else .ok ⟨major, minor⟩

theorem parse_eq_ok {token : Text} {v : Version} :
    parse token = .ok v ↔ numbers? token = some (v.major, v.minor) ∧ v.major < 2 := by
  unfold parse
  split
  · next h => simp [h]
  · rename_i major minor h
    obtain ⟨a, b⟩ := v
    split
    · rename_i hle
      simp only [h, reduceCtorEq, Option.some.injEq, Prod.mk.injEq, false_iff, not_and]
      rintro ⟨rfl, rfl⟩
      exact UInt8.not_lt.2 hle
    · rename_i hlt
      simp only [h, Except.ok.injEq, mk.injEq, Option.some.injEq, Prod.mk.injEq]
      exact ⟨fun hv => ⟨hv, hv.1 ▸ UInt8.not_le.1 hlt⟩, fun hv => hv.1⟩

end Version

end FileServer
