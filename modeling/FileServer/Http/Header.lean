import FileServer.Text.Basic

/-!
# Header fields

Names are compared without regard to ASCII case, and the first of several fields of one name
counts.
-/

namespace FileServer

/-- A header field of a request or a response. -/
structure Header where
  name : Text
  value : Text
  deriving DecidableEq, Repr

/-- Whether two names are equal without regard to ASCII case. -/
def sameName (a b : Text) : Bool := a.map Char.toLower = b.map Char.toLower

@[simp] theorem sameName_refl (a : Text) : sameName a a := by simp [sameName]

/-- The value of the first field with a name. -/
def Header.find? (name : Text) (headers : List Header) : Option Text :=
  (headers.find? fun header => sameName header.name name).map (·.value)

end FileServer
