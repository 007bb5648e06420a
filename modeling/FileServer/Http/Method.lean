import FileServer.Text.Basic

/-!
# Methods

The nine standard request methods and their tokens. Tokens are case-sensitive.

* `parse?_token`, `eq_token_of_parse?`: a token is read as the method that it names, and nothing
  else is.
-/

namespace FileServer

/-- A standard request method. -/
inductive Method where
  | get
  | post
  | put
  | delete
  | patch
  | options
  | head
  | connect
  | trace
  deriving DecidableEq, Repr

namespace Method

/-- Every method. -/
def all : List Method := [get, post, put, delete, patch, options, head, connect, trace]

/-- The token of a method on the request line. -/
def token : Method → Text
  | get => "GET".toList
  | post => "POST".toList
  | put => "PUT".toList
  | delete => "DELETE".toList
  | patch => "PATCH".toList
  | options => "OPTIONS".toList
  | head => "HEAD".toList
  | connect => "CONNECT".toList
  | trace => "TRACE".toList

/-- The method that a token names. -/
def parse? (token : Text) : Option Method := all.find? (·.token = token)

/-- Whether the server answers the method with what was asked for; it refuses all others. -/
def isSupported (m : Method) : Bool := m = get || m = head

@[simp] theorem parse?_token (m : Method) : parse? m.token = some m := by
  cases m <;> rfl

theorem eq_token_of_parse? {t : Text} {m : Method} (h : parse? t = some m) : t = m.token := by
  have htoken := List.find?_some h
  exact (of_decide_eq_true htoken).symm

end Method

end FileServer
