import FileServer.Net.Address

/-!
# Settings

The four settings of the server, their values, and what can be wrong with a value. The port is
read as a signed 64-bit number first, so that a number of any size is told from other text.

* `config_nothing`: the defaults are the values that their texts write.
-/

namespace FileServer

/-- What can be set. -/
inductive Setting where
  | port
  | bind
  | root
  | logLevel
  deriving DecidableEq, Repr

namespace Setting

/-- Every setting, in the order in which the environment is read. -/
def all : List Setting := [port, bind, root, logLevel]

/-- The name of the long option. -/
def long : Setting → Text
  | port => "port".toList
  | bind => "bind".toList
  | root => "root".toList
  | logLevel => "log-level".toList

/-- The letter of the short option. -/
def short? : Setting → Option Char
  | port => some 'p'
  | bind => some 'b'
  | root => some 'r'
  | logLevel => none

/-- How the value is called. -/
def valueName : Setting → Text
  | port => "PORT".toList
  | bind => "BIND".toList
  | root => "ROOT".toList
  | logLevel => "LOG_LEVEL".toList

/-- The environment variable. -/
def source? : Setting → Option Text
  | port => some "PORT".toList
  | bind => some "BIND_ADDRESS".toList
  | root => some "SERVE_ROOT".toList
  | logLevel => none

/-- The value of a setting that nobody sets. -/
def default : Setting → Text
  | port => "80".toList
  | bind => "0.0.0.0".toList
  | root => ".".toList
  | logLevel => "info".toList

/-- The option in messages. -/
def usage (setting : Setting) : Text :=
  "--".toList ++ setting.long ++ " <".toList ++ setting.valueName ++ ">".toList

end Setting

/-- What is wrong with a value. -/
inductive ValueProblem where
  | emptyNumber
  | invalidDigit
  | tooLarge
  | tooSmall
  | outOfRange (n : Int)
  | notAnAddress
  deriving DecidableEq, Repr

/-- A number with its sign. -/
def signedText (n : Int) : Text :=
  (if n < 0 then ['-'] else []) ++ Decimal.render n.natAbs

/-- The wording of a problem. -/
def ValueProblem.message : ValueProblem → Text
  | emptyNumber => "cannot parse integer from empty string".toList
  | invalidDigit => "invalid digit found in string".toList
  | tooLarge => "number too large to fit in target type".toList
  | tooSmall => "number too small to fit in target type".toList
  | outOfRange n => signedText n ++ " is not in 0..=65535".toList
  | notAnAddress => "invalid IP address syntax".toList

/-- Reads digits, from the left, into a number of at most `bound`. What is wrong with the first
character that does not fit is what is wrong with the number. -/
def boundedDigits (bound : Nat) (overflow : ValueProblem) : Nat → Text → Except ValueProblem Nat
  | n, [] => .ok n
  | n, c :: rest =>
    if !c.isDigit then .error .invalidDigit
    else if bound < n * 10 + Decimal.digit c then .error overflow
    else boundedDigits bound overflow (n * 10 + Decimal.digit c) rest

/-- Reads a signed 64-bit number. -/
def signed64 : Text → Except ValueProblem Int
  | [] => .error .emptyNumber
  | ['+'] | ['-'] => .error .invalidDigit
  | '+' :: digits => (boundedDigits (UInt64.size / 2 - 1) .tooLarge 0 digits).map Int.ofNat
  | '-' :: digits => (boundedDigits (UInt64.size / 2) .tooSmall 0 digits).map fun n => -Int.ofNat n
  | digits => (boundedDigits (UInt64.size / 2 - 1) .tooLarge 0 digits).map Int.ofNat

/-- Reads a port. -/
def portOfText (value : Text) : Except ValueProblem UInt16 :=
  match signed64 value with
  | .error problem => .error problem
  | .ok n => if 0 ≤ n ∧ n ≤ 65535 then .ok (UInt16.ofNat n.toNat) else .error (.outOfRange n)

/-- Reads the address to listen at. -/
def bindOfText (value : Text) : Except ValueProblem IpAddress :=
  match IpAddress.parse? value with
  | some ip => .ok ip
  | none => .error .notAnAddress

/-- The settings that have been made. -/
structure Given where
  port : Option UInt16
  bind : Option IpAddress
  root : Option Text
  logLevel : Option Text
  /-- The settings that the command line made, in its order. -/
  order : List Setting
  deriving DecidableEq, Repr

namespace Given

/-- No setting has been made. -/
def nothing : Given := ⟨none, none, none, none, []⟩

/-- Whether a setting has been made. -/
def has (given : Given) : Setting → Bool
  | .port => given.port.isSome
  | .bind => given.bind.isSome
  | .root => given.root.isSome
  | .logLevel => given.logLevel.isSome

end Given

/-- How the server is to run. -/
structure Config where
  port : UInt16
  bind : IpAddress
  root : Text
  logLevel : Text
  deriving DecidableEq, Repr

/-- The address at which the server listens. -/
def Config.address (config : Config) : SocketAddress := ⟨config.bind, config.port⟩

/-- The settings that have been made, and the defaults of all others. -/
def Given.config (given : Given) : Config where
  port := given.port.getD 80
  bind := given.bind.getD (.v4 0 0 0 0)
  root := given.root.getD Setting.root.default
  logLevel := given.logLevel.getD Setting.logLevel.default

/-- The defaults are what their texts say. -/
theorem config_nothing : portOfText Setting.port.default = .ok Given.nothing.config.port ∧
    bindOfText Setting.bind.default = .ok Given.nothing.config.bind := by
  constructor <;> rfl

end FileServer
