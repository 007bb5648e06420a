import FileServer.Config.Basic

/-!
# The command line

Options are read from the left. The value of an option is attached to it or is the next argument;
an argument that begins with a hyphen is a value only when it is a single hyphen. The value of an
option is looked at when the next option or the end has come. The environment is read for settings
that the command line left open, and only when the command line was accepted.

* `readEnvironment_of_has`: the environment does not override the command line.
-/

namespace FileServer

/-- An option that asks for a text instead of setting something. -/
inductive Inquiry where
  | help
  | version
  deriving DecidableEq, Repr

namespace Inquiry

/-- The name of the long option. -/
def long : Inquiry → Text
  | help => "help".toList
  | version => "version".toList

/-- The letter of the short option. -/
def short : Inquiry → Char
  | help => 'h'
  | version => 'V'

end Inquiry

/-- An option. -/
inductive CommandOption where
  | setting (setting : Setting)
  | inquiry (inquiry : Inquiry)
  deriving DecidableEq, Repr

namespace CommandOption

/-- The option with a long name. -/
def ofLong? (name : Text) : Option CommandOption :=
  match Setting.all.find? (·.long = name) with
  | some s => some (setting s)
  | none => ([.help, .version].find? fun i : Inquiry => i.long = name).map inquiry

/-- The option with a letter. -/
def ofShort? (letter : Char) : Option CommandOption :=
  match Setting.all.find? (·.short? = some letter) with
  | some s => some (setting s)
  | none => ([.help, .version].find? fun i : Inquiry => i.short = letter).map inquiry

end CommandOption

/-- Why the server does not run. -/
inductive Refusal where
  /-- A text was asked for. -/
  | inquiry (inquiry : Inquiry)
  | unexpectedArgument (argument : Text)
  /-- There is no long option of this name; `used` are the settings made so far. -/
  | unknownOption (name : Text) (used : List Setting)
  | missingValue (setting : Setting)
  | invalidValue (setting : Setting) (value : Text) (problem : ValueProblem)
  | repeated (setting : Setting)
  /-- A value was given to an option that takes none; `used` are the settings made so far. -/
  | needlessValue (inquiry : Inquiry) (value : Text) (used : List Setting)
  deriving DecidableEq, Repr

namespace Given

/-- Makes a setting. The root must not be empty. -/
def set (given : Given) (setting : Setting) (value : Text) : Except Refusal Given :=
  match setting with
  | .port =>
    match portOfText value with
    | .ok port => .ok { given with port := some port }
    | .error problem => .error (.invalidValue .port value problem)
  | .bind =>
    match bindOfText value with
    | .ok bind => .ok { given with bind := some bind }
    | .error problem => .error (.invalidValue .bind value problem)
  | .root =>
    if value = [] then .error (.missingValue .root) else .ok { given with root := some value }
  | .logLevel => .ok { given with logLevel := some value }

/-- Makes a setting on the command line, where it is made at most once. -/
def attach (given : Given) (setting : Setting) (value : Text) : Except Refusal Given :=
  if given.has setting then .error (.repeated setting)
  else (given.set setting value).map fun given => { given with order := given.order ++ [setting] }

end Given

/-- The option whose value is still to be looked at. -/
inductive Pending where
  | nothing
  /-- The value has not come yet. -/
  | awaiting (setting : Setting)
  | value (setting : Setting) (value : Text)
  deriving DecidableEq, Repr

/-- Looks at the value of the last option. -/
def Pending.settle (pending : Pending) (given : Given) : Except Refusal Given :=
  match pending with
  | nothing => .ok given
  | awaiting setting => .error (.missingValue setting)
  | value setting text => given.attach setting text

/-- The settings that the user made, in order, the one of the last option included as soon as it has
a value. A setting that is made twice does not count. -/
def Pending.used (pending : Pending) (given : Given) : List Setting :=
  match pending with
  | value setting _ =>
    if given.has setting then given.order.erase setting else given.order ++ [setting]
  | _ => given.order

namespace CommandLine

/-- An argument by its looks. -/
inductive Argument where
  /-- A long option, possibly with a value after an equals sign. -/
  | long (name : Text) (value : Option Text)
  /-- A short option and what is attached to it. -/
  | short (letter : Char) (attached : Text)
  | plain (text : Text)
  deriving DecidableEq, Repr

/-- Tells what an argument looks like. -/
def Argument.ofText : Text → Argument
  | '-' :: '-' :: rest =>
    match rest.span (· ≠ '=') with
    | (name, []) => long name none
    | (name, _ :: value) => long name (some value)
  | '-' :: letter :: attached => short letter attached
  | text => plain text

/-- The value that is attached to a short option; an equals sign may stand between. -/
def attachedValue? : Text → Option Text
  | [] => none
  | '=' :: value => some value
  | value => some value

/-- Begins an option for a setting, when the option before it has been settled. -/
def beginSetting (given : Given) (setting : Setting) (value : Option Text) :
    Except Refusal (Given × Pending) :=
  match value with
  | none => .ok (given, .awaiting setting)
  | some value => (given.attach setting value).map (·, .nothing)

/-- Reads one argument. -/
def readOne (given : Given) (pending : Pending) : Argument → Except Refusal (Given × Pending)
  | .long name value =>
    match CommandOption.ofLong? name, value with
    | none, _ => .error (.unknownOption name (pending.used given))
    | some (.inquiry inquiry), some value => .error (.needlessValue inquiry value given.order)
    | some (.inquiry inquiry), none =>
      (pending.settle given).bind fun _ => .error (.inquiry inquiry)
    | some (.setting setting), value =>
      (pending.settle given).bind fun given => beginSetting given setting value
  | .short letter attached =>
    match CommandOption.ofShort? letter with
    | none => .error (.unexpectedArgument ['-', letter])
    | some (.inquiry inquiry) => (pending.settle given).bind fun _ => .error (.inquiry inquiry)
    | some (.setting setting) =>
      (pending.settle given).bind fun given => beginSetting given setting (attachedValue? attached)
  | .plain text =>
    match pending with
    | .awaiting setting => .ok (given, .value setting text)
    | _ => .error (.unexpectedArgument text)

/-- Reads the arguments from the left. Two hyphens end the options, and nothing may follow them. -/
def readAll (given : Given) (pending : Pending) : List Text → Except Refusal Given
  | [] => pending.settle given
  | argument :: rest =>
    if argument = ['-', '-'] then
      match rest with
      | [] => pending.settle given
      | next :: _ => .error (.unexpectedArgument next)
    else
      match readOne given pending (Argument.ofText argument) with
      | .error refusal => .error refusal
      | .ok (given, pending) => readAll given pending rest

end CommandLine

/-- The variables that are set. -/
abbrev Environment := List (Text × Text)

/-- The value of a variable. -/
def Environment.get? (environment : Environment) (name : Text) : Option Text :=
  environment.lookup name

/-- The value that the environment has for a setting. -/
def Environment.setting? (environment : Environment) (setting : Setting) : Option Text :=
  setting.source?.bind environment.get?

namespace Given

/-- Takes settings that are still open from the environment. -/
def readEnvironment (environment : Environment) : List Setting → Given → Except Refusal Given
  | [], given => .ok given
  | setting :: settings, given =>
    match environment.setting? setting with
    | none => readEnvironment environment settings given
    | some value =>
      if given.has setting then readEnvironment environment settings given
      else
        match given.set setting value with
        | .error refusal => .error refusal
        | .ok given => readEnvironment environment settings given

theorem readEnvironment_of_has {given : Given} {setting : Setting} (h : given.has setting)
    (environment : Environment) (settings : List Setting) :
    readEnvironment environment (setting :: settings) given =
      readEnvironment environment settings given := by
  simp only [readEnvironment]
  split
  · rfl
  · simp [h]

end Given

/-- The configuration that a command line and an environment ask for. -/
def Config.ofCommandLine (arguments : List Text) (environment : Environment) :
    Except Refusal Config :=
  match CommandLine.readAll .nothing .nothing arguments with
  | .error refusal => .error refusal
  | .ok given =>
    match given.readEnvironment environment Setting.all with
    | .error refusal => .error refusal
    | .ok given => .ok given.config

end FileServer
