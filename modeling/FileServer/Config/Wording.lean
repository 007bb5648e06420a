import FileServer.Config.CommandLine
import FileServer.Text.Similarity
import FileServer.Text.Terminal

/-!
# What the command line is answered

The help text, the version and the messages about a command line that is not accepted. A message
has its first line, sometimes a proposal and a usage line, and a pointer to the help text. The
texts are made for a terminal, with options in bold letters and with what is wrong in a colour, and
are shown without that.
-/

namespace FileServer

/-- The name of the program. -/
def programName : Text := "static-httpd".toList

/-- The version of the program. -/
def programVersion : Text := "0.1.0".toList

/-- A usage line that shows options; without any it stands for all of them. -/
def usageLine (options : List Text) : Text :=
  "Usage: ".toList ++ programName ++
    (if options = [] then " [OPTIONS]".toList else options.flatMap (" ".toList ++ ·))

namespace Setting

/-- What the help text says about a setting. -/
def purpose : Setting → Text
  | port => "Port to listen on".toList
  | bind => "Address to bind; all interfaces by default".toList
  | root => "Directory to serve".toList
  | logLevel => "Log level, used when RUST_LOG is not set".toList

/-- The width of the column of options in the help text. -/
def column : Nat := 31

/-- The options of a setting in the help text, which fill their column. -/
def helpOptions (setting : Setting) : Text :=
  let letter :=
    match setting.short? with
    | some c => Terminal.bold ['-', c] ++ ", ".toList
    | none => "    ".toList
  "  ".toList ++ letter ++ Terminal.bold ("--".toList ++ setting.long) ++ " <".toList ++
    setting.valueName ++ ">".toList ++ List.replicate (column - 6 - setting.usage.length) ' '

/-- What the help text says about a setting. It shows the environment variable and its value. -/
def helpNotes (environment : Environment) (setting : Setting) : Text :=
  let source :=
    match setting.source? with
    | some name =>
      " [env: ".toList ++ name ++ "=".toList ++ (environment.get? name).getD [] ++ "]".toList
    | none => []
  setting.purpose ++ source ++ " [default: ".toList ++ setting.default ++ "]".toList

/-- The part of the help text about a setting. Every line of the notes begins after the column of
options. -/
def helpEntry (environment : Environment) (setting : Setting) : Text :=
  setting.helpOptions ++
    (setting.helpNotes environment).flatMap (fun c =>
      if c = '\n' then '\n' :: List.replicate column ' ' else [c]) ++ "\n".toList

end Setting

/-- What the help text says about an inquiry. -/
def Inquiry.purpose : Inquiry → Text
  | help => "Print help".toList
  | version => "Print version".toList

/-- The line of the help text about an inquiry. -/
def Inquiry.helpEntry (inquiry : Inquiry) : Text :=
  "  ".toList ++ Terminal.bold ['-', inquiry.short] ++ ", ".toList ++
    Terminal.bold ("--".toList ++ inquiry.long) ++
    List.replicate (Setting.column - 8 - inquiry.long.length) ' ' ++ inquiry.purpose ++
    "\n".toList

/-- All settings in a usage line, of which one or more are expected. -/
def anySetting : Text :=
  "<".toList ++ ['|'].intercalate (Setting.all.map Setting.usage) ++ ">".toList

/-- The help text for a terminal. -/
def helpText (environment : Environment) : Text :=
  "Serve a directory over HTTP\n\n".toList ++ usageLine [] ++ "\n\nOptions:\n".toList ++
    Setting.all.flatMap (Setting.helpEntry environment) ++
    [Inquiry.help, .version].flatMap Inquiry.helpEntry

namespace Refusal

/-- The long option that may have been meant by a name, and how it is shown. -/
def proposal? (name : Text) : Option (Text × Text) :=
  let options := Setting.all.map (fun s => (s.long, s.usage)) ++
    [Inquiry.help, Inquiry.version].map (fun i => (i.long, "--".toList ++ i.long))
  (Similarity.mostSimilar? name (options.map Prod.fst)).bind fun meant =>
    options.find? (·.1 = meant)

/-- The first line about a command line that is not accepted. -/
def headline : Refusal → Text
  | inquiry _ => []
  | unexpectedArgument argument =>
    "error: unexpected argument '".toList ++ Terminal.wrong argument ++ "' found".toList
  | unknownOption name _ =>
    "error: unexpected argument '".toList ++ Terminal.wrong ("--".toList ++ name) ++
      "' found".toList
  | missingValue setting =>
    "error: a value is required for '".toList ++ setting.usage ++ "' but none was supplied".toList
  | invalidValue setting value problem =>
    "error: invalid value '".toList ++ Terminal.wrong value ++ "' for '".toList ++
      setting.usage ++ "': ".toList ++ problem.message
  | repeated setting =>
    "error: the argument '".toList ++ setting.usage ++ "' cannot be used multiple times".toList
  | needlessValue option value _ =>
    "error: unexpected value '".toList ++ Terminal.wrong value ++ "' for '--".toList ++
      option.long ++ "' found; no more were expected".toList

/-- The lines between the first and the last. -/
def advice : Refusal → List Text
  | unexpectedArgument _ | repeated _ => [usageLine []]
  | needlessValue option _ used =>
    [usageLine (("--".toList ++ option.long) :: if used = [] then [] else [anySetting])]
  | unknownOption name used =>
    let used := used.map Setting.usage
    match proposal? name with
    | some (option, shown) =>
      ["  tip: a similar argument exists: '--".toList ++ option ++ "'".toList,
        usageLine (used ++ [shown].filter fun option => !used.contains option)]
    | none => [usageLine used]
  | _ => []

/-- The whole text of the answer, for a terminal. -/
def styledText (environment : Environment) : Refusal → Text
  | inquiry .help => helpText environment
  | inquiry .version => programName ++ " ".toList ++ programVersion ++ "\n".toList
  | refusal =>
    refusal.headline ++ "\n\n".toList ++ refusal.advice.flatMap (· ++ "\n\n".toList) ++
      "For more information, try '--help'.\n".toList

/-- The whole text of the answer. -/
def text (environment : Environment) (refusal : Refusal) : Text :=
  Terminal.shown .whole (refusal.styledText environment)

/-- What the program writes as the answer. -/
def written (environment : Environment) (refusal : Refusal) : Text :=
  Terminal.shown .stream (refusal.styledText environment)

/-- The exit code of the program. -/
def exitCode : Refusal → Nat
  | inquiry _ => 0
  | _ => 2

end Refusal

end FileServer
