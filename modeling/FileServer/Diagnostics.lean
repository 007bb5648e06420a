import FileServer.Pattern.Check
import FileServer.Text.Numeral
import FileServer.Text.Order
import FileServer.Trace

/-!
# Which diagnostics are shown

A filter is a list of directives separated by commas. A directive is a level, which holds for the
whole program, or says what it is about: the name of a part of the program, and in brackets the
name of a span and in braces a particular that an event must have. A level may come after an equals
sign; without it the directive shows everything. Of the directives about an event the most
particular one counts, and of equal ones the last. An empty filter shows errors only.
-/

namespace FileServer

/-- The least important level that a directive shows: 0 for none at all. -/
abbrev Verbosity := Nat

/-- Why a directive is not accepted. -/
inductive DirectiveError where
  | malformed
  | unknownLevel
  /-- The value that a particular must have is no pattern. -/
  | demand (fault : Pattern.Fault)
  deriving DecidableEq, Repr

/-- The wording of an error. -/
def DirectiveError.message : DirectiveError → Text
  | malformed => "invalid filter directive".toList
  | unknownLevel =>
    ("error parsing level filter: expected one of \"off\", \"error\", \"warn\", \"info\", " ++
      "\"debug\", \"trace\", or a number 0-5").toList
  | demand fault => "invalid field filter: ".toList ++ fault.message

/-- A particular that an event must have. -/
structure Demand where
  name : Text
  /-- Whether it must also have a value, which only the particulars of spans have. -/
  hasValue : Bool
  deriving DecidableEq, Repr

/-- What a directive is about, and what it shows of that. -/
structure Directive where
  /-- The front of the name of a part of the program. -/
  part : Option Text
  span : Option Text
  demand : Option Demand
  verbosity : Verbosity
  deriving DecidableEq, Repr

namespace Directive

/-- Reads a level or its number, in any case. -/
def verbosity? (t : Text) : Option Verbosity :=
  let names := ["off", "error", "warn", "info", "debug", "trace"].map String.toList
  let digits := if t.head? = some '+' then t.drop 1 else t
  match Decimal.parse? digits with
  | some n => if n ≤ Level.trace.rank then some n else none
  | none => names.findIdx? (· = t.map Char.toLower)

/-- A place in a directive, with the place where its current piece begins. -/
inductive Phase where
  | start
  /-- In a level or the name of a part. -/
  | word (first : Nat)
  | span (first : Nat)
  | demand (first : Nat)
  /-- After the closing brace. -/
  | demanded
  /-- After the closing bracket. -/
  | closed
  | level (first : Nat)
  deriving DecidableEq, Repr

/-- The text between two places of a writing in bytes. -/
def cut (written : Bytes) (first last : Nat) : Text :=
  Utf8.decodeLossy ((written.drop first).take (last - first))

/-- Reads a demand. The value after the equals sign goes up to another one; unless it is a numeral,
it is a pattern. -/
def readDemand (t : Text) : Except DirectiveError Demand :=
  let name := t.takeWhile (· ≠ '=')
  match t.drop name.length with
  | [] => .ok ⟨name, false⟩
  | _ :: rest =>
    let value := rest.takeWhile (· ≠ '=')
    if Numeral.isNumeral value then .ok ⟨name, true⟩
    else
      match Pattern.fault? value with
      | none => .ok ⟨name, true⟩
      | some fault => .error (.demand fault)

/-- Whether a directive that is no bracket may begin with a character. -/
def mayBegin (c : Char) : Bool := c = '-' || c = ':' || c = '_' || isAlphanumeric c

/-- Reads one character, which stands at a place. -/
def readOne (written : Bytes) (phase : Phase) (directive : Directive) (place : Nat) (c : Char) :
    Except DirectiveError (Phase × Directive) :=
  match phase with
  | .start =>
    if c = '[' then .ok (.span (place + 1), directive)
    else if mayBegin c then .ok (.word place, directive)
    else .error .malformed
  | .word first =>
    let part := some (cut written first place)
    if c = '=' then .ok (.level (place + 1), { directive with part })
    else if c = '[' then .ok (.span (place + 1), { directive with part })
    else .ok (phase, directive)
  | .span first =>
    let span := cut written first place
    if c = ']' then .ok (.closed, { directive with span := some span })
    else if c = '\x7b' then
      .ok (.demand (place + 1), { directive with span := if span = [] then none else some span })
    else .ok (phase, directive)
  | .demand first =>
    if c = '\x7d' then
      let demand := cut written first place
      if demand = [] then .error .malformed
      else
        match readDemand demand with
        | .ok demand => .ok (.demanded, { directive with demand := some demand })
        | .error error => .error error
    else .ok (phase, directive)
  | .demanded => if c = ']' then .ok (.closed, directive) else .error .malformed
  | .closed => if c = '=' then .ok (.level (place + 1), directive) else .error .malformed
  | .level _ => .ok (phase, directive)

/-- What has been read when the characters end. -/
def finish (written : Bytes) (directive : Directive) :
    Phase → Except DirectiveError Directive
  | .word first =>
    let word := Utf8.decodeLossy (written.drop first)
    match verbosity? word with
    | some verbosity => .ok { directive with verbosity }
    | none => .ok { directive with part := some word }
  | .level first =>
    if written.drop first = [] then .ok directive
    else
      match verbosity? (Utf8.decodeLossy (written.drop first)) with
      | some verbosity => .ok { directive with verbosity }
      | none => .error .unknownLevel
  | .closed => .ok directive
  | _ => .error .malformed

/-- Reads characters from a place on. -/
def readFrom (written : Bytes) (phase : Phase) (directive : Directive) (place : Nat) :
    Text → Except DirectiveError Directive
  | [] => finish written directive phase
  | c :: rest =>
    match readOne written phase directive place c with
    | .error error => .error error
    | .ok (phase, directive) => readFrom written phase directive (place + c.utf8Size) rest

/-- Reads a directive. Places are counted in the trimmed text, but the pieces are cut out of the
whole text; so blanks around a directive belong to its pieces. -/
def parse (t : Text) : Except DirectiveError Directive :=
  readFrom (Utf8.encode t) .start ⟨none, none, none, Level.trace.rank⟩ 0 (Text.trim t)

/-- Whether a directive is about events, and not only about what happens in spans. -/
def isAboutEvents (directive : Directive) : Bool :=
  directive.span.isNone && directive.demand.all (!·.hasValue)

/-- Whether a directive is about an event of a part of the program. -/
def isAbout (directive : Directive) (part : Text) (event : Event) : Bool :=
  directive.isAboutEvents && (directive.part.all fun front => front.isPrefixOf part) &&
    directive.demand.all fun demand => event.fieldNames.contains demand.name

/-- How long the name is by which a directive asks for a part of the program. -/
def partSize (directive : Directive) : Nat :=
  directive.part.elim 0 fun part => (Utf8.encode part).length + 1

/-- Whether a demand asks for no more than another. -/
def demandLE : Option Demand → Option Demand → Bool
  | none, _ => true
  | some _, none => false
  | some a, some b => Text.le a.name b.name

/-- Whether a directive is no more particular than another about the same event. -/
def le (a b : Directive) : Bool :=
  a.partSize < b.partSize || (a.partSize = b.partSize && demandLE a.demand b.demand)

end Directive

/-- Which events are shown. -/
structure Diagnostics where
  directives : List Directive
  deriving DecidableEq, Repr

namespace Diagnostics

/-- The directives of a filter as they are written. -/
def pieces (filter : Text) : List Text := (splitOn ',' filter).filter (· ≠ [])

/-- Reads a filter whose directives are all accepted. -/
def parse? (filter : Text) : Option Diagnostics :=
  ((pieces filter).mapM fun piece => (Directive.parse piece).toOption).map (⟨·⟩)

/-- Reads a filter and passes over directives that are not accepted. -/
def parseLenient (filter : Text) : Diagnostics :=
  ⟨(pieces filter).filterMap fun piece => (Directive.parse piece).toOption⟩

/-- The lines about the directives of a filter that are passed over. -/
def complaints (filter : Text) : List Text :=
  (pieces filter).filterMap fun piece =>
    match Directive.parse piece with
    | .ok _ => none
    | .error error => some ("ignoring `".toList ++ piece ++ "`: ".toList ++ error.message)

/-- The filter of the environment, if all of it is accepted, or else what is accepted of the one of
the command line, with the lines about the rest. -/
def choose (environment : Option Text) (commandLine : Text) : Diagnostics × List Text :=
  match environment.bind parse? with
  | some diagnostics => (diagnostics, [])
  | none => (parseLenient commandLine, complaints commandLine)

/-- The directive that counts for an event of a part of the program. -/
def decisive? (diagnostics : Diagnostics) (part : Text) (event : Event) : Option Directive :=
  (diagnostics.directives.filter (·.isAbout part event)).foldl (fun best next =>
    match best with
    | none => some next
    | some other => if other.le next then some next else best) none

/-- What is shown of events such as an event of a part of the program. -/
def verbosity (diagnostics : Diagnostics) (part : Text) (event : Event) : Verbosity :=
  if diagnostics.directives = [] then Level.error.rank
  else (diagnostics.decisive? part event).elim 0 (·.verbosity)

/-- Whether an event of a part of the program is shown. -/
def shows (diagnostics : Diagnostics) (part : Text) (event : Event) : Bool :=
  event.level.rank ≤ diagnostics.verbosity part event

end Diagnostics

end FileServer
