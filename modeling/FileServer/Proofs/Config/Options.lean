import Mathlib.Data.List.TakeDrop
import FileServer.Config.CommandLine
import FileServer.Proofs.Text.Cut

/-!
# Options in writing

An option with its value is written as one argument or as two, with the long name or with the
letter. Reading options one by one, with the value of the last one still to be looked at, comes to
the same as making the settings one after the other, however each of them is written.

* `Writes`, `Written`: the ways to write an option, and options;
* `readAll_append`: what reading one option does;
* `readAll_written`: what reading the options of a command line does.
-/

namespace FileServer

/-- Makes settings, one after the other. -/
def Given.attachAll (given : Given) (options : List (Setting × Text)) : Except Refusal Given :=
  options.foldlM (fun given (setting, value) => given.attach setting value) given

theorem Given.attachAll_cons (given : Given) (setting : Setting) (value : Text)
    (options : List (Setting × Text)) : given.attachAll ((setting, value) :: options) =
      (given.attach setting value).bind fun next => next.attachAll options :=
  List.foldlM_cons

namespace CommandLine

/-- The ways to write an option with a value. A value that is an argument of its own does not begin
with a hyphen; one that follows the letter immediately does not begin with an equals sign. -/
inductive Writes (setting : Setting) (value : Text) : List Text → Prop
  | long : Writes setting value ["--".toList ++ (setting.long ++ '=' :: value)]
  | longApart (h : value.head? ≠ some '-') :
      Writes setting value ["--".toList ++ setting.long, value]
  | short {letter : Char} (hletter : setting.short? = some letter) (hne : value ≠ [])
      (h : value.head? ≠ some '=') : Writes setting value ['-' :: letter :: value]
  | shortEquals {letter : Char} (hletter : setting.short? = some letter) :
      Writes setting value ['-' :: letter :: '=' :: value]
  | shortApart {letter : Char} (hletter : setting.short? = some letter)
      (h : value.head? ≠ some '-') : Writes setting value [['-', letter], value]

/-- Arguments that write options with their values, in this order. -/
inductive Written : List (Setting × Text) → List Text → Prop
  | nil : Written [] []
  | cons {setting : Setting} {value : Text} {options : List (Setting × Text)}
      {first rest : List Text} (hfirst : Writes setting value first)
      (hrest : Written options rest) : Written ((setting, value) :: options) (first ++ rest)

theorem Written.append {options more : List (Setting × Text)} {front back : List Text}
    (h : Written options front) (hmore : Written more back) :
    Written (options ++ more) (front ++ back) := by
  induction h with
  | nil => exact hmore
  | cons hfirst _ ih =>
    rw [List.append_assoc, List.cons_append]
    exact .cons hfirst ih

/-! ## Looks -/

theorem ofLong?_long (setting : Setting) :
    CommandOption.ofLong? setting.long = some (.setting setting) := by
  cases setting <;> rfl

theorem ofShort?_of_short? {setting : Setting} {letter : Char}
    (h : setting.short? = some letter) :
    CommandOption.ofShort? letter = some (.setting setting) := by
  cases setting with
  | port | bind | root => cases h; rfl
  | logLevel => cases h

theorem equals_not_mem_long (setting : Setting) : '=' ∉ setting.long := by
  cases setting <;> decide

/-- The name of a long option ends with the argument or where an equals sign stands. -/
theorem ofText_long {name rest : Text} (hname : '=' ∉ name) (hrest : ∀ c ∈ rest.head?, c = '=') :
    Argument.ofText ("--".toList ++ (name ++ rest)) = .long name rest.tail? := by
  have hbefore : ∀ c ∈ name, decide (c ≠ '=') = true := fun c hc =>
    decide_eq_true fun h => hname (h ▸ hc)
  have hafter : ∀ c ∈ rest.head?, decide (c ≠ '=') = false := fun c hc => by simp [hrest c hc]
  obtain ⟨htake, hdrop⟩ := span_append hbefore hafter
  show Argument.ofText ('-' :: '-' :: (name ++ rest)) = _
  simp only [Argument.ofText, List.span_eq_takeWhile_dropWhile, htake, hdrop]
  cases rest with
  | nil => rfl
  | cons c value => rfl

theorem ofText_short {setting : Setting} {letter : Char} (h : setting.short? = some letter)
    (attached : Text) : Argument.ofText ('-' :: letter :: attached) = .short letter attached := by
  cases setting with
  | port | bind | root => cases h; rfl
  | logLevel => cases h

theorem ofText_plain {value : Text} (h : value.head? ≠ some '-') :
    Argument.ofText value = .plain value := by
  unfold Argument.ofText
  split
  · exact absurd rfl h
  · exact absurd rfl h
  · rfl

/-! ## Reading -/

variable {given : Given} {pending : Pending} {argument : Text} {setting : Setting}
  {rest : List Text}

/-- The arguments are read one by one. -/
theorem readAll_cons (h : argument ≠ ['-', '-']) :
    readAll given pending (argument :: rest) =
      (readOne given pending (Argument.ofText argument)).bind fun (given, pending) =>
        readAll given pending rest := by
  rw [readAll.eq_def]
  simp only
  rw [if_neg h]
  cases readOne given pending (Argument.ofText argument) with
  | error refusal => rfl
  | ok read => rfl

theorem readOne_long (setting : Setting) (value : Text) :
    readOne given pending (Argument.ofText ("--".toList ++ (setting.long ++ '=' :: value))) =
      (pending.settle given).bind fun given => beginSetting given setting (some value) := by
  rw [ofText_long (equals_not_mem_long setting) (by simp)]
  simp only [readOne, ofLong?_long, List.tail?_cons]

theorem readOne_longApart (setting : Setting) :
    readOne given pending (Argument.ofText ("--".toList ++ setting.long)) =
      (pending.settle given).bind fun given => beginSetting given setting none := by
  have hlook : Argument.ofText ("--".toList ++ (setting.long ++ [])) = .long setting.long none :=
    ofText_long (equals_not_mem_long setting) (by simp)
  rw [List.append_nil] at hlook
  rw [hlook]
  simp only [readOne, ofLong?_long]

theorem readOne_short {letter : Char} (h : setting.short? = some letter) (attached : Text) :
    readOne given pending (Argument.ofText ('-' :: letter :: attached)) =
      (pending.settle given).bind fun given =>
        beginSetting given setting (attachedValue? attached) := by
  rw [ofText_short h]
  simp only [readOne, ofShort?_of_short? h]

section

variable {value : Text} {finish : Given → Except Refusal Given}

/-- An argument that is an option with its value makes the setting at once. -/
theorem readAll_value (hne : argument ≠ ['-', '-'])
    (h : readOne given pending (Argument.ofText argument) =
      (pending.settle given).bind fun given => beginSetting given setting (some value))
    (hrest : ∀ given pending, readAll given pending rest = (pending.settle given).bind finish) :
    readAll given pending (argument :: rest) =
      (pending.settle given).bind fun given => (given.attach setting value).bind finish := by
  rw [readAll_cons hne, h]
  cases pending.settle given with
  | error refusal => rfl
  | ok given =>
    simp only [Except.bind, beginSetting]
    cases given.attach setting value with
    | error refusal => rfl
    | ok given => exact hrest given .nothing

/-- An argument that is an option without its value leaves that to the next one; the setting is
made when what follows is read. -/
theorem readAll_apart (hne : argument ≠ ['-', '-'])
    (h : readOne given pending (Argument.ofText argument) =
      (pending.settle given).bind fun given => beginSetting given setting none)
    (hvalue : value.head? ≠ some '-')
    (hrest : ∀ given pending, readAll given pending rest = (pending.settle given).bind finish) :
    readAll given pending (argument :: value :: rest) =
      (pending.settle given).bind fun given => (given.attach setting value).bind finish := by
  have hplain : value ≠ ['-', '-'] := by
    rintro rfl
    exact hvalue rfl
  rw [readAll_cons hne, h]
  cases pending.settle given with
  | error refusal => rfl
  | ok given =>
    simp only [Except.bind, beginSetting]
    rw [readAll_cons hplain, ofText_plain hvalue]
    exact hrest given (.value setting value)

/-- An option makes its setting before what follows is read, however it is written. -/
theorem readAll_append {first : List Text} (h : Writes setting value first)
    (hrest : ∀ given pending, readAll given pending rest = (pending.settle given).bind finish) :
    readAll given pending (first ++ rest) =
      (pending.settle given).bind fun given => (given.attach setting value).bind finish := by
  have hname : setting.long ≠ [] := by cases setting <;> decide
  have hshort : ∀ {letter : Char} {attached : Text}, setting.short? = some letter →
      '-' :: letter :: attached ≠ ['-', '-'] := fun {letter attached} hletter hhyphen => by
    obtain ⟨-, hhyphen⟩ := List.cons.inj hhyphen
    obtain ⟨rfl, -⟩ := List.cons.inj hhyphen
    cases setting <;> cases hletter
  cases h with
  | long => exact readAll_value (by simp) (readOne_long setting value) hrest
  | longApart hvalue =>
    exact readAll_apart (by simp [hname]) (readOne_longApart setting) hvalue hrest
  | short hletter hne hvalue =>
    refine readAll_value (hshort hletter) ?_ hrest
    have hattached : attachedValue? value = some value := by
      unfold attachedValue?
      split
      · exact absurd rfl hne
      · exact absurd rfl hvalue
      · rfl
    rw [readOne_short hletter, hattached]
  | shortEquals hletter => exact readAll_value (hshort hletter) (readOne_short hletter _) hrest
  | shortApart hletter hvalue =>
    exact readAll_apart (hshort hletter) (readOne_short hletter []) hvalue hrest

end

/-- The settings are made in the order of the options, however these are written. -/
theorem readAll_written {options : List (Setting × Text)} {arguments : List Text}
    (h : Written options arguments) (given : Given) (pending : Pending) :
    readAll given pending arguments =
      (pending.settle given).bind fun given => given.attachAll options := by
  induction h generalizing given pending with
  | nil =>
    rw [readAll]
    cases pending.settle given with
    | error refusal => rfl
    | ok given => rfl
  | cons hfirst _ ih =>
    simp only [Given.attachAll_cons]
    exact readAll_append hfirst ih

end CommandLine

end FileServer
