import Mathlib.Logic.Function.Basic
import FileServer.Proofs.Config.Options
import FileServer.Proofs.Config.Ports
import FileServer.Proofs.Net.Reading

/-!
# What is set, and by whom

A setting has the value from the command line; without one there, that of its environment variable;
and its default if there is none either. It does not matter in which order and how options are
written, nor what the environment has for settings that the command line makes. The value of a port
is accepted if it writes an integer from 0 to 65535.

* `Given.Holds`: the settings that have been made, as the texts that they were made from;
* `Given.Holds.attachAll`, `Given.Holds.readEnvironment`: what options and the environment add;
* `Config.exists_ofCommandLine`: what the configuration is;
* `Config.ofCommandLine_written`: it depends on what is set, and not on how.
-/

namespace FileServer

/-! ## Values -/

/-- Whether a text is a value of a setting. -/
def Setting.Accepts : Setting → Text → Prop
  | .port, value => ∃ port, IsPort value port
  | .bind, value => ∃ ip, IpAddress.Spells value ip
  | .root, value => value ≠ []
  | .logLevel, _ => True

/-- Whether a configuration has the value that a text writes for a setting. -/
def Config.Has (config : Config) (value : Text) : Setting → Prop
  | .port => IsPort value config.port
  | .bind => IpAddress.Spells value config.bind
  | .root => config.root = value
  | .logLevel => config.logLevel = value

theorem bindOfText_eq_ok_iff {value : Text} {ip : IpAddress} :
    bindOfText value = .ok ip ↔ IpAddress.Spells value ip := by
  rw [← IpAddress.parse?_eq_some_iff, bindOfText]
  cases IpAddress.parse? value with
  | none => simp
  | some other => simp

theorem IsPort.unique {value : Text} {port other : UInt16} (h : IsPort value port)
    (hother : IsPort value other) : port = other := by
  rw [← portOfText_eq_ok_iff] at h hother
  exact Except.ok.inj (h.symm.trans hother)

theorem Setting.accepts_default (setting : Setting) : setting.Accepts setting.default := by
  cases setting with
  | port => exact ⟨_, portOfText_eq_ok_iff.1 config_nothing.1⟩
  | bind => exact ⟨_, bindOfText_eq_ok_iff.1 config_nothing.2⟩
  | root => exact List.cons_ne_nil '.' []
  | logLevel => trivial

namespace Config

/-- A configuration is told by texts that write its values. -/
theorem eq_of_has {config other : Config} {texts : Setting → Text}
    (h : ∀ setting, config.Has (texts setting) setting)
    (hother : ∀ setting, other.Has (texts setting) setting) : config = other := by
  have hbind := bindOfText_eq_ok_iff.2 (h .bind)
  rw [bindOfText_eq_ok_iff.2 (hother .bind)] at hbind
  cases config
  cases other
  rw [Config.mk.injEq]
  exact ⟨(h .port).unique (hother .port), (Except.ok.inj hbind).symm,
    (h .root).trans (hother .root).symm, (h .logLevel).trans (hother .logLevel).symm⟩

theorem exists_has {texts : Setting → Text}
    (h : ∀ setting : Setting, setting.Accepts (texts setting)) :
    ∃ config : Config, ∀ setting, config.Has (texts setting) setting := by
  obtain ⟨port, hport⟩ := h .port
  obtain ⟨ip, hip⟩ := h .bind
  refine ⟨⟨port, ip, texts .root, texts .logLevel⟩, fun setting => ?_⟩
  cases setting with
  | port => exact hport
  | bind => exact hip
  | root | logLevel => rfl

end Config

/-! ## The environment -/

namespace Environment

/-- The values with that of a variable, unless the setting has one. -/
def add (environment : Environment) (values : Setting → Option Text) (setting : Setting) :
    Setting → Option Text :=
  Function.update values setting ((values setting).or (environment.setting? setting))

theorem eq_none_of_add (environment : Environment) {values : Setting → Option Text}
    {setting other : Setting} (h : environment.add values setting other = none) :
    values other = none := by
  rw [add] at h
  obtain rfl | hne := eq_or_ne other setting
  · rw [Function.update_self] at h
    exact (Option.or_eq_none_iff.1 h).1
  · rwa [Function.update_of_ne hne] at h

theorem foldl_add (environment : Environment) (values : Setting → Option Text) :
    Setting.all.foldl environment.add values =
      fun setting => (values setting).or (environment.setting? setting) := by
  funext setting
  cases setting <;> rfl

end Environment

/-! ## Options for different settings -/

section

variable {options : List (Setting × Text)} {setting : Setting} {value : Text}

/-- Each option is found. -/
theorem lookup_of_mem (hnodup : (options.map Prod.fst).Nodup) (h : (setting, value) ∈ options) :
    options.lookup setting = some value := by
  induction options with
  | nil => cases h
  | cons option options ih =>
    obtain ⟨hfresh, hnodup⟩ := List.nodup_cons.1 hnodup
    rcases List.mem_cons.1 h with rfl | hmem
    · exact List.lookup_cons_self
    · have hne : setting ≠ option.1 := fun heq => hfresh (heq ▸ List.mem_map_of_mem hmem)
      rw [List.lookup_cons, beq_false_of_ne hne]
      exact ih hnodup hmem

/-- The first option may as well be made before the others. -/
theorem lookup_cons_or (hfresh : setting ∉ options.map Prod.fst) (values : Setting → Option Text) :
    (fun other => (((setting, value) :: options).lookup other).or (values other)) =
      fun other => (options.lookup other).or
        (Function.update values setting (some value) other) := by
  funext other
  obtain rfl | hne := eq_or_ne other setting
  · have hlookup : options.lookup other = none := List.lookup_eq_none_iff.2 fun option hmem =>
      bne_iff_ne.2 fun heq => hfresh (heq ▸ List.mem_map_of_mem hmem)
    rw [List.lookup_cons_self, Function.update_self, hlookup]
    rfl
  · rw [List.lookup_cons, beq_false_of_ne hne, Function.update_of_ne hne]

end

/-! ## Settings that have been made -/

namespace Given

/-- Whether the settings that have been made are those with a text, and have the values that the
texts write. -/
structure Holds (given : Given) (values : Setting → Option Text) : Prop where
  port : Option.Rel IsPort (values .port) given.port
  bind : Option.Rel IpAddress.Spells (values .bind) given.bind
  root : given.root = values .root
  logLevel : given.logLevel = values .logLevel

theorem holds_nothing : nothing.Holds fun _ => none := ⟨.none, .none, rfl, rfl⟩

theorem isSome_of_rel {α β : Type} {r : α → β → Prop} {a : Option α} {b : Option β}
    (h : Option.Rel r a b) : b.isSome = a.isSome := by
  cases h with
  | some => rfl
  | none => rfl

theorem rel_getD {α β : Type} {r : α → β → Prop} {a : Option α} {b : Option β} {x : α} {y : β}
    (h : Option.Rel r a b) (hdefault : r x y) : r (a.getD x) (b.getD y) := by
  cases h with
  | some hab => exact hab
  | none => exact hdefault

variable {given : Given} {values : Setting → Option Text} {setting : Setting} {value : Text}

namespace Holds

theorem has (h : given.Holds values) (setting : Setting) :
    given.has setting = (values setting).isSome := by
  cases setting with
  | port => exact isSome_of_rel h.port
  | bind => exact isSome_of_rel h.bind
  | root => exact congrArg Option.isSome h.root
  | logLevel => exact congrArg Option.isSome h.logLevel

/-- Making one setting leaves the others as they are. -/
theorem set (h : given.Holds values) (hvalue : setting.Accepts value) :
    ∃ next, given.set setting value = .ok next ∧
      next.Holds (Function.update values setting (some value)) := by
  obtain ⟨hport, hbind, hroot, hlevel⟩ := h
  cases setting with
  | port =>
    obtain ⟨port, hvalue⟩ := hvalue
    refine ⟨{ given with port := some port }, ?_, .some hvalue, hbind, hroot, hlevel⟩
    simp only [Given.set, portOfText_eq_ok_iff.2 hvalue]
  | bind =>
    obtain ⟨ip, hvalue⟩ := hvalue
    refine ⟨{ given with bind := some ip }, ?_, hport, .some hvalue, hroot, hlevel⟩
    simp only [Given.set, bindOfText_eq_ok_iff.2 hvalue]
  | root =>
    refine ⟨{ given with root := some value }, ?_, hport, hbind, rfl, hlevel⟩
    simp only [Given.set, if_neg (show value ≠ [] from hvalue)]
  | logLevel => exact ⟨{ given with logLevel := some value }, rfl, hport, hbind, hroot, rfl⟩

theorem attach (h : given.Holds values) (hnone : values setting = none)
    (hvalue : setting.Accepts value) : ∃ next, given.attach setting value = .ok next ∧
      next.Holds (Function.update values setting (some value)) := by
  obtain ⟨next, hset, hport, hbind, hroot, hlevel⟩ := h.set hvalue
  have hopen : ¬ given.has setting := by simp [h.has, hnone]
  refine ⟨{ next with order := next.order ++ [setting] }, ?_, hport, hbind, hroot, hlevel⟩
  rw [Given.attach, if_neg hopen, hset]
  rfl

/-- Options for different settings are accepted one after the other. -/
theorem attachAll (h : given.Holds values) {options : List (Setting × Text)}
    (hnodup : (options.map Prod.fst).Nodup)
    (hoptions : ∀ option ∈ options, values option.1 = none ∧ option.1.Accepts option.2) :
    ∃ next, given.attachAll options = .ok next ∧
      next.Holds fun setting => (options.lookup setting).or (values setting) := by
  induction options generalizing given values with
  | nil => exact ⟨given, rfl, h⟩
  | cons option options ih =>
    obtain ⟨setting, value⟩ := option
    obtain ⟨hfresh, hnodup⟩ := List.nodup_cons.1 hnodup
    obtain ⟨⟨hnone, hvalue⟩, hoptions⟩ := List.forall_mem_cons.1 hoptions
    obtain ⟨next, hattach, hnext⟩ := h.attach hnone hvalue
    have hother : ∀ option ∈ options, option.1 ≠ setting := fun option hmem heq =>
      hfresh (List.mem_map.2 ⟨option, hmem, heq⟩)
    obtain ⟨last, hrest, hlast⟩ := ih hnext hnodup fun option hmem => by
      rw [Function.update_of_ne (hother option hmem)]
      exact hoptions option hmem
    refine ⟨last, ?_, lookup_cons_or hfresh values ▸ hlast⟩
    rw [attachAll_cons, hattach]
    exact hrest

/-- One variable is read if its setting is open, whatever variables follow. -/
theorem readVariable (h : given.Holds values) {environment : Environment}
    (hvalid : values setting = none →
      ∀ value, environment.setting? setting = some value → setting.Accepts value) :
    ∃ next : Given, next.Holds (environment.add values setting) ∧ ∀ settings,
      given.readEnvironment environment (setting :: settings) =
        next.readEnvironment environment settings := by
  cases hvariable : environment.setting? setting with
  | none =>
    refine ⟨given, ?_, fun settings => by simp only [Given.readEnvironment, hvariable]⟩
    rwa [Environment.add, hvariable, Option.or_none, Function.update_eq_self]
  | some value =>
    cases hmade : values setting with
    | some made =>
      have hhas : given.has setting := by simp [h.has, hmade]
      refine ⟨given, ?_, readEnvironment_of_has hhas environment⟩
      rwa [Environment.add, hmade, Option.some_or, ← hmade, Function.update_eq_self]
    | none =>
      obtain ⟨next, hset, hnext⟩ := h.set (hvalid hmade value hvariable)
      refine ⟨next, ?_, fun settings => ?_⟩
      · rwa [Environment.add, hmade, hvariable, Option.none_or]
      · simp [Given.readEnvironment, hvariable, h.has, hmade, hset]

/-- The environment adds what is still open. -/
theorem readEnvironment (h : given.Holds values) {environment : Environment}
    {settings : List Setting} (hvalid : ∀ setting ∈ settings, values setting = none →
      ∀ value, environment.setting? setting = some value → setting.Accepts value) :
    ∃ next, given.readEnvironment environment settings = .ok next ∧
      next.Holds (settings.foldl environment.add values) := by
  induction settings generalizing given values with
  | nil => exact ⟨given, rfl, h⟩
  | cons setting settings ih =>
    obtain ⟨hfirst, hvalid⟩ := List.forall_mem_cons.1 hvalid
    obtain ⟨between, hbetween, hread⟩ := h.readVariable hfirst
    obtain ⟨next, hrest, hnext⟩ := ih hbetween fun other hmem hnone =>
      hvalid other hmem (environment.eq_none_of_add hnone)
    exact ⟨next, (hread settings).trans hrest, hnext⟩

/-- The configuration has the values that have been set, and the defaults. -/
theorem config (h : given.Holds values) (setting : Setting) :
    given.config.Has ((values setting).getD setting.default) setting := by
  cases setting with
  | port => exact rel_getD h.port (portOfText_eq_ok_iff.1 config_nothing.1)
  | bind => exact rel_getD h.bind (bindOfText_eq_ok_iff.1 config_nothing.2)
  | root => exact congrArg (·.getD Setting.root.default) h.root
  | logLevel => exact congrArg (·.getD Setting.logLevel.default) h.logLevel

end Holds

/-! ## Values that are accepted -/

theorem accepts_of_set {next : Given} (h : given.set setting value = .ok next) :
    setting.Accepts value := by
  cases setting with
  | port =>
    simp only [set] at h
    split at h
    · next port hport => exact ⟨port, portOfText_eq_ok_iff.1 hport⟩
    · cases h
  | bind =>
    simp only [set] at h
    split at h
    · next ip hip => exact ⟨ip, bindOfText_eq_ok_iff.1 hip⟩
    · cases h
  | root =>
    simp only [set] at h
    split at h
    · cases h
    · next hne => exact hne
  | logLevel => trivial

/-- All options are accepted only if the value of each is. -/
theorem accepts_of_attachAll {next : Given} {options : List (Setting × Text)}
    (h : given.attachAll options = .ok next) : ∀ option ∈ options, option.1.Accepts option.2 := by
  induction options generalizing given with
  | nil => exact List.forall_mem_nil _
  | cons option options ih =>
    obtain ⟨setting, value⟩ := option
    rw [attachAll_cons, attach] at h
    split at h
    · cases h
    · cases hset : given.set setting value with
      | error refusal =>
        rw [hset] at h
        cases h
      | ok between =>
        rw [hset] at h
        exact List.forall_mem_cons.2 ⟨accepts_of_set hset, ih h⟩

end Given

/-! ## The configuration -/

namespace Config

open CommandLine

variable {options : List (Setting × Text)} {arguments : List Text} {environment : Environment}

theorem ofCommandLine_eq (h : Written options arguments) (environment : Environment) :
    ofCommandLine arguments environment = (Given.nothing.attachAll options).bind fun given =>
      (given.readEnvironment environment Setting.all).map Given.config := by
  have hread : readAll .nothing .nothing arguments = Given.nothing.attachAll options :=
    readAll_written h .nothing .nothing
  rw [ofCommandLine, hread]
  cases Given.nothing.attachAll options with
  | error refusal => rfl
  | ok given =>
    simp only [Except.bind]
    cases given.readEnvironment environment Setting.all with
    | error refusal => rfl
    | ok given => rfl

/-- What the configuration is if all options and the variables of all other settings are valid. -/
theorem exists_ofCommandLine (h : Written options arguments)
    (hnodup : (options.map Prod.fst).Nodup) (hoptions : ∀ option ∈ options,
      option.1.Accepts option.2)
    (hvalid : ∀ setting, options.lookup setting = none →
      ∀ value, environment.setting? setting = some value → setting.Accepts value) :
    ∃ config, ofCommandLine arguments environment = .ok config ∧ ∀ setting, config.Has
      (((options.lookup setting).or (environment.setting? setting)).getD setting.default)
      setting := by
  obtain ⟨given, hattach, hgiven⟩ := Given.holds_nothing.attachAll hnodup fun option hmem =>
    ⟨rfl, hoptions option hmem⟩
  simp only [Option.or_none] at hgiven
  have hopen : ∀ setting ∈ Setting.all, options.lookup setting = none →
      ∀ value, environment.setting? setting = some value → setting.Accepts value :=
    fun setting _ => hvalid setting
  obtain ⟨last, hread, hlast⟩ := hgiven.readEnvironment hopen
  rw [environment.foldl_add] at hlast
  refine ⟨last.config, ?_, hlast.config⟩
  rw [ofCommandLine_eq h, hattach]
  simp only [Except.bind, hread]
  rfl

theorem accepts_of_ofCommandLine {config : Config} (h : Written options arguments)
    (hconfig : ofCommandLine arguments environment = .ok config) :
    ∀ option ∈ options, option.1.Accepts option.2 := by
  rw [ofCommandLine_eq h] at hconfig
  cases hattach : Given.nothing.attachAll options with
  | error refusal =>
    rw [hattach] at hconfig
    cases hconfig
  | ok given => exact Given.accepts_of_attachAll hattach

/-- A port on a command line that is valid otherwise is accepted if its text writes one. -/
theorem exists_port_iff {text : Text} (h : Written options arguments)
    (hnodup : (options.map Prod.fst).Nodup) (hport : (.port, text) ∈ options)
    (hothers : ∀ option ∈ options, option.1 ≠ .port → option.1.Accepts option.2)
    (hvalid : ∀ setting, options.lookup setting = none →
      ∀ value, environment.setting? setting = some value → setting.Accepts value)
    (port : UInt16) :
    (∃ config, ofCommandLine arguments environment = .ok config ∧ config.port = port) ↔
      IsPort text port := by
  have htold : options.lookup .port = some text := lookup_of_mem hnodup hport
  have hconfig : Setting.port.Accepts text → ∃ config,
      ofCommandLine arguments environment = .ok config ∧ IsPort text config.port := by
    intro htext
    have hoptions : ∀ option ∈ options, option.1.Accepts option.2 := by
      rintro ⟨setting, value⟩ hmem
      obtain rfl | hne := eq_or_ne setting .port
      · have hvalue := lookup_of_mem hnodup hmem
        rw [htold] at hvalue
        cases hvalue
        exact htext
      · exact hothers _ hmem hne
    obtain ⟨config, hread, hhas⟩ := exists_ofCommandLine h hnodup hoptions hvalid
    have hvalue := hhas .port
    rw [htold] at hvalue
    exact ⟨config, hread, hvalue⟩
  constructor
  · rintro ⟨config, hread, rfl⟩
    obtain ⟨other, hother, hvalue⟩ := hconfig (accepts_of_ofCommandLine h hread _ hport)
    rw [hread] at hother
    exact Except.ok.inj hother ▸ hvalue
  · intro hvalue
    obtain ⟨config, hread, hhas⟩ := hconfig ⟨port, hvalue⟩
    exact ⟨config, hread, hhas.unique hvalue⟩

/-- For settings to make on the command line, with values that are valid, there is one configuration
that every way to write them gives, in any order. It has these values; for the other settings it has
those of the environment, if there are, and else the defaults. What the environment has for a
setting that the command line makes need not be valid. A port on the command line is accepted if it
is written as an integer from 0 to 65535, and not otherwise. -/
theorem ofCommandLine_written (environment : Environment) :
    (∀ values : Setting → Option Text,
      (∀ setting value, values setting = some value → setting.Accepts value) →
      (∀ setting value, values setting = none → environment.setting? setting = some value →
        setting.Accepts value) →
      ∃ config : Config,
        (∀ setting, config.Has
          (((values setting).or (environment.setting? setting)).getD setting.default) setting) ∧
        ∀ options arguments, Written options arguments → (options.map Prod.fst).Nodup →
          (∀ setting, options.lookup setting = values setting) →
          ofCommandLine arguments environment = .ok config) ∧
    ∀ text before after front back, Written before front → Written after back →
      let options := before ++ (.port, text) :: after
      (options.map Prod.fst).Nodup →
      (∀ option ∈ options, option.1 ≠ .port → option.1.Accepts option.2) →
      (∀ setting value, options.lookup setting = none →
        environment.setting? setting = some value → setting.Accepts value) →
      ∀ port, (∃ config, ofCommandLine (front ++ ("--port=".toList ++ text) :: back) environment =
        .ok config ∧ config.port = port) ↔ IsPort text port := by
  constructor
  · intro values hvalues hvalid
    have htexts : ∀ setting : Setting, setting.Accepts
        (((values setting).or (environment.setting? setting)).getD setting.default) := by
      intro setting
      cases hvalue : values setting with
      | some value => exact hvalues setting value hvalue
      | none =>
        cases hvariable : environment.setting? setting with
        | some value => exact hvalid setting value hvalue hvariable
        | none => exact setting.accepts_default
    obtain ⟨config, hconfig⟩ := exists_has htexts
    refine ⟨config, hconfig, fun options arguments hwritten hnodup hlookup => ?_⟩
    have hoptions : ∀ option ∈ options, option.1.Accepts option.2 := by
      rintro ⟨setting, value⟩ hmem
      exact hvalues setting value ((hlookup setting).symm.trans (lookup_of_mem hnodup hmem))
    obtain ⟨other, hother, hhas⟩ := exists_ofCommandLine hwritten hnodup hoptions
      fun setting hnone value => hvalid setting value ((hlookup setting).symm.trans hnone)
    simp only [hlookup] at hhas
    rw [hother, eq_of_has hhas hconfig]
  · intro text before after front back hbefore hafter options hnodup hothers hvalid port
    exact exists_port_iff (hbefore.append (.cons .long hafter)) hnodup
      (List.mem_append_right before List.mem_cons_self) hothers
      (fun setting hnone value => hvalid setting value hnone) port

/-- Two ways to write a port and an address, beside variables of which the one that does not matter
is not valid. -/
theorem ofCommandLine_written_of_zeros :
    let environment : Environment :=
      [("PORT".toList, "x".toList), ("SERVE_ROOT".toList, "/srv".toList)]
    (∃ config, config.root = "/srv".toList ∧
      ofCommandLine ["-p+080".toList, "--bind".toList, "::1".toList] environment = .ok config ∧
      ofCommandLine ["-b=::1".toList, "--port=+080".toList] environment = .ok config) ∧
      ∃ config, ofCommandLine ["--port=00065535".toList] environment = .ok config ∧
        config.port = 65535 := by
  intro environment
  obtain ⟨hchosen, haccepted⟩ := ofCommandLine_written environment
  have hvalid : ∀ setting value, setting ≠ .port → environment.setting? setting = some value →
      setting.Accepts value := by
    intro setting value hne hvariable
    cases setting with
    | port => exact absurd rfl hne
    | bind => cases hvariable
    | root =>
      have hroot : environment.setting? .root = some "/srv".toList := by decide
      rw [hroot] at hvariable
      cases hvariable
      exact List.cons_ne_nil '/' _
    | logLevel => trivial
  constructor
  · let values : Setting → Option Text := fun setting =>
      match setting with
      | .port => some "+080".toList
      | .bind => some "::1".toList
      | .root | .logLevel => none
    obtain ⟨config, hhas, hconfig⟩ := hchosen values (by
        intro setting value hvalue
        cases setting with
        | port =>
          cases hvalue
          exact ⟨80, portOfText_eq_ok_iff.1 rfl⟩
        | bind =>
          cases hvalue
          exact ⟨.v6 #v[0, 0, 0, 0, 0, 0, 0, 1], bindOfText_eq_ok_iff.1 (by decide +kernel)⟩
        | root | logLevel => cases hvalue)
      fun setting value hnone => hvalid setting value (by rintro rfl; cases hnone)
    refine ⟨config, hhas .root, ?_, ?_⟩
    · refine hconfig [(.port, "+080".toList), (.bind, "::1".toList)] _ ?_ (by decide) ?_
      · exact .cons (.short rfl (by decide) (by decide)) (.cons (.longApart (by decide)) .nil)
      · intro setting
        cases setting <;> rfl
    · refine hconfig [(.bind, "::1".toList), (.port, "+080".toList)] _ ?_ (by decide) ?_
      · exact .cons (.shortEquals rfl) (.cons .long .nil)
      · intro setting
        cases setting <;> rfl
  · refine (haccepted "00065535".toList [] [] [] [] .nil .nil (by decide) ?_ ?_ 65535).2 ?_
    · simp
    · intro setting value hnone hvariable
      exact hvalid setting value (by rintro rfl; cases hnone) hvariable
    · exact portOfText_eq_ok_iff.1 rfl

end Config

end FileServer
