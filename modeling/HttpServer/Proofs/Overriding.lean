import HttpServer.CommandLine
import HttpServer.Proofs.Config.Reading

/-! What a command line overrides. A setting that it gives has the given value, and the variable of
that setting does not count for the configuration. It does count for whether there is one: the
environment is read as a whole before anything is overridden, so a text without a value stops the
program although nothing would have come of its value. -/
namespace HttpServer

open Config (Setting Value Environment)

namespace CommandLine

/-- The value that a command line gives to a setting. -/
def Settings.given (settings : Settings) : Setting → Option Value
  | .name => settings.name.map .text
  | .host => settings.host.map .text
  | .port => settings.port.map fun n => .number n.toNat
  | .baseUri => settings.baseUri.map .text
  | .threads => settings.threads.map fun n => .number n.toNat
  | .abortsOnExhaustion => if settings.abortsOnExhaustion then some (.flag true) else none
  | .interval | .maxHeadBytes | .maxBodyBytes | .backlog => none

theorem get_apply (settings : Settings) (config : Config) (setting : Setting) :
    (settings.apply config).get setting =
      (settings.given setting).getD (config.get setting) := by
  cases setting with
  | name | host | baseUri => exact (Option.getD_map Value.text _ _).symm
  | port => exact (Option.getD_map (fun n : UInt16 => Value.number n.toNat) _ _).symm
  | threads => exact (Option.getD_map (fun n : UInt64 => Value.number n.toNat) _ _).symm
  | abortsOnExhaustion =>
      cases on : settings.abortsOnExhaustion <;>
        simp [Settings.apply, Settings.given, Config.get, on]
  | interval | maxHeadBytes | maxBodyBytes | backlog => rfl

/-- Two environments agree on all variables that a command line does not override. -/
def Settings.Agree (settings : Settings) (env other : Environment) : Prop :=
  ∀ setting, settings.given setting = none → env setting.key = other setting.key

section Agreeing

variable {settings : Settings} {env other : Environment}

theorem Settings.Agree.symm (agree : settings.Agree env other) : settings.Agree other env :=
  fun setting unset => (agree setting unset).symm

theorem Settings.Agree.apply_eq (agree : settings.Agree env other) {first second : Config}
    (made : Config.ofEnvironment env = .ok first)
    (others : Config.ofEnvironment other = .ok second) :
    settings.apply first = settings.apply second := by
  refine Config.ext_get (funext fun setting => ?_)
  rw [get_apply, get_apply]
  cases unset : settings.given setting with
  | some value => rfl
  | none => exact Config.get_eq_of_same made others (agree setting unset)

/-- Where no overridden variable has a text without a value, the first such text is the same. -/
theorem Settings.Agree.firstRefused (agree : settings.Agree env other)
    (readable : ∀ setting, settings.given setting ≠ none → ∀ raw,
      env setting.key = some raw ∨ other setting.key = some raw → ¬ setting.kind.Refuses raw)
    {setting : Setting} {raw : String} (refused : env.FirstRefused setting raw) :
    other.FirstRefused setting raw := by
  have kept : env setting.key = other setting.key := by
    refine agree setting (by_contra fun given => ?_)
    exact readable setting given raw (.inl refused.stored) refused.refused
  obtain ⟨before, after, all, earlier⟩ := refused.first
  refine ⟨kept ▸ refused.stored, refused.refused, before, after, all, ?_⟩
  intro setting member text stored
  by_cases unset : settings.given setting = none
  · exact earlier setting member text (agree setting unset ▸ stored)
  · exact readable setting unset text (.inr stored)

theorem Settings.Agree.configure_eq_iff (agree : settings.Agree env other) :
    settings.configure env = settings.configure other ↔
      ∀ setting raw, env.FirstRefused setting raw ↔ other.FirstRefused setting raw := by
  unfold Settings.configure
  constructor
  · intro same setting raw
    -- A refusal on one side is the outcome on both.
    have onward {env other : Environment}
        (same : (Config.ofEnvironment env).map settings.apply =
          (Config.ofEnvironment other).map settings.apply)
        (refused : env.FirstRefused setting raw) : other.FirstRefused setting raw := by
      obtain ⟨fault, _, fails⟩ := refused.exists_error
      rw [fails] at same
      cases found : Config.ofEnvironment other with
      | ok config =>
          rw [found] at same
          cases same
      | error misread =>
          rw [found] at same
          cases same
          exact Config.firstRefused_of_error found
    exact ⟨onward same, onward same.symm⟩
  · intro alike
    cases made : Config.ofEnvironment env with
    | error misread =>
        have refused := Config.firstRefused_of_error made
        obtain ⟨fault, reason, fails⟩ := refused.exists_error
        obtain ⟨other, again, others⟩ := ((alike _ _).mp refused).exists_error
        rw [reason] at again
        cases again
        rw [others, ← fails, made]
    | ok config =>
        cases others : Config.ofEnvironment other with
        | error misread =>
            have refused := (alike _ _).mpr (Config.firstRefused_of_error others)
            obtain ⟨fault, _, fails⟩ := refused.exists_error
            rw [made] at fails
            cases fails
        | ok second => exact congrArg Except.ok (agree.apply_eq made others)

end Agreeing

/-- How a command line overrides environments that agree on all else. -/
structure Settings.Overrides (settings : Settings) (env other : Environment) : Prop where
  /-- What is given is what the configuration holds. -/
  given : ∀ config, settings.configure env = .ok config → ∀ setting value,
    settings.given setting = some value → config.get setting = value
  /-- The overridden variables have no influence, except that a text without a value in one of
  them is a text without a value: the outcomes differ exactly if the first such text differs. -/
  same_iff : settings.configure env = settings.configure other ↔
    ∀ setting raw, env.FirstRefused setting raw ↔ other.FirstRefused setting raw
  /-- Texts that have values have no influence at all. -/
  same : (∀ setting, settings.given setting ≠ none → ∀ raw,
    env setting.key = some raw ∨ other setting.key = some raw → ¬ setting.kind.Refuses raw) →
      settings.configure env = settings.configure other

/-- A command line overrides the environment, once the environment is read. -/
theorem overrides_configure {settings : Settings} {env other : Environment}
    (agree : settings.Agree env other) : settings.Overrides env other where
  given config made setting value given := by
    obtain ⟨read, _, rfl⟩ := map_eq_ok_iff.mp made
    rw [get_apply, given, Option.getD_some]
  same_iff := agree.configure_eq_iff
  same readable := by
    refine agree.configure_eq_iff.mpr fun setting raw => ⟨agree.firstRefused readable, ?_⟩
    exact agree.symm.firstRefused fun setting given raw stored =>
      readable setting given raw stored.symm

def single (key text : String) : Environment := fun other =>
  if other = key then some text else none

theorem overrides_port : ∃ settings,
    parse ["serve", "--port", "8081"] = .ok settings ∧
      settings.Agree (single "RONDO_PORT" "9000") (single "RONDO_PORT" "1") ∧
      settings.Overrides (single "RONDO_PORT" "9000") (single "RONDO_PORT" "1") := by
  have agree : Settings.Agree { port := some 8081 } (single "RONDO_PORT" "9000")
      (single "RONDO_PORT" "1") := by
    intro setting unset
    cases setting with
    | port => cases unset
    | _ => rfl
  exact ⟨_, by decide +kernel, agree, overrides_configure agree⟩

theorem overridden_port_refused : ∃ settings,
    parse ["serve", "--port", "8081"] = .ok settings ∧
      settings.Agree (single "RONDO_PORT" "http") (fun _ => none) ∧
      settings.configure (single "RONDO_PORT" "http") =
        .error ⟨.port, "http", .numeral .invalidDigit⟩ ∧
      settings.configure (fun _ => none) = .ok { port := 8081 } := by
  refine ⟨{ port := some 8081 }, by decide +kernel, ?_, by decide +kernel, by decide +kernel⟩
  intro setting unset
  cases setting with
  | port => cases unset
  | _ => rfl

end CommandLine
end HttpServer
