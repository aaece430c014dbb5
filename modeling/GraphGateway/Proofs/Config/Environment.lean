/-
Blank variables.

A variable for a path that is blank counts as one that is not set. A blank flag does not: it says
no, so that it turns off whatever said yes before (`override_of_blank_flag`). Apart from that
nothing depends on blank variables: overriding a configuration gives what it gives in the
environment without them (`override_of_blanks`).
-/
import GraphGateway.Config.Basic

namespace GraphGateway

/-! ## Environments without blank variables -/

namespace Environment

/-- Whether a variable is set to a text that holds nothing but blanks. -/
def isBlank (env : Environment) (name : String) : Bool :=
  (env.text? name).any Text.isAllBlank

/-- The environment without its blank variables. -/
def withoutBlanks (env : Environment) : Environment :=
  env.filter fun v => !env.isBlank v.1

variable (env : Environment) (name : String)

/-- What is left of a variable is what it has to say. -/
theorem text?_withoutBlanks : env.withoutBlanks.text? name = env.nonBlank? name := by
  rw [text?, withoutBlanks, Json.lookup_filter fun name => !env.isBlank name, nonBlank?, isBlank]
  cases h : env.text? name with
  | none =>
    rw [text?] at h
    simpa using h
  | some value =>
    rw [text?] at h
    cases hb : Text.isAllBlank value <;> simp [hb, h, Option.filter_some]

theorem nonBlank?_withoutBlanks : env.withoutBlanks.nonBlank? name = env.nonBlank? name := by
  rw [nonBlank?, text?_withoutBlanks, nonBlank?, Option.filter_filter]
  simp

variable {env name}

theorem nonBlank?_of_isBlank (h : env.isBlank name = true) : env.nonBlank? name = none := by
  obtain ⟨value, hvalue, hblank⟩ := (Option.any_eq_true _ _).mp h
  simp [nonBlank?, hvalue, hblank]

theorem nonBlank?_of_not_isBlank (h : env.isBlank name = false) :
    env.nonBlank? name = env.text? name := by
  rw [isBlank] at h
  cases hvalue : env.text? name with
  | none => simp [nonBlank?, hvalue]
  | some value =>
    rw [hvalue] at h
    simp_all [nonBlank?]

end Environment

/-! ## Overriding -/

namespace Config

open Environment (text?_withoutBlanks nonBlank?_withoutBlanks nonBlank?_of_isBlank
  nonBlank?_of_not_isBlank)

theorem flagOf_blank (name : String) {value : String} (h : Text.isAllBlank value = true) :
    flagOf name value = .ok false := by
  have hlower : "".toLower = "" := by decide +kernel
  rw [flagOf, Text.trim_eq_empty_iff.mpr h, hlower]
  rfl

/-- A flag whose variable is blank is turned off before anything else is looked at. -/
theorem override_of_isBlank {env : Environment} (c : Config)
    (h : env.isBlank readOnlyVariable = true) :
    c.override env = ({ c with readOnly := false } : Config).override env.withoutBlanks := by
  have hnone : env.withoutBlanks.text? readOnlyVariable = none := by
    rw [text?_withoutBlanks, nonBlank?_of_isBlank h]
  obtain ⟨value, hvalue, hblank⟩ := (Option.any_eq_true _ _).mp h
  simp only [override, hvalue, flagOf_blank readOnlyVariable hblank, hnone, nonBlank?_withoutBlanks]

theorem override_of_not_isBlank {env : Environment} (c : Config)
    (h : env.isBlank readOnlyVariable = false) : c.override env = c.override env.withoutBlanks := by
  simp only [override, text?_withoutBlanks, nonBlank?_withoutBlanks, nonBlank?_of_not_isBlank h]

/-- **Blank variables are ignored, but a blank flag says no.** Overriding a configuration gives the
same configuration and the same success or failure as in the environment without its blank
variables, once the flag of the configuration is turned off if its variable is blank. -/
theorem override_of_blanks (env : Environment) (c : Config) :
    c.override env =
      (if env.isBlank readOnlyVariable then { c with readOnly := false } else c : Config).override
        env.withoutBlanks := by
  cases h : env.isBlank readOnlyVariable with
  | true => exact override_of_isBlank c h
  | false => exact override_of_not_isBlank c h

def readOnlyConfig : Config := ⟨Files.Path.ofString "db", true, none, "info"⟩

def blankFlag : Environment := [(readOnlyVariable, Text.Utf8.encode " ")]

/-- A blank flag makes a configuration for reading only one that is not, and without the variable it
stays what it is. -/
theorem override_of_blank_flag :
    readOnlyConfig.override blankFlag.withoutBlanks = (.ok (), readOnlyConfig) ∧
      readOnlyConfig.override blankFlag = (.ok (), { readOnlyConfig with readOnly := false }) ∧
      readOnlyConfig.override blankFlag ≠ readOnlyConfig.override blankFlag.withoutBlanks := by
  have hnothing : blankFlag.withoutBlanks = [] := by decide +kernel
  have hisBlank : blankFlag.isBlank readOnlyVariable = true := by decide +kernel
  have hkept (c : Config) : c.override blankFlag.withoutBlanks = (.ok (), c) := by
    rw [hnothing]
    rfl
  have hwithout := hkept readOnlyConfig
  have hblank : readOnlyConfig.override blankFlag =
      (.ok (), { readOnlyConfig with readOnly := false }) := by
    rw [override_of_isBlank readOnlyConfig hisBlank]
    exact hkept _
  refine ⟨hwithout, hblank, ?_⟩
  rw [hwithout, hblank]
  exact fun h => Bool.false_ne_true (congrArg (fun c => c.2.readOnly) h)

end Config

end GraphGateway
