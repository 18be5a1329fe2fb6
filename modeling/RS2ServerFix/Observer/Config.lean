import RS2ServerFix.Lib.Settings
import RS2ServerFix.Reporting.Config

namespace RS2ServerFix.Observer

open Lib.Settings NativeLog

structure Config where
  enabled : Bool
  maxLogMiB : UInt32
  deriving DecidableEq, Repr

def Config.default : Config := ⟨false, 512⟩

inductive Reason
  | none
  | configDisabled
  | configInvalid
  deriving DecidableEq, Repr

def digit (value : UInt32) (c : UInt8) : Option UInt32 :=
  if c < 48 || 57 < c then none
  else
    let digit := (c - 48).toUInt32
    if (0xffffffff - digit) / 10 < value then none else some (value * 10 + digit)

def number (bytes : List UInt8) : Option UInt32 :=
  if bytes = [] || 10 < bytes.length then none else bytes.foldlM digit 0

structure ConfigParse where
  output : Config
  haveEnabled : Bool
  haveLimit : Bool
  deriving DecidableEq, Repr

def ConfigParse.start : ConfigParse := ⟨.default, false, false⟩

def takeConfig (p : ConfigParse) (e : Setting) : Option ConfigParse := do
  let value ← number e.value
  if e.key = ascii "enabled" then
    if p.haveEnabled || 1 < value || e.value.length ≠ 1 then none
    else some { p with haveEnabled := true, output.enabled := value != 0 }
  else if e.key = ascii "max_log_mib" then
    if p.haveLimit || value < 16 || 1024 < value then none
    else some { p with haveLimit := true, output.maxLogMiB := value }
  else none

/-- The reason and the output. What has been read before a text is refused is in the output. -/
def parseConfig (bytes : List UInt8) (output : Config) : Reason × Config :=
  if bytes = [] || 4096 < bytes.length then (.configInvalid, output)
  else
    match readText takeConfig bytes .start with
    | .error p => (.configInvalid, p.output)
    | .ok p =>
        if !p.haveEnabled then (.configInvalid, p.output)
        else (if p.output.enabled then .none else .configDisabled, p.output)

inductive ConfigField
  | enabled
  | maxLogMiB
  deriving DecidableEq, Repr

def configField (key : List UInt8) : Option ConfigField :=
  if key = ascii "enabled" then some .enabled else if key = ascii "max_log_mib" then some .maxLogMiB else none

def ConfigField.valid : ConfigField → List UInt8 → Bool
  | .enabled, value => (number value).any fun n => n ≤ 1 && value.length = 1
  | .maxLogMiB, value => (number value).any fun n => 16 ≤ n && n ≤ 1024

def enabledOf (value : List UInt8) : Bool := (number value).any fun n => n != 0

def maxLogMiBOf (value : List UInt8) : UInt32 := (number value).getD 512

def ConfigParse.told (a : Assignment ConfigField) : ConfigParse where
  output.enabled := (a .enabled).elim false enabledOf
  output.maxLogMiB := (a .maxLogMiB).elim 512 maxLogMiBOf
  haveEnabled := (a .enabled).isSome
  haveLimit := (a .maxLogMiB).isSome

theorem told_enabled (a : Assignment ConfigField) (value : List UInt8) :
    ConfigParse.told (Function.update a .enabled (some value)) =
      { ConfigParse.told a with haveEnabled := true, output.enabled := enabledOf value } := rfl

theorem told_maxLogMiB (a : Assignment ConfigField) (value : List UInt8) :
    ConfigParse.told (Function.update a .maxLogMiB (some value)) =
      { ConfigParse.told a with haveLimit := true, output.maxLogMiB := maxLogMiBOf value } := rfl

theorem takeConfig_told (p : ConfigParse) (a : Assignment ConfigField) (e : Setting) (h : p = .told a) :
    Option.Rel (fun p a => p = .told a) (takeConfig p e) (assign configField ConfigField.valid a e) := by
  subst h
  rw [takeConfig, assign, configField, Option.bind_eq_bind]
  cases hnumber : number e.value with
  | none =>
      rw [Option.bind_none]
      by_cases henabled : e.key = ascii "enabled"
      · rw [if_pos henabled, Option.bind_some, ConfigField.valid, hnumber]
        exact .none
      · rw [if_neg henabled]
        by_cases hlimit : e.key = ascii "max_log_mib"
        · rw [if_pos hlimit, Option.bind_some, ConfigField.valid, hnumber]
          exact .none
        · rw [if_neg hlimit]
          exact .none
  | some value =>
      rw [Option.bind_some]
      by_cases henabled : e.key = ascii "enabled"
      · rw [if_pos henabled, if_pos henabled, Option.bind_some, Bool.or_assoc]
        refine once_told rfl ?_ ?_
        · simp [ConfigField.valid, hnumber, ← UInt32.not_le]
        · rw [told_enabled, enabledOf, hnumber]
          rfl
      · rw [if_neg henabled, if_neg henabled]
        by_cases hlimit : e.key = ascii "max_log_mib"
        · rw [if_pos hlimit, if_pos hlimit, Option.bind_some, Bool.or_assoc]
          refine once_told rfl ?_ ?_
          · simp [ConfigField.valid, hnumber, ← UInt32.not_le]
          · rw [told_maxLogMiB, maxLogMiBOf, hnumber]
            rfl
        · rw [if_neg hlimit, if_neg hlimit]
          exact .none

section Parse

variable {text text' : List UInt8} {output : Config}

def Orderly (ls : List (List UInt8)) (es : List Setting) : Prop :=
  Lists ls es ∧ ∃ a, Tells configField ConfigField.valid es a

def Accepted (text : List UInt8) : Prop :=
  ∃ es, Orderly (lines text) es ∧ ∃ e ∈ es, e.key = ascii "enabled"

def Idle (e : Setting) : Prop :=
  (e.key = ascii "enabled" → number e.value = some 0) ∧ (e.key = ascii "max_log_mib" → number e.value = some 512)

/-- Either all of the text is accepted, or no setting before its first line out of order has a value of its own. -/
def Harmless (text : List UInt8) (output : Config) : Prop :=
  if text = [] ∨ 4096 < text.length then output = .default
  else Accepted text ∨ ∀ pre es, pre <+: lines text → Orderly pre es → ∀ e ∈ es, Idle e

theorem configField_enabled {key : List UInt8} : configField key = some .enabled ↔ key = ascii "enabled" := by
  rw [configField]
  by_cases h : key = ascii "enabled"
  · simp [h]
  · rw [if_neg h]
    constructor
    · intro hfield
      split at hfield <;> cases hfield
    · exact fun hkey => absurd hkey h

theorem configField_maxLogMiB {key : List UInt8} : configField key = some .maxLogMiB ↔ key = ascii "max_log_mib" := by
  rw [configField]
  by_cases h : key = ascii "enabled"
  · rw [if_pos h, h]
    simp [ascii]
  · rw [if_neg h]
    simp

theorem told_idle {es : List Setting} {a : Assignment ConfigField} (h : Tells configField ConfigField.valid es a) :
    (ConfigParse.told a).output = .default ↔ ∀ e ∈ es, Idle e := by
  rw [ConfigParse.told, Config.default, Config.mk.injEq]
  constructor
  · rintro ⟨henabled, hlimit⟩ e he
    obtain ⟨f, hf, hvalid⟩ := h.valid e he
    refine ⟨fun hkey => ?_, fun hkey => ?_⟩
    · have hfield := configField_enabled.mpr hkey
      rw [hf, Option.some.injEq] at hfield
      subst hfield
      rw [(h.value _ _).mpr ⟨e, he, hf, rfl⟩, Option.elim_some, enabledOf] at henabled
      rw [ConfigField.valid] at hvalid
      cases hnumber : number e.value with
      | none =>
          rw [hnumber] at hvalid
          cases hvalid
      | some n =>
          rw [hnumber, Option.any_some, bne_eq_false_iff_eq] at henabled
          rw [henabled]
    · have hfield := configField_maxLogMiB.mpr hkey
      rw [hf, Option.some.injEq] at hfield
      subst hfield
      rw [(h.value _ _).mpr ⟨e, he, hf, rfl⟩, Option.elim_some, maxLogMiBOf] at hlimit
      rw [ConfigField.valid] at hvalid
      cases hnumber : number e.value with
      | none =>
          rw [hnumber] at hvalid
          cases hvalid
      | some n =>
          rw [hnumber, Option.getD_some] at hlimit
          rw [hlimit]
  · intro hidle
    constructor
    · cases hset : a .enabled with
      | none => rfl
      | some value =>
          obtain ⟨e, he, hf, rfl⟩ := (h.value _ _).mp hset
          rw [Option.elim_some, enabledOf, (hidle e he).1 (configField_enabled.mp hf)]
          rfl
    · cases hset : a .maxLogMiB with
      | none => rfl
      | some value =>
          obtain ⟨e, he, hf, rfl⟩ := (h.value _ _).mp hset
          rw [Option.elim_some, maxLogMiBOf, (hidle e he).2 (configField_maxLogMiB.mp hf)]
          rfl

theorem told_accepted {es : List Setting} {a : Assignment ConfigField} (h : Tells configField ConfigField.valid es a) :
    (ConfigParse.told a).haveEnabled = true ↔ ∃ e ∈ es, e.key = ascii "enabled" := by
  rw [ConfigParse.told, Option.isSome_iff_exists]
  constructor
  · rintro ⟨value, hvalue⟩
    obtain ⟨e, he, hf, -⟩ := (h.value _ _).mp hvalue
    exact ⟨e, he, configField_enabled.mp hf⟩
  · rintro ⟨e, he, hkey⟩
    exact ⟨e.value, (h.value _ _).mpr ⟨e, he, configField_enabled.mpr hkey, rfl⟩⟩

theorem readLines_config {ls : List (List UInt8)} {p : ConfigParse} :
    readLines takeConfig ls .start = .ok p ↔
      ∃ es a, Lists ls es ∧ Tells configField ConfigField.valid es a ∧ p = .told a :=
  readLines_told takeConfig_told

theorem accepted_iff : Accepted text ↔ ∃ p, readText takeConfig text .start = .ok p ∧ p.haveEnabled = true := by
  constructor
  · rintro ⟨es, ⟨hlists, a, htells⟩, he⟩
    exact ⟨_, readLines_config.mpr ⟨es, a, hlists, htells, rfl⟩, (told_accepted htells).mpr he⟩
  · rintro ⟨p, hp, henabled⟩
    obtain ⟨es, a, hlists, htells, rfl⟩ := readLines_config.mp hp
    exact ⟨es, ⟨hlists, a, htells⟩, (told_accepted htells).mp henabled⟩

/-- The output is the default where the settings before the first line out of order have no values of their own. -/
theorem reached_default : (reached (readText takeConfig text .start)).output = .default ↔
    ∀ pre es, pre <+: lines text → Orderly pre es → ∀ e ∈ es, Idle e := by
  obtain ⟨pre, hpre, hread, hfurthest⟩ := readLines_furthest takeConfig (lines text) .start
  rw [readText]
  obtain ⟨es, a, hlists, htells, hreached⟩ := readLines_config.mp hread
  rw [hreached, told_idle htells]
  constructor
  · rintro hidle pre' es' hpre' ⟨hlists', a', htells'⟩ e he
    have hread' := readLines_config.mpr ⟨es', a', hlists', htells', rfl⟩
    exact hidle e (hlists'.mem_of_prefix hlists (hfurthest pre' _ hpre' hread') he)
  · exact fun hidle => hidle pre es hpre ⟨hlists, a, htells⟩

theorem parseConfig_harmless (text : List UInt8) (output : Config) :
    ((parseConfig text output).1 = .configInvalid → (parseConfig text output).2 = .default) ↔ Harmless text output := by
  rw [Harmless, accepted_iff, ← reached_default]
  simp only [parseConfig, Bool.or_eq_true, decide_eq_true_eq]
  by_cases hsize : text = [] ∨ 4096 < text.length
  · rw [if_pos hsize, if_pos hsize]
    exact ⟨fun h => h rfl, fun h _ => h⟩
  · rw [if_neg hsize, if_neg hsize]
    cases hread : readText takeConfig text .start with
    | error p => simp [reached]
    | ok p =>
        cases henabled : p.haveEnabled with
        | false => simp [reached, henabled]
        | true =>
            cases hon : p.output.enabled <;> simp [henabled, hon]

theorem parseConfig_layout (h : SameSettings text text')
    (hsize : text = [] ∨ 4096 < text.length ↔ text' = [] ∨ 4096 < text'.length) :
    (parseConfig text output).1 = (parseConfig text' output).1 ∧
      ((parseConfig text output).1 ≠ .configInvalid → parseConfig text output = parseConfig text' output) := by
  have hstart : ConfigParse.start = .told .empty := rfl
  simp only [parseConfig, Bool.or_eq_true, decide_eq_true_eq, hsize, hstart]
  rcases h.ends takeConfig_told rfl with ⟨a, p, p', rfl, rfl, hread, hread'⟩ | ⟨p, p', hread, hread'⟩
  · rw [hread, hread']
    exact ⟨rfl, fun _ => rfl⟩
  · rw [hread, hread']
    split
    · exact ⟨rfl, fun _ => rfl⟩
    · exact ⟨rfl, fun hne => absurd rfl hne⟩

/-- Where neither text leaves anything behind, the two outputs are equal too. -/
theorem parseConfig_outputs (hresult : (parseConfig text output).1 = (parseConfig text' output).1)
    (haccepted : (parseConfig text output).1 ≠ .configInvalid → parseConfig text output = parseConfig text' output)
    (h : Harmless text output) (h' : Harmless text' output) : parseConfig text output = parseConfig text' output := by
  by_cases hinvalid : (parseConfig text output).1 = .configInvalid
  · have hdefault := (parseConfig_harmless text output).mpr h hinvalid
    have hdefault' := (parseConfig_harmless text' output).mpr h' (hresult.symm.trans hinvalid)
    exact Prod.ext hresult (hdefault.trans hdefault'.symm)
  · exact haccepted hinvalid

end Parse

/-- The reporting parsers leave nothing of a refused text in the output, and the observer's leaves
nothing of those that are `Harmless`. The order of the lines changes no result, and
between two such texts no output. -/
theorem config_error_atomic (text : List UInt8) (output : Config) :
    ((Reporting.parseConfig text).1 = .configInvalid → (Reporting.parseConfig text).2 = .zero) ∧
    ((Reporting.parseConfigV3 text).1 = .configInvalid → (Reporting.parseConfigV3 text).2 = .zero) ∧
    (((parseConfig text output).1 = .configInvalid → (parseConfig text output).2 = .default) ↔ Harmless text output) ∧
    ∀ text', (lines text).Perm (lines text') → (4096 < text.length ↔ 4096 < text'.length) →
      Reporting.parseConfig text = Reporting.parseConfig text' ∧
      Reporting.parseConfigV3 text = Reporting.parseConfigV3 text' ∧
      (parseConfig text output).1 = (parseConfig text' output).1 ∧
      ((parseConfig text output).1 ≠ .configInvalid → parseConfig text output = parseConfig text' output) ∧
      (Harmless text output → Harmless text' output → parseConfig text output = parseConfig text' output) := by
  refine ⟨Reporting.parse_invalid, Reporting.parse_invalid, parseConfig_harmless text output, ?_⟩
  intro text' hperm hlength
  have hsame : SameSettings text text' := .rel _ _ (.reorder hperm)
  have hsize : text = [] ∨ 4096 < text.length ↔ text' = [] ∨ 4096 < text'.length := by
    rw [hlength, ← lines_eq_nil, ← lines_eq_nil, ← List.length_eq_zero_iff, hperm.length_eq, List.length_eq_zero_iff]
  obtain ⟨hresult, haccepted⟩ : (parseConfig text output).1 = (parseConfig text' output).1 ∧
      ((parseConfig text output).1 ≠ .configInvalid → parseConfig text output = parseConfig text' output) :=
    parseConfig_layout hsame hsize
  exact ⟨Reporting.parse_layout hsame hsize, Reporting.parse_layout hsame hsize, hresult, haccepted,
    parseConfig_outputs hresult haccepted⟩

/-- A text that enables the observer and then has a line out of order. -/
theorem config_keeps_enabled :
    ¬∀ text output, (parseConfig text output).1 = .configInvalid → (parseConfig text output).2 = .default := by
  intro h
  exact absurd (h (ascii "enabled=1\nx") .default (by decide +kernel)) (by decide +kernel)

end RS2ServerFix.Observer
