import RS2ServerFix.Lib.Settings
import RS2ServerFix.Reporting.Format

namespace RS2ServerFix.Reporting

open Lib.Settings NativeLog

def kConfigBytes : Nat := 4096

structure Config where
  mode : Mode
  deriving DecidableEq, Repr

def Config.zero : Config := ⟨.invalid⟩

def ConfigV3.zero : ConfigV3 := ⟨.invalid, .invalid⟩

structure ConfigParse where
  schema : Bool
  mode : Bool
  diagnostics : Bool
  selected : Mode
  detail : Diagnostics
  deriving DecidableEq, Repr

def ConfigParse.start : ConfigParse := ⟨false, false, false, .invalid, .invalid⟩

def modeOf (value : List UInt8) : Mode :=
  if value = ascii "disabled" then .disabled
  else if value = ascii "observe" then .observe
  else if value = ascii "repair" then .repair else .invalid

def diagnosticsOf (value : List UInt8) : Diagnostics :=
  if value = ascii "normal" then .normal
  else if value = ascii "detailed" then .detailed
  else if value = ascii "operational" then .operational else .invalid

/-- One setting of the second schema or, if `native`, of the third. -/
def takeConfig (native : Bool) (p : ConfigParse) (e : Setting) : Option ConfigParse :=
  if e.key = ascii "schema" then
    if p.schema || e.value ≠ ascii (if native then "3" else "2") then none else some { p with schema := true }
  else if e.key = ascii "mode" then
    if p.mode || modeOf e.value = .invalid then none else some { p with mode := true, selected := modeOf e.value }
  else if native then
    if e.key ≠ ascii "diagnostics" || p.diagnostics || diagnosticsOf e.value = .invalid then none
    else some { p with diagnostics := true, detail := diagnosticsOf e.value }
  else none

/-- The reason and the output, which is `zero` until all of the text has been read. -/
def parse {α : Type} (native : Bool) (zero : α) (store : ConfigParse → α) (bytes : List UInt8) : Reason × α :=
  if bytes = [] || kConfigBytes < bytes.length then (.configInvalid, zero)
  else
    match readText (takeConfig native) bytes .start with
    | .error _ => (.configInvalid, zero)
    | .ok p =>
        if !p.schema || !p.mode || (native && !p.diagnostics) then (.configInvalid, zero)
        else (if p.selected = .disabled then .configDisabled else .none, store p)

def parseConfig : List UInt8 → Reason × Config := parse false .zero fun p => ⟨p.selected⟩

def parseConfigV3 : List UInt8 → Reason × ConfigV3 := parse true .zero fun p => ⟨p.selected, p.detail⟩

inductive ConfigField
  | schema
  | mode
  | diagnostics
  deriving DecidableEq, Repr

def configField (native : Bool) (key : List UInt8) : Option ConfigField :=
  if key = ascii "schema" then some .schema
  else if key = ascii "mode" then some .mode
  else if native && key = ascii "diagnostics" then some .diagnostics else none

def ConfigField.valid (native : Bool) : ConfigField → List UInt8 → Bool
  | .schema, value => value = ascii (if native then "3" else "2")
  | .mode, value => modeOf value ≠ .invalid
  | .diagnostics, value => diagnosticsOf value ≠ .invalid

def ConfigParse.told (a : Assignment ConfigField) : ConfigParse where
  schema := (a .schema).isSome
  mode := (a .mode).isSome
  diagnostics := (a .diagnostics).isSome
  selected := (a .mode).elim .invalid modeOf
  detail := (a .diagnostics).elim .invalid diagnosticsOf

section Parse

variable {native : Bool} {α : Type} {zero : α} {store : ConfigParse → α} {text text' : List UInt8}

theorem told_schema (a : Assignment ConfigField) (value : List UInt8) :
    ConfigParse.told (Function.update a .schema (some value)) = { ConfigParse.told a with schema := true } := rfl

theorem told_mode (a : Assignment ConfigField) (value : List UInt8) :
    ConfigParse.told (Function.update a .mode (some value)) =
      { ConfigParse.told a with mode := true, selected := modeOf value } := rfl

theorem told_diagnostics (a : Assignment ConfigField) (value : List UInt8) :
    ConfigParse.told (Function.update a .diagnostics (some value)) =
      { ConfigParse.told a with diagnostics := true, detail := diagnosticsOf value } := rfl

theorem takeConfig_told (native : Bool) (p : ConfigParse) (a : Assignment ConfigField) (e : Setting) (h : p = .told a) :
    Option.Rel (fun p a => p = .told a) (takeConfig native p e)
      (assign (configField native) (ConfigField.valid native) a e) := by
  subst h
  rw [takeConfig, assign, configField]
  by_cases hschema : e.key = ascii "schema"
  · rw [if_pos hschema, if_pos hschema, Option.bind_some]
    exact once_told rfl (by simp [ConfigField.valid]) (told_schema a e.value).symm
  · rw [if_neg hschema, if_neg hschema]
    by_cases hmode : e.key = ascii "mode"
    · rw [if_pos hmode, if_pos hmode, Option.bind_some]
      exact once_told rfl (by simp [ConfigField.valid]) (told_mode a e.value).symm
    · rw [if_neg hmode, if_neg hmode]
      cases native with
      | false => exact .none
      | true =>
          by_cases hdiagnostics : e.key = ascii "diagnostics"
          · rw [if_pos rfl, hdiagnostics, Bool.true_and, if_pos (decide_eq_true rfl), Option.bind_some]
            simp only [ne_eq, not_true_eq_false, decide_false, Bool.false_or]
            exact once_told rfl (by simp [ConfigField.valid]) (told_diagnostics a e.value).symm
          · rw [if_pos rfl, if_pos (by simp [hdiagnostics]), if_neg (by simp [hdiagnostics])]
            exact .none

/-- A text that is refused leaves nothing of what has been read in the output. -/
theorem parse_invalid (hnone : (parse native zero store text).1 = .configInvalid) : (parse native zero store text).2 = zero := by
  rw [parse] at hnone ⊢
  by_cases hsize : (decide (text = []) || decide (kConfigBytes < text.length)) = true
  · rw [if_pos hsize]
  · rw [if_neg hsize] at hnone ⊢
    cases hread : readText (takeConfig native) text .start with
    | error _ => rfl
    | ok p =>
        rw [hread] at hnone
        simp only at hnone ⊢
        split at hnone
        · rename_i h
          rw [if_pos h]
        · split at hnone <;> cases hnone

theorem parse_layout (h : SameSettings text text')
    (hsize : text = [] ∨ kConfigBytes < text.length ↔ text' = [] ∨ kConfigBytes < text'.length) :
    parse native zero store text = parse native zero store text' := by
  have hstart : ConfigParse.start = .told .empty := rfl
  simp only [parse, Bool.or_eq_true, decide_eq_true_eq, hsize, hstart]
  rcases h.ends (takeConfig_told native) rfl with ⟨a, p, p', rfl, rfl, hread, hread'⟩ | ⟨p, p', hread, hread'⟩
  · rw [hread, hread']
  · rw [hread, hread']

end Parse

end RS2ServerFix.Reporting
