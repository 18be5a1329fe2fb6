import Mathlib.Data.Finset.Erase
import Mathlib.Data.Finset.Insert
import RS2ServerFix.Control.Console
import RS2ServerFix.LeechRecovery.Owner
import RS2ServerFix.Lib.Settings

namespace RS2ServerFix.Control

open Lib.Settings NativeLog
open LeechRecovery (ControlResult)

def kControlFileBytes : Nat := 512
def kControlRootCharacters : Nat := 36
def kTrainingRoot : List UInt16 := wide "E:\\rs2v_trainingsrv"

@[ext]
structure ControlScope where
  schema : UInt32
  /-- The characters before the terminator. -/
  serverRoot : List UInt16
  deriving DecidableEq, Repr

@[ext]
structure ControlConfig where
  enabled : Bool
  consoleRequested : Bool
  scope : ControlScope
  /-- The bytes in use. -/
  operatorSid : List UInt8
  deriving DecidableEq, Repr

def ControlConfig.zero : ControlConfig := ⟨false, false, ⟨0, []⟩, []⟩

def driveLetter (c : UInt16) : Bool := (65 ≤ c && c ≤ 90) || (97 ≤ c && c ≤ 122)

def rootCharacter (c : UInt16) : Bool := driveLetter c || (48 ≤ c && c ≤ 57) || c == 95 || c == 45

def pilotRoot (root : List UInt16) : Bool :=
  4 ≤ root.length && root.length < kControlRootCharacters && root[1]? == some 58 && root[2]? == some 92 &&
    root.head?.any driveLetter && (root.drop 3).all rootCharacter

def asciiRoot (bytes : List UInt8) : Option (List UInt16) :=
  if kControlRootCharacters ≤ bytes.length then none
  else
    let root := (bytes.map UInt8.toUInt16).takeWhile fun c => c != 0
    if pilotRoot root then some root else none

def validScope (scope : ControlScope) : Bool :=
  pilotRoot scope.serverRoot && (scope.schema == 2 || (scope.schema == 1 && scope.serverRoot == kTrainingRoot))

inductive Field
  | schema
  | permission
  | trainingRoot
  | operatorSid
  | serverRoot
  | consoleTrigger
  deriving DecidableEq, Repr

def Field.name : Field → String
  | .schema => "schema"
  | .permission => "permission"
  | .trainingRoot => "training_root"
  | .operatorSid => "operator_sid"
  | .serverRoot => "server_root"
  | .consoleTrigger => "console_trigger"

def Field.compared : List Field := [.schema, .permission, .trainingRoot, .serverRoot, .operatorSid, .consoleTrigger]

def fieldOf (key : List UInt8) : Option Field := Field.compared.find? fun f => key == ascii f.name

structure ParsedConfig where
  parsed : ControlConfig
  fields : Finset Field
  permission : UInt32
  none : Bool

def ParsedConfig.zero : ParsedConfig := ⟨.zero, ∅, 0, false⟩

section Parse

-- The bytes of the SID that a text stands for.
variable (parseSid : List UInt8 → Option (List UInt8))

def readField (p : ParsedConfig) (value : List UInt8) : Field → Bool × ParsedConfig
  | .schema =>
      let schema := if value = ascii "1" then 1 else if value = ascii "2" then 2 else p.parsed.scope.schema
      (schema != 0, { p with parsed.scope.schema := schema })
  | .permission =>
      let permission :=
        if value = ascii "training-finish-recreate" then 1
        else if value = ascii "manual-pilot-finish-recreate" then 2 else p.permission
      let enabled := permission != 0
      (enabled || value == ascii "disabled", { p with permission := permission, parsed.enabled := enabled })
  | .trainingRoot =>
      match if value = ascii "E:\\rs2v_trainingsrv" then asciiRoot value else none with
      | some root => (true, { p with parsed.scope.serverRoot := root })
      | none => (false, p)
  | .serverRoot =>
      match asciiRoot value with
      | some root => (true, { p with parsed.scope.serverRoot := root })
      | none => (false, p)
  | .operatorSid =>
      if value = ascii "none" then (true, { p with none := true })
      else
        match parseSid value with
        | some sid => (true, { p with none := false, parsed.operatorSid := sid })
        | none => (false, { p with none := false })
  | .consoleTrigger =>
      let requested := value == ascii "server-admin"
      (requested || value == ascii "disabled", { p with parsed.consoleRequested := requested })

def takeField (p : ParsedConfig) (e : Setting) : Option ParsedConfig := do
  let field ← fieldOf e.key
  let (valid, p') := readField parseSid p e.value field
  if !valid || field ∈ p.fields then none
  else some { p' with fields := insert field p.fields }

def requiredFields (schema : UInt32) : Finset Field :=
  if schema = 1 then {.schema, .permission, .trainingRoot, .operatorSid}
  else {.schema, .permission, .operatorSid, .serverRoot}

def ParsedConfig.complete (p : ParsedConfig) : Bool :=
  validScope p.parsed.scope && p.fields.erase .consoleTrigger = requiredFields p.parsed.scope.schema &&
    !(.consoleTrigger ∈ p.fields && p.parsed.scope.schema != 2) &&
    !(p.parsed.enabled && (p.none || p.permission != p.parsed.scope.schema))

def parseControlConfig (bytes : List UInt8) : ControlResult × ControlConfig :=
  if bytes = [] || kControlFileBytes < bytes.length then (.invalidConfig, .zero)
  else
    match readText (takeField parseSid) bytes .zero with
    | .error _ => (.invalidConfig, .zero)
    | .ok p => if p.complete then (if p.parsed.enabled then .ready else .disabled, p.parsed) else (.invalidConfig, .zero)

/-- A drive and one name of at most 32 characters below its root. -/
def RootText (value : List UInt8) : Prop :=
  ∃ drive name, value = drive :: 58 :: 92 :: name ∧ driveLetter drive.toUInt16 = true ∧ name ≠ [] ∧ name.length ≤ 32 ∧
    ∀ c ∈ name, rootCharacter c.toUInt16 = true

def schemaOf (value : List UInt8) : UInt32 := if value = ascii "1" then 1 else if value = ascii "2" then 2 else 0

def permissionOf (value : List UInt8) : UInt32 :=
  if value = ascii "training-finish-recreate" then 1
  else if value = ascii "manual-pilot-finish-recreate" then 2 else 0

def Field.Value : Field → List UInt8 → Prop
  | .schema, value => value = ascii "1" ∨ value = ascii "2"
  | .permission, value =>
      value = ascii "training-finish-recreate" ∨ value = ascii "manual-pilot-finish-recreate" ∨ value = ascii "disabled"
  | .trainingRoot, value => value = ascii "E:\\rs2v_trainingsrv"
  | .serverRoot, value => RootText value
  | .operatorSid, value => value = ascii "none" ∨ ∃ sid, parseSid value = some sid
  | .consoleTrigger, value => value = ascii "server-admin" ∨ value = ascii "disabled"

def rootField (schema : UInt32) : Field := if schema = 1 then .trainingRoot else .serverRoot

/-- The fields are those of the schema, and this is the configuration they describe. -/
structure Configures (a : Assignment Field) (c : ControlConfig) : Prop where
  schema : ∃ value, a .schema = some value ∧ schemaOf value = c.scope.schema
  fields : ∀ f, f ≠ .consoleTrigger → ((a f).isSome ↔ f ∈ requiredFields c.scope.schema)
  console : (a .consoleTrigger).isSome → c.scope.schema = 2
  requested : c.consoleRequested = true ↔ a .consoleTrigger = some (ascii "server-admin")
  root : ∃ value, a (rootField c.scope.schema) = some value ∧ c.scope.serverRoot = value.map UInt8.toUInt16
  noOperator : a .operatorSid = some (ascii "none") → c.operatorSid = []
  operator : ∀ value, a .operatorSid = some value → value ≠ ascii "none" → parseSid value = some c.operatorSid
  disabled : c.enabled = false ↔ a .permission = some (ascii "disabled")
  enabled : c.enabled = true → (∃ value, a .permission = some value ∧ permissionOf value = c.scope.schema) ∧
    a .operatorSid ≠ some (ascii "none")

/-- A text of lines, each blank or the one setting of a known field to a valid value. -/
def ControlText (text : List UInt8) (c : ControlConfig) : Prop :=
  ∃ es a, Lists (lines text) es ∧ (∀ e ∈ es, ∃ f, e.key = ascii (Field.name f) ∧ f.Value parseSid e.value) ∧
    (es.map Setting.key).Nodup ∧ (∀ f value, a f = some value ↔ ⟨ascii f.name, value⟩ ∈ es) ∧ Configures parseSid a c

end Parse

theorem fieldOf_iff {key : List UInt8} {f : Field} : fieldOf key = some f ↔ key = ascii f.name := by
  constructor
  · intro h
    have := List.find?_some h
    simpa using this
  · rintro rfl
    cases f <;> simp [fieldOf, Field.compared, Field.name, ascii]

section Simulate

variable {parseSid : List UInt8 → Option (List UInt8)}

def Field.valid (parseSid : List UInt8 → Option (List UInt8)) : Field → List UInt8 → Bool
  | .schema, value => schemaOf value != 0
  | .permission, value => permissionOf value != 0 || value == ascii "disabled"
  | .trainingRoot, value => value == ascii "E:\\rs2v_trainingsrv"
  | .serverRoot, value => (asciiRoot value).isSome
  | .operatorSid, value => value == ascii "none" || (parseSid value).isSome
  | .consoleTrigger, value => value == ascii "server-admin" || value == ascii "disabled"

def rootOf (value : List UInt8) : List UInt16 := (asciiRoot value).getD []

def sidOf (parseSid : List UInt8 → Option (List UInt8)) (value : List UInt8) : List UInt8 :=
  if value = ascii "none" then [] else (parseSid value).getD []

structure Parsed (parseSid : List UInt8 → Option (List UInt8)) (p : ParsedConfig) (a : Assignment Field) : Prop where
  fields : ∀ f, f ∈ p.fields ↔ a f ≠ none
  schema : p.parsed.scope.schema = (a .schema).elim 0 schemaOf
  permission : p.permission = (a .permission).elim 0 permissionOf
  enabled : p.parsed.enabled = (p.permission != 0)
  noOperator : p.none = (a .operatorSid == some (ascii "none"))
  sid : p.parsed.operatorSid = (a .operatorSid).elim [] (sidOf parseSid)
  console : p.parsed.consoleRequested = (a .consoleTrigger == some (ascii "server-admin"))
  trainingRoot : a .serverRoot = none → p.parsed.scope.serverRoot = (a .trainingRoot).elim [] rootOf
  serverRoot : a .trainingRoot = none → p.parsed.scope.serverRoot = (a .serverRoot).elim [] rootOf

theorem asciiRoot_training : asciiRoot (ascii "E:\\rs2v_trainingsrv") = some kTrainingRoot := by
  simp [asciiRoot, ascii, kTrainingRoot, wide, kControlRootCharacters, pilotRoot, driveLetter, rootCharacter]

theorem readField_valid {p : ParsedConfig} {a : Assignment Field} {f : Field} (value : List UInt8) (h : Parsed parseSid p a)
    (hf : a f = none) : (readField parseSid p value f).1 = f.valid parseSid value := by
  cases f with
  | schema =>
      simp only [readField, Field.valid, h.schema, hf, Option.elim_none]
      rfl
  | permission =>
      simp only [readField, Field.valid, h.permission, hf, Option.elim_none]
      rfl
  | trainingRoot =>
      by_cases hvalue : value = ascii "E:\\rs2v_trainingsrv"
      · simp only [readField, Field.valid, hvalue, if_true, asciiRoot_training, BEq.rfl]
      · simp only [readField, Field.valid, hvalue, if_false, beq_eq_false_iff_ne.mpr hvalue]
  | serverRoot =>
      simp only [readField, Field.valid]
      cases asciiRoot value <;> rfl
  | operatorSid =>
      simp only [readField, Field.valid]
      by_cases hvalue : value = ascii "none"
      · simp only [hvalue, if_true, BEq.rfl, Bool.true_or]
      · simp only [hvalue, if_false, beq_eq_false_iff_ne.mpr hvalue, Bool.false_or]
        cases parseSid value <;> rfl
  | consoleTrigger => rfl

theorem readField_parsed {p : ParsedConfig} {a : Assignment Field} {f : Field} (value : List UInt8) (h : Parsed parseSid p a)
    (hf : a f = none) (hvalid : f.valid parseSid value = true) :
    Parsed parseSid { (readField parseSid p value f).2 with fields := insert f p.fields }
      (Function.update a f (some value)) := by
  have hfields : ∀ g, g ∈ insert f p.fields ↔ Function.update a f (some value) g ≠ none := by
    intro g
    rw [Finset.mem_insert, h.fields]
    by_cases hg : g = f
    · subst hg
      simp
    · simp [hg]
  obtain ⟨-, hschema, hpermission, henabled, hnone, hsid, hconsole, htraining, hserver⟩ := h
  cases f with
  | schema =>
      refine ⟨hfields, ?_, hpermission, henabled, hnone, hsid, hconsole, htraining, hserver⟩
      simp only [readField, hschema, hf]
      rfl
  | permission =>
      refine ⟨hfields, hschema, ?_, rfl, hnone, hsid, hconsole, htraining, hserver⟩
      simp only [readField, hpermission, hf]
      rfl
  | trainingRoot =>
      simp only [Field.valid, beq_iff_eq] at hvalid
      subst hvalid
      simp only [readField, if_true, asciiRoot_training] at hfields ⊢
      refine ⟨hfields, hschema, hpermission, henabled, hnone, hsid, hconsole, fun _ => ?_, fun ht => ?_⟩
      · rw [Function.update_self, Option.elim_some, rootOf, asciiRoot_training]
        rfl
      · rw [Function.update_self] at ht
        cases ht
  | serverRoot =>
      obtain ⟨root, hroot⟩ := Option.isSome_iff_exists.mp hvalid
      simp only [readField, hroot] at hfields ⊢
      refine ⟨hfields, hschema, hpermission, henabled, hnone, hsid, hconsole, fun ht => ?_, fun _ => ?_⟩
      · rw [Function.update_self] at ht
        cases ht
      · rw [Function.update_self, Option.elim_some, rootOf, hroot]
        rfl
  | operatorSid =>
      by_cases hvalue : value = ascii "none"
      · subst hvalue
        simp only [readField, if_true] at hfields ⊢
        refine ⟨hfields, hschema, hpermission, henabled, ?_, ?_, hconsole, htraining, hserver⟩
        · rw [Function.update_self, BEq.rfl]
        · rw [Function.update_self, Option.elim_some, sidOf, if_pos rfl, hsid, hf]
          rfl
      · simp only [Field.valid, beq_eq_false_iff_ne.mpr hvalue, Bool.false_or] at hvalid
        obtain ⟨sid, hparse⟩ := Option.isSome_iff_exists.mp hvalid
        simp only [readField, if_neg hvalue, hparse] at hfields ⊢
        refine ⟨hfields, hschema, hpermission, henabled, ?_, ?_, hconsole, htraining, hserver⟩
        · rw [Function.update_self, eq_comm, beq_eq_false_iff_ne]
          exact fun h => hvalue (Option.some.inj h)
        · rw [Function.update_self, Option.elim_some, sidOf, if_neg hvalue, hparse]
          rfl
  | consoleTrigger => exact ⟨hfields, hschema, hpermission, henabled, hnone, hsid, rfl, htraining, hserver⟩

theorem takeField_alike (p : ParsedConfig) (a : Assignment Field) (e : Setting) (h : Parsed parseSid p a) :
    Option.Rel (Parsed parseSid) (takeField parseSid p e) (assign fieldOf (Field.valid parseSid) a e) := by
  rw [takeField, assign, Option.bind_eq_bind]
  cases fieldOf e.key with
  | none => exact .none
  | some f =>
      rw [Option.bind_some, Option.bind_some]
      by_cases hf : a f = none
      · have hmem : f ∉ p.fields := fun hmem => (h.fields f).mp hmem hf
        have hvalid := readField_valid e.value h hf
        have hparsed := readField_parsed e.value h hf
        revert hvalid hparsed
        generalize readField parseSid p e.value f = r
        intro hvalid hparsed
        simp only [hvalid, hmem, hf, Option.isNone_none, Bool.and_true, decide_false, Bool.or_false, Bool.not_eq_true']
        cases hv : f.valid parseSid e.value with
        | false => exact .none
        | true => exact .some (hparsed hv)
      · have hmem : f ∈ p.fields := (h.fields f).mpr hf
        obtain ⟨value, hvalue⟩ := Option.ne_none_iff_exists'.mp hf
        simp only [hmem, hvalue, Option.isNone_some, Bool.and_false, decide_true, Bool.or_true]
        exact .none

variable (parseSid) in
theorem parsed_zero : Parsed parseSid .zero .empty where
  fields f := by simp [ParsedConfig.zero, Assignment.empty]
  schema := rfl
  permission := rfl
  enabled := rfl
  noOperator := rfl
  sid := rfl
  console := rfl
  trainingRoot _ := rfl
  serverRoot _ := rfl

def Sound (parseSid : List UInt8 → Option (List UInt8)) (a : Assignment Field) : Prop :=
  ∀ f value, a f = some value → f.valid parseSid value = true ∧ 0 ∉ value

theorem toUInt16_ne_zero {c : UInt8} (h : c ≠ 0) : c.toUInt16 ≠ 0 := by
  rw [ne_eq, ← UInt16.toNat_inj, UInt8.toNat_toUInt16]
  exact fun hzero => h (UInt8.toNat_inj.mp hzero)

theorem characters_eq {value : List UInt8} (h : 0 ∉ value) :
    (value.map UInt8.toUInt16).takeWhile (fun c => c != 0) = value.map UInt8.toUInt16 := by
  rw [List.takeWhile_eq_self_iff]
  intro c hc
  obtain ⟨b, hb, rfl⟩ := List.mem_map.mp hc
  rw [bne_iff_ne]
  refine toUInt16_ne_zero ?_
  rintro rfl
  exact h hb

theorem asciiRoot_some {value : List UInt8} {root : List UInt16} (h : 0 ∉ value) :
    asciiRoot value = some root ↔
      value.length < kControlRootCharacters ∧ pilotRoot (value.map UInt8.toUInt16) = true ∧ root = value.map UInt8.toUInt16 := by
  rw [asciiRoot, characters_eq h]
  by_cases hlength : kControlRootCharacters ≤ value.length
  · rw [if_pos hlength]
    constructor
    · intro h
      cases h
    · rintro ⟨hlt, _⟩
      exact absurd hlt (Nat.not_lt.mpr hlength)
  · rw [if_neg hlength]
    rw [Option.ite_none_right_eq_some, Option.some.injEq, eq_comm (b := root)]
    exact (and_iff_right (Nat.lt_of_not_le hlength)).symm

theorem rootOf_valid {value : List UInt8} (hvalid : (asciiRoot value).isSome) (h : 0 ∉ value) :
    rootOf value = value.map UInt8.toUInt16 ∧ pilotRoot (rootOf value) = true := by
  obtain ⟨root, hroot⟩ := Option.isSome_iff_exists.mp hvalid
  obtain ⟨_, hpilot, rfl⟩ := (asciiRoot_some h).mp hroot
  rw [rootOf, hroot]
  exact ⟨rfl, hpilot⟩

theorem rootText_iff {value : List UInt8} (h : 0 ∉ value) : (asciiRoot value).isSome ↔ RootText value := by
  rw [Option.isSome_iff_exists]
  constructor
  · rintro ⟨root, hroot⟩
    obtain ⟨hlength, hpilot, -⟩ := (asciiRoot_some h).mp hroot
    rcases value with _ | ⟨drive, _ | ⟨colon, _ | ⟨slash, name⟩⟩⟩
    · cases hpilot
    · cases hpilot
    · cases hpilot
    · simp only [pilotRoot, kControlRootCharacters, List.map_cons, List.length_cons, List.length_map, List.getElem?_cons_succ,
        List.getElem?_cons_zero, List.head?_cons, Option.any_some, List.drop_succ_cons, List.drop_zero, Bool.and_eq_true,
        decide_eq_true_eq, beq_iff_eq, Option.some.injEq, List.all_map, List.all_eq_true] at hpilot hlength
      obtain ⟨⟨⟨⟨⟨hlong, hshort⟩, hcolon⟩, hslash⟩, hdrive⟩, hname⟩ := hpilot
      refine ⟨drive, name, ?_, hdrive, ?_, by omega, hname⟩
      · rw [(UInt8.toUInt16_inj (b := 58)).mp hcolon, (UInt8.toUInt16_inj (b := 92)).mp hslash]
      · rintro rfl
        rw [List.length_nil] at hlong
        omega
  · rintro ⟨drive, name, rfl, hdrive, hne, hlength, hname⟩
    have hpos := List.length_pos_iff.mpr hne
    refine ⟨_, (asciiRoot_some h).mpr ⟨?_, ?_, rfl⟩⟩
    · simp only [kControlRootCharacters, List.length_cons]
      omega
    · simp only [pilotRoot, kControlRootCharacters, List.map_cons, List.length_cons, List.length_map, List.getElem?_cons_succ,
        List.getElem?_cons_zero, List.head?_cons, Option.any_some, List.drop_succ_cons, List.drop_zero, Bool.and_eq_true,
        decide_eq_true_eq, beq_iff_eq, Option.some.injEq, List.all_map, List.all_eq_true]
      exact ⟨⟨⟨⟨⟨by omega, by omega⟩, rfl⟩, rfl⟩, hdrive⟩, hname⟩

theorem schemaOf_cases {value : List UInt8} (h : schemaOf value ≠ 0) :
    value = ascii "1" ∧ schemaOf value = 1 ∨ value = ascii "2" ∧ schemaOf value = 2 := by
  rw [schemaOf] at h ⊢
  by_cases h1 : value = ascii "1"
  · exact .inl ⟨h1, if_pos h1⟩
  · rw [if_neg h1] at h ⊢
    by_cases h2 : value = ascii "2"
    · exact .inr ⟨h2, if_pos h2⟩
    · rw [if_neg h2] at h
      exact absurd rfl h

theorem value_iff {f : Field} {value : List UInt8} (h : 0 ∉ value) : f.valid parseSid value = true ↔ f.Value parseSid value := by
  cases f with
  | schema =>
      rw [Field.valid, Field.Value, bne_iff_ne]
      constructor
      · intro h
        exact (schemaOf_cases h).imp And.left And.left
      · rintro (rfl | rfl) <;> simp [schemaOf, ascii]
  | permission =>
      simp only [Field.valid, Field.Value, permissionOf, Bool.or_eq_true, bne_iff_ne, beq_iff_eq]
      split <;> simp_all
  | trainingRoot => rw [Field.valid, Field.Value, beq_iff_eq]
  | serverRoot => exact rootText_iff h
  | operatorSid => rw [Field.valid, Field.Value, Bool.or_eq_true, beq_iff_eq, Option.isSome_iff_exists]
  | consoleTrigger => rw [Field.valid, Field.Value, Bool.or_eq_true, beq_iff_eq, beq_iff_eq]

theorem console_not_required (schema : UInt32) : Field.consoleTrigger ∉ requiredFields schema := by
  rw [requiredFields]
  split <;> decide

theorem rootField_required (schema : UInt32) : rootField schema ∈ requiredFields schema := by
  rw [rootField, requiredFields]
  split <;> decide

theorem otherRoot_not_required {schema : UInt32} {f : Field} (hf : f = .trainingRoot ∨ f = .serverRoot)
    (hne : f ≠ rootField schema) : f ∉ requiredFields schema := by
  rw [rootField] at hne
  rw [requiredFields]
  by_cases hschema : schema = 1
  · rw [if_pos hschema] at hne ⊢
    rcases hf with rfl | rfl
    · exact absurd rfl hne
    · decide
  · rw [if_neg hschema] at hne ⊢
    rcases hf with rfl | rfl
    · decide
    · exact absurd rfl hne

theorem fields_erase {p : ParsedConfig} {a : Assignment Field} (h : Parsed parseSid p a) (schema : UInt32) :
    p.fields.erase .consoleTrigger = requiredFields schema ↔
      ∀ f, f ≠ .consoleTrigger → ((a f).isSome ↔ f ∈ requiredFields schema) := by
  rw [Finset.ext_iff]
  refine forall_congr' fun f => ?_
  rw [Finset.mem_erase, h.fields, ← Option.isSome_iff_ne_none]
  by_cases hf : f = .consoleTrigger
  · simp [hf, console_not_required]
  · simp [hf]

theorem permissionOf_eq_zero {value : List UInt8} (hvalid : Field.valid parseSid .permission value = true) :
    permissionOf value = 0 ↔ value = ascii "disabled" := by
  constructor
  · intro h
    rw [Field.valid, h] at hvalid
    simpa using hvalid
  · rintro rfl
    simp [permissionOf, ascii]

theorem root_parsed {p : ParsedConfig} {a : Assignment Field} {schema : UInt32} {value : List UInt8}
    (h : Parsed parseSid p a) (hsound : Sound parseSid a)
    (hfields : ∀ f, f ≠ .consoleTrigger → ((a f).isSome ↔ f ∈ requiredFields schema))
    (hvalue : a (rootField schema) = some value) :
    p.parsed.scope.serverRoot = value.map UInt8.toUInt16 ∧ pilotRoot p.parsed.scope.serverRoot = true ∧
      (schema = 1 → p.parsed.scope.serverRoot = kTrainingRoot) := by
  have hnone : ∀ f, f = .trainingRoot ∨ f = .serverRoot → f ≠ rootField schema → a f = none := by
    intro f hf hne
    rw [← Option.not_isSome_iff_eq_none, hfields f (by rcases hf with rfl | rfl <;> decide)]
    exact otherRoot_not_required hf hne
  obtain ⟨hvalid, hzero⟩ := hsound _ _ hvalue
  by_cases hschema : schema = 1
  · have hother := hnone .serverRoot (.inr rfl)
    rw [rootField, if_pos hschema] at hvalue hvalid hother
    have hroot := h.trainingRoot (hother (by decide))
    rw [Field.valid, beq_iff_eq] at hvalid
    rw [hvalue, Option.elim_some] at hroot
    have hsome : (asciiRoot value).isSome := by
      rw [hvalid, asciiRoot_training]
      rfl
    obtain ⟨heq, hpilot⟩ := rootOf_valid hsome hzero
    rw [hroot]
    refine ⟨heq, hpilot, fun _ => ?_⟩
    rw [rootOf, hvalid, asciiRoot_training]
    rfl
  · have hother := hnone .trainingRoot (.inl rfl)
    rw [rootField, if_neg hschema] at hvalue hvalid hother
    have hroot := h.serverRoot (hother (by decide))
    rw [hvalue, Option.elim_some] at hroot
    obtain ⟨heq, hpilot⟩ := rootOf_valid hvalid hzero
    rw [hroot]
    exact ⟨heq, hpilot, fun h => absurd h hschema⟩

theorem permission_required (schema : UInt32) : Field.permission ∈ requiredFields schema := by
  rw [requiredFields]
  split <;> decide

theorem operatorSid_required (schema : UInt32) : Field.operatorSid ∈ requiredFields schema := by
  rw [requiredFields]
  split <;> decide

theorem schema_required (schema : UInt32) : Field.schema ∈ requiredFields schema := by
  rw [requiredFields]
  split <;> decide

/-- Everything a complete configuration says of its fields. -/
theorem ParsedConfig.configures {p : ParsedConfig} {a : Assignment Field} (h : Parsed parseSid p a)
    (hsound : Sound parseSid a) (hcomplete : p.complete = true) : Configures parseSid a p.parsed := by
  simp only [ParsedConfig.complete, Bool.and_eq_true, decide_eq_true_eq, Bool.not_eq_true', Bool.and_eq_false_iff,
    decide_eq_false_iff_not, Bool.or_eq_false_iff, bne_eq_false_iff_eq] at hcomplete
  obtain ⟨⟨⟨hscope, hfields⟩, hconsole⟩, henabled⟩ := hcomplete
  have hfields := (fields_erase h _).mp hfields
  have hsome : ∀ f, f ≠ .consoleTrigger → f ∈ requiredFields p.parsed.scope.schema → ∃ value, a f = some value :=
    fun f hf hmem => Option.isSome_iff_exists.mp ((hfields f hf).mpr hmem)
  obtain ⟨schema, hschema⟩ := hsome .schema (by decide) (schema_required _)
  obtain ⟨permission, hpermission⟩ := hsome .permission (by decide) (permission_required _)
  obtain ⟨operator, hoperator⟩ := hsome .operatorSid (by decide) (operatorSid_required _)
  obtain ⟨root, hroot⟩ := hsome (rootField p.parsed.scope.schema) (by rw [rootField]; split <;> decide) (rootField_required _)
  have hzero := permissionOf_eq_zero (hsound _ _ hpermission).1
  have hp := h.permission
  rw [hpermission, Option.elim_some] at hp
  have hsid := h.sid
  rw [hoperator, Option.elim_some, sidOf] at hsid
  refine ⟨⟨schema, hschema, ?_⟩, hfields, ?_, ?_, ⟨root, hroot, (root_parsed h hsound hfields hroot).1⟩, ?_, ?_, ?_, ?_⟩
  · rw [h.schema, hschema, Option.elim_some]
  · intro hset
    exact hconsole.resolve_left fun hmem => hmem ((h.fields _).mpr (Option.isSome_iff_ne_none.mp hset))
  · rw [h.console, beq_iff_eq]
  · intro hno
    rw [hoperator, Option.some.injEq] at hno
    rw [hsid, if_pos hno]
  · intro value hvalue hne
    rw [hoperator, Option.some.injEq] at hvalue
    subst hvalue
    have hvalid := (hsound _ _ hoperator).1
    rw [Field.valid, beq_eq_false_iff_ne.mpr hne, Bool.false_or] at hvalid
    obtain ⟨sid, hparse⟩ := Option.isSome_iff_exists.mp hvalid
    rw [hsid, if_neg hne, hparse]
    rfl
  · rw [h.enabled, hp, bne_eq_false_iff_eq, hzero, hpermission, Option.some.injEq]
  · intro hon
    rw [hon] at henabled
    obtain ⟨hno, hsame⟩ := henabled.resolve_left Bool.true_eq_false.mp
    refine ⟨⟨permission, hpermission, hp.symm.trans hsame⟩, ?_⟩
    rw [h.noOperator] at hno
    exact beq_eq_false_iff_ne.mp hno

theorem Configures.complete {p : ParsedConfig} {a : Assignment Field} {c : ControlConfig} (h : Parsed parseSid p a)
    (hsound : Sound parseSid a) (hc : Configures parseSid a c) : p.complete = true ∧ c = p.parsed := by
  obtain ⟨schema, hschema, hof⟩ := hc.schema
  have hs : p.parsed.scope.schema = c.scope.schema := by rw [h.schema, hschema, Option.elim_some, hof]
  obtain ⟨root, hroot, hcroot⟩ := hc.root
  obtain ⟨hproot, hpilot, htraining⟩ := root_parsed h hsound hc.fields hroot
  have hsome : ∀ f, f ≠ .consoleTrigger → f ∈ requiredFields c.scope.schema → ∃ value, a f = some value :=
    fun f hf hmem => Option.isSome_iff_exists.mp ((hc.fields f hf).mpr hmem)
  obtain ⟨permission, hpermission⟩ := hsome .permission (by decide) (permission_required _)
  obtain ⟨operator, hoperator⟩ := hsome .operatorSid (by decide) (operatorSid_required _)
  have hp := h.permission
  rw [hpermission, Option.elim_some] at hp
  have henabled : c.enabled = p.parsed.enabled := by
    have hzero := permissionOf_eq_zero (hsound _ _ hpermission).1
    have hdisabled := hc.disabled
    rw [hpermission, Option.some.injEq, ← hzero, ← hp] at hdisabled
    rw [h.enabled, Bool.eq_iff_iff, ← Bool.not_eq_false, hdisabled, bne_iff_ne]
  have hsid : c.operatorSid = p.parsed.operatorSid := by
    rw [h.sid, hoperator, Option.elim_some, sidOf]
    by_cases hno : operator = ascii "none"
    · rw [if_pos hno]
      exact hc.noOperator (hoperator.trans (congrArg some hno))
    · rw [if_neg hno, hc.operator _ hoperator hno]
      rfl
  have hrequested : c.consoleRequested = p.parsed.consoleRequested := by
    rw [h.console, Bool.eq_iff_iff, hc.requested, beq_iff_eq]
  constructor
  · simp only [ParsedConfig.complete, Bool.and_eq_true, decide_eq_true_eq, Bool.not_eq_true', Bool.and_eq_false_iff,
      decide_eq_false_iff_not, Bool.or_eq_false_iff, bne_eq_false_iff_eq, hs]
    refine ⟨⟨⟨?_, (fields_erase h _).mpr hc.fields⟩, ?_⟩, ?_⟩
    · rw [validScope, hpilot, Bool.true_and, hs, Bool.or_eq_true, Bool.and_eq_true, beq_iff_eq, beq_iff_eq, beq_iff_eq]
      have hne : schemaOf schema ≠ 0 := by
        have hvalid := (hsound _ _ hschema).1
        rwa [Field.valid, bne_iff_ne] at hvalid
      rcases schemaOf_cases hne with ⟨_, h1⟩ | ⟨_, h2⟩
      · exact .inr ⟨hof.symm.trans h1, htraining (hof.symm.trans h1)⟩
      · exact .inl (hof.symm.trans h2)
    · by_cases hmem : Field.consoleTrigger ∈ p.fields
      · exact .inr (hc.console (Option.isSome_iff_ne_none.mpr ((h.fields _).mp hmem)))
      · exact .inl hmem
    · rw [← henabled]
      cases hon : c.enabled with
      | false => exact .inl rfl
      | true =>
          obtain ⟨⟨value, hvalue, hsame⟩, hno⟩ := hc.enabled hon
          rw [hpermission, Option.some.injEq] at hvalue
          subst hvalue
          refine .inr ⟨?_, hp.trans hsame⟩
          rw [h.noOperator]
          exact beq_eq_false_iff_ne.mpr hno
  · exact ControlConfig.ext henabled hrequested (ControlScope.ext hs.symm (hcroot.trans hproot.symm)) hsid

theorem tells_iff {ls : List (List UInt8)} {es : List Setting} {a : Assignment Field} (hlists : Lists ls es) :
    Tells fieldOf (Field.valid parseSid) es a ↔
      (∀ e ∈ es, ∃ f, e.key = ascii (Field.name f) ∧ f.Value parseSid e.value) ∧ (es.map Setting.key).Nodup ∧
        ∀ f value, a f = some value ↔ ⟨ascii f.name, value⟩ ∈ es := by
  have hzero : ∀ e ∈ es, 0 ∉ e.value := fun e he hmem => Bool.false_ne_true (hlists.legible he 0 hmem)
  have hvalue : ∀ f value, (∃ e ∈ es, fieldOf e.key = some f ∧ e.value = value) ↔ ⟨ascii f.name, value⟩ ∈ es := by
    intro f value
    constructor
    · rintro ⟨e, he, hkey, rfl⟩
      rw [← fieldOf_iff.mp hkey]
      exact he
    · exact fun he => ⟨_, he, fieldOf_iff.mpr rfl, rfl⟩
  have hnodup : (es.map fun e => fieldOf e.key) = (es.map Setting.key).map fieldOf := by
    rw [List.map_map]
    rfl
  constructor
  · rintro ⟨hvalid, honce, hset⟩
    refine ⟨fun e he => ?_, ?_, fun f value => (hset f value).trans (hvalue f value)⟩
    · obtain ⟨f, hf, hv⟩ := hvalid e he
      exact ⟨f, fieldOf_iff.mp hf, (value_iff (hzero e he)).mp hv⟩
    · rw [hnodup] at honce
      exact honce.of_map _
  · rintro ⟨hvalid, honce, hset⟩
    refine ⟨fun e he => ?_, ?_, fun f value => (hset f value).trans (hvalue f value).symm⟩
    · obtain ⟨f, hf, hv⟩ := hvalid e he
      exact ⟨f, fieldOf_iff.mpr hf, (value_iff (hzero e he)).mpr hv⟩
    · rw [hnodup]
      refine honce.map_on fun key hkey key' hkey' heq => ?_
      obtain ⟨e, he, rfl⟩ := List.mem_map.mp hkey
      obtain ⟨f, hf, -⟩ := hvalid e he
      have hkey := fieldOf_iff.mpr hf
      rw [hf, fieldOf_iff.mp (heq.symm.trans hkey)]

theorem sound_of_tells {ls : List (List UInt8)} {es : List Setting} {a : Assignment Field} (hlists : Lists ls es)
    (h : Tells fieldOf (Field.valid parseSid) es a) : Sound parseSid a := by
  intro f value hvalue
  obtain ⟨e, he, hkey, rfl⟩ := (h.value f value).mp hvalue
  obtain ⟨g, hg, hvalid⟩ := h.valid e he
  rw [hkey, Option.some.injEq] at hg
  subst hg
  exact ⟨hvalid, fun hmem => Bool.false_ne_true (hlists.legible he 0 hmem)⟩

/-- The parser gets to the end of exactly the texts whose settings are in order. -/
theorem readText_iff {text : List UInt8} {c : ControlConfig} :
    (∃ p, readText (takeField parseSid) text .zero = .ok p ∧ p.complete = true ∧ c = p.parsed) ↔ ControlText parseSid text c := by
  have halike := readLines_alike takeField_alike (parsed_zero parseSid) (lines text)
  constructor
  · rintro ⟨p, hp, hcomplete, rfl⟩
    rw [readText] at hp
    rw [hp] at halike
    cases ha : readLines (assign fieldOf (Field.valid parseSid)) (lines text) .empty with
    | error b =>
        rw [ha] at halike
        exact halike.elim
    | ok a =>
        rw [ha] at halike
        obtain ⟨es, hlists, htells⟩ := readLines_assign.mp ha
        obtain ⟨hvalid, honce, hset⟩ := (tells_iff hlists).mp htells
        exact ⟨es, a, hlists, hvalid, honce, hset, ParsedConfig.configures halike (sound_of_tells hlists htells) hcomplete⟩
  · rintro ⟨es, a, hlists, hvalid, honce, hset, hc⟩
    have htells := (tells_iff hlists).mpr ⟨hvalid, honce, hset⟩
    have ha := readLines_assign.mpr ⟨es, hlists, htells⟩
    rw [ha] at halike
    cases hp : readLines (takeField parseSid) (lines text) .zero with
    | error b =>
        rw [hp] at halike
        exact halike.elim
    | ok p =>
        rw [hp] at halike
        obtain ⟨hcomplete, rfl⟩ := hc.complete halike (sound_of_tells hlists htells)
        exact ⟨p, hp, hcomplete, rfl⟩

theorem ControlText.ne_nil {text : List UInt8} {c : ControlConfig} (h : ControlText parseSid text c) : text ≠ [] := by
  rintro rfl
  obtain ⟨es, a, hlists, -, -, hset, hc⟩ := h
  obtain ⟨value, hvalue, -⟩ := hc.schema
  obtain ⟨line, hline, -⟩ := hlists.line ((hset _ _).mp hvalue)
  exact absurd hline List.not_mem_nil

theorem parseControlConfig_of_text {text : List UInt8} {c : ControlConfig} (hlength : text.length ≤ kControlFileBytes)
    (h : ControlText parseSid text c) :
    parseControlConfig parseSid text = (if c.enabled then .ready else .disabled, c) := by
  obtain ⟨p, hp, hcomplete, rfl⟩ := readText_iff.mpr h
  have hsize : ¬(decide (text = []) || decide (kControlFileBytes < text.length)) = true := by
    simp [h.ne_nil, hlength]
  rw [parseControlConfig, if_neg hsize, hp]
  exact if_pos hcomplete

theorem parseControlConfig_refused {text : List UInt8}
    (h : ¬(text.length ≤ kControlFileBytes ∧ ∃ c, ControlText parseSid text c)) :
    parseControlConfig parseSid text = (.invalidConfig, .zero) := by
  rw [parseControlConfig]
  by_cases hsize : (decide (text = []) || decide (kControlFileBytes < text.length)) = true
  · exact if_pos hsize
  · rw [if_neg hsize]
    have hlength : text.length ≤ kControlFileBytes := by
      simp only [Bool.or_eq_true, decide_eq_true_eq, not_or, Nat.not_lt] at hsize
      exact hsize.2
    cases hp : readText (takeField parseSid) text .zero with
    | error _ => rfl
    | ok p =>
        refine if_neg fun hcomplete => h ⟨hlength, p.parsed, ?_⟩
        exact readText_iff.mp ⟨p, hp, hcomplete, rfl⟩

theorem ControlText.layout {text text' : List UInt8} {c : ControlConfig} (h : ControlText parseSid text c)
    (hsame : SameSettings text text') : ControlText parseSid text' c := by
  obtain ⟨es, a, hlists, hvalid, honce, hset, hc⟩ := h
  obtain ⟨es', hlists', hperm⟩ := hsame.lists hlists
  refine ⟨es', a, hlists', fun e he => hvalid e (hperm.mem_iff.mpr he), (hperm.map _).nodup_iff.mp honce, ?_, hc⟩
  exact fun f value => (hset f value).trans hperm.mem_iff

/-- The texts that give a configuration are those of the grammar, whatever their layout.
Any other leaves the output zero. -/
theorem control_config_grammar (parseSid : List UInt8 → Option (List UInt8)) (text : List UInt8) :
    (∀ c, parseControlConfig parseSid text = (.ready, c) ↔
      text.length ≤ kControlFileBytes ∧ ControlText parseSid text c ∧ c.enabled = true) ∧
    (∀ c, parseControlConfig parseSid text = (.disabled, c) ↔
      text.length ≤ kControlFileBytes ∧ ControlText parseSid text c ∧ c.enabled = false) ∧
    ((parseControlConfig parseSid text).1 ≠ .ready → (parseControlConfig parseSid text).1 ≠ .disabled →
      parseControlConfig parseSid text = (.invalidConfig, .zero)) ∧
    ∀ text', text.length ≤ kControlFileBytes → text'.length ≤ kControlFileBytes → SameSettings text text' →
      parseControlConfig parseSid text = parseControlConfig parseSid text' := by
  by_cases h : text.length ≤ kControlFileBytes ∧ ∃ c, ControlText parseSid text c
  · obtain ⟨hlength, d, hd⟩ := h
    have hparse := parseControlConfig_of_text hlength hd
    have hunique : ∀ c, ControlText parseSid text c → c = d := fun c hc =>
      (congrArg Prod.snd ((parseControlConfig_of_text hlength hc).symm.trans hparse))
    refine ⟨fun c => ?_, fun c => ?_, ?_, fun text' _ hlength' hsame => ?_⟩
    · rw [hparse, Prod.mk.injEq]
      constructor
      · rintro ⟨hon, rfl⟩
        refine ⟨hlength, hd, ?_⟩
        by_contra hoff
        rw [if_neg hoff] at hon
        cases hon
      · rintro ⟨_, hc, hon⟩
        rw [hunique c hc] at hon ⊢
        exact ⟨if_pos hon, rfl⟩
    · rw [hparse, Prod.mk.injEq]
      constructor
      · rintro ⟨hoff, rfl⟩
        refine ⟨hlength, hd, ?_⟩
        rw [← Bool.not_eq_true]
        intro hon
        rw [if_pos hon] at hoff
        cases hoff
      · rintro ⟨_, hc, hoff⟩
        rw [hunique c hc] at hoff ⊢
        exact ⟨if_neg (Bool.not_eq_true _ ▸ hoff), rfl⟩
    · rw [hparse]
      intro hready hdisabled
      cases hon : d.enabled <;> rw [hon] at hready hdisabled
      · exact absurd rfl hdisabled
      · exact absurd rfl hready
    · rw [hparse, parseControlConfig_of_text hlength' (hd.layout hsame)]
  · have hparse := parseControlConfig_refused h
    refine ⟨fun c => ?_, fun c => ?_, fun _ _ => hparse, fun text' hlength hlength' hsame => ?_⟩
    · rw [hparse, Prod.mk.injEq]
      constructor
      · rintro ⟨hr, _⟩
        cases hr
      · exact fun hc => absurd ⟨hc.1, c, hc.2.1⟩ h
    · rw [hparse, Prod.mk.injEq]
      constructor
      · rintro ⟨hr, _⟩
        cases hr
      · exact fun hc => absurd ⟨hc.1, c, hc.2.1⟩ h
    · rw [hparse, parseControlConfig_refused]
      rintro ⟨_, c, hc⟩
      exact h ⟨hlength, c, hc.layout (Relation.EqvGen.symm _ _ hsame)⟩

end Simulate

end RS2ServerFix.Control
