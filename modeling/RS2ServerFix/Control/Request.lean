import Mathlib.Data.Fintype.Card
import RS2ServerFix.Control.Config
import RS2ServerFix.NativeLog.Grammar

namespace RS2ServerFix.Control

open Lib.Scan NativeLog
open LeechRecovery (ControlResult)

structure ControlRequest where
  pid : UInt32
  runId : RunId
  deriving DecidableEq

def ControlRequest.zero : ControlRequest := ⟨0, Vector.replicate 16 0⟩

def validIdentity (identity : ControlRequest) : Bool := identity.pid != 0 && identity.runId.toList.any fun b => b != 0

def kTrainingControlScope : ControlScope := ⟨1, kTrainingRoot⟩

def quote : UInt8 := 34
def backslash : UInt8 := 92

def whitespace (c : UInt8) : Bool := c == 32 || c == 9 || c == 13 || c == 10

def printable (c : UInt8) : Bool := 32 ≤ c && c ≤ 126

section Json

variable (text : List UInt8)

def jsonSpace (cursor : Nat) : Option Nat := skipWhile whitespace text cursor

def jsonTake (c : UInt8) (cursor : Nat) : OptionT Option (Unit × Nat) := do
  let cursor ← OptionT.lift (jsonSpace text cursor)
  if cursor < text.length then
    let b ← OptionT.lift text[cursor]?
    if b = c then return ((), cursor + 1) else failure
  else failure

def stringRest (capacity : Nat) (value : List UInt8) (cursor : Nat) : OptionT Option (List UInt8 × Nat) :=
  if cursor < text.length then do
    let c ← OptionT.lift text[cursor]?
    if c = quote then return (value, cursor + 1)
    else if c = backslash then
      if cursor + 1 < text.length then
        let d ← OptionT.lift text[cursor + 1]?
        if d ≠ backslash || !printable d || capacity ≤ value.length + 1 then failure
        else stringRest capacity (value ++ [d]) (cursor + 2)
      else failure
    else if !printable c || capacity ≤ value.length + 1 then failure
    else stringRest capacity (value ++ [c]) (cursor + 1)
  else failure
termination_by text.length - cursor

def jsonString (capacity : Nat) (cursor : Nat) : OptionT Option (List UInt8 × Nat) := do
  let (_, cursor) ← jsonTake text quote cursor
  stringRest text capacity [] cursor

def nextNumber (number : UInt32) (c : UInt8) : Option UInt32 :=
  let value := (c - 48).toUInt32
  if (0xffffffff - value) / 10 < number then none else some (number * 10 + value)

def numberRest (number : UInt32) (cursor : Nat) : OptionT Option (UInt32 × Nat) :=
  if cursor < text.length then do
    let c ← OptionT.lift text[cursor]?
    if digit c then
      let number ← OptionT.mk (some (nextNumber number c))
      numberRest number (cursor + 1)
    else return (number, cursor)
  else pure (number, cursor)
termination_by text.length - cursor

def jsonNumber (cursor : Nat) : OptionT Option (UInt32 × Nat) := do
  let start ← OptionT.lift (jsonSpace text cursor)
  let (number, cursor) ← numberRest text 0 start
  if cursor = start then failure
  else if 1 < cursor - start then
    let b ← OptionT.lift text[start]?
    if b = 48 then failure else return (number, cursor)
  else return (number, cursor)

end Json

inductive RequestField
  | schema
  | action
  | pid
  | runId
  | root
  deriving DecidableEq, Repr

instance : Fintype RequestField := ⟨{.schema, .action, .pid, .runId, .root}, by intro f; cases f <;> decide⟩

def rootKey (schema : UInt32) : String := if schema = 1 then "training_root" else "server_root"

def RequestField.key (schema : UInt32) : RequestField → String
  | .schema => "schema"
  | .action => "action"
  | .pid => "pid"
  | .runId => "run_id"
  | .root => rootKey schema

def RequestField.compared : List RequestField := [.schema, .action, .pid, .runId, .root]

def requestField (schema : UInt32) (key : List UInt8) : Option RequestField :=
  RequestField.compared.find? fun f => key == ascii (f.key schema)

def upperCase (c : UInt16) : UInt16 := if 97 ≤ c && c ≤ 122 then c - 32 else c

/-- The root of a request is that of the scope; in the second schema, but for the case of its letters. -/
def sameRoot (expected : ControlScope) (root : List UInt16) : Bool :=
  if expected.schema = 1 then root == expected.serverRoot else root.map upperCase == expected.serverRoot.map upperCase

section Request

variable (text : List UInt8) (identity : ControlRequest) (expected : ControlScope)

def require (valid : Bool) (cursor : Nat) : OptionT Option (Unit × Nat) :=
  if valid then return ((), cursor) else failure

def readValue (cursor : Nat) : RequestField → OptionT Option (Unit × Nat)
  | .schema => do
      let (number, cursor) ← jsonNumber text cursor
      require (number == expected.schema) cursor
  | .action => do
      let (value, cursor) ← jsonString text 184 cursor
      require (value == ascii "finish-recreate") cursor
  | .pid => do
      let (number, cursor) ← jsonNumber text cursor
      require (number == identity.pid) cursor
  | .runId => do
      let (value, cursor) ← jsonString text 184 cursor
      require (value == hex identity.runId.toList) cursor
  | .root => do
      let (value, cursor) ← jsonString text 184 cursor
      require ((asciiRoot value).any (sameRoot expected)) cursor

def closes (cursor : Nat) : Option Bool :=
  if cursor < text.length then do
    let b ← text[cursor]?
    return b == 125
  else some false

/-- The members of the object and its end. No field is read twice, so that there are five at most. -/
def members (fields : Finset RequestField) (cursor : Nat) : OptionT Option (Finset RequestField × Nat) := do
  let (key, cursor) ← jsonString text 32 cursor
  let (_, cursor) ← jsonTake text 58 cursor
  match requestField expected.schema key with
  | none => failure
  | some field => do
      let (_, cursor) ← readValue text identity expected cursor field
      if _ : field ∈ fields then failure
      else
        let cursor ← OptionT.lift (jsonSpace text cursor)
        let closed ← OptionT.lift (closes text cursor)
        if closed then return (insert field fields, cursor + 1)
        else
          let (_, cursor) ← jsonTake text 44 cursor
          members (insert field fields) cursor
termination_by 5 - fields.card
decreasing_by
  have hle : (insert field fields).card ≤ 5 := Finset.card_le_univ _
  rw [Finset.card_insert_of_notMem ‹field ∉ fields›] at hle ⊢
  omega

def object : OptionT Option (Unit × Nat) := do
  let (_, cursor) ← jsonTake text 123 0
  let (fields, cursor) ← members text identity expected ∅ cursor
  let cursor ← OptionT.lift (jsonSpace text cursor)
  require (fields = Finset.univ && cursor = text.length) cursor

end Request

/-- The result and the output. There is none where the source would read at or past the end. -/
def parseControlRequest (bytes : List UInt8) (identity : ControlRequest) (scope : Option ControlScope) :
    Option (ControlResult × ControlRequest) :=
  let expected := scope.getD kTrainingControlScope
  if bytes = [] || kControlFileBytes < bytes.length || !validIdentity identity || !validScope expected then
    some (.invalidRequest, .zero)
  else
    (object bytes identity expected).run.map fun found =>
      if found.isSome then (.ready, identity) else (.invalidRequest, .zero)

def Whitespace (s : List UInt8) : Prop := ∀ c ∈ s, whitespace c = true

def encode (s : List UInt8) : List UInt8 := s.flatMap fun c => if c = backslash then [backslash, backslash] else [c]

def stringText (s : List UInt8) : List UInt8 := quote :: (encode s ++ [quote])

def Plainly (s : List UInt8) : Prop := ∀ c ∈ s, printable c = true ∧ c ≠ quote

def decimal (n : UInt32) : List UInt8 := zeroPadded 1 n.toNat

def SameRoot (expected : ControlScope) (root : List UInt8) : Prop :=
  if expected.schema = 1 then root.map UInt8.toUInt16 = expected.serverRoot
  else (root.map UInt8.toUInt16).map upperCase = expected.serverRoot.map upperCase

section Grammar

variable (identity : ControlRequest) (expected : ControlScope)

def RequestField.Text : RequestField → List UInt8 → Prop
  | .schema, v => v = decimal expected.schema
  | .action, v => v = stringText (ascii "finish-recreate")
  | .pid, v => v = decimal identity.pid
  | .runId, v => v = stringText (hex identity.runId.toList)
  | .root, v => ∃ root, v = stringText root ∧ SameRoot expected root

/-- A member of the object, with the white space around its parts. -/
def RequestField.Member (f : RequestField) (s : List UInt8) : Prop :=
  ∃ before gap gap' v after, s = before ++ stringText (ascii (f.key expected.schema)) ++ gap ++ 58 :: (gap' ++ v ++ after) ∧
    Whitespace before ∧ Whitespace gap ∧ Whitespace gap' ∧ Whitespace after ∧ f.Text identity expected v

/-- One object of the five members in any order, with white space around it. -/
def RequestText (text : List UInt8) : Prop :=
  ∃ (before : List UInt8) (ms : List (RequestField × List UInt8)) (after : List UInt8),
    text = before ++ 123 :: (List.intercalate [44] (ms.map Prod.snd) ++ 125 :: after) ∧
    Whitespace before ∧ Whitespace after ∧
    (ms.map Prod.fst).Perm [RequestField.schema, .action, .pid, .runId, .root] ∧
    ∀ m ∈ ms, RequestField.Member identity expected m.1 m.2

end Grammar

section Read

variable {text rest tail : List UInt8} {cursor : Nat}

def Taken (c : UInt8) (rest tail : List UInt8) : Prop := ∃ ws, rest = ws ++ c :: tail ∧ Whitespace ws

/-- White space cannot hide the beginning of what follows it. -/
theorem dropWhile_space {ws s : List UInt8} (hws : Whitespace ws) (hs : ∀ c, s.head? = some c → whitespace c = false) :
    (ws ++ s).dropWhile whitespace = s := dropWhile_run hws hs

theorem space_dropWhile (rest : List UInt8) : ∃ ws, rest = ws ++ rest.dropWhile whitespace ∧ Whitespace ws :=
  ⟨rest.takeWhile whitespace, List.takeWhile_append_dropWhile.symm, takeWhile_run whitespace rest⟩

theorem head_of_cons {c : UInt8} (hc : whitespace c = false) :
    ∀ d, (c :: tail).head? = some d → whitespace d = false := by
  intro d hd
  cases hd
  exact hc

theorem taken_iff {c : UInt8} (hc : whitespace c = false) :
    Taken c rest tail ↔ rest.dropWhile whitespace = c :: tail := by
  constructor
  · rintro ⟨ws, rfl, hws⟩
    exact dropWhile_space hws (head_of_cons hc)
  · intro h
    obtain ⟨ws, hrest, hws⟩ := space_dropWhile rest
    rw [h] at hrest
    exact ⟨ws, hrest, hws⟩

theorem jsonTake_reads {c : UInt8} (hc : whitespace c = false) (h : Rest text cursor rest) :
    Reads text (fun _ tail => Taken c rest tail) (jsonTake text c cursor) := by
  refine .skip h fun d hd => ?_
  cases hskip : rest.dropWhile whitespace with
  | nil =>
      rw [hskip] at hd
      rw [if_neg fun hlt => hd.lt_iff.mp hlt rfl]
      refine .refuse fun _ tail ht => ?_
      rw [taken_iff hc, hskip] at ht
      cases ht
  | cons b s =>
      rw [hskip] at hd
      rw [if_pos (hd.lt_iff.mpr (List.cons_ne_nil _ _))]
      refine .look hd (.ite (fun hb => ?_) fun hb => ?_)
      · refine (Reads.pure hd.next).congr fun _ tail => ?_
        rw [taken_iff hc, hskip, hb, List.cons.injEq]
        constructor
        · rintro ⟨-, rfl⟩
          exact ⟨rfl, rfl⟩
        · rintro ⟨-, rfl⟩
          exact ⟨rfl, rfl⟩
      · refine .refuse fun _ tail ht => ?_
        rw [taken_iff hc, hskip, List.cons.injEq] at ht
        exact hb ht.1

theorem encode_cons (a : UInt8) (s : List UInt8) :
    encode (a :: s) = (if a = backslash then [backslash, backslash] else [a]) ++ encode s := rfl

/-- What follows spells the rest of the string `v`, after the characters `value`, and then the quote. -/
def Spelled (value rest v tail : List UInt8) : Prop :=
  ∃ s, v = value ++ s ∧ rest = encode s ++ quote :: tail ∧ Plainly s

theorem Spelled.length_le {value v : List UInt8} (h : Spelled value rest v tail) : value.length ≤ v.length := by
  obtain ⟨s, rfl, -⟩ := h
  rw [List.length_append]
  exact Nat.le_add_right _ _

theorem spelled_cases {value v : List UInt8} :
    Spelled value rest v tail ↔
      (v = value ∧ rest = quote :: tail) ∨
      ∃ a r, rest = (if a = backslash then [backslash, backslash] else [a]) ++ r ∧ printable a = true ∧ a ≠ quote ∧
        Spelled (value ++ [a]) r v tail := by
  constructor
  · rintro ⟨s, rfl, rfl, hs⟩
    cases s with
    | nil => exact .inl ⟨List.append_nil _, rfl⟩
    | cons a s =>
        have ha := hs a List.mem_cons_self
        refine .inr ⟨a, encode s ++ quote :: tail, ?_, ha.1, ha.2, s, ?_, rfl, fun c hc =>
          hs c (List.mem_cons_of_mem _ hc)⟩
        · rw [encode_cons, List.append_assoc]
        · rw [List.append_assoc, List.singleton_append]
  · rintro (⟨rfl, rfl⟩ | ⟨a, r, rfl, hprint, hquote, s, rfl, rfl, hs⟩)
    · refine ⟨[], (List.append_nil _).symm, rfl, ?_⟩
      intro c hc
      cases hc
    · refine ⟨a :: s, ?_, ?_, ?_⟩
      · rw [List.append_assoc, List.singleton_append]
      · rw [encode_cons, List.append_assoc]
      · intro c hc
        cases hc with
        | head => exact ⟨hprint, hquote⟩
        | tail _ hc => exact hs c hc

theorem spelled_quote {value v : List UInt8} : Spelled value (quote :: rest) v tail ↔ v = value ∧ tail = rest := by
  rw [spelled_cases]
  constructor
  · rintro (⟨rfl, h⟩ | ⟨a, r, h, _, hquote, _⟩)
    · exact ⟨rfl, (List.cons.inj h).2.symm⟩
    · split at h
      · exact absurd (List.cons.inj h).1 (by decide)
      · exact absurd (List.cons.inj h).1.symm hquote
  · rintro ⟨rfl, rfl⟩
    exact .inl ⟨rfl, rfl⟩

theorem spelled_escape {value v : List UInt8} :
    Spelled value (backslash :: rest) v tail ↔ ∃ r, rest = backslash :: r ∧
      Spelled (value ++ [backslash]) r v tail := by
  rw [spelled_cases]
  constructor
  · rintro (⟨rfl, h⟩ | ⟨a, r, h, _, hquote, hr⟩)
    · exact absurd (List.cons.inj h).1 (by decide)
    · split at h
      · rename_i ha
        subst ha
        exact ⟨r, (List.cons.inj h).2, hr⟩
      · rename_i ha
        exact absurd (List.cons.inj h).1.symm ha
  · rintro ⟨r, rfl, hr⟩
    exact .inr ⟨backslash, r, rfl, by decide, by decide, hr⟩

theorem spelled_plain {value v : List UInt8} {c : UInt8} (hquote : c ≠ quote) (hback : c ≠ backslash) :
    Spelled value (c :: rest) v tail ↔ printable c = true ∧ Spelled (value ++ [c]) rest v tail := by
  rw [spelled_cases]
  constructor
  · rintro (⟨rfl, h⟩ | ⟨a, r, h, hprint, _, hr⟩)
    · exact absurd (List.cons.inj h).1 hquote
    · split at h
      · exact absurd (List.cons.inj h).1 hback
      · obtain ⟨rfl, rfl⟩ := List.cons.inj h
        exact ⟨hprint, hr⟩
  · rintro ⟨hprint, hr⟩
    refine .inr ⟨c, rest, ?_, hprint, hquote, hr⟩
    rw [if_neg hback, List.singleton_append]

theorem not_spelled_nil {value v : List UInt8} : ¬Spelled value [] v tail := by
  rintro ⟨s, -, h, -⟩
  exact List.cons_ne_nil _ _ (List.append_eq_nil_iff.mp h.symm).2

theorem stringRest_reads {capacity : Nat} {value : List UInt8} (h : Rest text cursor rest)
    (hlength : value.length < capacity) :
    Reads text (fun v tail => Spelled value rest v tail ∧ v.length < capacity)
      (stringRest text capacity value cursor) := by
  induction hn : rest.length using Nat.strong_induction_on generalizing value cursor rest with
  | _ n ih =>
  rw [stringRest]
  cases rest with
  | nil =>
      rw [if_neg fun hlt => h.lt_iff.mp hlt rfl]
      exact .refuse fun _ _ hv => not_spelled_nil hv.1
  | cons c r =>
      rw [if_pos (h.lt_iff.mpr (List.cons_ne_nil _ _))]
      refine .look h (.ite (fun hc => ?_) fun hquote => .ite (fun hc => ?_) fun hback => ?_)
      · refine (Reads.pure h.next).congr fun v tail => ?_
        rw [hc, spelled_quote]
        constructor
        · rintro ⟨rfl, rfl⟩
          exact ⟨⟨rfl, rfl⟩, hlength⟩
        · exact fun hv => hv.1
      · subst hc
        cases r with
        | nil =>
            rw [if_neg fun hlt => h.next.lt_iff.mp hlt rfl]
            refine .refuse fun v tail hv => ?_
            obtain ⟨r, hr, -⟩ := spelled_escape.mp hv.1
            cases hr
        | cons d r =>
            rw [if_pos (h.next.lt_iff.mpr (List.cons_ne_nil _ _))]
            refine .look h.next (.ite (fun hd => ?_) fun hd => ?_)
            · refine .refuse fun v tail hv => ?_
              obtain ⟨r', hr, hspell⟩ := spelled_escape.mp hv.1
              obtain ⟨rfl, rfl⟩ := List.cons.inj hr
              have hle := hspell.length_le
              rw [List.length_append, List.length_singleton] at hle
              simp only [ne_eq, not_true_eq_false, decide_false, Bool.false_or, Bool.or_eq_true,
                decide_eq_true_eq] at hd
              rcases hd with hd | hd
              · exact absurd hd (by decide)
              · omega
            · simp only [ne_eq, decide_not, Bool.or_eq_true, Bool.not_eq_eq_eq_not, Bool.not_true,
                decide_eq_false_iff_not,
                decide_eq_true_eq, not_or, Decidable.not_not] at hd
              obtain ⟨⟨rfl, -⟩, hroom⟩ := hd
              refine (ih r.length ?_ h.next.next ?_ rfl).congr fun v tail => ?_
              · rw [← hn, List.length_cons, List.length_cons]
                omega
              · rw [List.length_append, List.length_singleton]
                omega
              · rw [spelled_escape]
                constructor
                · rintro ⟨hspell, hv⟩
                  exact ⟨⟨r, rfl, hspell⟩, hv⟩
                · rintro ⟨⟨r', hr, hspell⟩, hv⟩
                  obtain ⟨-, rfl⟩ := List.cons.inj hr
                  exact ⟨hspell, hv⟩
      · refine .ite (fun hc => ?_) fun hc => ?_
        · refine .refuse fun v tail hv => ?_
          obtain ⟨hprint, hspell⟩ := (spelled_plain hquote hback).mp hv.1
          have hle := hspell.length_le
          rw [List.length_append, List.length_singleton] at hle
          rw [hprint, Bool.not_true, Bool.false_or, decide_eq_true_eq] at hc
          omega
        · rw [Bool.or_eq_true, decide_eq_true_eq, not_or, Bool.not_eq_true, Bool.not_eq_false'] at hc
          obtain ⟨hprint, hroom⟩ := hc
          refine (ih r.length ?_ h.next ?_ rfl).congr fun v tail => ?_
          · rw [← hn, List.length_cons]
            omega
          · rw [List.length_append, List.length_singleton]
            omega
          · rw [spelled_plain hquote hback, hprint]
            exact ⟨fun hv => ⟨⟨rfl, hv.1⟩, hv.2⟩, fun hv => ⟨hv.1.2, hv.2⟩⟩

def StringAt (rest v tail : List UInt8) : Prop :=
  ∃ ws, rest = ws ++ stringText v ++ tail ∧ Whitespace ws ∧ Plainly v

theorem jsonString_reads {capacity : Nat} (h : Rest text cursor rest) (hcapacity : 0 < capacity) :
    Reads text (fun v tail => StringAt rest v tail ∧ v.length < capacity) (jsonString text capacity cursor) := by
  refine ((jsonTake_reads (by decide) h).bind fun _ d tail _ hd => stringRest_reads hd hcapacity).congr fun v tail => ?_
  constructor
  · rintro ⟨_, r, ⟨ws, rfl, hws⟩, ⟨s, rfl, rfl, hs⟩, hlength⟩
    refine ⟨⟨ws, ?_, hws, hs⟩, hlength⟩
    rw [stringText, List.append_assoc, List.cons_append, List.append_assoc, List.singleton_append]
  · rintro ⟨⟨ws, rfl, hws, hv⟩, hlength⟩
    refine ⟨(), encode v ++ quote :: tail, ⟨ws, ?_, hws⟩, ⟨v, rfl, rfl, hv⟩, hlength⟩
    rw [stringText, List.append_assoc, List.cons_append, List.append_assoc, List.singleton_append]

def shown (ds : List UInt8) : Nat := Nat.ofDigits 10 (ds.reverse.map fun b => b.toNat - 48)

theorem shown_snoc (ds : List UInt8) (c : UInt8) : shown (ds ++ [c]) = shown ds * 10 + (c.toNat - 48) := by
  rw [shown, List.reverse_append, List.reverse_singleton, List.singleton_append, List.map_cons, Nat.ofDigits_cons,
    shown]
  omega

theorem nextNumber_iff {m n : UInt32} {c : UInt8} (h : digit c = true) :
    nextNumber m c = some n ↔ n.toNat = m.toNat * 10 + (c.toNat - 48) := by
  rw [digit, Bool.and_eq_true, decide_eq_true_eq, decide_eq_true_eq, UInt8.le_iff_toNat_le, UInt8.le_iff_toNat_le] at h
  have hlow : 48 ≤ c.toNat := h.1
  have hhigh : c.toNat ≤ 57 := h.2
  have hvalue : ((c - 48).toUInt32).toNat = c.toNat - 48 := by
    rw [UInt8.toNat_toUInt32, UInt8.toNat_sub_of_le]
    · rfl
    · exact h.1
  have hlimit : ((0xffffffff - (c - 48).toUInt32) / 10).toNat = (4294967295 - (c.toNat - 48)) / 10 := by
    rw [UInt32.toNat_div, UInt32.toNat_sub_of_le]
    · rw [hvalue]
      rfl
    · rw [UInt32.le_iff_toNat_le, hvalue]
      have : (0xffffffff : UInt32).toNat = 4294967295 := rfl
      omega
  have hm := m.toNat_lt
  have hn := n.toNat_lt
  rw [nextNumber, Option.ite_none_left_eq_some, UInt32.lt_iff_toNat_lt, hlimit, Option.some.injEq, ← UInt32.toNat_inj,
    UInt32.toNat_add, UInt32.toNat_mul, hvalue]
  have hten : (10 : UInt32).toNat = 10 := rfl
  rw [hten]
  omega

/-- The reader multiplies and adds as the number is read, and refuses one that is too large. -/
theorem foldlM_nextNumber {ds : List UInt8} (h : ds.all digit = true) (n : UInt32) :
    ds.foldlM nextNumber 0 = some n ↔ n.toNat = shown ds := by
  induction ds using List.reverseRecOn generalizing n with
  | nil =>
      rw [List.foldlM_nil, Option.pure_def, Option.some.injEq, ← UInt32.toNat_inj, eq_comm]
      rfl
  | append_singleton ds c ih =>
      rw [List.all_append, Bool.and_eq_true, List.all_cons, List.all_nil, Bool.and_true] at h
      rw [List.foldlM_append, Option.bind_eq_bind, Option.bind_eq_some_iff, shown_snoc]
      have hlast : ∀ m, [c].foldlM nextNumber m = some n ↔ n.toNat = m.toNat * 10 + (c.toNat - 48) := by
        intro m
        rw [← nextNumber_iff h.2, List.foldlM_cons, Option.bind_eq_bind]
        cases nextNumber m c <;> rfl
      constructor
      · rintro ⟨m, hm, hn⟩
        rw [(hlast m).mp hn, (ih h.1 m).mp hm]
      · intro hn
        have hlt : shown ds < 2 ^ 32 := by
          have := n.toNat_lt
          omega
        have hm : (UInt32.ofNat (shown ds)).toNat = shown ds := UInt32.toNat_ofNat_of_lt' hlt
        refine ⟨UInt32.ofNat (shown ds), (ih h.1 _).mpr hm, (hlast _).mpr ?_⟩
        rw [hm, hn]

theorem shown_decimalDigits (n : Nat) : shown (decimalDigits n) = n := by
  rw [shown, decimalDigits, ← List.map_reverse, List.reverse_reverse, List.map_map]
  conv_rhs => rw [← Nat.ofDigits_digits 10 n]
  refine congrArg (Nat.ofDigits 10) ((List.map_congr_left fun d hd => ?_).trans (List.map_id _))
  have hlt := Nat.digits_lt_base (by decide : 1 < 10) hd
  have hall : ∀ k : Fin 10, (48 + k.val.toUInt8).toNat - 48 = k.val := by decide
  exact hall ⟨d, hlt⟩

theorem shown_decimal (n : Nat) : shown (zeroPadded 1 n) = n := by
  rcases Nat.eq_zero_or_pos n with rfl | hn
  · rfl
  · have hpos : 0 < (decimalDigits n).length := by
      rw [decimalDigits_length, List.length_pos_iff]
      exact Nat.digits_ne_nil_iff_ne_zero.mpr (Nat.ne_of_gt hn)
    rw [zeroPadded, Nat.sub_eq_zero_of_le hpos]
    exact shown_decimalDigits n

theorem decimal_iff {ds : List UInt8} (hall : ds.all digit = true) (n : UInt32) :
    ds = decimal n ↔ ds ≠ [] ∧ (1 < ds.length → ds.head? ≠ some 48) ∧ ds.foldlM nextNumber 0 = some n := by
  rw [foldlM_nextNumber hall, decimal]
  constructor
  · rintro rfl
    obtain ⟨-, hpos, hhead⟩ := (wholeSeconds_iff 1 _).mpr ⟨n.toNat, rfl⟩
    exact ⟨List.length_pos_iff.mp hpos, hhead, (shown_decimal _).symm⟩
  · rintro ⟨hne, hhead, hn⟩
    obtain ⟨k, hk⟩ := (wholeSeconds_iff 1 ds).mp ⟨hall, List.length_pos_iff.mpr hne, hhead⟩
    rw [hn, hk, shown_decimal]

theorem numberRest_reads (h : Rest text cursor rest) (number : UInt32) :
    Reads text (fun n tail => (rest.takeWhile digit).foldlM nextNumber number = some n ∧ tail = rest.dropWhile digit)
      (numberRest text number cursor) := by
  induction rest generalizing number cursor with
  | nil =>
      rw [numberRest, if_neg fun hlt => h.lt_iff.mp hlt rfl]
      refine (Reads.pure h).congr fun n tail => ?_
      rw [List.takeWhile_nil, List.dropWhile_nil, List.foldlM_nil, Option.pure_def, Option.some.injEq, eq_comm (a := n)]
  | cons c r ih =>
      rw [numberRest, if_pos (h.lt_iff.mpr (List.cons_ne_nil _ _))]
      refine .look h (.ite (fun hc => ?_) fun hc => ?_)
      · rw [List.takeWhile_cons_of_pos hc, List.dropWhile_cons_of_pos hc]
        cases hnext : nextNumber number c with
        | none =>
            refine .refuse fun n tail hn => ?_
            rw [List.foldlM_cons, hnext] at hn
            cases hn.1
        | some m =>
            refine (ih h.next m).congr fun n tail => ?_
            rw [List.foldlM_cons, hnext]
            rfl
      · refine (Reads.pure h).congr fun n tail => ?_
        rw [List.takeWhile_cons_of_neg hc, List.dropWhile_cons_of_neg hc, List.foldlM_nil, Option.pure_def,
          Option.some.injEq,
          eq_comm (a := n)]

def NumberAt (rest : List UInt8) (n : UInt32) (tail : List UInt8) : Prop :=
  ∃ ws, rest = ws ++ decimal n ++ tail ∧ Whitespace ws ∧ ∀ c, tail.head? = some c → digit c = false

theorem digit_not_space {c : UInt8} (h : digit c = true) : whitespace c = false := by
  rw [digit, Bool.and_eq_true, decide_eq_true_eq, decide_eq_true_eq, UInt8.le_iff_toNat_le, UInt8.le_iff_toNat_le] at h
  have hlow : 48 ≤ c.toNat := h.1
  rw [← Bool.not_eq_true, whitespace]
  simp only [Bool.or_eq_true, beq_iff_eq, not_or]
  refine ⟨⟨⟨?_, ?_⟩, ?_⟩, ?_⟩ <;> rintro rfl <;> exact absurd hlow (by decide)

theorem decimal_head (n : UInt32) : ∃ c s, decimal n = c :: s ∧ digit c = true := by
  have hall := zeroPadded_all 1 n.toNat
  obtain ⟨hne, -⟩ := (decimal_iff hall n).mp rfl
  obtain ⟨c, s, hcons⟩ := List.exists_cons_of_ne_nil hne
  rw [hcons, List.all_cons, Bool.and_eq_true] at hall
  exact ⟨c, s, hcons, hall.1⟩

theorem numberAt_iff {n : UInt32} :
    NumberAt rest n tail ↔
      (rest.dropWhile whitespace).takeWhile digit = decimal n ∧ tail = (rest.dropWhile whitespace).dropWhile digit := by
  constructor
  · rintro ⟨ws, rfl, hws, htail⟩
    have hall : ∀ c ∈ decimal n, digit c = true := List.all_eq_true.mp (zeroPadded_all 1 n.toNat)
    have hspace : (ws ++ decimal n ++ tail).dropWhile whitespace = decimal n ++ tail := by
      rw [List.append_assoc]
      refine dropWhile_space hws fun c hc => ?_
      obtain ⟨d, s, hcons, hd⟩ := decimal_head n
      rw [hcons, List.cons_append, List.head?_cons, Option.some.injEq] at hc
      exact hc ▸ digit_not_space hd
    rw [hspace]
    have hdrop := dropWhile_run hall htail
    refine ⟨?_, hdrop.symm⟩
    have hboth := List.takeWhile_append_dropWhile (p := digit) (l := decimal n ++ tail)
    rw [hdrop] at hboth
    exact List.append_cancel_right hboth
  · rintro ⟨hn, rfl⟩
    obtain ⟨ws, hrest, hws⟩ := space_dropWhile rest
    refine ⟨ws, ?_, hws, fun c hc => head_dropWhile hc⟩
    rw [← hn, List.append_assoc, List.takeWhile_append_dropWhile]
    exact hrest

theorem jsonNumber_reads (h : Rest text cursor rest) :
    Reads text (fun n tail => NumberAt rest n tail) (jsonNumber text cursor) := by
  refine .skip h fun start hstart => ?_
  refine ((numberRest_reads hstart 0).bind (Q := fun n tail n' tail' =>
    (rest.dropWhile whitespace).takeWhile digit ≠ [] ∧
    (1 < ((rest.dropWhile whitespace).takeWhile digit).length →
      ((rest.dropWhile whitespace).takeWhile digit).head? ≠ some 48) ∧
    n' = n ∧ tail' = tail) fun n d tail hn hd => ?_).congr fun n tail => ?_
  · obtain ⟨-, rfl⟩ := hn
    have hlength : d = start + ((rest.dropWhile whitespace).takeWhile digit).length := by
      have hboth := congrArg List.length (List.takeWhile_append_dropWhile (p := digit) (l := rest.dropWhile whitespace))
      rw [List.length_append] at hboth
      have hlast := hd.length
      rw [hstart.length] at hlast
      omega
    refine .ite (fun hempty => ?_) fun hne => .ite (fun hlong => ?_) fun hshort => ?_
    · refine .refuse fun n' tail' hq => hq.1 (List.length_eq_zero_iff.mp ?_)
      omega
    · have hpos : (rest.dropWhile whitespace).takeWhile digit ≠ [] := by
        rintro hnil
        rw [hnil, List.length_nil] at hlength
        omega
      obtain ⟨c, s, hcons⟩ := List.exists_cons_of_ne_nil hpos
      have hrest : rest.dropWhile whitespace = c :: (s ++ (rest.dropWhile whitespace).dropWhile digit) := by
        rw [← List.cons_append, ← hcons, List.takeWhile_append_dropWhile]
      rw [hcons, List.head?_cons]
      rw [hcons] at hlength
      rw [hrest] at hstart
      refine .look hstart (.ite (fun hzero => ?_) fun hzero => ?_)
      · refine .refuse fun n' tail' hq => hq.2.1 (by omega) (congrArg some hzero)
      · refine (Reads.pure hd).congr fun n' tail' => ?_
        constructor
        · exact fun hq => ⟨List.cons_ne_nil _ _, fun _ hz => hzero (Option.some.inj hz), hq⟩
        · exact fun hq => hq.2.2
    · refine (Reads.pure hd).congr fun n' tail' => ?_
      constructor
      · refine fun hq => ⟨?_, fun hlt => by omega, hq⟩
        intro hnil
        rw [hnil, List.length_nil] at hlength
        exact hne hlength
      · exact fun hq => hq.2.2
  · rw [numberAt_iff, decimal_iff (List.all_eq_true.mpr (takeWhile_run _ _))]
    constructor
    · rintro ⟨n', tail', ⟨hn, rfl⟩, hne, hhead, rfl, rfl⟩
      exact ⟨⟨hne, hhead, hn⟩, rfl⟩
    · rintro ⟨⟨hne, hhead, hn⟩, rfl⟩
      exact ⟨n, _, ⟨hn, rfl⟩, hne, hhead, rfl, rfl⟩

theorem requestField_iff {schema : UInt32} {key : List UInt8} {f : RequestField} :
    requestField schema key = some f ↔ key = ascii (f.key schema) := by
  have hinj : ∀ f' : RequestField, ascii (f.key schema) = ascii (f'.key schema) → f = f' := by
    simp only [RequestField.key, rootKey]
    by_cases hschema : schema = 1
    · simp only [if_pos hschema]
      revert f
      decide
    · simp only [if_neg hschema]
      revert f
      decide
  rw [requestField]
  constructor
  · intro h
    have hfound := List.find?_some h
    exact beq_iff_eq.mp hfound
  · rintro rfl
    cases hfind : RequestField.compared.find? fun f' => ascii (f.key schema) == ascii (f'.key schema) with
    | none =>
        have hmem : f ∈ RequestField.compared := by cases f <;> decide
        exact absurd (beq_self_eq_true _) (List.find?_eq_none.mp hfind f hmem)
    | some f' =>
        have hfound := List.find?_some hfind
        rw [hinj f' (beq_iff_eq.mp hfound)]

theorem require_reads {v : Bool} (h : Rest text cursor rest) :
    Reads text (fun _ tail => v = true ∧ tail = rest) (require v cursor) := by
  refine .ite (fun hvalid => ?_) fun hvalid => ?_
  · refine (Reads.pure h).congr fun _ tail => ?_
    exact ⟨fun hq => ⟨hvalid, hq.2⟩, fun hq => ⟨rfl, hq.2⟩⟩
  · exact .refuse fun _ _ hq => hvalid hq.1

theorem numberValue_reads (n : UInt32) (h : Rest text cursor rest) :
    Reads text (fun _ tail => NumberAt rest n tail)
      (jsonNumber text cursor >>= fun found => require (found.1 == n) found.2) := by
  refine ((jsonNumber_reads h).bind fun m d tail _ hd => require_reads (v := m == n) hd).congr fun _ tail => ?_
  constructor
  · rintro ⟨m, tail, hm, hvalid, rfl⟩
    exact beq_iff_eq.mp hvalid ▸ hm
  · exact fun hn => ⟨n, tail, hn, beq_self_eq_true n, rfl⟩

theorem stringValue_reads (h : Rest text cursor rest) (valid : List UInt8 → Bool)
    (hvalid : ∀ v, Plainly v → valid v = true → v.length < 184) :
    Reads text (fun _ tail => ∃ v, StringAt rest v tail ∧ valid v = true)
      (jsonString text 184 cursor >>= fun found => require (valid found.1) found.2) := by
  refine ((jsonString_reads h (by decide)).bind fun v d tail _ hd =>
    require_reads (v := valid v) hd).congr fun _ tail => ?_
  constructor
  · rintro ⟨v, tail, ⟨hv, -⟩, hgood, rfl⟩
    exact ⟨v, hv, hgood⟩
  · rintro ⟨v, ⟨ws, hrest, hws, hplain⟩, hgood⟩
    exact ⟨v, tail, ⟨⟨ws, hrest, hws, hplain⟩, hvalid v hplain hgood⟩, hgood, rfl⟩

theorem upperCase_driveLetter (c : UInt16) : driveLetter (upperCase c) = driveLetter c := by
  grind [driveLetter, upperCase]

theorem upperCase_rootCharacter (c : UInt16) : rootCharacter (upperCase c) = rootCharacter c := by
  grind [rootCharacter, driveLetter, upperCase]

theorem upperCase_eq_iff {c d : UInt16} (hd : d < 65 ∨ 90 < d ∧ d < 97) : upperCase c = d ↔ c = d := by
  grind [upperCase]

theorem pilotRoot_upperCase (root : List UInt16) : pilotRoot (root.map upperCase) = pilotRoot root := by
  have hat : ∀ {i : Nat} {d : UInt16}, (d < 65 ∨ 90 < d ∧ d < 97) →
      ((root.map upperCase)[i]? == some d) = (root[i]? == some d) := by
    intro i d hd
    rw [List.getElem?_map, Bool.eq_iff_iff, beq_iff_eq, beq_iff_eq]
    cases root[i]? with
    | none => exact Iff.rfl
    | some c => rw [Option.map_some, Option.some.injEq, Option.some.injEq, upperCase_eq_iff hd]
  have hhead : (root.map upperCase).head?.any driveLetter = root.head?.any driveLetter := by
    rw [List.head?_map, Option.any_map]
    exact congrArg (Option.any · root.head?) (funext upperCase_driveLetter)
  have hname : ((root.map upperCase).drop 3).all rootCharacter = (root.drop 3).all rootCharacter := by
    rw [← List.map_drop, List.all_map]
    exact congrArg (List.all _) (funext upperCase_rootCharacter)
  rw [pilotRoot, pilotRoot, List.length_map, hat (by decide), hat (by decide), hhead, hname]

theorem SameRoot.pilot {expected : ControlScope} {root : List UInt8} (h : SameRoot expected root)
    (hscope : pilotRoot expected.serverRoot = true) : pilotRoot (root.map UInt8.toUInt16) = true := by
  rw [SameRoot] at h
  split at h
  · rwa [h]
  · rwa [← pilotRoot_upperCase, h, pilotRoot_upperCase]

theorem rootCharacter_plain {c : UInt8} (h : rootCharacter c.toUInt16 = true) : printable c = true ∧ c ≠ quote := by
  have hnat : c.toUInt16.toNat = c.toNat := UInt8.toNat_toUInt16 c
  simp only [rootCharacter, driveLetter, Bool.or_eq_true, Bool.and_eq_true, decide_eq_true_eq, beq_iff_eq,
    UInt16.le_iff_toNat_le, ← UInt16.toNat_inj, hnat] at h
  simp only [printable, quote, Bool.and_eq_true, decide_eq_true_eq, UInt8.le_iff_toNat_le, ne_eq, ← UInt8.toNat_inj]
  have hliterals : (65 : UInt16).toNat = 65 ∧ (90 : UInt16).toNat = 90 ∧ (97 : UInt16).toNat = 97 ∧
      (122 : UInt16).toNat = 122 ∧ (48 : UInt16).toNat = 48 ∧ (57 : UInt16).toNat = 57 ∧ (95 : UInt16).toNat = 95 ∧
      (45 : UInt16).toNat = 45 := by decide
  have hbytes : (32 : UInt8).toNat = 32 ∧ (126 : UInt8).toNat = 126 ∧ (34 : UInt8).toNat = 34 := by decide
  omega

theorem pilotRoot_plainly {root : List UInt8} (h : pilotRoot (root.map UInt8.toUInt16) = true) :
    Plainly root ∧ root.length < kControlRootCharacters := by
  simp only [pilotRoot, Bool.and_eq_true, decide_eq_true_eq, beq_iff_eq, List.length_map, List.getElem?_map,
    ← List.map_drop,
    List.head?_map, Option.any_map, List.all_map] at h
  obtain ⟨⟨⟨⟨⟨-, hshort⟩, hcolon⟩, hslash⟩, hdrive⟩, hname⟩ := h
  refine ⟨?_, hshort⟩
  rcases root with _ | ⟨drive, _ | ⟨colon, _ | ⟨slash, name⟩⟩⟩
  · cases hcolon
  · cases hcolon
  · cases hslash
  · intro c hc
    simp only [List.mem_cons] at hc
    rcases hc with rfl | rfl | rfl | hc
    · refine rootCharacter_plain ?_
      rw [rootCharacter, Bool.or_assoc, Bool.or_assoc, Bool.or_eq_true]
      exact .inl hdrive
    · rw [(UInt8.toUInt16_inj (b := 58)).mp (Option.some.inj hcolon)]
      decide
    · rw [(UInt8.toUInt16_inj (b := 92)).mp (Option.some.inj hslash)]
      decide
    · exact rootCharacter_plain (List.all_eq_true.mp hname c hc)

theorem Plainly.no_terminator {s : List UInt8} (h : Plainly s) : 0 ∉ s := by
  intro hzero
  exact absurd (h 0 hzero).1 (by decide)

theorem root_valid_iff {expected : ControlScope} {root : List UInt8} (hscope : pilotRoot expected.serverRoot = true)
    (hplain : Plainly root) : (asciiRoot root).any (sameRoot expected) = true ↔ SameRoot expected root := by
  rw [Option.any_eq_true]
  have hsame : sameRoot expected (root.map UInt8.toUInt16) = true ↔ SameRoot expected root := by
    rw [sameRoot, SameRoot]
    split <;> exact beq_iff_eq
  constructor
  · rintro ⟨r, hr, h⟩
    obtain ⟨-, -, rfl⟩ := (asciiRoot_some hplain.no_terminator).mp hr
    exact hsame.mp h
  · intro h
    have hpilot := h.pilot hscope
    exact ⟨_, (asciiRoot_some hplain.no_terminator).mpr ⟨(pilotRoot_plainly hpilot).2, hpilot, rfl⟩, hsame.mpr h⟩

theorem hexCharacter_plain {c : UInt8} (h : hexCharacter c = true) : printable c = true ∧ c ≠ quote := by
  grind [hexCharacter, printable, quote]

theorem hex_plainly (bytes : List UInt8) : Plainly (hex bytes) := by
  intro c hc
  obtain ⟨b, -, hb⟩ := List.mem_flatMap.mp hc
  rcases List.mem_pair.mp hb with rfl | rfl
  · exact hexCharacter_plain (hexDigit_hexCharacter (nibbles_lt b).1)
  · exact hexCharacter_plain (hexDigit_hexCharacter (nibbles_lt b).2)

theorem plainly_of_all {s : List UInt8} (h : (s.all fun c => printable c && c != quote) = true) : Plainly s := by
  intro c hc
  have hplain := List.all_eq_true.mp h c hc
  rw [Bool.and_eq_true, bne_iff_ne] at hplain
  exact hplain

section Value

variable {identity : ControlRequest} {expected : ControlScope}

def ValueAt (identity : ControlRequest) (expected : ControlScope) (f : RequestField) (rest tail : List UInt8) : Prop :=
  ∃ ws v, rest = ws ++ v ++ tail ∧ Whitespace ws ∧ f.Text identity expected v ∧
    (f = .schema ∨ f = .pid → ∀ c, tail.head? = some c → digit c = false)

theorem readValue_reads {f : RequestField} (h : Rest text cursor rest) (hscope : pilotRoot expected.serverRoot = true) :
    Reads text (fun _ tail => ValueAt identity expected f rest tail) (readValue text identity expected cursor f) := by
  have hnumber : ∀ {n : UInt32}, (f = .schema ∨ f = .pid) → (∀ v, f.Text identity expected v ↔ v = decimal n) →
      ∀ tail, NumberAt rest n tail ↔ ValueAt identity expected f rest tail := by
    intro n hf htext tail
    constructor
    · rintro ⟨ws, hrest, hws, htail⟩
      exact ⟨ws, _, hrest, hws, (htext _).mpr rfl, fun _ => htail⟩
    · rintro ⟨ws, v, hrest, hws, hv, htail⟩
      obtain rfl := (htext v).mp hv
      exact ⟨ws, hrest, hws, htail hf⟩
  have hstring : ∀ {valid : List UInt8 → Bool}, ¬(f = .schema ∨ f = .pid) →
      (∀ v, f.Text identity expected v ↔ ∃ s, v = stringText s ∧ Plainly s ∧ valid s = true) →
      ∀ tail, (∃ s, StringAt rest s tail ∧ valid s = true) ↔ ValueAt identity expected f rest tail := by
    intro valid hf htext tail
    constructor
    · rintro ⟨s, ⟨ws, hrest, hws, hplain⟩, hvalid⟩
      exact ⟨ws, _, hrest, hws, (htext _).mpr ⟨s, rfl, hplain, hvalid⟩, fun hnum => absurd hnum hf⟩
    · rintro ⟨ws, v, hrest, hws, hv, -⟩
      obtain ⟨s, rfl, hplain, hvalid⟩ := (htext v).mp hv
      exact ⟨s, ⟨ws, hrest, hws, hplain⟩, hvalid⟩
  cases f with
  | schema => exact (numberValue_reads expected.schema h).congr fun _ => hnumber (.inl rfl) (fun _ => Iff.rfl)
  | pid => exact (numberValue_reads identity.pid h).congr fun _ => hnumber (.inr rfl) (fun _ => Iff.rfl)
  | action =>
      refine (stringValue_reads h (fun s => s == ascii "finish-recreate") ?_).congr fun _ =>
        hstring (by simp) fun v => ?_
      · intro v _ hv
        rw [beq_iff_eq.mp hv]
        decide
      · constructor
        · rintro rfl
          exact ⟨_, rfl, plainly_of_all rfl, beq_self_eq_true _⟩
        · rintro ⟨s, rfl, -, hs⟩
          rw [beq_iff_eq.mp hs]
          rfl
  | runId =>
      refine (stringValue_reads h (fun s => s == hex identity.runId.toList) ?_).congr fun _ =>
        hstring (by simp) fun v => ?_
      · intro v _ hv
        rw [beq_iff_eq.mp hv, hex_length, Vector.length_toList]
        decide
      · constructor
        · rintro rfl
          exact ⟨_, rfl, hex_plainly _, beq_self_eq_true _⟩
        · rintro ⟨s, rfl, -, hs⟩
          rw [beq_iff_eq.mp hs]
          rfl
  | root =>
      refine (stringValue_reads h (fun s => (asciiRoot s).any (sameRoot expected)) ?_).congr fun _ =>
        hstring (by simp) fun v => ?_
      · intro v hplain hv
        have hlength := (pilotRoot_plainly (((root_valid_iff hscope hplain).mp hv).pilot hscope)).2
        exact Nat.lt_trans hlength (by decide)
      · constructor
        · rintro ⟨root, rfl, hroot⟩
          have hplain := (pilotRoot_plainly (hroot.pilot hscope)).1
          exact ⟨root, rfl, hplain, (root_valid_iff hscope hplain).mpr hroot⟩
        · rintro ⟨root, rfl, hplain, hroot⟩
          exact ⟨root, rfl, (root_valid_iff hscope hplain).mp hroot⟩

end Value

section Object

variable {identity : ControlRequest} {expected : ControlScope}

/-- The members that follow those of `fields`, up to the end of the object. -/
inductive Members (identity : ControlRequest) (expected : ControlScope) :
    Finset RequestField → List UInt8 → Finset RequestField → List UInt8 → Prop
  | last {fields : Finset RequestField} {f : RequestField} {s tail : List UInt8} (hf : f ∉ fields)
      (hs : f.Member identity expected s) : Members identity expected fields (s ++ 125 :: tail) (insert f fields) tail
  | more {fields fields' : Finset RequestField} {f : RequestField} {s rest tail : List UInt8} (hf : f ∉ fields)
      (hs : f.Member identity expected s) (hrest : Members identity expected (insert f fields) rest fields' tail) :
      Members identity expected fields (s ++ 44 :: rest) fields' tail

def Next (identity : ControlRequest) (expected : ControlScope) (fields : Finset RequestField) (rest : List UInt8)
    (fields' : Finset RequestField) (tail : List UInt8) : Prop :=
  ∃ after r, rest = after ++ r ∧ Whitespace after ∧
    (r = 125 :: tail ∧ fields' = fields ∨ ∃ r', r = 44 :: r' ∧ Members identity expected fields r' fields' tail)

theorem key_plain (schema : UInt32) (f : RequestField) :
    Plainly (ascii (f.key schema)) ∧ (ascii (f.key schema)).length < 32 := by
  have hall : ∀ k ∈ ["schema", "action", "pid", "run_id", "training_root", "server_root"],
      ((ascii k).all fun c => printable c && c != quote) = true ∧ (ascii k).length < 32 := by decide
  have hmem : f.key schema ∈ ["schema", "action", "pid", "run_id", "training_root", "server_root"] := by
    cases f with
    | root =>
        rw [RequestField.key, rootKey]
        split <;> simp
    | _ => simp [RequestField.key]
  obtain ⟨hplain, hlength⟩ := hall _ hmem
  exact ⟨plainly_of_all hplain, hlength⟩

theorem RequestField.Member.parts {f : RequestField} {s : List UInt8} (h : f.Member identity expected s) {c : UInt8}
    (hc : digit c = false) (tail : List UInt8) :
    ∃ key r r' after, StringAt (s ++ c :: tail) key r ∧ key.length < 32 ∧ requestField expected.schema key = some f ∧
      Taken 58 r r' ∧ ValueAt identity expected f r' (after ++ c :: tail) ∧ Whitespace after := by
  obtain ⟨before, gap, gap', v, after, rfl, hbefore, hgap, hgap', hafter, hv⟩ := h
  obtain ⟨hplain, hlength⟩ := key_plain expected.schema f
  refine ⟨_, gap ++ 58 :: (gap' ++ v ++ after) ++ c :: tail, gap' ++ v ++ after ++ c :: tail, after,
    ⟨before, ?_, hbefore, hplain⟩, hlength, requestField_iff.mpr rfl, ⟨gap, ?_, hgap⟩,
      ⟨gap', v, ?_, hgap', hv, ?_⟩, hafter⟩
  · simp only [List.append_assoc]
  · simp only [List.append_assoc, List.cons_append]
  · simp only [List.append_assoc]
  · intro _ d hd
    cases after with
    | nil =>
        cases hd
        exact hc
    | cons a after =>
        cases hd
        rw [← Bool.not_eq_true]
        intro hdigit
        have hspace := hafter d List.mem_cons_self
        rw [digit_not_space hdigit] at hspace
        cases hspace

theorem RequestField.Member.of_parts {f : RequestField} {key r r' after t : List UInt8} (hkey : StringAt rest key r)
    (hfield : requestField expected.schema key = some f) (hcolon : Taken 58 r r')
    (hvalue : ValueAt identity expected f r' (after ++ t)) (hafter : Whitespace after) :
    ∃ s, rest = s ++ t ∧ f.Member identity expected s := by
  obtain ⟨before, rfl, hbefore, -⟩ := hkey
  obtain ⟨gap, rfl, hgap⟩ := hcolon
  obtain ⟨gap', v, rfl, hgap', hv, -⟩ := hvalue
  obtain rfl := requestField_iff.mp hfield
  refine ⟨_, ?_, before, gap, gap', v, after, rfl, hbefore, hgap, hgap', hafter, hv⟩
  simp only [List.append_assoc, List.cons_append]

theorem members_iff {fields fields' : Finset RequestField} :
    Members identity expected fields rest fields' tail ↔
      ∃ key r, (StringAt rest key r ∧ key.length < 32) ∧ ∃ f, requestField expected.schema key = some f ∧ f ∉ fields ∧
        ∃ r', Taken 58 r r' ∧ ∃ r'', ValueAt identity expected f r' r'' ∧
          Next identity expected (insert f fields) r'' fields' tail := by
  constructor
  · intro h
    cases h with
    | last hf hs =>
        obtain ⟨key, r, r', after, hkey, hlength, hfield, hcolon, hvalue,
          hafter⟩ := hs.parts (c := 125) (by decide) tail
        exact ⟨key, r, ⟨hkey, hlength⟩, _, hfield, hf, r', hcolon, _, hvalue, after, _, rfl, hafter, .inl ⟨rfl, rfl⟩⟩
    | more hf hs hrest =>
        obtain ⟨key, r, r', after, hkey, hlength, hfield, hcolon, hvalue, hafter⟩ := hs.parts (c := 44) (by decide) _
        exact ⟨key, r, ⟨hkey, hlength⟩, _, hfield, hf, r', hcolon, _, hvalue, after, _, rfl, hafter,
          .inr ⟨_, rfl, hrest⟩⟩
  · rintro ⟨key, r, ⟨hkey, -⟩, f, hfield, hf, r', hcolon, r'', hvalue, after, t, rfl, hafter, hnext⟩
    obtain ⟨s, rfl, hs⟩ := RequestField.Member.of_parts hkey hfield hcolon hvalue hafter
    rcases hnext with ⟨rfl, rfl⟩ | ⟨r, rfl, hmore⟩
    · exact .last hf hs
    · exact .more hf hs hmore

theorem closes_eq (h : Rest text cursor rest) : closes text cursor = some (rest.head? == some 125) := by
  cases rest with
  | nil =>
      rw [closes, if_neg fun hlt => h.lt_iff.mp hlt rfl]
      rfl
  | cons c r =>
      rw [closes, if_pos (h.lt_iff.mpr (List.cons_ne_nil _ _)), h.read]
      rfl

theorem next_iff {fields fields' : Finset RequestField} :
    Next identity expected fields rest fields' tail ↔
      rest.dropWhile whitespace = 125 :: tail ∧ fields' = fields ∨
      ∃ r, rest.dropWhile whitespace = 44 :: r ∧ Members identity expected fields r fields' tail := by
  constructor
  · rintro ⟨after, r, rfl, hafter, ⟨rfl, rfl⟩ | ⟨r', rfl, hmore⟩⟩
    · exact .inl ⟨dropWhile_space hafter (head_of_cons (by decide)), rfl⟩
    · exact .inr ⟨r', dropWhile_space hafter (head_of_cons (by decide)), hmore⟩
  · intro h
    obtain ⟨after, hrest, hafter⟩ := space_dropWhile rest
    exact ⟨after, _, hrest, hafter, h⟩

theorem next_reads {fields : Finset RequestField} (h : Rest text cursor rest)
    (hmore : ∀ d r, Rest text d r → Reads text (fun fs tail => Members identity expected fields r fs tail)
      (members text identity expected fields d)) :
    Reads text (fun fs tail => Next identity expected fields rest fs tail) (do
      let cursor ← OptionT.lift (jsonSpace text cursor)
      let closed ← OptionT.lift (closes text cursor)
      if closed then return (fields, cursor + 1)
      else
        let (_, cursor) ← jsonTake text 44 cursor
        members text identity expected fields cursor) := by
  refine .skip h fun d hd => ?_
  rw [closes_eq hd]
  refine Reads.congr (P := fun fs tail => rest.dropWhile whitespace = 125 :: tail ∧ fs = fields ∨
    ∃ r, rest.dropWhile whitespace = 44 :: r ∧ Members identity expected fields r fs tail) ?_ fun _ _ => next_iff.symm
  refine Reads.ite (c := ((rest.dropWhile whitespace).head? == some 125) = true) (fun hclosed => ?_) fun hopen => ?_
  · obtain ⟨r, hr⟩ := List.head?_eq_some_iff.mp (beq_iff_eq.mp hclosed)
    rw [hr] at hd ⊢
    refine (Reads.pure hd.next).congr fun fs tail => ?_
    constructor
    · rintro ⟨rfl, rfl⟩
      exact .inl ⟨rfl, rfl⟩
    · rintro (⟨hr, rfl⟩ | ⟨r', hr, -⟩)
      · exact ⟨rfl, (List.cons.inj hr).2.symm⟩
      · exact absurd (List.cons.inj hr).1 (by decide)
  · refine ((jsonTake_reads (by decide) hd).bind fun _ d r _ hd => hmore d r hd).congr fun fs tail => ?_
    constructor
    · rintro ⟨_, r, hcomma, hr⟩
      rw [taken_iff (by decide), List.dropWhile_idempotent] at hcomma
      exact .inr ⟨r, hcomma, hr⟩
    · rintro (⟨hr, -⟩ | ⟨r, hr, hmembers⟩)
      · rw [hr] at hopen
        exact absurd rfl hopen
      · refine ⟨(), r, ?_, hmembers⟩
        rwa [taken_iff (by decide), List.dropWhile_idempotent]

theorem members_reads {fields : Finset RequestField} (hscope : pilotRoot expected.serverRoot = true)
    (h : Rest text cursor rest) :
    Reads text (fun fs tail => Members identity expected fields rest fs tail) (members text identity expected fields cursor) := by
  induction hn : 5 - fields.card using Nat.strong_induction_on generalizing fields cursor rest with
  | _ n ih =>
  rw [members]
  refine ((jsonString_reads h (by decide)).bind (Q := fun key r fs tail => ∃ f,
    requestField expected.schema key = some f ∧
    f ∉ fields ∧ ∃ r', Taken 58 r r' ∧ ∃ r'', ValueAt identity expected f r' r'' ∧
      Next identity expected (insert f fields) r'' fs tail) fun key d r hkey hd => ?_).congr fun fs tail => ?_
  · refine ((jsonTake_reads (by decide) hd).bind (Q := fun _ r' fs tail => ∃ f,
      requestField expected.schema key = some f ∧
      f ∉ fields ∧ ∃ r'', ValueAt identity expected f r' r'' ∧ Next identity expected (insert f fields) r'' fs tail)
      fun _ d r' _ hd => ?_).congr fun fs tail => ?_
    · cases hfield : requestField expected.schema key with
      | none =>
          refine .refuse fun fs tail hq => ?_
          obtain ⟨f, hf, -⟩ := hq
          cases hf
      | some f =>
          refine ((readValue_reads hd hscope).bind (Q := fun _ r'' fs tail => f ∉ fields ∧
            Next identity expected (insert f fields) r'' fs tail) fun _ d r'' _ hd => ?_).congr fun fs tail => ?_
          · dsimp only
            split
            · rename_i hmem
              exact .refuse fun fs tail hq => hq.1 hmem
            · rename_i hmem
              refine (next_reads hd fun d r hd => ?_).congr fun fs tail => (and_iff_right hmem).symm
              refine ih _ ?_ hd rfl
              have hle : (insert f fields).card ≤ 5 := Finset.card_le_univ _
              rw [Finset.card_insert_of_notMem hmem] at hle ⊢
              omega
          · constructor
            · rintro ⟨_, r'', hvalue, hf, hnext⟩
              exact ⟨f, rfl, hf, r'', hvalue, hnext⟩
            · rintro ⟨f', hf', hf, r'', hvalue, hnext⟩
              obtain rfl := Option.some.inj hf'
              exact ⟨(), r'', hvalue, hf, hnext⟩
    · constructor
      · rintro ⟨_, r', hcolon, f, hfield, hf, hvalue⟩
        exact ⟨f, hfield, hf, r', hcolon, hvalue⟩
      · rintro ⟨f, hfield, hf, r', hcolon, hvalue⟩
        exact ⟨(), r', hcolon, f, hfield, hf, hvalue⟩
  · exact members_iff.symm

theorem members_list {fields fields' : Finset RequestField} :
    Members identity expected fields rest fields' tail ↔
      ∃ ms : List (RequestField × List UInt8), ms ≠ [] ∧ rest = List.intercalate [44] (ms.map Prod.snd) ++ 125 :: tail ∧
        (ms.map Prod.fst).Nodup ∧ (∀ f ∈ ms.map Prod.fst, f ∉ fields) ∧ fields' = fields ∪ (ms.map Prod.fst).toFinset ∧
        ∀ m ∈ ms, RequestField.Member identity expected m.1 m.2 := by
  constructor
  · intro h
    induction h with
    | @last fields f s tail hf hs =>
        refine ⟨[(f, s)], List.cons_ne_nil _ _, ?_, List.nodup_singleton _, ?_, ?_, ?_⟩
        · rw [List.map_singleton, List.intercalate_singleton]
        · intro f' hf'
          rw [List.mem_singleton.mp hf']
          exact hf
        · rw [Finset.insert_eq, Finset.union_comm]
          rfl
        · intro m hm
          rw [List.mem_singleton.mp hm]
          exact hs
    | @more fields fields' f s rest tail hf hs hrest ih =>
        obtain ⟨ms, hne, rfl, hnodup, hnew, rfl, hms⟩ := ih
        refine ⟨(f, s) :: ms, List.cons_ne_nil _ _, ?_, ?_, ?_, ?_, ?_⟩
        · rw [List.map_cons, List.intercalate_cons_of_ne_nil]
          · simp only [List.append_assoc, List.cons_append, List.nil_append]
          · exact fun hnil => hne (List.map_eq_nil_iff.mp hnil)
        · rw [List.map_cons, List.nodup_cons]
          exact ⟨fun hmem => hnew f hmem (Finset.mem_insert_self _ _), hnodup⟩
        · intro f' hf'
          rcases List.mem_cons.mp hf' with rfl | hf'
          · exact hf
          · exact fun hmem => hnew f' hf' (Finset.mem_insert_of_mem hmem)
        · rw [List.map_cons, List.toFinset_cons, Finset.insert_union, Finset.union_insert]
        · intro m hm
          rcases List.mem_cons.mp hm with rfl | hm
          · exact hs
          · exact hms m hm
  · rintro ⟨ms, hne, rfl, hnodup, hnew, rfl, hms⟩
    induction ms generalizing fields with
    | nil => exact absurd rfl hne
    | cons m ms ih =>
        obtain ⟨f, s⟩ := m
        rw [List.map_cons, List.nodup_cons] at hnodup
        have hf : f ∉ fields := hnew f List.mem_cons_self
        have hs := hms _ List.mem_cons_self
        rw [List.map_cons, List.map_cons, List.toFinset_cons, Finset.union_insert, ← Finset.insert_union]
        by_cases hlast : ms = []
        · rw [hlast, List.map_nil, List.intercalate_singleton, List.map_nil, List.toFinset_nil, Finset.union_empty]
          exact .last hf hs
        · rw [List.intercalate_cons_of_ne_nil fun hnil => hlast (List.map_eq_nil_iff.mp hnil), List.append_assoc,
            List.append_assoc]
          refine .more hf hs (ih hlast hnodup.2 ?_ fun m hm => hms m (List.mem_cons_of_mem _ hm))
          intro f' hf' hmem
          rcases Finset.mem_insert.mp hmem with rfl | hmem
          · exact hnodup.1 hf'
          · exact hnew f' (List.mem_cons_of_mem _ hf') hmem

theorem all_members_iff :
    Members identity expected ∅ rest Finset.univ tail ↔
      ∃ ms : List (RequestField × List UInt8), rest = List.intercalate [44] (ms.map Prod.snd) ++ 125 :: tail ∧
        (ms.map Prod.fst).Perm [RequestField.schema, .action, .pid, .runId, .root] ∧
        ∀ m ∈ ms, RequestField.Member identity expected m.1 m.2 := by
  have hall : [RequestField.schema, .action, .pid, .runId, .root].toFinset = Finset.univ := rfl
  have honce : [RequestField.schema, .action, .pid, .runId, .root].Nodup := by decide
  rw [members_list]
  constructor
  · rintro ⟨ms, -, hrest, hnodup, -, hfields, hms⟩
    rw [Finset.empty_union] at hfields
    exact ⟨ms, hrest, List.perm_of_nodup_nodup_toFinset_eq hnodup honce (hfields.symm.trans hall.symm), hms⟩
  · rintro ⟨ms, hrest, hperm, hms⟩
    refine ⟨ms, ?_, hrest, hperm.nodup_iff.mpr honce, fun _ _ => Finset.notMem_empty _, ?_, hms⟩
    · rintro rfl
      have hlength := hperm.length_eq
      cases hlength
    · rw [Finset.empty_union, List.toFinset_eq_of_perm _ _ hperm, hall]

theorem object_reads (identity : ControlRequest) (text : List UInt8) (hscope : pilotRoot expected.serverRoot = true) :
    Reads text (fun _ tail => RequestText identity expected text ∧ tail = []) (object text identity expected) := by
  refine ((jsonTake_reads (by decide) (Rest.start text)).bind (Q := fun _ r _ tail =>
    ∃ r', Members identity expected ∅ r Finset.univ r' ∧ r'.dropWhile whitespace = [] ∧ tail = []) fun _ d r _ hd =>
      ?_).congr
      fun _ tail => ?_
  · refine ((members_reads hscope hd).bind (Q := fun fs r' _ tail => fs = Finset.univ ∧
      r'.dropWhile whitespace = [] ∧ tail = [])
      fun fs d r' _ hd => ?_).congr fun _ tail => ?_
    · refine .skip hd fun d hd => (require_reads hd).congr fun _ tail => ?_
      rw [Bool.and_eq_true, decide_eq_true_eq, decide_eq_true_eq, hd.end_iff]
      constructor
      · rintro ⟨⟨hall, hend⟩, rfl⟩
        exact ⟨hall, hend, hend⟩
      · rintro ⟨hall, hend, rfl⟩
        exact ⟨⟨hall, hend⟩, hend.symm⟩
    · constructor
      · rintro ⟨_, r', hmembers, rfl, hend, htail⟩
        exact ⟨r', hmembers, hend, htail⟩
      · rintro ⟨r', hmembers, hend, htail⟩
        exact ⟨_, r', hmembers, rfl, hend, htail⟩
  · constructor
    · rintro ⟨_, r, ⟨before, rfl, hbefore⟩, r', hmembers, hend, htail⟩
      obtain ⟨ms, rfl, hperm, hms⟩ := all_members_iff.mp hmembers
      refine ⟨⟨before, ms, r', rfl, hbefore, ?_, hperm, hms⟩, htail⟩
      exact fun c hc => List.dropWhile_eq_nil_iff.mp hend c hc
    · rintro ⟨⟨before, ms, after, rfl, hbefore, hafter, hperm, hms⟩, htail⟩
      refine ⟨(), _, ⟨before, rfl, hbefore⟩, after, all_members_iff.mpr ⟨ms, rfl, hperm, hms⟩, ?_, htail⟩
      exact List.dropWhile_eq_nil_iff.mpr hafter

end Object

end Read

theorem parseControlRequest_eq {bytes : List UInt8} {identity : ControlRequest} {scope : Option ControlScope}
    (hsize : bytes.length ≤ kControlFileBytes) (hidentity : validIdentity identity = true)
    (hscope : validScope (scope.getD kTrainingControlScope) = true) :
    (RequestText identity (scope.getD kTrainingControlScope) bytes ∧
      parseControlRequest bytes identity scope = some (.ready, identity)) ∨
    (¬RequestText identity (scope.getD kTrainingControlScope) bytes ∧
      parseControlRequest bytes identity scope = some (.invalidRequest, .zero)) := by
  have hpilot : pilotRoot (scope.getD kTrainingControlScope).serverRoot = true := (Bool.and_eq_true _ _ ▸ hscope).1
  have hsize' : ¬kControlFileBytes < bytes.length := Nat.not_lt.mpr hsize
  by_cases hempty : bytes = []
  · refine .inr ⟨?_, ?_⟩
    · rintro ⟨before, ms, after, htext, -⟩
      rw [hempty] at htext
      exact List.cons_ne_nil _ _ (List.append_eq_nil_iff.mp htext.symm).2
    · rw [parseControlRequest, hempty]
      rfl
  · have hparse : parseControlRequest bytes identity scope = (object bytes identity (scope.getD kTrainingControlScope)).run.map
        fun found => if found.isSome then (.ready, identity) else (.invalidRequest, .zero) := by
      rw [parseControlRequest, hidentity, hscope, decide_eq_false hempty, decide_eq_false hsize']
      rfl
    have hreads := object_reads identity bytes hpilot
    rw [hparse]
    generalize object bytes identity (scope.getD kTrainingControlScope) = o at hreads
    cases hreads with
    | refused hnone => exact .inr ⟨fun htext => hnone () [] ⟨htext, rfl⟩, rfl⟩
    | taken _ htext _ => exact .inl ⟨htext.1, rfl⟩

theorem parseControlRequest_refused {bytes : List UInt8} {identity : ControlRequest} {scope : Option ControlScope}
    (h : ¬(bytes.length ≤ kControlFileBytes ∧ validIdentity identity = true ∧
      validScope (scope.getD kTrainingControlScope) = true)) :
    parseControlRequest bytes identity scope = some (.invalidRequest, .zero) := by
  refine if_pos ?_
  simp only [Bool.or_eq_true, decide_eq_true_eq, Bool.not_eq_true', ← Bool.not_eq_true]
  by_contra hvalid
  simp only [not_or, Decidable.not_not, Nat.not_lt] at hvalid
  exact h ⟨hvalid.1.1.2, hvalid.1.2, hvalid.2⟩

/-- A request is accepted exactly when its text is that of the grammar, and no read passes the end of the buffer. -/
theorem control_request_grammar (bytes : List UInt8) (identity : ControlRequest) (scope : Option ControlScope) :
    (∃ result output, parseControlRequest bytes identity scope = some (result, output)) ∧
    (∀ output, parseControlRequest bytes identity scope = some (.ready, output) ↔
      bytes.length ≤ kControlFileBytes ∧ validIdentity identity = true ∧
        validScope (scope.getD kTrainingControlScope) = true ∧
        RequestText identity (scope.getD kTrainingControlScope) bytes ∧ output = identity) ∧
    ∀ result output, parseControlRequest bytes identity scope = some (result, output) → result ≠ .ready →
      result = .invalidRequest ∧ output = .zero := by
  by_cases h : bytes.length ≤ kControlFileBytes ∧ validIdentity identity = true ∧
      validScope (scope.getD kTrainingControlScope) = true
  · obtain ⟨htext, hparse⟩ | ⟨htext, hparse⟩ := parseControlRequest_eq h.1 h.2.1 h.2.2
    · rw [hparse]
      refine ⟨⟨_, _, rfl⟩, fun output => ?_, fun result output hout hne => ?_⟩
      · rw [Option.some.injEq, Prod.mk.injEq]
        constructor
        · rintro ⟨-, rfl⟩
          exact ⟨h.1, h.2.1, h.2.2, htext, rfl⟩
        · rintro ⟨-, -, -, -, rfl⟩
          exact ⟨rfl, rfl⟩
      · cases hout
        exact absurd rfl hne
    · rw [hparse]
      refine ⟨⟨_, _, rfl⟩, fun output => ?_, fun result output hout hne => ?_⟩
      · constructor
        · intro hout
          cases hout
        · rintro ⟨-, -, -, h, -⟩
          exact absurd h htext
      · cases hout
        exact ⟨rfl, rfl⟩
  · rw [parseControlRequest_refused h]
    refine ⟨⟨_, _, rfl⟩, fun output => ?_, fun result output hout hne => ?_⟩
    · constructor
      · intro hout
        cases hout
      · rintro ⟨hsize, hidentity, hscope, -⟩
        exact absurd ⟨hsize, hidentity, hscope⟩ h
    · cases hout
      exact ⟨rfl, rfl⟩

end RS2ServerFix.Control
