import Mathlib.Logic.Function.Basic
import RS2ServerFix.Lib.JsonString
import RS2ServerFix.NativeLog.Framing

namespace RS2ServerFix.NativeLog

open Lib

/-- The memory from the output on, and the places that were stored to. -/
structure Output where
  cells : Nat → UInt8
  stored : List Nat

def Output.store (o : Output) (i : Nat) (c : UInt8) : Output :=
  { cells := Function.update o.cells i c, stored := i :: o.stored }

@[simp] theorem Output.store_self (o : Output) (i : Nat) (c : UInt8) : (o.store i c).cells i = c := by
  simp [Output.store]

theorem Output.store_ne (o : Output) {i j : Nat} (c : UInt8) (h : j ≠ i) : (o.store i c).cells j = o.cells j := by
  simp [Output.store, h]

structure Writing where
  output : Output
  place : Nat

def put (capacity : Nat) (c : UInt8) (w : Writing) : Bool × Writing :=
  if capacity - 1 ≤ w.place then (false, w)
  else (true, { output := w.output.store w.place c, place := w.place + 1 })

def andPut (r : Bool × Writing) (k : Writing → Bool × Writing) : Bool × Writing := if r.1 then k r.2 else r

def putEach (capacity : Nat) : List UInt8 → Writing → Bool × Writing
  | [], w => (true, w)
  | c :: cs, w => andPut (put capacity c w) (putEach capacity cs)

def putText (capacity : Nat) : List UInt16 → Writing → Bool × Writing
  | [], w => (true, w)
  | value :: text, w => andPut (putEach capacity (escapedUnit value) w) (putText capacity text)

structure Escaped where
  done : Bool
  written : Nat
  output : Output

def escapeJsonUtf16Buffer (text : List UInt16) (capacity : Nat) (o : Output) : Escaped :=
  let o := if capacity = 0 then o else o.store 0 0
  if capacity = 0 ∨ 1023 < text.length then ⟨false, 0, o⟩
  else
    let r := andPut (andPut (put capacity 34 ⟨o, 0⟩) (putText capacity text)) (put capacity 34)
    if r.1 then ⟨true, r.2.place, r.2.output.store r.2.place 0⟩ else ⟨false, 0, r.2.output.store 0 0⟩

def escapedText (text : List UInt16) : List UInt8 := 34 :: text.flatMap escapedUnit ++ [34]

def escapedUnitLength (value : UInt16) : Nat :=
  if value = 34 ∨ value = 92 then 2 else if 0x20 ≤ value ∧ value ≤ 0x7e then 1 else 6

def escapedLength (text : List UInt16) : Nat := 2 + (text.map escapedUnitLength).sum

section Texts

theorem escapedUnit_length (value : UInt16) : (escapedUnit value).length = escapedUnitLength value := by
  unfold escapedUnit escapedUnitLength
  split
  · rfl
  · split
    · rfl
    · rfl

theorem escapedText_length (text : List UInt16) : (escapedText text).length = escapedLength text := by
  have hunits : (text.flatMap escapedUnit).length = (text.map escapedUnitLength).sum := by
    induction text with
    | nil => rfl
    | cons value text ih =>
        rw [List.flatMap_cons, List.length_append, ih, escapedUnit_length, List.map_cons, List.sum_cons]
  simp only [escapedText, escapedLength, List.length_append, List.length_cons, List.length_nil, hunits]
  omega

theorem escapedUnitLength_le (value : UInt16) : escapedUnitLength value ≤ 6 := by
  unfold escapedUnitLength
  split
  · omega
  · split
    · omega
    · omega

theorem escapedLength_le (text : List UInt16) : escapedLength text ≤ 6 * text.length + 2 := by
  induction text with
  | nil => rfl
  | cons value text ih =>
      have hvalue := escapedUnitLength_le value
      simp only [escapedLength, List.map_cons, List.sum_cons, List.length_cons] at ih ⊢
      omega

theorem hexDigit_printable {v : UInt16} (h : v < 16) : printable (hexDigit v.toUInt8) = true := by
  have hall : ∀ n : Fin 16, printable (hexDigit (UInt16.ofNat n.val).toUInt8) = true := by decide
  have hlt := UInt16.lt_iff_toNat_lt.mp h
  have hv := hall ⟨v.toNat, hlt⟩
  rwa [UInt16.ofNat_toNat] at hv

theorem hexValue_hexDigit {v : UInt16} (h : v < 16) : Json.hexValue (hexDigit v.toUInt8) = some v := by
  have hall : ∀ n : Fin 16, Json.hexValue (hexDigit (UInt16.ofNat n.val).toUInt8) = some (UInt16.ofNat n.val) := by decide
  have hlt := UInt16.lt_iff_toNat_lt.mp h
  have hv := hall ⟨v.toNat, hlt⟩
  rwa [UInt16.ofNat_toNat] at hv

theorem nibble_toNat (v : UInt16) : (v &&& 15).toNat = v.toNat % 16 := by
  rw [UInt16.toNat_and]
  exact Nat.and_two_pow_sub_one_eq_mod v.toNat 4

theorem nibble_lt (v : UInt16) : (v &&& 15 : UInt16) < 16 := by
  have h : (v &&& 15).toNat < 16 := by
    rw [nibble_toNat]
    exact Nat.mod_lt _ (by decide)
  exact UInt16.lt_iff_toNat_lt.mpr h

theorem nibbles (v : UInt16) :
    (v >>> (12 : UInt16) &&& 15) * 4096 + (v >>> (8 : UInt16) &&& 15) * 256 + (v >>> (4 : UInt16) &&& 15) * 16 +
      (v &&& 15) = v := by
  have h12 : (v >>> 12).toNat = v.toNat / 4096 := by
    rw [UInt16.toNat_shiftRight]
    exact Nat.shiftRight_eq_div_pow v.toNat 12
  have h8 : (v >>> 8).toNat = v.toNat / 256 := by
    rw [UInt16.toNat_shiftRight]
    exact Nat.shiftRight_eq_div_pow v.toNat 8
  have h4 : (v >>> 4).toNat = v.toNat / 16 := by
    rw [UInt16.toNat_shiftRight]
    exact Nat.shiftRight_eq_div_pow v.toNat 4
  have hlt := v.toNat_lt
  apply UInt16.toNat_inj.mp
  have h4096 : (4096 : UInt16).toNat = 4096 := by decide
  have h256 : (256 : UInt16).toNat = 256 := by decide
  have h16 : (16 : UInt16).toNat = 16 := by decide
  simp only [UInt16.toNat_add, UInt16.toNat_mul, nibble_toNat, h12, h8, h4, h4096, h256, h16]
  omega

theorem toUInt8_toUInt16 {v : UInt16} (h : v ≤ 0x7e) : v.toUInt8.toUInt16 = v := by
  have hle : v.toNat ≤ 126 := UInt16.le_iff_toNat_le.mp h
  apply UInt16.toNat_inj.mp
  rw [UInt8.toNat_toUInt16, UInt16.toNat_toUInt8]
  exact Nat.mod_eq_of_lt (by omega)

theorem escapedUnit_printable (value : UInt16) : (escapedUnit value).all printable = true := by
  unfold escapedUnit
  split
  · rename_i h
    obtain rfl | rfl := h
    · decide
    · decide
  · split
    · rename_i h
      have hlow : (32 : Nat) ≤ value.toNat := UInt16.le_iff_toNat_le.mp h.1
      have hhigh : value.toNat ≤ 126 := UInt16.le_iff_toNat_le.mp h.2
      have hvalue : value.toUInt8.toNat = value.toNat := by
        rw [UInt16.toNat_toUInt8]
        exact Nat.mod_eq_of_lt (by omega)
      have hle : (32 : UInt8) ≤ value.toUInt8 := UInt8.le_iff_toNat_le.mpr (by rw [hvalue]; exact hlow)
      have hge : value.toUInt8 ≤ 126 := UInt8.le_iff_toNat_le.mpr (by rw [hvalue]; exact hhigh)
      simp [printable, hle, hge]
    · have hd := fun v : UInt16 => hexDigit_printable (nibble_lt v)
      have hslash : printable 92 = true := by decide
      have hu : printable 117 = true := by decide
      simp only [List.all_cons, List.all_nil, hd, hslash, hu, Bool.and_self]

theorem escapedText_printable (text : List UInt16) : (escapedText text).all printable = true := by
  have hunits : (text.flatMap escapedUnit).all printable = true := by
    rw [List.all_eq_true]
    intro c hc
    obtain ⟨value, -, hvalue⟩ := List.mem_flatMap.mp hc
    exact List.all_eq_true.mp (escapedUnit_printable value) c hvalue
  have hquote : printable 34 = true := by decide
  simp only [escapedText, List.all_append, List.all_cons, List.all_nil, hunits, hquote, Bool.and_self]

/-- Each escape form reads back as the unit it was made of. -/
theorem units_escapedUnit (value : UInt16) {tail after : List UInt8} {us : List UInt16}
    (h : Json.units tail = some (us, after)) :
    Json.units (escapedUnit value ++ tail) = some (value :: us, after) := by
  unfold escapedUnit
  split
  · rename_i hvalue
    obtain rfl | rfl := hvalue
    · exact Json.units_short rfl h
    · exact Json.units_short rfl h
  · rename_i hother
    split
    · rename_i hrange
      have hback := toUInt8_toUInt16 hrange.2
      have hne : ∀ c : UInt8, c.toUInt16 ≠ value → value.toUInt8 ≠ c := by
        rintro c hc rfl
        exact hc hback
      rw [not_or] at hother
      have hprintable := escapedUnit_printable value
      unfold escapedUnit at hprintable
      rw [if_neg (by rw [not_or]; exact hother), if_pos hrange, List.all_cons, List.all_nil, Bool.and_true] at hprintable
      have hplain : Json.plain value.toUInt8 = true := by
        have hquote := hne 34 (Ne.symm hother.1)
        have hslash := hne 92 (Ne.symm hother.2)
        unfold printable at hprintable
        simp only [Json.plain, hprintable, Bool.true_and, Bool.and_eq_true, bne_iff_ne]
        exact ⟨hquote, hslash⟩
      have hunits := Json.units_plain hplain h
      rw [hback] at hunits
      exact hunits
    · refine Json.units_hex ?_ h
      unfold Json.hexUnit
      rw [hexValue_hexDigit (nibble_lt _), hexValue_hexDigit (nibble_lt _), hexValue_hexDigit (nibble_lt _),
        hexValue_hexDigit (nibble_lt _)]
      exact congrArg some (nibbles value)

/-- The decoding of the escaped text is the text. -/
theorem string_escapedText (text : List UInt16) (after : List UInt8) :
    Json.string (escapedText text ++ after) = some (text, after) := by
  have hunits : Json.units (text.flatMap escapedUnit ++ (34 :: after)) = some (text, after) := by
    induction text with
    | nil => exact Json.units_close after
    | cons value text ih =>
        rw [List.flatMap_cons, List.append_assoc]
        exact units_escapedUnit value ih
  have hshape : escapedText text ++ after = 34 :: (text.flatMap escapedUnit ++ (34 :: after)) := by
    rw [escapedText, List.cons_append, List.cons_append, List.append_assoc]
    rfl
  rw [hshape, Json.string, if_pos rfl, hunits]

end Texts

section Buffer

/-- The output holds the characters `cs` so far, and no store went past its capacity. -/
structure Holds (capacity : Nat) (cs : List UInt8) (w : Writing) : Prop where
  place : w.place = cs.length
  cells : ∀ i (h : i < cs.length), w.output.cells i = cs[i]
  within : ∀ i ∈ w.output.stored, i < capacity

/-- The step appends the characters `cs` where they fit before the terminator, and
fails where they do not. -/
def Writes (capacity : Nat) (cs : List UInt8) (k : Writing → Bool × Writing) : Prop :=
  ∀ held w, Holds capacity held w → held.length < capacity →
    ((k w).1 = true ↔ held.length + cs.length < capacity) ∧
    ((k w).1 = true → Holds capacity (held ++ cs) (k w).2) ∧ ∀ i ∈ (k w).2.output.stored, i < capacity

variable {capacity : Nat}

theorem put_writes (c : UInt8) : Writes capacity [c] (put capacity c) := by
  intro held w hw hlt
  unfold put
  rw [hw.place]
  by_cases hfull : capacity - 1 ≤ held.length
  · rw [if_pos hfull]
    refine ⟨?_, fun h => ?_, hw.within⟩
    · simp only [Bool.false_eq_true, List.length_singleton, false_iff]
      omega
    · cases h
  · rw [if_neg hfull]
    have hwithin : ∀ i ∈ held.length :: w.output.stored, i < capacity := by
      intro i hi
      obtain rfl | hi := List.mem_cons.mp hi
      · exact hlt
      · exact hw.within i hi
    refine ⟨?_, fun _ => ⟨?_, fun i hi => ?_, hwithin⟩, hwithin⟩
    · simp only [List.length_singleton, true_iff]
      omega
    · rw [List.length_append]
      rfl
    · by_cases hlast : i = held.length
      · subst hlast
        simp
      · have hi' : i < held.length := by
          rw [List.length_append, List.length_singleton] at hi
          omega
        rw [List.getElem_append_left hi']
        exact (Output.store_ne w.output c hlast).trans (hw.cells i hi')

theorem Writes.nil : Writes capacity [] fun w => (true, w) := by
  intro held w hw hlt
  refine ⟨by simpa using hlt, fun _ => ?_, hw.within⟩
  rw [List.append_nil]
  exact hw

theorem Writes.andPut {cs ds : List UInt8} {k l : Writing → Bool × Writing} (hk : Writes capacity cs k)
    (hl : Writes capacity ds l) : Writes capacity (cs ++ ds) fun w => andPut (k w) l := by
  intro held w hw hlt
  obtain ⟨hdone, hholds, hwithin⟩ := hk held w hw hlt
  unfold NativeLog.andPut
  dsimp only
  by_cases h : (k w).1 = true
  · rw [if_pos h]
    have hroom := hdone.mp h
    obtain ⟨hdone', hholds', hwithin'⟩ := hl _ _ (hholds h) (by rw [List.length_append]; exact hroom)
    rw [List.length_append] at hdone'
    refine ⟨?_, fun h' => ?_, hwithin'⟩
    · rw [hdone', List.length_append, Nat.add_assoc]
    · rw [← List.append_assoc]
      exact hholds' h'
  · rw [if_neg h]
    refine ⟨?_, fun h' => absurd h' h, hwithin⟩
    have hfull := mt hdone.mpr h
    rw [List.length_append]
    constructor
    · exact fun h' => absurd h' h
    · intro h'
      omega

theorem putEach_writes (cs : List UInt8) : Writes capacity cs (putEach capacity cs) := by
  induction cs with
  | nil => exact Writes.nil
  | cons c cs ih => exact (put_writes c).andPut ih

theorem putText_writes (text : List UInt16) : Writes capacity (text.flatMap escapedUnit) (putText capacity text) := by
  induction text with
  | nil => exact Writes.nil
  | cons value text ih => exact (putEach_writes (escapedUnit value)).andPut ih

theorem escaped_writes (text : List UInt16) : Writes capacity (escapedText text)
    fun w => andPut (andPut (put capacity 34 w) (putText capacity text)) (put capacity 34) :=
  ((put_writes 34).andPut (putText_writes text)).andPut (put_writes 34)

/-- What the escaping leaves in the output: the whole escaped text and its
terminator, or nothing. -/
theorem escapeJsonUtf16Buffer_spec (text : List UInt16) (capacity : Nat) {o : Output} (ho : o.stored = []) :
    ((escapeJsonUtf16Buffer text capacity o).done = true ↔ text.length ≤ 1023 ∧ escapedLength text + 1 ≤ capacity) ∧
    ((escapeJsonUtf16Buffer text capacity o).done = true →
      (escapeJsonUtf16Buffer text capacity o).written = escapedLength text ∧
      (∀ i (h : i < (escapedText text).length),
        (escapeJsonUtf16Buffer text capacity o).output.cells i = (escapedText text)[i]) ∧
      (escapeJsonUtf16Buffer text capacity o).output.cells (escapedLength text) = 0) ∧
    ((escapeJsonUtf16Buffer text capacity o).done = false →
      (escapeJsonUtf16Buffer text capacity o).written = 0 ∧
      (0 < capacity → (escapeJsonUtf16Buffer text capacity o).output.cells 0 = 0)) ∧
    ∀ i ∈ (escapeJsonUtf16Buffer text capacity o).output.stored, i < capacity := by
  unfold escapeJsonUtf16Buffer
  have hstored : ∀ {p : Output} {j : Nat} {c : UInt8}, (∀ i ∈ p.stored, i < capacity) → j < capacity →
      ∀ i ∈ (p.store j c).stored, i < capacity := by
    intro p j c hp hj i hi
    obtain rfl | hi := List.mem_cons.mp hi
    · exact hj
    · exact hp i hi
  have hnone : ∀ i ∈ o.stored, i < capacity := by
    intro i hi
    rw [ho] at hi
    cases hi
  by_cases hzero : capacity = 0
  · rw [if_pos hzero, if_pos (Or.inl hzero)]
    refine ⟨?_, fun h => ?_, fun _ => ⟨rfl, fun h => absurd hzero h.ne'⟩, hnone⟩
    · simp only [Bool.false_eq_true, false_iff, not_and]
      omega
    · cases h
  · have hpositive := Nat.pos_of_ne_zero hzero
    have hfirst := hstored (c := 0) hnone hpositive
    rw [if_neg hzero]
    by_cases hlong : 1023 < text.length
    · rw [if_pos (Or.inr hlong)]
      refine ⟨?_, fun h => ?_, fun _ => ⟨rfl, fun _ => Output.store_self _ 0 0⟩, hfirst⟩
      · simp only [Bool.false_eq_true, false_iff, not_and]
        omega
      · cases h
    · rw [if_neg (by omega)]
      have hheld : Holds capacity [] ⟨o.store 0 0, 0⟩ := ⟨rfl, fun i h => absurd h (Nat.not_lt_zero i), hfirst⟩
      obtain ⟨hdone, hholds, hwithin⟩ := escaped_writes text _ _ hheld hpositive
      dsimp only at hdone hholds hwithin ⊢
      generalize andPut (andPut (put capacity 34 ⟨o.store 0 0, 0⟩) (putText capacity text)) (put capacity 34) = r
        at hdone hholds hwithin ⊢
      rw [List.length_nil, Nat.zero_add, escapedText_length] at hdone
      by_cases hr : r.1 = true
      · rw [if_pos hr]
        have hroom := hdone.mp hr
        obtain ⟨hplace, hcells, -⟩ := hholds hr
        rw [List.nil_append] at hplace hcells
        have hlength := hplace.trans (escapedText_length text)
        refine ⟨⟨fun _ => ⟨by omega, hroom⟩, fun _ => rfl⟩, fun _ => ⟨hlength, fun i h => ?_, ?_⟩, fun h => ?_, ?_⟩
        · have hne : i ≠ r.2.place := by omega
          exact (Output.store_ne r.2.output 0 hne).trans (hcells i h)
        · rw [← hlength]
          exact Output.store_self r.2.output r.2.place 0
        · cases h
        · exact hstored hwithin (by omega)
      · rw [if_neg hr]
        have hfull := mt hdone.mpr hr
        refine ⟨?_, fun h => ?_, fun _ => ⟨rfl, fun _ => Output.store_self _ 0 0⟩, hstored hwithin hpositive⟩
        · simp only [Bool.false_eq_true, false_iff, not_and]
          omega
        · cases h

def Escaped.text (e : Escaped) : List UInt8 := (List.range e.written).map e.output.cells

theorem Escaped.text_eq {text : List UInt16} {cells : Nat → UInt8}
    (h : (escapeJsonUtf16Buffer text capacity ⟨cells, []⟩).done = true) :
    (escapeJsonUtf16Buffer text capacity ⟨cells, []⟩).text = escapedText text := by
  obtain ⟨-, hdone, -, -⟩ := escapeJsonUtf16Buffer_spec text capacity (o := ⟨cells, []⟩) rfl
  obtain ⟨hwritten, hcells, -⟩ := hdone h
  rw [Escaped.text, hwritten, ← escapedText_length]
  refine List.ext_getElem (by simp) fun i hi hi' => ?_
  rw [List.getElem_map, List.getElem_range]
  exact hcells i hi'

theorem putEscaped_foldlM (cs : List UInt8) {held : List UInt8} (h : held.length < capacity) :
    cs.foldlM (putEscaped capacity) held = if held.length + cs.length < capacity then some (held ++ cs) else none := by
  induction cs generalizing held with
  | nil => simp [h]
  | cons c cs ih =>
      rw [List.foldlM_cons, putEscaped]
      by_cases hfits : held.length + 1 < capacity
      · have hlength : (held ++ [c]).length = held.length + 1 := by simp
        rw [if_pos (by omega), Option.bind_eq_bind, Option.bind_some, ih (by omega), hlength, List.append_assoc,
          List.length_cons, Nat.add_assoc, Nat.add_comm 1]
        rfl
      · rw [if_neg (by omega), if_neg (by rw [List.length_cons]; omega)]
        rfl

/-- The escaping that the formatter is stated with is what the buffer receives. -/
theorem escapeJsonUtf16_eq_buffer (text : List UInt16) (capacity : Nat) (cells : Nat → UInt8) :
    escapeJsonUtf16 text capacity =
      if (escapeJsonUtf16Buffer text capacity ⟨cells, []⟩).done then
        some (escapeJsonUtf16Buffer text capacity ⟨cells, []⟩).text else none := by
  obtain ⟨hiff, -, -, -⟩ := escapeJsonUtf16Buffer_spec text capacity (o := ⟨cells, []⟩) rfl
  unfold escapeJsonUtf16
  by_cases hdone : (escapeJsonUtf16Buffer text capacity ⟨cells, []⟩).done = true
  · have hroom := hiff.mp hdone
    have hfold := @putEscaped_foldlM capacity (escapedText text) [] (by simp; omega)
    rw [escapedText_length, List.length_nil, if_pos (by omega)] at hfold
    rw [if_pos hdone, if_neg (by omega), Escaped.text_eq hdone]
    exact hfold
  · rw [if_neg hdone]
    have hroom := mt hiff.mpr hdone
    by_cases hrefused : capacity = 0 ∨ 1023 < text.length
    · rw [if_pos hrefused]
    · have hfold := @putEscaped_foldlM capacity (escapedText text) [] (by simp; omega)
      rw [escapedText_length, List.length_nil, if_neg (by omega)] at hfold
      rw [if_neg hrefused]
      exact hfold

/-- The escaping succeeds on what fits with its terminator, its text is one JSON
string that decodes to the code units, and nothing is stored past the capacity. -/
theorem escape_round_trip (text : List UInt16) (capacity : Nat) (cells : Nat → UInt8) :
    let e := escapeJsonUtf16Buffer text capacity ⟨cells, []⟩
    (e.done = true ↔ text.length ≤ 1023 ∧ escapedLength text + 1 ≤ capacity) ∧
    (e.done = true →
      e.written = escapedLength text ∧ e.written ≤ 6 * text.length + 2 ∧ e.output.cells e.written = 0 ∧
      e.text.all printable = true ∧ Json.string e.text = some (text, []) ∧
      ∀ text' capacity' cells', (escapeJsonUtf16Buffer text' capacity' ⟨cells', []⟩).done = true →
        (escapeJsonUtf16Buffer text' capacity' ⟨cells', []⟩).text = e.text → text' = text) ∧
    (e.done = false → e.written = 0 ∧ (0 < capacity → e.output.cells 0 = 0)) ∧
    ∀ i ∈ e.output.stored, i < capacity := by
  intro e
  have hdecode : ∀ text, Json.string (escapedText text) = some (text, []) := by
    intro text
    have h := string_escapedText text []
    rwa [List.append_nil] at h
  obtain ⟨hiff, hdone, hfailed, hstored⟩ := escapeJsonUtf16Buffer_spec text capacity (o := ⟨cells, []⟩) rfl
  refine ⟨hiff, fun h => ?_, hfailed, hstored⟩
  obtain ⟨hwritten, -, hterminator⟩ := hdone h
  have hlength := escapedLength_le text
  refine ⟨hwritten, hwritten ▸ hlength, hwritten ▸ hterminator, ?_, ?_, fun text' capacity' cells' h' hsame => ?_⟩
  · rw [Escaped.text_eq h]
    exact escapedText_printable text
  · rw [Escaped.text_eq h]
    exact hdecode text
  · rw [Escaped.text_eq h, Escaped.text_eq h'] at hsame
    have hback := (hdecode text').symm.trans ((congrArg Json.string hsame).trans (hdecode text))
    exact (Prod.mk.inj (Option.some.inj hback)).1

end Buffer

end RS2ServerFix.NativeLog
