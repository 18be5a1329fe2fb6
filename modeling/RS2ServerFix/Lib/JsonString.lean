import Mathlib.Data.List.Basic

namespace RS2ServerFix.Lib.Json

def hexValue (c : UInt8) : Option UInt16 :=
  if 48 ≤ c && c ≤ 57 then some (c - 48).toUInt16
  else if 97 ≤ c && c ≤ 102 then some (c - 87).toUInt16
  else if 65 ≤ c && c ≤ 70 then some (c - 55).toUInt16
  else none

def shortEscape (c : UInt8) : Option UInt16 :=
  if c = 34 || c = 92 || c = 47 then some c.toUInt16
  else if c = 98 then some 8
  else if c = 102 then some 12
  else if c = 110 then some 10
  else if c = 114 then some 13
  else if c = 116 then some 9
  else none

def plain (c : UInt8) : Bool := 0x20 ≤ c && c ≤ 0x7e && c != 34 && c != 92

def hexUnit (a b c d : UInt8) : Option UInt16 := do
  let a ← hexValue a
  let b ← hexValue b
  let c ← hexValue c
  let d ← hexValue d
  return a * 4096 + b * 256 + c * 16 + d

/-- The code units of an ASCII string up to the closing quote, and what follows it. -/
def units : List UInt8 → Option (List UInt16 × List UInt8)
  | [] => none
  | c :: rest =>
      if c = 34 then some ([], rest)
      else if c = 92 then
        match rest with
        | [] => none
        | e :: tail =>
            if e = 117 then
              match tail with
              | a :: b :: c :: d :: tail =>
                  match hexUnit a b c d, units tail with
                  | some u, some (us, after) => some (u :: us, after)
                  | _, _ => none
              | _ => none
            else
              match shortEscape e, units tail with
              | some u, some (us, after) => some (u :: us, after)
              | _, _ => none
      else if plain c then
        match units rest with
        | some (us, after) => some (c.toUInt16 :: us, after)
        | none => none
      else none

def string : List UInt8 → Option (List UInt16 × List UInt8)
  | [] => none
  | c :: rest => if c = 34 then units rest else none

variable {after tail : List UInt8} {us : List UInt16} {u : UInt16}

theorem units_close (after : List UInt8) : units (34 :: after) = some ([], after) := by
  rw [units.eq_def]
  exact if_pos rfl

theorem units_plain {c : UInt8} (hc : plain c = true) (h : units tail = some (us, after)) :
    units (c :: tail) = some (c.toUInt16 :: us, after) := by
  have hparts : c ≠ 34 ∧ c ≠ 92 := by
    simp only [plain, Bool.and_eq_true, bne_iff_ne] at hc
    exact ⟨hc.1.2, hc.2⟩
  rw [units.eq_def]
  dsimp only
  rw [if_neg hparts.1, if_neg hparts.2, if_pos hc, h]

theorem units_short {c : UInt8} (hc : shortEscape c = some u) (h : units tail = some (us, after)) :
    units (92 :: c :: tail) = some (u :: us, after) := by
  have hne : c ≠ 117 := by
    rintro rfl
    cases hc
  rw [units.eq_def]
  dsimp only
  rw [if_neg (by decide), if_pos rfl, if_neg hne, hc, h]

theorem units_hex {a b c d : UInt8} (hu : hexUnit a b c d = some u) (h : units tail = some (us, after)) :
    units (92 :: 117 :: a :: b :: c :: d :: tail) = some (u :: us, after) := by
  rw [units.eq_def]
  dsimp only
  rw [if_neg (by decide), if_pos rfl, if_pos rfl, hu, h]

end RS2ServerFix.Lib.Json
