import Mathlib.Data.List.Infix
import RS2ServerFix.Lib.Slots

namespace RS2ServerFix.Lib

/-- A ring of slots between a thread that puts values in and one that takes them
out, with everything put in so far, the first one first. -/
structure Handover (n : Nat) (ρ : Type) where
  slots : Slots n ρ
  write : Nat
  read : Nat
  given : List ρ

namespace Handover

variable {n : Nat} [NeZero n] {ρ : Type} (blank : ρ) (Fit : Nat → ρ → Prop)

/-- What holds between any two steps. The slot at `write` is left to the one
thread and the slot at `read` to the other. -/
structure Kept (h : Handover n ρ) : Prop where
  ordered : h.read ≤ h.write
  room : h.write ≤ h.read + n
  count : h.given.length = h.write
  fit : ∀ k r, h.given[k]? = some r → Fit k r
  held : h.slots.Holds (h.read + 1) h.write fun k r => h.given[k]? = some r
  free : h.slots.Holds (h.write + 1) (h.read + n) fun _ r => r = blank

inductive Give (h : Handover n ρ) : Handover n ρ → Prop
  | rest : Give h h
  | fill (r : ρ) (room : h.write < h.read + n) : Give h { h with slots := h.slots.set h.write r }
  | publish (r : ρ) (room : h.write < h.read + n) (fit : Fit h.write r) (slot : h.slots.get h.write = r) :
      Give h { h with write := h.write + 1, given := h.given ++ [r] }

inductive Take (h : Handover n ρ) : Handover n ρ → Prop
  | rest : Take h h
  | wipe (pending : h.read < h.write) : Take h { h with slots := h.slots.set h.read blank }
  | release (pending : h.read < h.write) (slot : h.slots.get h.read = blank) : Take h { h with read := h.read + 1 }

/-- The next slot to be filled, if there is one, is blank. -/
def Clear (h : Handover n ρ) : Prop := h.write < h.read + n → h.slots.get h.write = blank

/-- The next slot to be taken, if there is one, holds what was put there. -/
def Loaded (h : Handover n ρ) : Prop := h.read < h.write → h.given[h.read]? = some (h.slots.get h.read)

variable {blank : ρ} {Fit : Nat → ρ → Prop} {h h' : Handover n ρ}

theorem Kept.start (blank : ρ) (Fit : Nat → ρ → Prop) : Kept blank Fit (⟨.fill blank, 0, 0, []⟩ : Handover n ρ) where
  ordered := le_rfl
  room := Nat.zero_le _
  count := rfl
  fit := by simp
  held := fun i _ hi => absurd hi (Nat.not_lt_zero i)
  free := fun _ _ _ => Slots.get_fill _ _

theorem getElem?_of_prefix {l l' : List ρ} (h : l <+: l') {k : Nat} {r : ρ} (hk : l[k]? = some r) :
    l'[k]? = some r := by
  obtain ⟨hlt, he⟩ := List.getElem?_eq_some_iff.mp hk
  rw [List.prefix_iff_getElem?.mp h k hlt, he]

theorem prefix_push {l l' : List ρ} (h : l <+: l') {x : ρ} (hx : l'[l.length]? = some x) : l ++ [x] <+: l' := by
  obtain ⟨rest, rfl⟩ := h
  rw [List.getElem?_append_right le_rfl, Nat.sub_self] at hx
  cases rest with
  | nil => cases hx
  | cons y rest =>
      simp only [List.getElem?_cons_zero, Option.some.injEq] at hx
      subst hx
      exact ⟨rest, by rw [List.append_assoc, List.singleton_append]⟩

theorem getElem?_push {l : List ρ} {r x : ρ} {k : Nat} (hx : (l ++ [r])[k]? = some x) :
    l[k]? = some x ∨ k = l.length ∧ x = r := by
  rcases Nat.lt_trichotomy k l.length with hk | hk | hk
  · rw [List.getElem?_append_left hk] at hx
    exact .inl hx
  · subst hk
    simp only [List.getElem?_concat_length, Option.some.injEq] at hx
    exact .inr ⟨rfl, hx.symm⟩
  · rw [List.getElem?_eq_none (by simp only [List.length_append, List.length_singleton]; omega)] at hx
    cases hx

theorem Give.kept (hs : Give Fit h h') (hk : Kept blank Fit h) : Kept blank Fit h' := by
  obtain ⟨ho, hr, hc, hf, hheld, hfree⟩ := hk
  cases hs with
  | rest => exact ⟨ho, hr, hc, hf, hheld, hfree⟩
  | fill r room =>
      refine ⟨ho, hr, hc, hf, hheld.imp_get fun i hi hi' => ?_, hfree.imp_get fun i hi hi' => ?_⟩
      · exact Slots.get_set_ne _ _ (by omega) (by omega) (by omega)
      · exact Slots.get_set_ne _ _ (by omega) (by omega) (by omega)
  | publish r room fit slot =>
      refine ⟨ho.trans (Nat.le_succ _), room, ?_, fun k x hx => ?_, fun k hk hk' => ?_, hfree.mono (Nat.le_succ _) le_rfl⟩
      · simp only [List.length_append, List.length_singleton, hc]
      · obtain hx | ⟨rfl, rfl⟩ := getElem?_push hx
        · exact hf k x hx
        · exact hc ▸ fit
      · change k < h.write + 1 at hk'
        change (h.given ++ [r])[k]? = some (h.slots.get k)
        by_cases hlast : k = h.write
        · subst hlast
          rw [← hc, List.getElem?_concat_length, hc, slot]
        · rw [List.getElem?_append_left (by omega)]
          exact hheld k hk (by omega)

theorem Take.kept (hs : Take blank h h') (hk : Kept blank Fit h) : Kept blank Fit h' := by
  obtain ⟨ho, hr, hc, hf, hheld, hfree⟩ := hk
  cases hs with
  | rest => exact ⟨ho, hr, hc, hf, hheld, hfree⟩
  | wipe pending =>
      refine ⟨ho, hr, hc, hf, hheld.imp_get fun i hi hi' => ?_, hfree.imp_get fun i hi hi' => ?_⟩
      · exact Slots.get_set_ne _ _ (by omega) (by omega) (by omega)
      · exact Slots.get_set_ne _ _ (by omega) (by omega) (by omega)
  | release pending slot =>
      refine ⟨pending, hr.trans (by dsimp only; omega), hc, hf, hheld.mono (Nat.le_succ _) le_rfl, fun k hk hk' => ?_⟩
      change h.write + 1 ≤ k at hk
      change k < h.read + 1 + n at hk'
      by_cases hlast : k = h.read + n
      · subst hlast
        rw [Slots.get_add_round]
        exact slot
      · exact hfree k hk (by omega)

theorem Give.prefix_given (hs : Give Fit h h') : h.given <+: h'.given := by
  cases hs with
  | rest => exact List.prefix_rfl
  | fill r room => exact List.prefix_rfl
  | publish r room fit slot => exact List.prefix_append _ _

theorem Give.read_eq (hs : Give Fit h h') : h'.read = h.read := by
  cases hs <;> rfl

theorem Give.write_le (hs : Give Fit h h') : h.write ≤ h'.write := by
  cases hs with
  | rest => exact le_rfl
  | fill r room => exact le_rfl
  | publish r room fit slot => exact Nat.le_succ _

/-- What was put in as the value of `k` is there for good. -/
theorem Give.given_mono (hs : Give Fit h h') {k : Nat} {r : ρ} (hk : h.given[k]? = some r) : h'.given[k]? = some r :=
  getElem?_of_prefix hs.prefix_given hk

theorem Take.given_eq (hs : Take blank h h') : h'.given = h.given := by
  cases hs <;> rfl

theorem Take.write_eq (hs : Take blank h h') : h'.write = h.write := by
  cases hs <;> rfl

theorem Take.read_le (hs : Take blank h h') : h.read ≤ h'.read := by
  cases hs with
  | rest => exact le_rfl
  | wipe pending => exact le_rfl
  | release pending slot => exact Nat.le_succ _

/-- A slot that is handed back is blank. -/
theorem Take.scrubbed (hs : Take blank h h') :
    h'.read = h.read ∨ h'.read = h.read + 1 ∧ h'.slots.get h.read = blank := by
  cases hs with
  | rest => exact .inl rfl
  | wipe pending => exact .inl rfl
  | release pending slot => exact .inr ⟨rfl, slot⟩

theorem Take.filled (hs : Take blank h h') (room : h.write < h.read + n) :
    h'.slots.get h'.write = h.slots.get h.write := by
  cases hs with
  | rest => rfl
  | wipe pending =>
      change (h.slots.set h.read blank).get h.write = h.slots.get h.write
      exact Slots.get_set_ne _ _ (by omega) (by omega) (by omega)
  | release pending slot => rfl

theorem Take.clear (hs : Take blank h h') (hk : Kept blank Fit h) (hclear : Clear blank h) : Clear blank h' := by
  cases hs with
  | rest => exact hclear
  | wipe pending =>
      intro room
      change h.write < h.read + n at room
      change (h.slots.set h.read blank).get h.write = blank
      rw [Slots.get_set_ne _ _ (by omega) (by omega) (by omega)]
      exact hclear room
  | release pending slot =>
      intro room
      change h.write < h.read + 1 + n at room
      by_cases hfull : h.write = h.read + n
      · change h.slots.get h.write = blank
        rw [hfull, Slots.get_add_round]
        exact slot
      · exact hclear (by have := hk.room; omega)

theorem Give.loaded (hs : Give Fit h h') (hk : Kept blank Fit h) (hloaded : Loaded h) : Loaded h' := by
  cases hs with
  | rest => exact hloaded
  | fill r room =>
      intro pending
      change h.read < h.write at pending
      change h.given[h.read]? = some ((h.slots.set h.write r).get h.read)
      rw [Slots.get_set_ne _ _ (by omega) (by omega) (by omega)]
      exact hloaded pending
  | publish r room fit slot =>
      intro pending
      change h.read < h.write + 1 at pending
      change (h.given ++ [r])[h.read]? = some (h.slots.get h.read)
      by_cases hlast : h.read = h.write
      · rw [hlast, ← hk.count, List.getElem?_concat_length, hk.count, slot]
      · rw [List.getElem?_append_left (by have := hk.count; omega)]
        exact hloaded (by omega)

theorem Give.left (hs : Give Fit h h') (pending : h.read < h.write) :
    h.read < h'.write ∧ h'.slots.get h'.read = h.slots.get h.read := by
  cases hs with
  | rest => exact ⟨pending, rfl⟩
  | fill r room =>
      refine ⟨pending, ?_⟩
      change (h.slots.set h.write r).get h.read = h.slots.get h.read
      exact Slots.get_set_ne _ _ (by omega) (by omega) (by omega)
  | publish r room fit slot => exact ⟨pending.trans (Nat.lt_succ_self _), rfl⟩

theorem Kept.clear_publish (hk : Kept blank Fit h) (r : ρ) :
    Clear blank { h with write := h.write + 1, given := h.given ++ [r] } :=
  fun room => hk.free _ le_rfl room

theorem Kept.loaded_release (hk : Kept blank Fit h) : Loaded { h with read := h.read + 1 } :=
  fun pending => hk.held _ le_rfl pending

end Handover

end RS2ServerFix.Lib
