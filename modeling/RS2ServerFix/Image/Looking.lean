import RS2ServerFix.Image.Startup

namespace RS2ServerFix.Image

open Reporting Lib
open RS2ServerFix.Task (MemoryRegion pageReadOnly field)

variable {Q : Type} {A : Q → Type} {σ : Type}

structure Asks (P : Q → Prop) (ops : MemoryOps Q A) : Prop where
  query : ∀ f ∈ ops.query, ∀ address, Told.Only P (f address)
  read : ∀ f ∈ ops.read, ∀ address size, Told.Only P (f address size)

section Asks

variable {P : Q → Prop} {ops : MemoryOps Q A} (h : Asks P ops)
include h

omit h in
theorem regionsFrom_only {query : Nat → Told Q A UInt32 (Option MemoryRegion)} (hq : ∀ a, Told.Only P (query a))
    (base exactProtection last left cursor : Nat) :
    Told.Only P (regionsFrom query base exactProtection last left cursor) := by
  induction left generalizing cursor with
  | zero => exact .pure _
  | succ left ih =>
      refine .ite (.bind (hq cursor) fun region => ?_) (.pure true)
      cases region with
      | none => exact .pure false
      | some region => exact .ite (ih _) (.pure false)

theorem regions_only (base imageSize rva size exactProtection : Nat) :
    Told.Only P (regions ops base imageSize rva size exactProtection) := by
  refine .bind (.set _) fun _ => .ite (.pure false) ?_
  cases hq : ops.query with
  | none => exact .pure false
  | some query =>
      refine .bind (regionsFrom_only (h.query query hq) _ _ _ _ _) fun passed => .ite ?_ (.pure false)
      exact .bind (.set _) fun _ => .pure true

theorem readImageRange_only (base imageSize rva size : Nat) :
    Told.Only P (readImageRange ops base imageSize rva size) := by
  unfold readImageRange
  cases hr : ops.read with
  | none => exact .pure none
  | some read => exact .bind (regions_only h _ _ _ _ _) fun passed => .ite (h.read read hr _ _) (.pure none)

theorem imageRangeProtection_only (base imageSize rva size protection : Nat) :
    Told.Only P (imageRangeProtection ops base imageSize rva size protection) :=
  .ite (.pure false) (regions_only h _ _ _ _ _)

theorem headers_only (base imageSize : Nat) : Told.Only P (headers ops base imageSize) := by
  refine .aside 0 (.bind (readImageRange_only h _ _ _ _) fun dos => ?_)
  cases dos with
  | none => exact .pure none
  | some dos =>
      refine .ite (.pure none) (.bind (readImageRange_only h _ _ _ _) fun bytes => ?_)
      cases bytes with
      | none => exact .pure none
      | some bytes => exact .ite (.pure _) (.pure none)

theorem imageSectionMatches_only (base imageSize rva size required forbidden : Nat) :
    Told.Only P (imageSectionMatches ops base imageSize rva size required forbidden) := by
  refine .ite (.pure false) (.bind (headers_only h _ _) fun found => ?_)
  cases found with
  | none => exact .pure false
  | some found =>
      refine .ite (.pure false) (.bind (.aside 0 (readImageRange_only h _ _ _ _)) fun sections => ?_)
      cases sections with
      | none => exact .pure false
      | some sections => exact .pure _

theorem spansMatch_only (base imageSize : Nat) (spans : List ByteSpan) :
    Told.Only P (spansMatch ops base imageSize spans) := by
  induction spans with
  | nil => exact .pure true
  | cons span rest ih =>
      refine .both (.ite (.pure false) ?_) ih
      refine .both (imageRangeProtection_only h _ _ _ _ _) (.both (imageSectionMatches_only h _ _ _ _ _ _) ?_)
      exact .bind (readImageRange_only h _ _ _ _) fun bytes => .pure _

theorem initializerMatches_only (base : Nat) (profile : StartupProfile) :
    Told.Only P (initializerMatches ops base profile) := by
  refine .ite (.pure false) (.both (imageRangeProtection_only h _ _ _ _ _) (.both (imageSectionMatches_only h _ _ _ _ _ _) ?_))
  exact .bind (readImageRange_only h _ _ _ _) fun bytes => .pure _

theorem stageMatches_only (base : Nat) (profile : StartupProfile) : Told.Only P (stageMatches ops base profile) :=
  .bind (readImageRange_only h _ _ _ _) fun _ => .pure _

theorem checkImage_only (context : BootstrapContextV3) (profile : StartupProfile) :
    Told.Only P (checkImage ops context profile) := by
  refine .bind (headers_only h _ _) fun found => ?_
  cases found with
  | none => exact .pure _
  | some found =>
      refine .ite (.pure _) (.bind (spansMatch_only h _ _ _) fun _ => .ite (.pure _) ?_)
      refine .bind (initializerMatches_only h _ _) fun _ => .ite (.pure _) (.bind ?_ fun _ => .ite (.pure _) (.pure _))
      exact .both (imageSectionMatches_only h _ _ _ _ _ _) (stageMatches_only h _ _)

theorem checkStartupOpportunity_only {getCurrentThreadId : Told Q A UInt32 Nat} (ht : Told.Only P getCurrentThreadId)
    (context : BootstrapContextV3) (profile : StartupProfile) :
    Told.Only P (checkStartupOpportunity ops getCurrentThreadId context profile) := by
  refine .ite (.pure _) (.ite (.pure _) (.ite (.pure _) (.bind ht fun thread => .ite (.pure _) (.ite (.pure _) ?_))))
  exact .aside 0 (checkImage_only h _ _)

end Asks

/-- Readings and regions that are given are those of the state. -/
structure Truthful (responds : Responds Q A σ) (bytes : σ → Nat → UInt8) (protection : σ → Nat → Nat)
    (ops : MemoryOps Q A) : Prop where
  query : ∀ f ∈ ops.query, ∀ address s, Told.Sure responds (f address) (fun r t => t = s ∧ ∀ region ∈ r,
    ∀ x, region.base ≤ x → x < region.base + region.size → protection s x = region.protect) s
  read : ∀ f ∈ ops.read, ∀ address size s, Told.Sure responds (f address size) (fun r t => t = s ∧ ∀ v ∈ r,
    v.toList = (List.range size).map fun k => bytes s (address + k)) s

section Truthful

variable {responds : Responds Q A σ} {bytes : σ → Nat → UInt8} {protection : σ → Nat → Nat} {ops : MemoryOps Q A}
  (h : Truthful responds bytes protection ops)
include h

theorem regionsFrom_sure {query : Nat → Told Q A UInt32 (Option MemoryRegion)} (hq : query ∈ ops.query)
    (base exactProtection last left cursor : Nat) (s : σ) :
    Told.Sure responds (regionsFrom query base exactProtection last left cursor) (fun b t => t = s ∧
      (b = true → exactProtection ≠ 0 → ∀ x, cursor ≤ x → x < last → protection s x = exactProtection)) s := by
  induction left generalizing cursor with
  | zero =>
      refine .pure ⟨rfl, fun hb _ x hx hlt => ?_⟩
      have hle := of_decide_eq_true hb
      omega
  | succ left ih =>
      refine .ite (fun _ => .bind ((h.query query hq cursor s).mono fun region t ht => ?_)) fun hlast => ?_
      · obtain ⟨rfl, hregion⟩ := ht
        cases region with
        | none => exact .pure ⟨rfl, fun hb => by cases hb⟩
        | some region =>
            refine .ite (fun hpass => ?_) fun _ => .pure ⟨rfl, fun hb => by cases hb⟩
            refine (ih (min last (region.base + region.size))).mono ?_
            rintro b u ⟨rfl, hrest⟩
            refine ⟨rfl, fun hb hne x hx hlt => ?_⟩
            simp only [regionPasses, Bool.and_eq_true, Bool.or_eq_true, decide_eq_true_eq] at hpass
            by_cases hin : x < region.base + region.size
            · rw [hregion region rfl x (by omega) hin]
              rcases hpass.1.1.1.1.2 with hzero | hexact
              · exact absurd hzero hne
              · exact hexact
            · exact hrest hb hne x (by omega) hlt
      · exact .pure ⟨rfl, fun _ _ x hx hlt => by omega⟩

theorem regions_sure (base imageSize rva size exactProtection : Nat) (s : σ) :
    Told.Sure responds (regions ops base imageSize rva size exactProtection) (fun b t => t = s ∧
      (b = true → exactProtection ≠ 0 → ∀ k < size, protection s (base + rva + k) = exactProtection)) s := by
  refine .bind (.set (.ite (fun _ => .pure ⟨rfl, fun hb => by cases hb⟩) fun _ => ?_))
  cases hq : ops.query with
  | none => exact .pure ⟨rfl, fun hb => by cases hb⟩
  | some query =>
      refine .bind ((regionsFrom_sure h hq base exactProtection (base + rva + size) size (base + rva) s).mono ?_)
      rintro passed t ⟨rfl, hpassed⟩
      refine .ite (fun hb => .bind (.set (.pure ⟨rfl, fun _ hne k hk => ?_⟩))) fun _ => .pure ⟨rfl, fun hb => by cases hb⟩
      exact hpassed hb hne _ (by omega) (by omega)

theorem imageRangeProtection_sure (base imageSize rva size exactProtection : Nat) (s : σ) :
    Told.Sure responds (imageRangeProtection ops base imageSize rva size exactProtection) (fun b t => t = s ∧
      (b = true → ∀ k < size, protection s (base + rva + k) = exactProtection)) s := by
  refine .ite (fun _ => .pure ⟨rfl, fun hb => by cases hb⟩) fun hne => ?_
  exact (regions_sure h base imageSize rva size exactProtection s).mono fun b t ht => ⟨ht.1, fun hb => ht.2 hb hne⟩

theorem readImageRange_sure (base imageSize rva size : Nat) (s : σ) :
    Told.Sure responds (readImageRange ops base imageSize rva size) (fun r t => t = s ∧ ∀ v ∈ r,
      v.toList = (List.range size).map fun k => bytes s (base + rva + k)) s := by
  unfold readImageRange
  cases hr : ops.read with
  | none => exact .pure ⟨rfl, fun v hv => by cases hv⟩
  | some read =>
      refine .bind ((regions_sure h base imageSize rva size 0 s).mono ?_)
      rintro passed t ⟨rfl, -⟩
      exact .ite (fun _ => h.read read hr _ _ _) fun _ => .pure ⟨rfl, fun v hv => by cases hv⟩

end Truthful

end RS2ServerFix.Image
