import Mathlib.Data.List.Basic
import Mathlib.Order.Basic

namespace RS2ServerFix.Lib.RateWindow

/-- What a limiter of starts did: a check of its clock, the entry of a start,
and the call that the start was for. -/
inductive Event
  | check (now : Nat) (allowed : Bool)
  | enter (start : Nat)
  | call (start : Nat)
  deriving DecidableEq, Repr

abbrev History := List Event

def starts : History → List Nat
  | [] => []
  | .enter start :: h => start :: starts h
  | .check _ _ :: h | .call _ :: h => starts h

def calls : History → List Nat
  | [] => []
  | .call start :: h => start :: calls h
  | .check _ _ :: h | .enter _ :: h => calls h

def lastTime : History → Nat
  | [] => 0
  | .check now _ :: _ => now
  | .enter start :: _ | .call start :: _ => start

def recent (period now : Nat) (ss : List Nat) : List Nat := ss.filter fun s => decide (now - s < period)

def Settled : History → Prop
  | .enter _ :: _ => False
  | _ => True

/-- The histories of a limiter that works: clocks do not go back, a check allows
what the limit has room for, and only an allowed start is entered and called. -/
inductive Legal (limit period : Nat) : History → Prop
  | nil : Legal limit period []
  | check {h : History} (now : Nat) : Legal limit period h → Settled h → lastTime h ≤ now →
      Legal limit period (.check now (decide ((recent period now (starts h)).length < limit)) :: h)
  | enter {h : History} {now : Nat} : Legal limit period (.check now true :: h) →
      Legal limit period (.enter now :: .check now true :: h)
  | call {h : History} {now : Nat} : Legal limit period (.enter now :: h) →
      Legal limit period (.call now :: .enter now :: h)

section Recent

variable {period now now' : Nat} {ss : List Nat}

theorem recent_later (h : now ≤ now') : recent period now' (recent period now ss) = recent period now' ss := by
  rw [recent, recent, recent, List.filter_filter]
  refine List.filter_congr fun s _ => ?_
  rw [← Bool.decide_and, decide_eq_decide]
  omega

theorem recent_cons_now (hperiod : 0 < period) : recent period now (now :: ss) = now :: recent period now ss := by
  rw [recent, List.filter_cons, if_pos (by rw [Nat.sub_self]; exact decide_eq_true hperiod)]
  rfl

/-- In the order of the clock, the starts that are not recent come first. -/
theorem recent_dropWhile {l : List Nat} (hsorted : l.Pairwise (· ≤ ·)) :
    l.dropWhile (fun s => decide (period ≤ now - s)) = recent period now l := by
  induction l with
  | nil => rfl
  | cons s l ih =>
      rw [List.pairwise_cons] at hsorted
      by_cases hold : period ≤ now - s
      · rw [List.dropWhile_cons_of_pos (by exact decide_eq_true hold), ih hsorted.2, recent, recent, List.filter_cons,
          if_neg (by simpa using hold)]
      · rw [List.dropWhile_cons_of_neg (by simpa using hold), recent, List.filter_eq_self.mpr]
        intro t ht
        obtain rfl | ht := List.mem_cons.mp ht
        · exact decide_eq_true (Nat.lt_of_not_le hold)
        · have hle := hsorted.1 t ht
          exact decide_eq_true (by omega)

/-- A start with `limit` starts from it on, of which fewer are recent, is not recent itself. -/
theorem old_of_few {limit : Nat} (hsorted : ss.Pairwise (· ≥ ·)) (hfew : (recent period now ss).length ≤ limit)
    (hlimit : limit < ss.length) : period ≤ now - ss[limit] := by
  by_contra hrecent
  have hall : ∀ s ∈ ss.take (limit + 1), decide (now - s < period) = true := by
    intro s hs
    obtain ⟨i, hi, rfl⟩ := List.getElem_of_mem hs
    rw [List.length_take] at hi
    rw [List.getElem_take]
    have hge : ss[limit] ≤ ss[i] := by
      obtain hlt | heq := Nat.lt_or_eq_of_le (show i ≤ limit by omega)
      · exact List.pairwise_iff_getElem.mp hsorted i limit _ hlimit hlt
      · subst heq
        exact Nat.le_refl _
    exact decide_eq_true (by omega)
  have hsub : (recent period now (ss.take (limit + 1))).length ≤ (recent period now ss).length :=
    ((List.take_sublist (limit + 1) ss).filter _).length_le
  rw [recent, List.filter_eq_self.mpr hall, List.length_take] at hsub
  omega

end Recent

section Legal

variable {limit period : Nat} {h : History}

namespace Legal

theorem sorted (hl : Legal limit period h) : (starts h).Pairwise (· ≥ ·) ∧ ∀ s ∈ starts h, s ≤ lastTime h := by
  induction hl with
  | nil => exact ⟨List.Pairwise.nil, fun s hs => absurd hs List.not_mem_nil⟩
  | check now _ _ hle ih => exact ⟨ih.1, fun s hs => Nat.le_trans (ih.2 s hs) hle⟩
  | @enter h now _ ih =>
      refine ⟨List.pairwise_cons.mpr ⟨ih.2, ih.1⟩, fun s hs => ?_⟩
      obtain rfl | hs := List.mem_cons.mp hs
      · exact Nat.le_refl _
      · exact ih.2 s hs
  | call _ ih => exact ih

theorem tail {e : Event} (hl : Legal limit period (e :: h)) : Legal limit period h := by
  cases hl with
  | check _ hold => exact hold
  | enter hold => exact hold
  | call hold => exact hold

/-- What a check said, wherever it stands in the history. -/
theorem check_of_append {newer older : History} {now : Nat} {allowed : Bool}
    (hl : Legal limit period (newer ++ .check now allowed :: older)) :
    Legal limit period older ∧ lastTime older ≤ now ∧
      allowed = decide ((recent period now (starts older)).length < limit) := by
  induction newer with
  | nil =>
      cases hl with
      | check _ hold _ hle => exact ⟨hold, hle, rfl⟩
  | cons e newer ih => exact ih hl.tail

theorem check_head {now : Nat} {allowed : Bool} (hl : Legal limit period (.check now allowed :: h)) :
    Legal limit period h ∧ lastTime h ≤ now ∧ allowed = decide ((recent period now (starts h)).length < limit) :=
  @check_of_append limit period [] h now allowed hl

/-- Any start is a period after the one that is `limit` before it. -/
theorem spans (hl : Legal limit period h) (i : Nat) (hi : i + limit < (starts h).length) :
    (starts h)[i + limit] + period ≤ (starts h)[i] := by
  induction hl generalizing i with
  | nil => exact absurd hi (Nat.not_lt_zero _)
  | check now _ _ _ ih => exact ih i hi
  | call _ ih => exact ih i hi
  | @enter h now hbefore ih =>
      obtain ⟨hold, hle, hallowed⟩ := hbefore.check_head
      have hroom := of_decide_eq_true hallowed.symm
      cases i with
      | succ i =>
          have hi' : i + limit < (starts (.check now true :: h)).length := by
            simp only [starts, List.length_cons] at hi ⊢
            omega
          have hspan := ih i hi'
          simp only [starts, Nat.succ_add, List.getElem_cons_succ] at hspan ⊢
          exact hspan
      | zero =>
          obtain ⟨k, rfl⟩ : ∃ k, limit = k + 1 := ⟨limit - 1, by omega⟩
          have hk : k < (starts h).length := by
            simp only [starts, List.length_cons] at hi
            omega
          have hspan := old_of_few hold.sorted.1 (Nat.le_of_lt_succ hroom) hk
          have hpast := Nat.le_trans (hold.sorted.2 _ (List.getElem_mem hk)) hle
          simp only [starts, Nat.zero_add, List.getElem_cons_succ, List.getElem_cons_zero]
          omega

/-- The calls are the entered starts, but for one that was entered last. -/
theorem calls_eq (hl : Legal limit period h) :
    (Settled h → starts h = calls h) ∧ (¬Settled h → starts h = lastTime h :: calls h) := by
  induction hl with
  | nil => exact ⟨fun _ => rfl, fun h => absurd trivial h⟩
  | check now _ hsettled _ ih => exact ⟨fun _ => ih.1 hsettled, fun h => absurd trivial h⟩
  | enter _ ih => exact ⟨fun h => h.elim, fun _ => congrArg (_ :: ·) (ih.1 trivial)⟩
  | call _ ih => exact ⟨fun _ => ih.2 id, fun h => absurd trivial h⟩

/-- So any call is a period after the one that is `limit` before it. -/
theorem calls_span (hl : Legal limit period h) (i : Nat) (hi : i + limit < (calls h).length) :
    (calls h)[i + limit] + period ≤ (calls h)[i] := by
  by_cases hsettled : Settled h
  · have heq := hl.calls_eq.1 hsettled
    have hspan := hl.spans i (by rw [heq]; exact hi)
    simp only [heq] at hspan
    exact hspan
  · have heq := hl.calls_eq.2 hsettled
    have hspan := hl.spans (i + 1) (by rw [heq, List.length_cons]; omega)
    simp only [heq, Nat.succ_add, List.getElem_cons_succ] at hspan
    exact hspan

end Legal

end Legal

end RS2ServerFix.Lib.RateWindow
