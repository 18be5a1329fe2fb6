import RS2ServerFix.Lib.World

namespace RS2ServerFix.Lib

variable {Q : Type} {A : Q → Type} {σ ε α β : Type}

namespace Ask

/-- The result under surroundings that answer from a state of their own, and the state they are in then. -/
def served (respond : σ → (q : Q) → A q × σ) : Ask Q A α → σ → α × σ
  | done a, s => (a, s)
  | ask q next, s => (next (respond s q).1).served respond (respond s q).2

theorem served_bind (respond : σ → (q : Q) → A q × σ) (p : Ask Q A α) (f : α → Ask Q A β) (s : σ) :
    (p.bind f).served respond s = (f (p.served respond s).1).served respond (p.served respond s).2 := by
  induction p generalizing s with
  | done a => rfl
  | ask q next ih => exact ih _ _

theorem served_answered (table : (q : Q) → A q) (p : Ask Q A α) (s : σ) :
    p.served (fun s q => (table q, s)) s = (p.answered table, s) := by
  induction p with
  | done a => rfl
  | ask q next ih => exact ih (table q)

def fair (may : σ → Q → Bool) (respond : σ → (q : Q) → A q × σ) : Ask Q A α → σ → Bool
  | done _, _ => true
  | ask q next, s => may s q && (next (respond s q).1).fair may respond (respond s q).2

end Ask

theorem Goes.served {responds : Responds Q A σ} {may : σ → Q → Bool} {respond : σ → (q : Q) → A q × σ}
    (ha : ∀ s q, may s q = true → responds q s (respond s q).1 (respond s q).2) {p : Ask Q A α} {s : σ}
    (hp : p.fair may respond s = true) :
    ∃ events, Goes responds p s events (p.served respond s).1 (p.served respond s).2 := by
  induction p generalizing s with
  | done a => exact ⟨[], .done a s⟩
  | ask q next ih =>
      obtain ⟨hmay, hnext⟩ := Bool.and_eq_true_iff.mp hp
      obtain ⟨events, hgoes⟩ := ih _ hnext
      exact ⟨_, .ask (ha s q hmay) hgoes⟩

/-- A world that may always answer as a function does. -/
theorem Goes.obliged {responds : Responds Q A σ} {respond : σ → (q : Q) → A q × σ}
    (ha : ∀ s q, responds q s (respond s q).1 (respond s q).2) (p : Ask Q A α) (s : σ) :
    ∃ events, Goes responds p s events (p.served respond s).1 (p.served respond s).2 := by
  induction p generalizing s with
  | done a => exact ⟨[], .done a s⟩
  | ask q next ih =>
      obtain ⟨events, hgoes⟩ := ih _ _
      exact ⟨_, .ask (ha s q) hgoes⟩

namespace Told

def query (q : Q) : Told Q A ε (A q) := fun e => .ask q fun a => .done (a, e)

/-- Whatever the place holds, the program comes to `a` and keeps what the answers rest on. -/
def Comes (respond : σ → (q : Q) → A q × σ) (I : σ → Prop) (p : Told Q A ε α) (a : α) : Prop :=
  ∀ e s, I s → ((p.run e).served respond s).1.1 = a ∧ I ((p.run e).served respond s).2

namespace Comes

variable {respond : σ → (q : Q) → A q × σ} {I : σ → Prop} {p : Told Q A ε α} {a : α}

theorem pure : Comes respond I (Pure.pure a : Told Q A ε α) a := fun _ _ hs => ⟨rfl, hs⟩

theorem set (e : ε) : Comes respond I (MonadStateOf.set e : Told Q A ε PUnit) ⟨⟩ := fun _ _ hs => ⟨rfl, hs⟩

theorem bind {f : α → Told Q A ε β} {b : β} (h : Comes respond I p a) (hf : Comes respond I (f a) b) :
    Comes respond I (p >>= f) b := by
  intro e s hs
  have hrun : ((p >>= f).run e) = (p.run e).bind fun r => (f r.1).run r.2 := rfl
  rw [hrun, Ask.served_bind]
  obtain ⟨ha, hkept⟩ := h e s hs
  rw [ha]
  exact hf _ _ hkept

theorem aside (e : ε) (h : Comes respond I p a) : Comes respond I (p.aside e) a := by
  intro kept s hs
  have hrun : ((p.aside e).run kept) = (p.run e).bind fun r => .done (r.1, kept) := rfl
  rw [hrun, Ask.served_bind]
  exact h e s hs

end Comes

/-- The program comes to one and the same result, of which `P` holds. -/
def ComesTo (respond : σ → (q : Q) → A q × σ) (I : σ → Prop) (p : Told Q A ε α) (P : α → Prop) : Prop :=
  ∃ a, Comes respond I p a ∧ P a

namespace ComesTo

variable {respond : σ → (q : Q) → A q × σ} {I : σ → Prop} {p : Told Q A ε α} {a : α} {P : α → Prop}

theorem pure (h : P a) : ComesTo respond I (Pure.pure a : Told Q A ε α) P := ⟨a, .pure, h⟩

theorem bind {f : α → Told Q A ε β} {P : β → Prop} (h : Comes respond I p a) (hf : ComesTo respond I (f a) P) :
    ComesTo respond I (p >>= f) P := by
  obtain ⟨b, hb, hP⟩ := hf
  exact ⟨b, h.bind hb, hP⟩

theorem aside (e : ε) (h : ComesTo respond I p P) : ComesTo respond I (p.aside e) P := by
  obtain ⟨a, ha, hP⟩ := h
  exact ⟨a, .aside e ha, hP⟩

end ComesTo

end Told

end RS2ServerFix.Lib
