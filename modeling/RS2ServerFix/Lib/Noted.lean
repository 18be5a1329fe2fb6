import RS2ServerFix.Lib.Interference

namespace RS2ServerFix.Lib

open Relation

variable {σ η α β : Type}

namespace Prog

def lift : Prog σ α → Prog (σ × η) α
  | done a => done a
  | step update next => step (fun x => (update x.1, x.2)) fun x => (next x.1).lift

/-- The program with a note about its result, made in its last step. -/
def noted (note : α → η → η) : Prog σ α → Prog (σ × η) α
  | done a => done a
  | step update next =>
      step (fun x => (update x.1,
        match next x.1 with
        | done a => note a x.2
        | step _ _ => x.2)) fun x => (next x.1).noted note

theorem Steps.lift {R : σ → σ → Prop} {p : Prog σ α} (h : p.Steps R) :
    (p.lift (η := η)).Steps fun x y => R x.1 y.1 ∧ y.2 = x.2 := by
  induction p with
  | done a => trivial
  | step update next ih => exact ⟨fun x => ⟨h.1 x.1, rfl⟩, fun x => ih x.1 (h.2 x.1)⟩

/-- The second program is the first without its history. -/
inductive Erases : Prog (σ × η) α → Prog σ α → Prop
  | done (a : α) : Erases (.done a) (.done a)
  | step {update : σ × η → σ × η} {next : σ × η → Prog (σ × η) α} {update' : σ → σ} {next' : σ → Prog σ α}
      (hupdate : ∀ x, (update x).1 = update' x.1) (hnext : ∀ x, Erases (next x) (next' x.1)) :
      Erases (.step update next) (.step update' next')

namespace Erases

theorem lift (p : Prog σ α) : Erases (p.lift (η := η)) p := by
  induction p with
  | done a => exact .done a
  | step update next ih => exact .step (fun _ => rfl) fun x => ih x.1

theorem noted (note : α → η → η) (p : Prog σ α) : Erases (p.noted note) p := by
  induction p with
  | done a => exact .done a
  | step update next ih => exact .step (fun _ => rfl) fun x => ih x.1

theorem bind {q : Prog (σ × η) α} {p : Prog σ α} (h : Erases q p) {g : α → Prog (σ × η) β} {f : α → Prog σ β}
    (hf : ∀ a, Erases (g a) (f a)) : Erases (q.bind g) (p.bind f) := by
  induction h with
  | done a => exact hf a
  | step hupdate _ ih => exact .step hupdate ih

end Erases

end Prog

open Prog

variable {others : σ → σ → Prop}

def Unnoted (others : σ → σ → Prop) (x y : σ × η) : Prop := others x.1 y.1 ∧ y.2 = x.2

namespace Triple

variable {others guarantee : σ × η → σ × η → Prop} {P : σ × η → Prop} {Q : α → σ × η → Prop} {f : σ → α × σ}

theorem lift_act (pre : Stable others P) (post : ∀ a, Stable others (Q a))
    (h : ∀ s h, P (s, h) → guarantee (s, h) ((f s).2, h) ∧ Q (f s).1 ((f s).2, h)) :
    Triple others guarantee P (Prog.act f).lift Q := by
  change Triple others guarantee P (Prog.act fun x : σ × η => ((f x.1).1, ((f x.1).2, x.2))) Q
  exact .act pre post fun x hx => h x.1 x.2 hx

theorem noted_act {note : α → η → η} (pre : Stable others P) (post : ∀ a, Stable others (Q a))
    (h : ∀ s h, P (s, h) → guarantee (s, h) ((f s).2, note (f s).1 h) ∧ Q (f s).1 ((f s).2, note (f s).1 h)) :
    Triple others guarantee P ((Prog.act f).noted note) Q := by
  change Triple others guarantee P (Prog.act fun x : σ × η => ((f x.1).1, ((f x.1).2, note (f x.1).1 x.2))) Q
  exact .act pre post fun x hx => h x.1 x.2 hx

end Triple

/-- Every run is one with a history. -/
theorem Turns.noted {body : Prog σ α} {body' : Prog (σ × η) α} (hbody : Erases body' body) {s : σ} {x : σ × Prog σ α}
    (run : Turns others body (s, body) x) (h : η) :
    ∃ h' p', Turns (Unnoted others) body' ((s, h), body') ((x.1, h'), p') ∧ Erases p' x.2 := by
  induction run with
  | refl => exact ⟨h, body', .refl, hbody⟩
  | tail _ move ih =>
      obtain ⟨h', p', hrun, herases⟩ := ih
      cases move with
      | other p he => exact ⟨h', p', hrun.tail (.other p' ⟨he, rfl⟩), herases⟩
      | own s update next =>
          cases herases with
          | @step update' next' _ _ hupdate hnext =>
              have hmove : Turn (Unnoted others) body' _ _ := .own (s, h') update' next'
              have hstate : update' (s, h') = (update s, (update' (s, h')).2) := Prod.ext (hupdate (s, h')) rfl
              rw [hstate] at hmove
              exact ⟨_, _, hrun.tail hmove, hnext (s, h')⟩
      | again s a =>
          cases herases with
          | done a => exact ⟨h', body', hrun.tail (.again (s, h') a), hbody⟩

end RS2ServerFix.Lib
