import Mathlib.Logic.Relation

namespace RS2ServerFix.Lib

open Relation

/-- A sequential program over a state that others change between its steps. A
step changes the state at once and goes on with what it saw. -/
inductive Prog (σ α : Type) : Type
  | done (a : α)
  | step (update : σ → σ) (next : σ → Prog σ α)

namespace Prog

variable {σ α β : Type}

def bind : Prog σ α → (α → Prog σ β) → Prog σ β
  | done a, f => f a
  | step update next, f => step update fun s => (next s).bind f

instance : Monad (Prog σ) where
  pure := done
  bind := bind

def act (f : σ → α × σ) : Prog σ α := step (fun s => (f s).2) fun s => done (f s).1

def read (f : σ → α) : Prog σ α := act fun s => (f s, s)

def modify (f : σ → σ) : Prog σ Unit := act fun s => ((), f s)

def run : Prog σ α → σ → α × σ
  | done a, s => (a, s)
  | step update next, s => (next s).run (update s)

@[simp] theorem pure_def (a : α) : (pure a : Prog σ α) = done a := rfl

@[simp] theorem bind_def (p : Prog σ α) (f : α → Prog σ β) : p >>= f = p.bind f := rfl

@[simp] theorem run_done (a : α) (s : σ) : (done a).run s = (a, s) := rfl

theorem run_read_bind (f : σ → α) (k : α → Prog σ β) (s : σ) : ((read f).bind k).run s = (k (f s)).run s := rfl

@[simp] theorem run_read (f : σ → α) (s : σ) : (read f).run s = (f s, s) := rfl

@[simp] theorem run_modify (f : σ → σ) (s : σ) : (modify f).run s = ((), f s) := rfl

@[simp] theorem run_ite (c : Prop) [Decidable c] (p q : Prog σ α) (s : σ) :
    (if c then p else q).run s = if c then p.run s else q.run s := apply_ite (fun p : Prog σ α => p.run s) c p q

@[simp] theorem run_bind (p : Prog σ α) (f : α → Prog σ β) (s : σ) :
    (p.bind f).run s = (f (p.run s).1).run (p.run s).2 := by
  induction p generalizing s with
  | done a => rfl
  | step update next ih => exact ih s (update s)

theorem bind_bind {γ : Type} (p : Prog σ α) (f : α → Prog σ β) (g : β → Prog σ γ) :
    (p.bind f).bind g = p.bind fun a => (f a).bind g := by
  induction p with
  | done a => rfl
  | step update next ih => exact congrArg _ (funext ih)

end Prog

open Prog

variable {σ α β : Type} {others guarantee : σ → σ → Prop}

/-- One move of a program that is started over and over, or of the others. -/
inductive Turn (others : σ → σ → Prop) (body : Prog σ α) : σ × Prog σ α → σ × Prog σ α → Prop
  | other {s s' : σ} (p : Prog σ α) (he : others s s') : Turn others body (s, p) (s', p)
  | own (s : σ) (update : σ → σ) (next : σ → Prog σ α) :
      Turn others body (s, .step update next) (update s, next s)
  | again (s : σ) (a : α) : Turn others body (s, .done a) (s, body)

def Turns (others : σ → σ → Prop) (body : Prog σ α) : σ × Prog σ α → σ × Prog σ α → Prop :=
  ReflTransGen (Turn others body)

/-- Whatever the others do, every own step is as guaranteed and the result is
as the postcondition says, also later. -/
def Safe (others guarantee : σ → σ → Prop) : Prog σ α → (α → σ → Prop) → σ → Prop
  | .done a, Q, s => ∀ s', ReflTransGen others s s' → Q a s'
  | .step update next, Q, s => ∀ s', ReflTransGen others s s' →
      guarantee s' (update s') ∧ Safe others guarantee (next s') Q (update s')

namespace Safe

variable {p : Prog σ α} {Q R : α → σ → Prop} {s : σ}

theorem others_steps (h : Safe others guarantee p Q s) {s' : σ} (hs : ReflTransGen others s s') :
    Safe others guarantee p Q s' := by
  cases p with
  | done a => exact fun t ht => h t (hs.trans ht)
  | step update next => exact fun t ht => h t (hs.trans ht)

theorem now (a : α) (h : Safe others guarantee (.done a) Q s) : Q a s := h s .refl

theorem mono (h : Safe others guarantee p Q s) (hq : ∀ a t, Q a t → R a t) : Safe others guarantee p R s := by
  induction p generalizing s with
  | done a => exact fun t ht => hq a t (h t ht)
  | step update next ih => exact fun t ht => ⟨(h t ht).1, ih t (h t ht).2⟩

theorem bind {f : α → Prog σ β} {T : β → σ → Prop}
    (h : Safe others guarantee p (fun a t => Safe others guarantee (f a) T t) s) :
    Safe others guarantee (p.bind f) T s := by
  induction p generalizing s with
  | done a => exact h.now
  | step update next ih => exact fun t ht => ⟨(h t ht).1, ih t (h t ht).2⟩

end Safe

def Undisturbed (others : σ → σ → Prop) (s : σ) : Prop := ∀ s', others s s' → s' = s

namespace Undisturbed

variable {s : σ}

theorem steps (h : Undisturbed others s) {s' : σ} (hs : ReflTransGen others s s') : s' = s := by
  induction hs with
  | refl => rfl
  | tail _ he ih => exact h _ (ih ▸ he)

theorem done {a : α} {Q : α → σ → Prop} (h : Undisturbed others s) (hq : Q a s) : Safe others guarantee (.done a) Q s :=
  fun _ ht => (h.steps ht).symm ▸ hq

theorem bind {f : σ → α × σ} {k : α → Prog σ β} {Q : β → σ → Prop} (h : Undisturbed others s) (hg : guarantee s (f s).2)
    (hrest : Safe others guarantee (k (f s).1) Q (f s).2) : Safe others guarantee ((Prog.act f).bind k) Q s :=
  fun _ ht => (h.steps ht).symm ▸ ⟨hg, hrest⟩

end Undisturbed

def Stable (others : σ → σ → Prop) (P : σ → Prop) : Prop := ∀ s s', P s → others s s' → P s'

namespace Stable

variable {P Q : σ → Prop}

theorem steps (h : Stable others P) {s s' : σ} (hs : ReflTransGen others s s') (hp : P s) : P s' := by
  induction hs with
  | refl => exact hp
  | tail _ he ih => exact h _ _ ih he

theorem and (h : Stable others P) (h' : Stable others Q) : Stable others fun s => P s ∧ Q s :=
  fun s s' hp he => ⟨h s s' hp.1 he, h' s s' hp.2 he⟩

theorem const (p : Prop) : Stable others fun _ => p := fun _ _ hp _ => hp

end Stable

def Triple (others guarantee : σ → σ → Prop) (P : σ → Prop) (p : Prog σ α) (Q : α → σ → Prop) : Prop :=
  ∀ s, P s → Safe others guarantee p Q s

namespace Triple

variable {P P' : σ → Prop} {p : Prog σ α} {Q Q' : α → σ → Prop}

theorem done {a : α} (stable : Stable others (Q a)) (h : ∀ s, P s → Q a s) :
    Triple others guarantee P (.done a) Q :=
  fun s hp _ ht => stable.steps ht (h s hp)

theorem act {f : σ → α × σ} (pre : Stable others P) (post : ∀ a, Stable others (Q a))
    (h : ∀ s, P s → guarantee s (f s).2 ∧ Q (f s).1 (f s).2) : Triple others guarantee P (.act f) Q := by
  intro s hp t ht
  obtain ⟨hg, hq⟩ := h t (pre.steps ht hp)
  exact ⟨hg, fun u hu => (post _).steps hu hq⟩

theorem bind {f : α → Prog σ β} {R : β → σ → Prop} (h : Triple others guarantee P p Q)
    (hf : ∀ a, Triple others guarantee (Q a) (f a) R) : Triple others guarantee P (p.bind f) R :=
  fun s hp => .bind ((h s hp).mono fun a t hq => hf a t hq)

theorem conseq (h : Triple others guarantee P p Q) (hp : ∀ s, P' s → P s) (hq : ∀ a s, Q a s → Q' a s) :
    Triple others guarantee P' p Q' :=
  fun s hs => (h s (hp s hs)).mono hq

end Triple

/-- A step from a state of the invariant is guaranteed and keeps it. -/
def Within (I : σ → Prop) (guarantee : σ → σ → Prop) (s s' : σ) : Prop := I s → guarantee s s' ∧ I s'

/-- A program under way that keeps the invariant `I`, and `J` between its turns,
with whatever the others do. -/
structure Running (others guarantee : σ → σ → Prop) (I J : σ → Prop) (x : σ × Prog σ α) : Prop where
  inv : I x.1
  safe : Safe others (Within I guarantee) x.2 (fun _ => J) x.1

namespace Running

variable {body : Prog σ α} {I J : σ → Prop} {x y : σ × Prog σ α}

theorem start (hJ : ∀ s, J s → I s) (hbody : Triple others (Within I guarantee) J body fun _ => J) {s : σ} (h : J s) :
    Running others guarantee I J (s, body) := ⟨hJ s h, hbody s h⟩

/-- The step rule: a body that leaves its own precondition behind may go on,
and the step was one of the others or a guaranteed one. -/
theorem turn (hJ : ∀ s, J s → I s) (hothers : Stable others I)
    (hbody : Triple others (Within I guarantee) J body fun _ => J) (h : Running others guarantee I J x)
    (move : Turn others body x y) :
    Running others guarantee I J y ∧ (y.1 = x.1 ∨ others x.1 y.1 ∨ guarantee x.1 y.1) := by
  cases move with
  | other p he => exact ⟨⟨hothers _ _ h.inv he, h.safe.others_steps (.single he)⟩, .inr (.inl he)⟩
  | own s update next =>
      obtain ⟨hstep, hrest⟩ := h.safe s .refl
      obtain ⟨hg, hi⟩ := hstep h.inv
      exact ⟨⟨hi, hrest⟩, .inr (.inr hg)⟩
  | again s a => exact ⟨start hJ hbody h.safe.now, .inl rfl⟩

theorem turns (hJ : ∀ s, J s → I s) (hothers : Stable others I)
    (hbody : Triple others (Within I guarantee) J body fun _ => J) (h : Running others guarantee I J x)
    (run : Turns others body x y) : Running others guarantee I J y := by
  induction run with
  | refl => exact h
  | tail _ move ih => exact (ih.turn hJ hothers hbody move).1

/-- The run rule: what the others and every guaranteed step keep stays. -/
theorem keeps {P : σ → Prop} (hJ : ∀ s, J s → I s) (hothers : Stable others I)
    (hbody : Triple others (Within I guarantee) J body fun _ => J)
    (hP : ∀ s s', I s → P s → others s s' ∨ guarantee s s' → P s') (h : Running others guarantee I J x)
    (run : Turns others body x y) (hx : P x.1) : P y.1 := by
  induction run with
  | refl => exact hx
  | tail hrun move ih =>
      have hrunning := h.turns hJ hothers hbody hrun
      rcases (hrunning.turn hJ hothers hbody move).2 with he | hmove
      · exact he ▸ ih
      · exact hP _ _ hrunning.inv ih hmove

end Running

/-- A program the others leave alone comes to its end. -/
theorem Turns.alone (body p : Prog σ α) (s : σ) :
    Turns others body (s, p) ((p.run s).2, .done (p.run s).1) := by
  induction p generalizing s with
  | done a => exact .refl
  | step update next ih => exact .head (.own s update next) (ih s (update s))

/-- The others leave the first part of a program alone. -/
theorem Turns.front {body : Prog σ α} (p : Prog σ β) (f : β → Prog σ α) (s : σ) :
    Turns others body (s, p.bind f) ((p.run s).2, f (p.run s).1) := by
  induction p generalizing s with
  | done a => exact .refl
  | step update next ih => exact .head (.own s update _) (ih s (update s))

/-- The program run to its end, again after each change of the others. -/
def Prog.rounds (body : Prog σ α) (s : σ) : List (σ → σ) → σ
  | [] => (body.run s).2
  | f :: fs => body.rounds (f (body.run s).2) fs

theorem Turns.round (body : Prog σ α) (s : σ) : Turns others body (s, body) ((body.run s).2, body) :=
  (Turns.alone body body s).tail (.again _ _)

theorem Turns.rounds (body : Prog σ α) {fs : List (σ → σ)} (h : ∀ f ∈ fs, ∀ s, others s (f s)) (s : σ) :
    Turns others body (s, body) (body.rounds s fs, body) := by
  induction fs generalizing s with
  | nil => exact .round body s
  | cons f fs ih =>
      rw [List.forall_mem_cons] at h
      exact ((Turns.round body s).tail (.other body (h.1 _))).trans (ih h.2 (f (body.run s).2))

namespace Prog

def Steps (R : σ → σ → Prop) : Prog σ α → Prop
  | done _ => True
  | step update next => (∀ s, R s (update s)) ∧ ∀ s, (next s).Steps R

namespace Steps

variable {R : σ → σ → Prop} {p : Prog σ α}

theorem act {f : σ → α × σ} (h : ∀ s, R s (f s).2) : (Prog.act f).Steps R := ⟨h, fun _ => trivial⟩

theorem read (f : σ → α) (h : ∀ s, R s s) : (Prog.read f).Steps R := act h

theorem bind {f : α → Prog σ β} (h : p.Steps R) (hf : ∀ a, (f a).Steps R) : (p.bind f).Steps R := by
  induction p with
  | done a => exact hf a
  | step update next ih => exact ⟨h.1, fun s => ih s (h.2 s)⟩

/-- A program of such steps keeps whatever they and the others keep. -/
theorem triple {P : σ → Prop} (h : p.Steps R) (hothers : Stable others P) (hown : Stable R P)
    (hg : ∀ s s', P s → R s s' → guarantee s s') : Triple others guarantee P p fun _ => P := by
  induction p with
  | done a => exact .done hothers fun _ hp => hp
  | step update next ih =>
      intro s hp t ht
      have hpt := hothers.steps ht hp
      exact ⟨hg _ _ hpt (h.1 t), ih t (h.2 t) _ (hown _ _ hpt (h.1 t))⟩

end Steps

end Prog

end RS2ServerFix.Lib
