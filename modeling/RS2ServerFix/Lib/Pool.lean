import Mathlib.Logic.Function.Basic
import RS2ServerFix.Lib.Interference

namespace RS2ServerFix.Lib

open Relation

variable {ι σ α β : Type}

/-- The state that several threads share, what each of them is about, and what
the calls it has been through came to, the last one first. -/
structure Pool (ι σ α : Type) where
  state : σ
  program : ι → Prog σ α
  results : ι → List α

namespace Pool

def returned (x : Pool ι σ α) (i : ι) : List α :=
  match x.program i with
  | .done a => a :: x.results i
  | .step _ _ => x.results i

/-- One step of one thread, or the start of its next call. -/
inductive Step [DecidableEq ι] (calls : ι → Prog σ α → Prop) : Pool ι σ α → Pool ι σ α → Prop
  | own {x : Pool ι σ α} {i : ι} {update : σ → σ} {next : σ → Prog σ α} (h : x.program i = .step update next) :
      Step calls x { x with
        state := update x.state, program := Function.update x.program i (next x.state) }
  | call {x : Pool ι σ α} {i : ι} {a : α} {p : Prog σ α} (h : x.program i = .done a) (hp : calls i p) :
      Step calls x { x with
        program := Function.update x.program i p, results := Function.update x.results i (a :: x.results i) }

structure Start (calls : ι → Prog σ α → Prop) (x : Pool ι σ α) : Prop where
  program : ∀ i, calls i (x.program i)
  results : ∀ i, x.results i = []

def Run [DecidableEq ι] (calls : ι → Prog σ α → Prop) : Pool ι σ α → Pool ι σ α → Prop := ReflTransGen (Step calls)

end Pool

def Shift (I : σ → Prop) (guarantee : ι → σ → σ → Prop) (s s' : σ) : Prop :=
  (∃ i, guarantee i s s') ∧ I s ∧ I s'

/-- What a thread has to reckon with: a step of another one. -/
def Rely (I : σ → Prop) (guarantee : ι → σ → σ → Prop) (i : ι) (s s' : σ) : Prop :=
  (∃ j, j ≠ i ∧ guarantee j s s') ∧ I s ∧ I s'

theorem Rely.shift {I : σ → Prop} {guarantee : ι → σ → σ → Prop} {i : ι} {s s' : σ} (h : Rely I guarantee i s s') :
    Shift I guarantee s s' := by
  obtain ⟨⟨j, -, hg⟩, hi⟩ := h
  exact ⟨⟨j, hg⟩, hi⟩

/-- What each thread keeps to, whatever the others do: `between i results` holds
between its calls once they came to `results`, and every call takes the one to
the next. -/
structure Discipline (I : σ → Prop) (guarantee : ι → σ → σ → Prop) (between : ι → List α → σ → Prop)
    (calls : ι → Prog σ α → Prop) : Prop where
  call : ∀ i p results, calls i p → Triple (Rely I guarantee i) (Within I (guarantee i)) (between i results) p
    fun a => between i (a :: results)

/-- A pool under way: its state is of the invariant, every thread is safe, and
what the calls before came to was known at some state of the run. -/
structure Pool.Going (I : σ → Prop) (guarantee : ι → σ → σ → Prop) (between : ι → List α → σ → Prop)
    (x : Pool ι σ α) : Prop where
  inv : I x.state
  safe : ∀ i, Safe (Rely I guarantee i) (Within I (guarantee i)) (x.program i)
    (fun a => between i (a :: x.results i)) x.state
  known : ∀ i, ∃ s, between i (x.results i) s ∧ ReflTransGen (Shift I guarantee) s x.state

/-- A step that only looks. -/
theorem Triple.look {I : σ → Prop} {guarantee : ι → σ → σ → Prop} {i : ι} {P : σ → Prop} {Q : α → σ → Prop} {f : σ → α}
    (hrefl : ∀ s, guarantee i s s) (hP : Stable (Shift I guarantee) P) (hQ : ∀ a, Stable (Shift I guarantee) (Q a))
    (h : ∀ s, I s → P s → Q (f s) s) :
    Triple (Rely I guarantee i) (Within I (guarantee i)) (fun s => I s ∧ P s) (.read f) fun a s => I s ∧ Q a s := by
  have hI : ∀ {T : σ → Prop}, Stable (Shift I guarantee) T → Stable (Rely I guarantee i) fun s => I s ∧ T s :=
    fun hT s s' hs hr => ⟨hr.2.2, hT s s' hs.2 hr.shift⟩
  exact .act (hI hP) (fun a => hI (hQ a)) fun s hs => ⟨fun _ => ⟨hrefl s, hs.1⟩, hs.1, h s hs.1 hs.2⟩

/-- A step that a thread is free to take, by what only it can undo. -/
theorem Triple.move {I : σ → Prop} {guarantee : ι → σ → σ → Prop} {i : ι} {P : σ → Prop} {Q : α → σ → Prop}
    {f : σ → α × σ} (hP : Stable (Rely I guarantee i) P) (hQ : ∀ a, Stable (Rely I guarantee i) (Q a))
    (h : ∀ s, I s → P s → guarantee i s (f s).2 ∧ I (f s).2 ∧ Q (f s).1 (f s).2) :
    Triple (Rely I guarantee i) (Within I (guarantee i)) (fun s => I s ∧ P s) (.act f) fun a s => I s ∧ Q a s := by
  have hI : ∀ {T : σ → Prop}, Stable (Rely I guarantee i) T → Stable (Rely I guarantee i) fun s => I s ∧ T s :=
    fun hT s s' hs hr => ⟨hr.2.2, hT s s' hs.2 hr⟩
  refine .act (hI hP) (fun a => hI (hQ a)) fun s hs => ?_
  obtain ⟨hg, hi, hq⟩ := h s hs.1 hs.2
  exact ⟨fun _ => ⟨hg, hi⟩, hi, hq⟩

/-- What a precondition says whatever the state is a hypothesis. -/
theorem Triple.assume {others guarantee : σ → σ → Prop} {I P : σ → Prop} {p : Prog σ α} {Q : α → σ → Prop} {c : Prop}
    (h : c → Triple others guarantee (fun s => I s ∧ P s) p Q) :
    Triple others guarantee (fun s => I s ∧ c ∧ P s) p Q :=
  fun s hs => h hs.2.1 s ⟨hs.1, hs.2.2⟩

/-- The frame rule: what no step at all takes back stays besides what a program
does. -/
theorem Triple.frame {I : σ → Prop} {guarantee : ι → σ → σ → Prop} {i : ι} {P F : σ → Prop} {Q : α → σ → Prop}
    {p : Prog σ α} (hF : Stable (Shift I guarantee) F)
    (h : Triple (Rely I guarantee i) (Within I (guarantee i)) (fun s => I s ∧ P s) p fun a s => I s ∧ Q a s) :
    Triple (Rely I guarantee i) (Within I (guarantee i)) (fun s => I s ∧ F s ∧ P s) p fun a s => I s ∧ F s ∧ Q a s := by
  have hrely : Stable (Rely I guarantee i) fun s => I s ∧ F s :=
    fun s s' hs hr => ⟨hr.2.2, hF s s' hs.2 hr.shift⟩
  have hsafe : ∀ s, I s ∧ F s →
      Safe (Rely I guarantee i) (Within I (guarantee i)) p (fun a s => I s ∧ Q a s) s →
      Safe (Rely I guarantee i) (Within I (guarantee i)) p (fun a s => I s ∧ F s ∧ Q a s) s := by
    clear h
    induction p with
    | done a =>
        intro s hs hp t ht
        obtain ⟨hi, hq⟩ := hp t ht
        exact ⟨hi, (hrely.steps ht hs).2, hq⟩
    | step update next ih =>
        intro s hs hp t ht
        obtain ⟨hit, hft⟩ := hrely.steps ht hs
        obtain ⟨hw, hrest⟩ := hp t ht
        obtain ⟨hg, hi⟩ := hw hit
        exact ⟨hw, ih t _ ⟨hi, hF _ _ hft ⟨⟨i, hg⟩, hit, hi⟩⟩ hrest⟩
  exact fun s hs => hsafe s ⟨hs.1, hs.2.1⟩ (h s ⟨hs.1, hs.2.2⟩)

/-- The end of a program. -/
theorem Triple.rest {I : σ → Prop} {guarantee : ι → σ → σ → Prop} {i : ι} {P : σ → Prop} {Q : α → σ → Prop} {a : α}
    (hQ : Stable (Shift I guarantee) (Q a)) (h : ∀ s, I s → P s → Q a s) :
    Triple (Rely I guarantee i) (Within I (guarantee i)) (fun s => I s ∧ P s) (.done a) fun a s => I s ∧ Q a s :=
  .done (fun s s' hs hr => ⟨hr.2.2, hQ s s' hs.2 hr.shift⟩) fun s hs => ⟨hs.1, h s hs.1 hs.2⟩

namespace Pool

variable [DecidableEq ι] {I : σ → Prop} {guarantee : ι → σ → σ → Prop} {between : ι → List α → σ → Prop}
  {calls : ι → Prog σ α → Prop} {x y z : Pool ι σ α}

omit [DecidableEq ι] in
theorem Start.going (hd : Discipline I guarantee between calls) (hx : Start calls x) (hi : I x.state)
    (hb : ∀ i, between i [] x.state) : Going I guarantee between x where
  inv := hi
  safe := by
    intro i
    rw [hx.results i]
    exact hd.call i _ [] (hx.program i) _ (hb i)
  known := fun i => ⟨x.state, (hx.results i).symm ▸ hb i, .refl⟩

/-- The step rule. A step of one thread is guaranteed, keeps the invariant, and
is one the other threads reckon with. -/
theorem Going.step (hd : Discipline I guarantee between calls) (hx : Going I guarantee between x)
    (hs : Step calls x y) : Going I guarantee between y ∧ (y.state = x.state ∨ Shift I guarantee x.state y.state) := by
  cases hs with
  | @own i update next h =>
      have hsafe := hx.safe i
      rw [h] at hsafe
      obtain ⟨hwithin, hrest⟩ := hsafe x.state .refl
      obtain ⟨hg, hi⟩ := hwithin hx.inv
      have hshift : Shift I guarantee x.state (update x.state) := ⟨⟨i, hg⟩, hx.inv, hi⟩
      refine ⟨⟨hi, fun j => ?_, fun j => ?_⟩, .inr hshift⟩
      · by_cases hj : j = i
        · subst j
          simp only [Function.update_self]
          exact hrest
        · simp only [Function.update_of_ne hj]
          exact (hx.safe j).others_steps (.single ⟨⟨i, Ne.symm hj, hg⟩, hx.inv, hi⟩)
      · obtain ⟨s, hb, hrun⟩ := hx.known j
        exact ⟨s, hb, hrun.tail hshift⟩
  | @call i a p h hp =>
      have hsafe := hx.safe i
      rw [h] at hsafe
      refine ⟨⟨hx.inv, fun j => ?_, fun j => ?_⟩, .inl rfl⟩
      · by_cases hj : j = i
        · subst j
          simp only [Function.update_self]
          exact hd.call i p _ hp _ hsafe.now
        · simp only [Function.update_of_ne hj]
          exact hx.safe j
      · by_cases hj : j = i
        · subst j
          simp only [Function.update_self]
          exact ⟨x.state, hsafe.now, .refl⟩
        · simp only [Function.update_of_ne hj]
          exact hx.known j

/-- The run rule. -/
theorem Going.run (hd : Discipline I guarantee between calls) (hx : Going I guarantee between x)
    (hr : Run calls x y) : Going I guarantee between y ∧ ReflTransGen (Shift I guarantee) x.state y.state := by
  induction hr with
  | refl => exact ⟨hx, .refl⟩
  | tail _ hs ih =>
      obtain ⟨hgoing, hsteps⟩ := ih
      obtain ⟨hnext, he | hshift⟩ := hgoing.step hd hs
      · exact ⟨hnext, he ▸ hsteps⟩
      · exact ⟨hnext, hsteps.tail hshift⟩

omit [DecidableEq ι] in
/-- What follows from what is known between the calls of a thread, and that no
step takes back, is known of all its results. -/
theorem Going.returned (hx : Going I guarantee between x) {fact : List α → σ → Prop} {i : ι}
    (hfact : ∀ results s, I s → between i results s → fact results s)
    (hstable : ∀ results, Stable (Shift I guarantee) (fact results)) : fact (x.returned i) x.state := by
  unfold Pool.returned
  have hsafe := hx.safe i
  cases hp : x.program i with
  | done a =>
      rw [hp] at hsafe
      exact hfact _ _ hx.inv hsafe.now
  | step update next =>
      obtain ⟨s, hb, hrun⟩ := hx.known i
      have hi : I s := by
        rcases ReflTransGen.cases_head hrun with rfl | ⟨t, ht, -⟩
        · exact hx.inv
        · exact ht.2.1
      exact (hstable _).steps hrun (hfact _ _ hi hb)

theorem Run.alone (x : Pool ι σ α) (i : ι) : Run calls x { x with
    state := ((x.program i).run x.state).2
    program := Function.update x.program i (.done ((x.program i).run x.state).1) } := by
  generalize hp : x.program i = p
  induction p generalizing x with
  | done a =>
      have hx : { x with state := x.state, program := Function.update x.program i (.done a) } = x := by
        rw [← hp, Function.update_eq_self]
      change Run calls x { x with state := x.state, program := Function.update x.program i (.done a) }
      rw [hx]
      exact .refl
  | step update next ih =>
      have hrest := ih x.state
        { x with state := update x.state, program := Function.update x.program i (next x.state) }
        (Function.update_self i _ _)
      rw [Function.update_idem] at hrest
      exact .head (.own hp) hrest

end Pool

end RS2ServerFix.Lib
