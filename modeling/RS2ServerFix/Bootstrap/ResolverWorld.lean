import RS2ServerFix.Lib.Crew
import RS2ServerFix.Lib.Custody
import RS2ServerFix.Bootstrap.Resolver

namespace RS2ServerFix.Bootstrap

open Lib

variable {κ : Type}

/-- The state that all callers share. No code keeps who writes the fallback, nor
the references to modules and the allocated records with where each one is. -/
structure World (κ : Type) where
  normal : Option Place
  fallbackState : FallbackState
  record : Place → X3AudioDispatch
  writer : Option κ
  modules : Custody κ Nat Place
  records : Custody κ Nat Place

namespace World

variable (s : World κ)

def Published (p : Place) : Prop := s.normal = some p ∨ p = .fallback ∧ s.fallbackState = .ready

def load (i : κ) (module : Nat) : World κ := { s with modules := s.modules.take i module }

def write (p : Place) (d : X3AudioDispatch) : World κ := { s with record := Function.update s.record p d }

def startWriting (i : κ) : World κ := { s with fallbackState := .writing, writer := some i }

noncomputable def setReady (i : κ) : World κ := { s with
  fallbackState := .ready
  writer := none
  modules := s.modules.publish i .fallback }

noncomputable def complete (i : κ) (p : Place) : World κ :=
  if p = .fallback then { s with normal := some p }
  else { s with normal := some p, modules := s.modules.publish i p, records := s.records.publish i p }

end World

/-- The operations may fail, and what they find may be anything. A begin that
succeeds without being pending tells what was published, and a completion
publishes exactly when it says so, once. What is allocated is not in use. -/
def responds (bootstrap : Nat) (i : κ) : Responds Op Op.Answer (World κ)
  | .loadSystemLibrary _, s, answer, t =>
      t = if answer.1 ≠ 0 ∧ answer.1 ≠ bootstrap then s.load i answer.1 else s
  | .freeLibrary module, s, _, t => ∃ c, s.modules.Returned c i module ∧ t = { s with modules := c }
  | .allocateDispatch, s, answer, t =>
      answer = .null ∧ t = s ∨
        ∃ a, answer = .heap a ∧ (∀ n, s.records.Live n → s.records.thing n ≠ a) ∧
          t = { s with records := s.records.take i a }
  | .freeDispatch p, s, _, t => ∃ a c, p = .heap a ∧ s.records.Returned c i a ∧ t = { s with records := c }
  | .beginOnce _, s, answer, t =>
      (answer.1 = true → answer.2.1 = false → answer.2.2 ≠ .null → s.normal = some answer.2.2) ∧ t = s
  | .completeOnce p, s, answer, t => answer = true ∧ s.normal = none ∧ t = s.complete i p ∨ answer = false ∧ t = s
  | .readRecord p, s, answer, t => answer = s.record p ∧ t = s
  | .writeRecord p d, s, _, t => t = s.write p d
  | .fallbackState, s, answer, t => answer = s.fallbackState ∧ t = s
  | .startWriting, s, answer, t =>
      answer = true ∧ s.fallbackState = .empty ∧ t = s.startWriting i ∨ answer = false ∧ s.fallbackState ≠ .empty ∧
        t = s
  | .setReady, s, _, t => t = s.setReady i
  | _, s, _, t => t = s

def starts (ops : GenuineResolverOps) (bootstrap : Nat) (_ : κ) (lease : GenuineDispatchLease)
    (p : Work GenuineDispatchLease) (s t : World κ) : Prop :=
  t = s ∧ (p = releaseGenuineX3AudioLease ops lease ∨ lease.valid = false ∧ p = acquireGenuineX3Audio ops bootstrap)

def outside (_ _ : World κ) : Prop := False

structure Known where
  reference : Option (Nat × Nat)
  record : Option (Nat × Nat)
  writing : Bool
  sees : Place → Option X3AudioDispatch

namespace Known

variable (l : Known)

def Owns (p : Place) : Prop := (∃ n a, l.record = some (n, a) ∧ p = .heap a) ∨ p = .fallback ∧ l.writing = true

def take (r m : Nat) : Known := { l with reference := some (r, m) }

def give : Known := { l with reference := none }

def allocate (n a : Nat) : Known := { l with record := some (n, a) }

def see (p : Place) (d : X3AudioDispatch) : Known := { l with sees := Function.update l.sees p (some d) }

def forget (p : Place) : Known := { l with record := none, sees := Function.update l.sees p none }

def startWriting : Known := { l with writing := true }

def setReady : Known := { l with writing := false, reference := none }

def publish : Known := { l with reference := none, record := none }

def Behind (p : Place) : Prop :=
  ∃ d r, l.sees p = some d ∧ isCompleteDispatch d = true ∧ l.reference = some (r, d.module)

end Known

def may : Op → Known → Prop
  | .loadSystemLibrary _, l => l.reference = none
  | .freeLibrary module, l => ∃ r, l.reference = some (r, module)
  | .allocateDispatch, l => l.record = none
  | .freeDispatch p, l => ∃ n a, l.record = some (n, a) ∧ p = .heap a
  | .completeOnce p, l =>
      p = .fallback ∧ l.writing = false ∧ l.sees .fallback ≠ none ∨ (∃ n a, l.record = some (n, a) ∧ p = .heap a) ∧
        l.Behind p
  | .readRecord p, l => l.sees p ≠ none
  | .writeRecord p _, l => l.Owns p
  | .startWriting, l => l.writing = false
  | .setReady, l => l.writing = true ∧ l.Behind .fallback
  | _, _ => True

def answers (bootstrap : Nat) : Responds Op Op.Answer Known
  | .loadSystemLibrary _, l, answer, l' =>
      if answer.1 ≠ 0 ∧ answer.1 ≠ bootstrap then ∃ r, l' = l.take r answer.1 else l' = l
  | .freeLibrary _, l, _, l' => l' = l.give
  | .allocateDispatch, l, answer, l' => answer = .null ∧ l' = l ∨ ∃ n a, answer = .heap a ∧ l' = l.allocate n a
  | .freeDispatch p, l, _, l' => l' = l.forget p
  | .beginOnce _, l, answer, l' =>
      if answer.1 = true ∧ answer.2.1 = false ∧ answer.2.2 ≠ .null then
        ∃ d, isCompleteDispatch d = true ∧ l' = l.see answer.2.2 d
      else l' = l
  | .completeOnce p, l, answer, l' => l' = bif answer && p ≠ .fallback then l.publish else l
  | .readRecord p, l, answer, l' => l.sees p = some answer ∧ l' = l
  | .writeRecord p d, l, _, l' => l' = l.see p d
  | .fallbackState, l, answer, l' =>
      answer = .ready ∧ (∃ d, isCompleteDispatch d = true ∧ l' = l.see .fallback d) ∨ answer ≠ .ready ∧ l' = l
  | .startWriting, l, answer, l' => l' = bif answer then l.startWriting else l
  | .setReady, l, _, l' => l' = l.setReady
  | _, l, _, l' => l' = l

def view (bootstrap : Nat) : View Op Op.Answer Known := ⟨may, answers bootstrap⟩

/-- What a caller knows is so. -/
structure Fits (s : World κ) (i : κ) (l : Known) : Prop where
  modules : s.modules.Holds i l.reference
  records : s.records.Holds i l.record
  writing : l.writing = true ↔ s.writer = some i
  sees : ∀ p d, l.sees p = some d → s.record p = d ∧ (s.Published p ∨ l.Owns p)

structure Whole (s : World κ) : Prop where
  bornModules : s.modules.Born
  bornRecords : s.records.Born
  strayModules : s.modules.stray = 0
  strayRecords : s.records.stray = 0
  writer : s.writer ≠ none ↔ s.fallbackState = .writing
  /-- Records in use are apart. -/
  apart : ∀ n m, s.records.Live n → s.records.Live m → s.records.thing n = s.records.thing m → n = m
  /-- A published record is the one in the state, ready, or one that was allocated. -/
  normal : ∀ p, s.normal = some p → p = .fallback ∧ s.fallbackState = .ready ∨
    ∃ n, p = .heap (s.records.thing n) ∧ s.records.fate n = .published p
  complete : ∀ p, s.Published p → isCompleteDispatch (s.record p) = true
  /-- Behind each published record is one reference. -/
  retained : ∀ p, s.Published p → ∃ r, s.modules.fate r = .published p ∧ s.modules.thing r = (s.record p).module
  once : ∀ r r' p, s.modules.fate r = .published p → s.modules.fate r' = .published p → r = r'
  modulesPublished : ∀ r p, s.modules.fate r = .published p → s.Published p
  recordsPublished : ∀ n p, s.records.fate n = .published p → s.Published p ∧ p = .heap (s.records.thing n)

structure Agrees (ls : κ → Known) (s : World κ) : Prop where
  fits : ∀ i, Fits s i (ls i)
  whole : Whole s

structure Rest (ops : GenuineResolverOps) (lease : GenuineDispatchLease) (l : Known) : Prop where
  record : l.record = none
  writing : l.writing = false
  complete : lease.valid = true → isCompleteDispatch lease.dispatch = true
  carries : lease.valid = true → lease.releaseModuleOnClose = true →
    ops.freeLibrary = true ∧ ∃ r, l.reference = some (r, lease.dispatch.module)
  nothing : (lease.valid = true → lease.releaseModuleOnClose = false) → l.reference = none

end RS2ServerFix.Bootstrap
