import Mathlib.Data.Fintype.Option
import Mathlib.Data.Fintype.BigOperators
import Mathlib.Algebra.BigOperators.Group.Finset.Basic
import RS2ServerFix.Observer.Log

namespace RS2ServerFix.Observer.Log

open Lib

variable {κ : Type}

/-- The writer, its threads (the one that writes is `none`) and, from `counted`
on, what no code keeps: the exact numbers behind the counters, the calls begun,
the events in the hands of each thread, all events ever queued and what was
handed to the write operation. -/
structure World (κ : Type) where
  status : WriterStatus
  error : Nat
  armed : Bool
  stop : Bool
  lock : Option (Option κ)
  queue : Circular QueuedEvent
  nextQueueSequence : Nat
  queueDepth : Nat
  word : Counter → Nat
  counted : Counter → Nat
  published : Nat
  inHand : Option κ → Nat
  enqueued : List QueuedEvent
  file : List Written

variable [DecidableEq κ]

namespace World

variable (s : World κ) (i : Option κ)

def count (counter : Counter) (delta : Nat) : World κ := { s with
  word := Function.update s.word counter (if int64Max - s.word counter < delta then int64Max else s.word counter + delta)
  counted := Function.update s.counted counter (s.counted counter + delta)
  inHand := Function.update s.inHand i (s.inHand i - if counter = .bytesWritten then 0 else delta) }

def put (e : Event) : World κ := { s with
  queue := s.queue.push kQueueCapacity ⟨e, s.nextQueueSequence + 1⟩
  nextQueueSequence := s.nextQueueSequence + 1
  inHand := Function.update s.inHand i (s.inHand i - 1)
  enqueued := s.enqueued ++ [⟨e, s.nextQueueSequence + 1⟩] }

def batchSize : Nat := if s.queue.count < kBatchCount then s.queue.count else kBatchCount

def taken : List QueuedEvent × Circular QueuedEvent :=
  Circular.take kQueueCapacity ⟨noEvent, 0⟩ s.batchSize s.queue

def handOut : World κ := { s with
  queue := s.taken.2
  inHand := Function.update s.inHand i (s.inHand i + s.taken.1.length) }

end World

/-- The lock is had by one thread at a time: the one waits for it, and the other
goes on without. What is read from elsewhere may be anything. -/
def responds (i : Option κ) : Responds Op Op.Answer (World κ)
  | .status, s, answer, t => answer = s.status ∧ t = s
  | .setStatus status, s, _, t => t = { s with status := status }
  | .setError error, s, _, t => t = { s with error := error }
  | .armed, s, answer, t => answer = s.armed ∧ t = s
  | .stop, s, answer, t => answer = s.stop ∧ t = s
  | .setDepth, s, _, t => t = { s with queueDepth := s.queue.count }
  | .read counter, s, answer, t => answer = s.word counter ∧ t = s
  | .add counter delta, s, _, t => t = s.count i counter delta
  | .tryAcquire, s, answer, t =>
      answer = true ∧ s.lock = none ∧ t = { s with lock := some i } ∨ answer = false ∧ s.lock ≠ none ∧ t = s
  | .acquire, s, _, t => s.lock = none ∧ t = { s with lock := some i }
  | .release, s, _, t => t = { s with lock := none }
  | .full, s, answer, t => answer = decide (s.queue.count = kQueueCapacity) ∧ t = s
  | .enqueue event, s, _, t => t = s.put i event
  | .takeBatch, s, answer, t => answer = s.taken.1 ∧ t = s.handOut i
  | .write kind length, s, answer, t => t = { s with file := s.file ++ [⟨kind, length, answer⟩] }
  | _, s, _, t => t = s

def starts (limit : Nat) : Option κ → Except Empty Unit × Keeping → Ask Op Op.Answer (Except Empty Unit × Keeping) →
    World κ → World κ → Prop
  | some i, r, p, s, t => ∃ event, p = publish event r.2 ∧
      t = { s with published := s.published + 1, inHand := Function.update s.inHand (some i) 1 }
  | none, r, p, s, t => r.2.mode ≠ .exited ∧ p = round limit r.2 r.2 ∧ t = s

def outside (s t : World κ) : Prop :=
  ∃ armed stop, (s.armed = true → armed = true) ∧ (s.stop = true → stop = true) ∧
    t = { s with armed := armed, stop := stop }

/-- The bytes of a record; an answer that claims more than it was given counts for nothing. -/
def recordBytes (w : Written) : Nat := if w.length < w.answer.written then 0 else w.answer.written

def fileBytes (file : List Written) : Nat := (file.map recordBytes).sum

def Torn (w : Written) : Prop := w.answer.written ≠ 0 ∧ w.answer.written ≠ w.length

def Followed (w : Written) : Prop := ¬Torn w ∧ w.kind ≠ .footer

structure FileShape (limit : Nat) (file : List Written) : Prop where
  bytes : fileBytes file ≤ limit
  reserve : (∀ w ∈ file, w.kind ≠ .footer) → fileBytes file ≤ limit - kFooterReserve
  followed : file.Pairwise fun w _ => Followed w
  footer : ∀ w ∈ file, w.kind = .footer → w.length ≤ kFooterReserve

/-- The sequence numbers run from one, and what is queued is the last of what was ever queued. -/
structure Ordered (s : World κ) : Prop where
  numbers : s.enqueued.map QueuedEvent.sequence = List.range' 1 s.nextQueueSequence
  queue : ∃ front, s.enqueued = front ++ s.queue.contents kQueueCapacity

structure Conserved [Fintype κ] (s : World κ) : Prop where
  events : s.published = s.counted .eventsWritten + s.counted .droppedContention + s.counted .droppedFull +
    s.counted .abandoned + s.queue.count + ∑ i, s.inHand i
  calls : ∀ i : κ, s.inHand (some i) ≤ 1
  batch : s.inHand none ≤ kBatchCount
  words : ∀ counter, s.word counter = min int64Max (s.counted counter)

end RS2ServerFix.Observer.Log
