import RS2ServerFix.Observer.LogWorld

namespace RS2ServerFix.Observer.Log

open Lib

/-- What the writing thread knows, since nobody else changes it. -/
structure Own where
  status : WriterStatus
  counted : Nat
  file : List Written

structure Known where
  locked : Bool
  room : Bool
  held : Nat
  own : Option Own

/-- A record that may be handed to the write operation. -/
structure MayWrite (limit : Nat) (kind : RecordKind) (length : Nat) (file : List Written) : Prop where
  followed : ∀ w ∈ file, Followed w
  bytes : fileBytes file + length ≤ recordCap limit kind
  footer : kind = .footer → length ≤ kFooterReserve

def may (limit : Nat) : Op → Known → Prop
  | .setStatus _, l => l.own ≠ none
  | .setError _, l => l.own ≠ none
  | .read counter, l => counter = .bytesWritten ∧ l.own ≠ none
  | .add counter delta, l =>
      if counter = .bytesWritten then ∃ o, l.own = some o ∧ o.counted + delta ≤ fileBytes o.file else delta ≤ l.held
  | .tryAcquire, l => l.locked = false
  | .acquire, l => l.locked = false
  | .release, l => l.locked = true
  | .full, l => l.locked = true
  | .enqueue _, l => l.room = true ∧ 1 ≤ l.held
  | .takeBatch, l => l.locked = true ∧ l.own ≠ none ∧ l.held = 0
  | .write kind length, l => ∃ o, l.own = some o ∧ MayWrite limit kind length o.file
  | _, _ => True

namespace Known

variable (l : Known)

def lock (locked : Bool) : Known := { l with locked := locked }

def free : Known := { l with locked := false, room := false }

def find (room : Bool) : Known := { l with room := room }

def put : Known := { l with room := false, held := l.held - 1 }

def take (n : Nat) : Known := { l with room := false, held := l.held + n }

def begin : Known := { l with held := 1 }

def setOwn (f : Own → Own) : Known := { l with own := l.own.map f }

def count (counter : Counter) (delta : Nat) : Known :=
  if counter = .bytesWritten then l.setOwn fun o => { o with counted := o.counted + delta }
  else { l with held := l.held - delta }

end Known

def answers : Responds Op Op.Answer Known
  | .status, l, answer, l' => (∀ o, l.own = some o → answer = o.status) ∧ l' = l
  | .setStatus status, l, _, l' => l' = l.setOwn fun o => { o with status := status }
  | .read _, l, answer, l' => (∀ o, l.own = some o → answer = o.counted) ∧ l' = l
  | .add counter delta, l, _, l' => l' = l.count counter delta
  | .tryAcquire, l, answer, l' => l' = l.lock answer
  | .acquire, l, _, l' => l' = l.lock true
  | .release, l, _, l' => l' = l.free
  | .full, l, answer, l' => l' = l.find !answer
  | .enqueue _, l, _, l' => l' = l.put
  | .takeBatch, l, answer, l' => l' = l.take (List.length (α := QueuedEvent) answer)
  | .write kind length, l, answer, l' => l' = l.setOwn fun o => { o with file := o.file ++ [⟨kind, length, answer⟩] }
  | _, l, _, l' => l' = l

def view (limit : Nat) : View Op Op.Answer Known := ⟨may limit, answers⟩

variable {κ : Type} [DecidableEq κ]

def World.own (s : World κ) : Option κ → Option Own
  | none => some ⟨s.status, s.counted .bytesWritten, s.file⟩
  | some _ => none

/-- What a thread knows is so. -/
structure Fits (s : World κ) (i : Option κ) (l : Known) : Prop where
  lock : l.locked = true ↔ s.lock = some i
  room : l.room = true → l.locked = true ∧ s.queue.count < kQueueCapacity
  held : s.inHand i = l.held
  own : l.own = s.own i

structure Whole [Fintype κ] (limit : Nat) (s : World κ) : Prop where
  head : s.queue.head < kQueueCapacity
  count : s.queue.count ≤ kQueueCapacity
  bytes : s.counted .bytesWritten ≤ fileBytes s.file
  conserved : Conserved s
  ordered : Ordered s
  shape : FileShape limit s.file

structure Agrees [Fintype κ] (limit : Nat) (ls : Option κ → Known) (s : World κ) : Prop where
  fits : ∀ i, Fits s i (ls i)
  whole : Whole limit s

section Sum

variable [Fintype κ]

theorem sum_update (f : Option κ → Nat) (i : Option κ) (n : Nat) :
    ∑ j, Function.update f i n j + f i = ∑ j, f j + n := by
  rw [Finset.sum_update_of_mem (Finset.mem_univ i), ← Finset.add_sum_erase _ f (Finset.mem_univ i),
    Finset.sdiff_singleton_eq_erase]
  omega

end Sum

theorem fileBytes_append (file : List Written) (w : Written) :
    fileBytes (file ++ [w]) = fileBytes file + recordBytes w := by
  simp [fileBytes]

theorem recordBytes_le (w : Written) : recordBytes w ≤ w.length := by
  unfold recordBytes
  split
  · exact Nat.zero_le _
  · omega

theorem FileShape.append {limit : Nat} {file : List Written} (h : FileShape limit file) {kind : RecordKind}
    {length : Nat}
    (hmay : MayWrite limit kind length file) (answer : WriteAnswer) : FileShape limit (file ++ [⟨kind, length,
      answer⟩]) where
  bytes := by
    have hrecord : recordBytes ⟨kind, length, answer⟩ ≤ length := recordBytes_le _
    have hbytes := hmay.bytes
    rw [fileBytes_append]
    unfold recordCap at hbytes
    omega
  reserve := by
    intro hno
    have hkind : kind ≠ .footer := hno ⟨kind, length, answer⟩ (List.mem_append_right _ (List.mem_singleton_self _))
    have hrecord : recordBytes ⟨kind, length, answer⟩ ≤ length := recordBytes_le _
    have hbytes := hmay.bytes
    rw [recordCap, if_neg hkind] at hbytes
    rw [fileBytes_append]
    omega
  followed := List.pairwise_append.mpr ⟨h.followed, List.pairwise_singleton _ _, fun w hw _ _ => hmay.followed w hw⟩
  footer := by
    intro w hw hkind
    rcases List.mem_append.mp hw with hw | hw
    · exact h.footer w hw hkind
    · obtain rfl := List.mem_singleton.mp hw
      exact hmay.footer hkind

theorem Ordered.put {s : World κ} (h : Ordered s) (hroom : s.queue.count < kQueueCapacity) (i : Option κ) (e : Event) :
    Ordered (s.put i e) where
  numbers := by
    simp only [World.put, List.map_append, List.map_cons, List.map_nil, h.numbers, List.range'_concat, Nat.one_mul]
    rw [Nat.add_comm 1]
  queue := by
    obtain ⟨front, hfront⟩ := h.queue
    refine ⟨front, ?_⟩
    simp only [World.put]
    rw [Circular.contents_push hroom, hfront, List.append_assoc]

omit [DecidableEq κ] in
theorem batchSize_le (s : World κ) : s.batchSize ≤ s.queue.count := by
  unfold World.batchSize
  split
  · exact le_refl _
  · omega

omit [DecidableEq κ] in
theorem batchSize_le_batch (s : World κ) : s.batchSize ≤ kBatchCount := by
  unfold World.batchSize
  split
  · omega
  · exact le_refl _

omit [DecidableEq κ] in
theorem taken_length (s : World κ) (hcount : s.queue.count ≤ kQueueCapacity) (hhead : s.queue.head < kQueueCapacity) :
    s.taken.1.length = s.batchSize := by
  have htake := (Circular.contents_take ⟨noEvent, 0⟩ (batchSize_le s) hcount hhead).1
  rw [World.taken, htake, List.length_take, Circular.contents_length]
  exact Nat.min_eq_left (batchSize_le s)

omit [DecidableEq κ] in
theorem taken_count (s : World κ) : s.taken.2.count = s.queue.count - s.batchSize := by
  simp only [World.taken, Circular.take, Circular.drain_count]

theorem Ordered.handOut {s : World κ} (h : Ordered s) (hcount : s.queue.count ≤ kQueueCapacity)
    (hhead : s.queue.head < kQueueCapacity) (i : Option κ) : Ordered (s.handOut i) where
  numbers := h.numbers
  queue := by
    obtain ⟨front, hfront⟩ := h.queue
    have htake := (Circular.contents_take ⟨noEvent, 0⟩ (batchSize_le s) hcount hhead).2
    refine ⟨front ++ (s.queue.contents kQueueCapacity).take s.batchSize, ?_⟩
    have hall := List.take_append_drop s.batchSize (s.queue.contents kQueueCapacity)
    simp only [World.handOut, World.taken]
    rw [htake, List.append_assoc, hall, hfront]

variable [Fintype κ]

omit [Fintype κ] in
theorem count_words {s : World κ} (h : ∀ c, s.word c = min int64Max (s.counted c)) (i : Option κ) (counter : Counter)
    (delta : Nat) (c : Counter) : (s.count i counter delta).word c = min int64Max ((s.count i counter delta).counted c) := by
  simp only [World.count]
  by_cases hc : c = counter
  · subst hc
    rw [Function.update_self, Function.update_self]
    have hword := h c
    split <;> omega
  · rw [Function.update_of_ne hc, Function.update_of_ne hc]
    exact h c

theorem count_events {s : World κ} (h : Conserved s) {i : Option κ} {counter : Counter} {delta : Nat}
    (hcounter : counter ≠ .bytesWritten) (hdelta : delta ≤ s.inHand i) : Conserved (s.count i counter delta) where
  events := by
    have hsum := sum_update s.inHand i (s.inHand i - delta)
    have hevents := h.events
    have hall : (s.count i counter delta).inHand = Function.update s.inHand i (s.inHand i - delta) := by
      simp only [World.count, if_neg hcounter]
    rw [hall]
    cases counter with
    | bytesWritten => exact absurd rfl hcounter
    | _ =>
        simp only [World.count, Function.update_self, ne_eq, reduceCtorEq, not_false_eq_true, Function.update_of_ne]
        omega
  calls := by
    intro j
    simp only [World.count]
    by_cases hj : some j = i
    · subst hj
      rw [Function.update_self]
      exact (Nat.sub_le _ _).trans (h.calls j)
    · rw [Function.update_of_ne hj]
      exact h.calls j
  batch := by
    simp only [World.count]
    by_cases hi : none = i
    · subst hi
      rw [Function.update_self]
      exact (Nat.sub_le _ _).trans h.batch
    · rw [Function.update_of_ne hi]
      exact h.batch
  words := count_words h.words i counter delta

theorem count_bytes {s : World κ} (h : Conserved s) (i : Option κ) (delta : Nat) :
    Conserved (s.count i .bytesWritten delta) where
  events := by
    have hall : (s.count i .bytesWritten delta).inHand = s.inHand := by
      simp only [World.count, if_true, Nat.sub_zero, Function.update_eq_self]
    rw [hall]
    simp only [World.count, ne_eq, reduceCtorEq, not_false_eq_true, Function.update_of_ne]
    exact h.events
  calls := by
    have hall : (s.count i .bytesWritten delta).inHand = s.inHand := by
      simp only [World.count, if_true, Nat.sub_zero, Function.update_eq_self]
    rw [hall]
    exact h.calls
  batch := by
    have hall : (s.count i .bytesWritten delta).inHand = s.inHand := by
      simp only [World.count, if_true, Nat.sub_zero, Function.update_eq_self]
    rw [hall]
    exact h.batch
  words := count_words h.words i .bytesWritten delta

theorem put_events {s : World κ} (h : Conserved s) {i : Option κ} (e : Event) (hheld : 1 ≤ s.inHand i) :
    Conserved (s.put i e) where
  events := by
    have hsum := sum_update s.inHand i (s.inHand i - 1)
    have hevents := h.events
    simp only [World.put, Circular.push]
    omega
  calls := by
    intro j
    simp only [World.put]
    by_cases hj : some j = i
    · subst hj
      rw [Function.update_self]
      exact (Nat.sub_le _ _).trans (h.calls j)
    · rw [Function.update_of_ne hj]
      exact h.calls j
  batch := by
    simp only [World.put]
    by_cases hi : none = i
    · subst hi
      rw [Function.update_self]
      exact (Nat.sub_le _ _).trans h.batch
    · rw [Function.update_of_ne hi]
      exact h.batch
  words := h.words

theorem handOut_events {s : World κ} (h : Conserved s) (hcount : s.queue.count ≤ kQueueCapacity)
    (hhead : s.queue.head < kQueueCapacity) (hempty : s.inHand none = 0) : Conserved (s.handOut none) where
  events := by
    have hsum := sum_update s.inHand none (s.inHand none + s.taken.1.length)
    have hevents := h.events
    have hlength := taken_length s hcount hhead
    have hle := batchSize_le s
    simp only [World.handOut, taken_count]
    omega
  calls := fun j => h.calls j
  batch := by
    have hlength := taken_length s hcount hhead
    have hsize := batchSize_le_batch s
    simp only [World.handOut, Function.update_self]
    omega
  words := h.words

end RS2ServerFix.Observer.Log
