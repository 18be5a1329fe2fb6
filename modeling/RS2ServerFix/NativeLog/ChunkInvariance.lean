import RS2ServerFix.NativeLog.Receipts

namespace RS2ServerFix.NativeLog

variable {σ : Type}

/-- The scanner between two calls of a reader that resumes it: neither parked
nor failed, its carried bytes within the line buffer. -/
structure ReceiptScanner.Live (s : ReceiptScanner) : Prop where
  notFailed : s.failed = false
  notAwaiting : s.awaitingSubmission = false
  carried : s.line.length ≤ kLineLimit

theorem initializeReceiptScanner_live (initialEOF : Nat) (boundary : Bool) (mode : PrefixMode)
    (runId : List UInt8) : (initializeReceiptScanner initialEOF boundary mode runId).Live :=
  ⟨rfl, rfl, Nat.zero_le _⟩

/-- Every way to cut the rest of a stream into calls. A call sees any prefix
of what the scanner has not consumed, so the bytes after the consumed count
may be passed on as they are or read again in another division. -/
inductive Reads (ops : ReceiptMatchOps σ) :
    ReceiptScanner → σ → List UInt8 → List ReceiptScanResult → ReceiptScanner → σ → Prop
  | done (s m) : Reads ops s m [] [] s m
  | fault (s m stream) (h : s.failed = true) : Reads ops s m stream [] s m
  | call {s m stream chunk rest s' m' r rs t n} (hstream : stream = chunk ++ rest)
      (hscan : scanReceiptChunk ops s m chunk = (s', m', r)) (hr : r.disposition ≠ .awaitingSubmission)
      (h : Reads ops s' m' (stream.drop r.consumed) rs t n) : Reads ops s m stream (r :: rs) t n
  | resume {s m stream chunk rest s' m' r rs t n} (hstream : stream = chunk ++ rest)
      (hscan : scanReceiptChunk ops s m chunk = (s', m', r)) (hr : r.disposition = .awaitingSubmission)
      (h : Reads ops (resumeReceiptScanner s').1 m' (stream.drop r.consumed) rs t n) :
      Reads ops s m stream (r :: rs) t n

/-- The dispositions that stop a call, up to the first fault. Accepted lines
do not stop one: they show only as the disposition of the call they end in. -/
def stops : List ReceiptScanResult → List ReceiptDisposition
  | [] => []
  | r :: rs =>
      match r.disposition with
      | .ignored | .accepted => stops rs
      | .awaitingSubmission => .awaitingSubmission :: stops rs
      | .gap => [.gap]
      | .corrupt => [.corrupt]

def readStream (ops : ReceiptMatchOps σ) :
    List UInt8 → ReceiptScanner → σ → ReceiptScanner × σ × List ReceiptDisposition
  | [], s, m => (s, m, [])
  | c :: bytes, s, m =>
      if s.offset = uint64Max then ({ s with failed := true }, m, [.corrupt])
      else
        match scanByte ops s m c with
        | (s, m, .ignored) => readStream ops bytes s m
        | (s, m, .accepted) => readStream ops bytes s m
        | (s, m, .awaitingSubmission) =>
            let t := readStream ops bytes s m
            (t.1, t.2.1, .awaitingSubmission :: t.2.2)
        | (s, m, .gap) => ({ s with failed := true }, m, [.gap])
        | (s, m, .corrupt) => ({ s with failed := true }, m, [.corrupt])

theorem carryByte_offset (s : ReceiptScanner) (c : UInt8) : (carryByte s c).offset = s.offset := by
  unfold carryByte; split <;> rfl

theorem carryByte_flags (s : ReceiptScanner) (c : UInt8) :
    (carryByte s c).failed = s.failed ∧ (carryByte s c).awaitingSubmission = s.awaitingSubmission := by
  unfold carryByte; split <;> exact ⟨rfl, rfl⟩

theorem carryByte_carried {s : ReceiptScanner} (h : s.line.length ≤ kLineLimit) (c : UInt8) :
    (carryByte s c).line.length ≤ kLineLimit := by
  unfold carryByte
  split
  · simp only [List.length_append, List.length_singleton]; omega
  · exact h

theorem scanByte_offset (ops : ReceiptMatchOps σ) (s : ReceiptScanner) (m : σ) (c : UInt8) :
    (scanByte ops s m c).1.offset = s.offset + 1 := by
  unfold scanByte
  dsimp only
  split
  · rfl
  · split <;> simp [carryByte_offset]

theorem scanByte_live (ops : ReceiptMatchOps σ) {s : ReceiptScanner} (h : s.Live) (m : σ) (c : UInt8) :
    (scanByte ops s m c).1.Live := by
  have hc := carryByte_flags { s with offset := s.offset + 1 } c
  unfold scanByte
  dsimp only
  split
  · exact ⟨h.notFailed, h.notAwaiting, h.carried⟩
  · split
    · exact ⟨hc.1.trans h.notFailed, hc.2.trans h.notAwaiting,
        carryByte_carried (s := { s with offset := s.offset + 1 }) h.carried c⟩
    · exact ⟨hc.1.trans h.notFailed, hc.2.trans h.notAwaiting, Nat.zero_le _⟩

/-- Only the end of a line yields a disposition, and it empties the carry. -/
theorem scanByte_line_empty (ops : ReceiptMatchOps σ) (s : ReceiptScanner) (m : σ) (c : UInt8)
    (h : (scanByte ops s m c).2.2 ≠ .ignored) :
    (scanByte ops s m c).1.line = [] ∧ (scanByte ops s m c).1.oversized = false := by
  unfold scanByte at h ⊢
  dsimp only at h ⊢
  split at h
  · exact absurd rfl h
  · rename_i hskip
    rw [if_neg hskip]
    split at h
    · exact absurd rfl h
    · rename_i hc
      rw [if_neg hc]
      exact ⟨rfl, rfl⟩

/-- How a call ends: it went through its chunk, parked at a match, or failed.
`read` compares the stream from here with the stream from where it ended. -/
inductive CallEnd (ops : ReceiptMatchOps σ) (s : ReceiptScanner) (m : σ) (chunk rest : List UInt8)
    (s' : ReceiptScanner) (m' : σ) (d : ReceiptDisposition) (n : Nat) : Prop
  | through (hd : d = .ignored ∨ d = .accepted) (hn : n = chunk.length) (live : s'.Live)
      (read : readStream ops (chunk ++ rest) s m = readStream ops rest s' m')
  | parked (hd : d = .awaitingSubmission) (live : (resumeReceiptScanner s').1.Live)
      (read : readStream ops (chunk ++ rest) s m =
        ((readStream ops ((chunk ++ rest).drop n) (resumeReceiptScanner s').1 m').1,
          (readStream ops ((chunk ++ rest).drop n) (resumeReceiptScanner s').1 m').2.1,
          .awaitingSubmission :: (readStream ops ((chunk ++ rest).drop n) (resumeReceiptScanner s').1 m').2.2))
  | faulted (hd : d = .gap ∨ d = .corrupt) (hf : s'.failed = true)
      (read : readStream ops (chunk ++ rest) s m = (s', m', [d]))

/-- One more consumed byte in front of a call that went on after it. -/
theorem CallEnd.cons {ops : ReceiptMatchOps σ} {s t s' : ReceiptScanner} {m k m' : σ} {c : UInt8}
    {chunk rest : List UInt8} {d : ReceiptDisposition} {n : Nat}
    (hread : readStream ops (c :: (chunk ++ rest)) s m = readStream ops (chunk ++ rest) t k)
    (h : CallEnd ops t k chunk rest s' m' d n) : CallEnd ops s m (c :: chunk) rest s' m' d (n + 1) := by
  cases h with
  | through hd hn live read => exact .through hd (by simp [hn]) live (hread.trans read)
  | parked hd live read => exact .parked hd live (hread.trans read)
  | faulted hd hf read => exact .faulted hd hf (hread.trans read)

theorem resume_parked {s : ReceiptScanner} (h : s.Live) (hline : s.line = []) (hover : s.oversized = false) :
    resumeReceiptScanner { s with awaitingSubmission := true } = (s, true) := by
  obtain ⟨hf, ha, _⟩ := h
  cases s
  simp_all [resumeReceiptScanner]

theorem scanLoop_end (ops : ReceiptMatchOps σ) (rest chunk : List UInt8) (s : ReceiptScanner) (m : σ)
    (r : ReceiptScanResult) (hs : s.Live) (hr : r.disposition = .ignored ∨ r.disposition = .accepted) :
    ∃ n, (scanLoop ops chunk s m r).2.2.consumed = r.consumed + n ∧
      CallEnd ops s m chunk rest (scanLoop ops chunk s m r).1 (scanLoop ops chunk s m r).2.1
        (scanLoop ops chunk s m r).2.2.disposition n := by
  induction chunk generalizing s m r with
  | nil => exact ⟨0, rfl, .through hr rfl hs rfl⟩
  | cons c chunk ih =>
      by_cases hmax : s.offset = uint64Max
      · refine ⟨0, ?_, .faulted (.inr ?_) ?_ ?_⟩ <;> simp [scanLoop, readStream, hmax]
      · have hlive := scanByte_live ops hs m c
        have hempty := scanByte_line_empty ops s m c
        cases hb : scanByte ops s m c with
        | mk t p =>
          obtain ⟨k, d⟩ := p
          rw [hb] at hlive hempty
          -- The two dispositions the loop goes on after differ only in what it remembers.
          have go : ∀ r' : ReceiptScanResult, r'.consumed = r.consumed + 1 →
              (r'.disposition = .ignored ∨ r'.disposition = .accepted) →
              scanLoop ops (c :: chunk) s m r = scanLoop ops chunk t k r' →
              readStream ops (c :: (chunk ++ rest)) s m = readStream ops (chunk ++ rest) t k →
              ∃ n, (scanLoop ops (c :: chunk) s m r).2.2.consumed = r.consumed + n ∧
                CallEnd ops s m (c :: chunk) rest (scanLoop ops (c :: chunk) s m r).1
                  (scanLoop ops (c :: chunk) s m r).2.1 (scanLoop ops (c :: chunk) s m r).2.2.disposition n := by
            intro r' hcons hd hl hread
            obtain ⟨n, hn, he⟩ := ih t k r' hlive hd
            rw [hl]
            exact ⟨n + 1, by omega, he.cons hread⟩
          cases d with
          | ignored =>
              exact go ⟨r.consumed + 1, r.disposition⟩ rfl hr (by simp only [scanLoop, hmax, if_false, hb])
                (by simp only [readStream, hmax, if_false, hb])
          | accepted =>
              exact go ⟨r.consumed + 1, .accepted⟩ rfl (.inr rfl) (by simp only [scanLoop, hmax, if_false, hb])
                (by simp only [readStream, hmax, if_false, hb])
          | awaitingSubmission =>
              obtain ⟨hl, hov⟩ := hempty (by simp)
              have hres := resume_parked hlive hl hov
              refine ⟨1, ?_, .parked ?_ ?_ ?_⟩
              · simp only [scanLoop, hmax, if_false, hb]
              · simp only [scanLoop, hmax, if_false, hb]
              · simpa only [scanLoop, hmax, if_false, hb, hres] using hlive
              · simp only [scanLoop, List.cons_append, readStream, hmax, if_false, hb, hres,
                  List.drop_succ_cons, List.drop_zero]
          | gap | corrupt =>
              refine ⟨1, ?_, .faulted ?_ ?_ ?_⟩
              · simp only [scanLoop, hmax, if_false, hb]
              · simp [scanLoop, hmax, hb]
              · simp only [scanLoop, hmax, if_false, hb]
              · simp only [scanLoop, List.cons_append, readStream, hmax, if_false, hb]

theorem scanLoop_offset (ops : ReceiptMatchOps σ) (chunk : List UInt8) (s : ReceiptScanner) (m : σ)
    (r : ReceiptScanResult) :
    (scanLoop ops chunk s m r).1.offset + r.consumed = s.offset + (scanLoop ops chunk s m r).2.2.consumed := by
  induction chunk generalizing s m r with
  | nil => rfl
  | cons c chunk ih =>
      have hoff := scanByte_offset ops s m c
      unfold scanLoop
      split
      · rfl
      · split <;> rename_i t k hb <;> simp only [hb] at hoff
        · have := ih t k ⟨r.consumed + 1, r.disposition⟩; dsimp only at this; omega
        · have := ih t k ⟨r.consumed + 1, .accepted⟩; dsimp only at this; omega
        all_goals dsimp only; omega

theorem scanReceiptChunk_consumed (ops : ReceiptMatchOps σ) (s : ReceiptScanner) (m : σ) (chunk : List UInt8) :
    (scanReceiptChunk ops s m chunk).1.offset = s.offset + (scanReceiptChunk ops s m chunk).2.2.consumed := by
  unfold scanReceiptChunk
  split
  · rfl
  · split
    · rfl
    · split
      · rfl
      · simpa using scanLoop_offset ops chunk s m ⟨0, .ignored⟩

theorem scanReceiptChunk_end (ops : ReceiptMatchOps σ) (rest chunk : List UInt8) {s : ReceiptScanner} (m : σ)
    (hs : s.Live) {s' : ReceiptScanner} {m' : σ} {r : ReceiptScanResult}
    (h : scanReceiptChunk ops s m chunk = (s', m', r)) :
    CallEnd ops s m chunk rest s' m' r.disposition r.consumed := by
  obtain ⟨n, hn, he⟩ := scanLoop_end ops rest chunk s m ⟨0, .ignored⟩ hs (.inl rfl)
  have hl : scanReceiptChunk ops s m chunk = scanLoop ops chunk s m ⟨0, .ignored⟩ := by
    simp [scanReceiptChunk, hs.notFailed, hs.notAwaiting, Nat.not_lt.mpr hs.carried]
  rw [← hl, h] at hn he
  rw [Nat.zero_add] at hn
  exact hn ▸ he

/-- After a fault nothing moves: a further call consumes nothing. -/
theorem Reads.of_failed {ops : ReceiptMatchOps σ} {s t : ReceiptScanner} {m n : σ} {stream : List UInt8}
    {rs : List ReceiptScanResult} (h : Reads ops s m stream rs t n) (hs : s.failed = true) : t = s ∧ n = m := by
  induction h with
  | done | fault => exact ⟨rfl, rfl⟩
  | call _ hscan _ _ ih =>
      simp only [scanReceiptChunk, hs, if_true, Prod.mk.injEq] at hscan
      obtain ⟨rfl, rfl, rfl⟩ := hscan
      exact ih hs
  | resume _ hscan hr =>
      simp only [scanReceiptChunk, hs, if_true, Prod.mk.injEq] at hscan
      obtain ⟨rfl, rfl, rfl⟩ := hscan
      exact absurd hr (by simp)

/-- Every reader ends where the stream read as one ends. -/
theorem Reads.readStream_eq {ops : ReceiptMatchOps σ} {s t : ReceiptScanner} {m n : σ} {stream : List UInt8}
    {rs : List ReceiptScanResult} (h : Reads ops s m stream rs t n) (hs : s.Live) :
    readStream ops stream s m = (t, n, stops rs) := by
  induction h with
  | done => rfl
  | fault s m stream hf => exact absurd hf (by simp [hs.notFailed])
  | @call s m stream chunk rest s' m' r rs t n hstream hscan hr h ih =>
      subst hstream
      cases scanReceiptChunk_end ops rest chunk m hs hscan with
      | through hd hn live read =>
          have hdrop : (chunk ++ rest).drop r.consumed = rest := by rw [hn, List.drop_left]
          rw [read, ← hdrop, ih live]
          rcases hd with hd | hd <;> simp [stops, hd]
      | parked hd => exact absurd hd hr
      | faulted hd hf read =>
          obtain ⟨rfl, rfl⟩ := h.of_failed hf
          rw [read]
          rcases hd with hd | hd <;> simp [stops, hd]
  | @resume s m stream chunk rest s' m' r rs t n hstream hscan hr h ih =>
      subst hstream
      cases scanReceiptChunk_end ops rest chunk m hs hscan with
      | through hd => rcases hd with hd | hd <;> simp [hr] at hd
      | parked hd live read => rw [read, ih live]; simp [stops, hr]
      | faulted hd => rcases hd with hd | hd <;> simp [hr] at hd

def historyOps (f : List (List UInt8) → List UInt8 → ReceiptDisposition) : ReceiptMatchOps (List (List UInt8)) :=
  ⟨fun history message => (f history message, history ++ [message])⟩

/-- Two readers of one stream make the same match calls, stop for the same
reasons up to the first fault and leave the same scanner. -/
theorem chunk_invariance (f : List (List UInt8) → List UInt8 → ReceiptDisposition) {s : ReceiptScanner}
    (hs : s.Live) (history : List (List UInt8)) (stream : List UInt8) {rs rs' : List ReceiptScanResult}
    {t t' : ReceiptScanner} {calls calls' : List (List UInt8)}
    (h : Reads (historyOps f) s history stream rs t calls)
    (h' : Reads (historyOps f) s history stream rs' t' calls') :
    calls = calls' ∧ stops rs = stops rs' ∧ t = t' ∧
      ∀ u k chunk, (scanReceiptChunk (historyOps f) u k chunk).1.offset =
        u.offset + (scanReceiptChunk (historyOps f) u k chunk).2.2.consumed := by
  have he := (h.readStream_eq hs).symm.trans (h'.readStream_eq hs)
  simp only [Prod.mk.injEq] at he
  exact ⟨he.2.1, he.2.2, he.1, fun u k chunk => scanReceiptChunk_consumed _ u k chunk⟩

def dispositions (rs : List ReceiptScanResult) : List ReceiptDisposition :=
  (rs.map (·.disposition)).filter (· ≠ .ignored)

/-- One call for the whole of a stream. -/
theorem Reads.whole {ops : ReceiptMatchOps σ} {s : ReceiptScanner} {m : σ} {stream : List UInt8}
    {r : ReceiptScanResult} (h : (scanReceiptChunk ops s m stream).2.2 = r)
    (hr : r.disposition ≠ .awaitingSubmission) (hn : r.consumed = stream.length) :
    Reads ops s m stream [r] (scanReceiptChunk ops s m stream).1 (scanReceiptChunk ops s m stream).2.1 := by
  refine .call (List.append_nil stream).symm (Prod.ext rfl (Prod.ext rfl h)) hr ?_
  rw [hn, List.drop_length]
  exact .done _ _

theorem Reads.head {ops : ReceiptMatchOps σ} {s t : ReceiptScanner} {m n : σ} {chunk rest : List UInt8}
    {r : ReceiptScanResult} {rs : List ReceiptScanResult} (h : (scanReceiptChunk ops s m chunk).2.2 = r)
    (hr : r.disposition ≠ .awaitingSubmission) (hn : r.consumed = chunk.length)
    (hrest : Reads ops (scanReceiptChunk ops s m chunk).1 (scanReceiptChunk ops s m chunk).2.1 rest rs t n) :
    Reads ops s m (chunk ++ rest) (r :: rs) t n := by
  refine .call rfl (Prod.ext rfl (Prod.ext rfl h)) hr ?_
  rwa [hn, List.drop_left]

def sampleRun : List UInt8 := List.replicate 16 0

def sampleLine : List UInt8 :=
  ascii "Log: " ++ kMarker ++ ascii "\x7b\"schema\":3,\"type\":\"state\",\"run_id\":\"" ++ hex sampleRun ++
    [34, carriageReturn, lineFeed]

def sampleScanner : ReceiptScanner := initializeReceiptScanner 0 true .logOnly sampleRun

def acceptAll : ReceiptMatchOps (List (List UInt8)) := historyOps (fun _ _ => .accepted)

theorem sampleLine_length : sampleLine.length = 98 := by decide +kernel

def sampleAfterOne : ReceiptScanner × List (List UInt8) × ReceiptScanResult :=
  scanReceiptChunk acceptAll sampleScanner [] sampleLine

theorem sample_together : Reads acceptAll sampleScanner [] (sampleLine ++ sampleLine) [⟨196, .accepted⟩]
    (scanReceiptChunk acceptAll sampleScanner [] (sampleLine ++ sampleLine)).1
    (scanReceiptChunk acceptAll sampleScanner [] (sampleLine ++ sampleLine)).2.1 := by
  have h : (scanReceiptChunk acceptAll sampleScanner [] (sampleLine ++ sampleLine)).2.2 = ⟨196, .accepted⟩ := by
    decide +kernel
  exact Reads.whole h (by simp) (by simp [sampleLine_length])

theorem sample_apart : Reads acceptAll sampleScanner [] (sampleLine ++ sampleLine)
    [⟨98, .accepted⟩, ⟨98, .accepted⟩]
    (scanReceiptChunk acceptAll sampleAfterOne.1 sampleAfterOne.2.1 sampleLine).1
    (scanReceiptChunk acceptAll sampleAfterOne.1 sampleAfterOne.2.1 sampleLine).2.1 := by
  have hfirst : (scanReceiptChunk acceptAll sampleScanner [] sampleLine).2.2 = ⟨98, .accepted⟩ := by decide +kernel
  have hsecond : (scanReceiptChunk acceptAll sampleAfterOne.1 sampleAfterOne.2.1 sampleLine).2.2 = ⟨98, .accepted⟩ := by
    decide +kernel
  unfold sampleAfterOne at hsecond ⊢
  exact Reads.head hfirst (by simp) sampleLine_length.symm (Reads.whole hsecond (by simp) sampleLine_length.symm)

theorem chunk_invariance_sample :
    (scanReceiptChunk acceptAll sampleScanner [] (sampleLine ++ sampleLine)).1 =
      (scanReceiptChunk acceptAll sampleAfterOne.1 sampleAfterOne.2.1 sampleLine).1 :=
  (chunk_invariance _ (initializeReceiptScanner_live ..) [] _ sample_together sample_apart).2.2.1

/-- Two accepted lines show once when one call reads both and twice when each
has its own call. -/
theorem accepted_lines_merge :
    ¬ ∀ (f : List (List UInt8) → List UInt8 → ReceiptDisposition) (s : ReceiptScanner)
      (history : List (List UInt8)) (stream : List UInt8) (rs rs' : List ReceiptScanResult)
      (t t' : ReceiptScanner) (calls calls' : List (List UInt8)), s.Live →
      Reads (historyOps f) s history stream rs t calls → Reads (historyOps f) s history stream rs' t' calls' →
      dispositions rs = dispositions rs' := by
  intro hall
  have h := hall _ _ _ _ _ _ _ _ _ _ (initializeReceiptScanner_live ..) sample_together sample_apart
  exact absurd h (by decide)

end RS2ServerFix.NativeLog
