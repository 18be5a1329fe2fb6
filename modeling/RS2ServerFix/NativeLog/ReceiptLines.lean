import Mathlib.Data.List.Induction
import RS2ServerFix.NativeLog.Receipts

namespace RS2ServerFix.NativeLog

variable {σ : Type}

def lineStep (p : List (List UInt8) × List UInt8) (c : UInt8) : List (List UInt8) × List UInt8 :=
  if c = lineFeed then (p.1 ++ [p.2 ++ [c]], []) else (p.1, p.2 ++ [c])

def splitLines (bytes : List UInt8) : List (List UInt8) × List UInt8 := bytes.foldl lineStep ([], [])

def closedLines (bytes : List UInt8) : List (List UInt8) := (splitLines bytes).1

def openLine (bytes : List UInt8) : List UInt8 := (splitLines bytes).2

theorem splitLines_snoc (bytes : List UInt8) (c : UInt8) :
    splitLines (bytes ++ [c]) = lineStep (splitLines bytes) c := by
  rw [splitLines, List.foldl_append]
  rfl

theorem closedLines_snoc_feed (bytes : List UInt8) :
    closedLines (bytes ++ [lineFeed]) = closedLines bytes ++ [openLine bytes ++ [lineFeed]] ∧
      openLine (bytes ++ [lineFeed]) = [] := by
  simp [closedLines, openLine, splitLines_snoc, lineStep]

theorem closedLines_snoc_other (bytes : List UInt8) {c : UInt8} (hc : c ≠ lineFeed) :
    closedLines (bytes ++ [c]) = closedLines bytes ∧ openLine (bytes ++ [c]) = openLine bytes ++ [c] := by
  simp [closedLines, openLine, splitLines_snoc, lineStep, hc]

theorem openLine_append (bytes : List UInt8) {line : List UInt8} (hline : lineFeed ∉ line) :
    closedLines (bytes ++ line) = closedLines bytes ∧ openLine (bytes ++ line) = openLine bytes ++ line := by
  induction line using List.reverseRecOn with
  | nil => simp
  | append_singleton line c ih =>
      simp only [List.mem_append, List.mem_singleton, not_or] at hline
      obtain ⟨hclosed, hopen⟩ := ih hline.1
      obtain ⟨h1, h2⟩ := closedLines_snoc_other (bytes ++ line) (Ne.symm hline.2)
      rw [← List.append_assoc]
      exact ⟨h1.trans hclosed, by rw [h2, hopen, List.append_assoc]⟩

/-- A whole line behind others. -/
theorem closedLines_line (bytes : List UInt8) {line : List UInt8} (hline : lineFeed ∉ line) :
    closedLines (bytes ++ (line ++ [lineFeed])) = closedLines bytes ++ [openLine bytes ++ line ++ [lineFeed]] ∧
      openLine (bytes ++ (line ++ [lineFeed])) = [] := by
  obtain ⟨hclosed, hopen⟩ := openLine_append bytes hline
  obtain ⟨hnext, hempty⟩ := closedLines_snoc_feed (bytes ++ line)
  rw [← List.append_assoc]
  exact ⟨by rw [hnext, hclosed, hopen], hempty⟩

theorem closedLines_prefix (bytes more : List UInt8) : closedLines bytes <+: closedLines (bytes ++ more) := by
  induction more using List.reverseRecOn with
  | nil => simp
  | append_singleton more c ih =>
      rw [← List.append_assoc]
      refine ih.trans ?_
      by_cases hc : c = lineFeed
      · subst hc
        rw [(closedLines_snoc_feed _).1]
        exact List.prefix_append _ _
      · exact (closedLines_snoc_other (bytes ++ more) hc).1 ▸ List.prefix_rfl

/-- What a whole line says: nothing to this run, a broken frame of it, or the
message of a frame. -/
def receiptOf (mode : PrefixMode) (runId line : List UInt8) : Option (Option (List UInt8)) :=
  let kept := line.take kLineLimit
  let oversized := decide (kLineLimit < line.length)
  let view := inspectLine kept mode (!oversized)
  let message := kept.drop view.messageOffset
  if view.messageOffset ≠ 0 ∧ belongsToRun message runId = true then
    if oversized ∨ view.kind = .malformed then some none
    else if view.kind = .frame then some (some (message.take view.messageBytes))
    else none
  else none

def receipts (mode : PrefixMode) (runId bytes : List UInt8) : List (Option (List UInt8)) :=
  (closedLines bytes).filterMap (receiptOf mode runId)

theorem receipts_append (mode : PrefixMode) (runId bytes more : List UInt8) :
    receipts mode runId bytes <+: receipts mode runId (bytes ++ more) := by
  obtain ⟨rest, hrest⟩ := closedLines_prefix bytes more
  rw [receipts, receipts, ← hrest, List.filterMap_append]
  exact List.prefix_append _ _

theorem receipts_snoc_other (mode : PrefixMode) (runId bytes : List UInt8) {c : UInt8} (hc : c ≠ lineFeed) :
    receipts mode runId (bytes ++ [c]) = receipts mode runId bytes := by
  rw [receipts, (closedLines_snoc_other bytes hc).1, receipts]

theorem receipts_snoc_feed (mode : PrefixMode) (runId bytes : List UInt8) :
    receipts mode runId (bytes ++ [lineFeed]) = receipts mode runId bytes ++
      (receiptOf mode runId (openLine bytes ++ [lineFeed])).toList := by
  rw [receipts, (closedLines_snoc_feed bytes).1, List.filterMap_append, receipts]
  cases h : receiptOf mode runId (openLine bytes ++ [lineFeed]) <;> simp [h]

theorem closedLines_replicate {line : List UInt8} (hline : lineFeed ∉ line) (n : Nat) :
    closedLines (List.replicate n (line ++ [lineFeed])).flatten = List.replicate n (line ++ [lineFeed]) ∧
      openLine (List.replicate n (line ++ [lineFeed])).flatten = [] := by
  induction n with
  | zero => exact ⟨rfl, rfl⟩
  | succ n ih =>
      obtain ⟨hclosed, hopen⟩ := closedLines_line (List.replicate n (line ++ [lineFeed])).flatten hline
      rw [List.replicate_succ', List.flatten_append, List.flatten_singleton]
      exact ⟨by rw [hclosed, ih.1, ih.2, List.nil_append], hopen⟩

theorem receipts_replicate {mode : PrefixMode} {runId line : List UInt8} (hline : lineFeed ∉ line) {r : Option (List UInt8)}
    (h : receiptOf mode runId (line ++ [lineFeed]) = some r) (n : Nat) :
    receipts mode runId (List.replicate n (line ++ [lineFeed])).flatten = List.replicate n r := by
  rw [receipts, (closedLines_replicate hline n).1, List.filterMap_replicate_of_some h]

/-- What becomes of a receipt: a broken one is corrupt, a message is matched. -/
def decideReceipt (ops : ReceiptMatchOps σ) (m : σ) : Option (List UInt8) → ReceiptDisposition × σ
  | none => (.corrupt, m)
  | some message => ops.onMessage m message

/-- The scanner stands behind `bytes` and carries the head of the open line. -/
structure ScannedTo (s : ReceiptScanner) (bytes : List UInt8) : Prop where
  line : s.line = (openLine bytes).take kLineLimit
  oversized : s.oversized = decide (kLineLimit < (openLine bytes).length)
  past : s.skipInitialSuffix = false

structure SameScan (s s' : ReceiptScanner) : Prop where
  mode : s'.prefixMode = s.prefixMode
  run : s'.runId = s.runId

theorem carryByte_spec {s : ReceiptScanner} {done : List UInt8}
    (hline : s.line = done.take kLineLimit) (hover : s.oversized = decide (kLineLimit < done.length)) (c : UInt8) :
    (carryByte s c).line = (done ++ [c]).take kLineLimit ∧
      (carryByte s c).oversized = decide (kLineLimit < (done ++ [c]).length) ∧
      (carryByte s c).skipInitialSuffix = s.skipInitialSuffix ∧ SameScan s (carryByte s c) := by
  have hlen : s.line.length = min kLineLimit done.length := by rw [hline, List.length_take]
  rw [carryByte]
  by_cases hroom : s.line.length < kLineLimit
  · rw [if_pos hroom]
    have hshort : done.length < kLineLimit := by omega
    refine ⟨?_, ?_, rfl, rfl, rfl⟩
    · dsimp only
      rw [hline, List.take_of_length_le hshort.le, List.take_of_length_le]
      rw [List.length_append, List.length_singleton]
      omega
    · dsimp only
      rw [hover, List.length_append, List.length_singleton, decide_eq_decide]
      omega
  · rw [if_neg hroom]
    have hlong : kLineLimit ≤ done.length := by omega
    refine ⟨?_, ?_, rfl, rfl, rfl⟩
    · dsimp only
      rw [hline, List.take_append_of_le_length hlong]
    · dsimp only
      rw [List.length_append, List.length_singleton, eq_comm, decide_eq_true_eq]
      omega

theorem lineDisposition_eq (ops : ReceiptMatchOps σ) {s : ReceiptScanner} {line : List UInt8}
    (hline : s.line = line.take kLineLimit) (hover : s.oversized = decide (kLineLimit < line.length)) (m : σ) :
    lineDisposition ops s m = match receiptOf s.prefixMode s.runId line with
      | none => (.ignored, m)
      | some w => decideReceipt ops m w := by
  rw [lineDisposition, receiptOf, ← hline, ← hover]
  by_cases hsel : (inspectLine s.line s.prefixMode (!s.oversized)).messageOffset ≠ 0 ∧
      belongsToRun (s.line.drop (inspectLine s.line s.prefixMode (!s.oversized)).messageOffset) s.runId = true
  · rw [if_pos hsel, if_pos hsel]
    cases hov : s.oversized with
    | true => simp [decideReceipt]
    | false =>
        rw [hov, Bool.not_false] at hsel
        by_cases hbad : (inspectLine s.line s.prefixMode true).kind = .malformed
        · simp only [hbad, decideReceipt, Bool.not_false, hsel, ne_eq, not_false_eq_true, and_self, or_true, if_true,
            Bool.false_eq_true, if_false]
        · by_cases hframe : (inspectLine s.line s.prefixMode true).kind = .frame
          · simp only [hframe, decideReceipt, Bool.not_false, hsel, ne_eq, not_false_eq_true, and_self, if_true,
              Bool.false_eq_true, if_false, false_or, reduceCtorEq, and_false]
          · simp [hbad, hframe]
  · rw [if_neg hsel, if_neg hsel]
    cases hov : s.oversized with
    | true => rfl
    | false =>
        rw [hov] at hsel
        rw [if_neg (by simp), if_neg (fun h => hsel h.1), if_neg (fun h => hsel h.1)]

/-- A byte that closes no line of this run is passed over; one that does is
decided by its receipt. -/
theorem scanByte_spec (ops : ReceiptMatchOps σ) {s : ReceiptScanner} {done : List UInt8} (h : ScannedTo s done) (m : σ)
    (c : UInt8) :
    let r := scanByte ops s m c
    ScannedTo r.1 (done ++ [c]) ∧ SameScan s r.1 ∧ r.1.offset = s.offset + 1 ∧ r.1.failed = s.failed ∧
      r.1.awaitingSubmission = s.awaitingSubmission ∧
      (r.2 = (m, .ignored) ∧ receipts s.prefixMode s.runId (done ++ [c]) = receipts s.prefixMode s.runId done ∨
        ∃ w, r.2.2 = (decideReceipt ops m w).1 ∧ r.2.1 = (decideReceipt ops m w).2 ∧
          receipts s.prefixMode s.runId (done ++ [c]) = receipts s.prefixMode s.runId done ++ [w] ∧
          openLine (done ++ [c]) = []) := by
  intro r
  have hcarry := carryByte_spec (s := { s with offset := s.offset + 1 }) h.line h.oversized c
  obtain ⟨hline, hover, hskip, hmode, hrun⟩ := hcarry
  have hflags : (carryByte { s with offset := s.offset + 1 } c).failed = s.failed ∧
      (carryByte { s with offset := s.offset + 1 } c).awaitingSubmission = s.awaitingSubmission ∧
      (carryByte { s with offset := s.offset + 1 } c).offset = s.offset + 1 := by
    unfold carryByte
    split <;> exact ⟨rfl, rfl, rfl⟩
  have hr : r = scanByte ops s m c := rfl
  rw [scanByte] at hr
  dsimp only at hr
  rw [if_neg (by simp [h.past])] at hr
  by_cases hc : c = lineFeed
  · subst hc
    rw [if_neg (by simp)] at hr
    obtain ⟨_, hopen⟩ := closedLines_snoc_feed done
    have hdisp := lineDisposition_eq ops hline hover m
    rw [hmode, hrun] at hdisp
    have hsnoc := receipts_snoc_feed s.prefixMode s.runId done
    rw [hr]
    refine ⟨⟨?_, ?_, hskip.trans h.past⟩, ⟨hmode, hrun⟩, hflags.2.2, hflags.1, hflags.2.1, ?_⟩
    · rw [hopen]
      rfl
    · rw [hopen]
      rfl
    · dsimp only at hdisp ⊢
      rw [hdisp]
      cases hw : receiptOf s.prefixMode s.runId (openLine done ++ [lineFeed]) with
      | none =>
          rw [hw] at hsnoc
          exact .inl ⟨rfl, hsnoc.trans (List.append_nil _)⟩
      | some w =>
          rw [hw] at hsnoc
          exact .inr ⟨w, rfl, rfl, hsnoc, hopen⟩
  · rw [if_pos hc] at hr
    obtain ⟨_, hopen⟩ := closedLines_snoc_other done hc
    rw [hr]
    refine ⟨⟨?_, ?_, hskip.trans h.past⟩, ⟨hmode, hrun⟩, hflags.2.2, hflags.1, hflags.2.1,
      .inl ⟨rfl, receipts_snoc_other _ _ done hc⟩⟩
    · rw [hopen]
      exact hline
    · rw [hopen]
      exact hover

def ReceiptMatchOps.Decisive (ops : ReceiptMatchOps σ) : Prop :=
  ∀ m message, (ops.onMessage m message).1 ≠ .ignored ∧ (ops.onMessage m message).1 ≠ .accepted

theorem decideReceipt_decisive {ops : ReceiptMatchOps σ} (hops : ops.Decisive) (m : σ) (w : Option (List UInt8)) :
    (decideReceipt ops m w).1 ≠ .ignored ∧ (decideReceipt ops m w).1 ≠ .accepted := by
  cases w with
  | none => simp [decideReceipt]
  | some message => exact hops m message

/-- Where a scan stands: behind its chunk with no receipt in it, or behind the
first receipt, which decided it. -/
inductive ScanStop (ops : ReceiptMatchOps σ) (s : ReceiptScanner) (m : σ) (done bytes : List UInt8) (consumed : Nat)
    (d : ReceiptDisposition) : ReceiptScanner × σ × ReceiptScanResult → Prop
  | passed {s' : ReceiptScanner} (scanned : ScannedTo s' (done ++ bytes)) (same : SameScan s s')
      (offset : s'.offset = s.offset + bytes.length)
      (flags : s'.failed = s.failed ∧ s'.awaitingSubmission = s.awaitingSubmission)
      (none : receipts s.prefixMode s.runId (done ++ bytes) = receipts s.prefixMode s.runId done) :
      ScanStop ops s m done bytes consumed d (s', m, ⟨consumed + bytes.length, d⟩)
  | decided {s' : ReceiptScanner} {k : Nat} {w : Option (List UInt8)} (hk : 1 ≤ k ∧ k ≤ bytes.length)
      (scanned : ScannedTo s' (done ++ bytes.take k)) (same : SameScan s s') (offset : s'.offset = s.offset + k)
      (closed : openLine (done ++ bytes.take k) = [])
      (failed : s'.failed = if (decideReceipt ops m w).1 = .awaitingSubmission then s.failed else true)
      (awaiting : s'.awaitingSubmission =
        if (decideReceipt ops m w).1 = .awaitingSubmission then true else s.awaitingSubmission)
      (first : receipts s.prefixMode s.runId (done ++ bytes.take k) = receipts s.prefixMode s.runId done ++ [w]) :
      ScanStop ops s m done bytes consumed d
        (s', (decideReceipt ops m w).2, ⟨consumed + k, (decideReceipt ops m w).1⟩)

theorem ScanStop.cons {ops : ReceiptMatchOps σ} {s t : ReceiptScanner} {m : σ} {done bytes : List UInt8} {c : UInt8}
    {consumed : Nat} {d : ReceiptDisposition} {out : ReceiptScanner × σ × ReceiptScanResult} (hsame : SameScan s t)
    (hoffset : t.offset = s.offset + 1)
    (hflags : t.failed = s.failed ∧ t.awaitingSubmission = s.awaitingSubmission)
    (hnone : receipts s.prefixMode s.runId (done ++ [c]) = receipts s.prefixMode s.runId done)
    (h : ScanStop ops t m (done ++ [c]) bytes (consumed + 1) d out) :
    ScanStop ops s m done (c :: bytes) consumed d out := by
  have hsplit (l : List UInt8) : done ++ [c] ++ l = done ++ c :: l := by simp
  cases h with
  | passed scanned same offset flags none =>
      rw [hsplit] at scanned none
      rw [hsame.mode, hsame.run, hnone] at none
      have hcount : consumed + 1 + bytes.length = consumed + (c :: bytes).length := by rw [List.length_cons]; omega
      rw [hcount]
      refine .passed scanned ⟨same.mode.trans hsame.mode, same.run.trans hsame.run⟩ ?_
        ⟨flags.1.trans hflags.1, flags.2.trans hflags.2⟩ none
      rw [offset, hoffset, List.length_cons]
      omega
  | @decided s' k w hk scanned same offset closed failed awaiting first =>
      rw [hsplit] at scanned closed first
      rw [hsame.mode, hsame.run, hnone] at first
      have hcount : consumed + 1 + k = consumed + (k + 1) := by omega
      rw [hcount]
      rw [hflags.1] at failed
      rw [hflags.2] at awaiting
      refine .decided (k := k + 1) ⟨by omega, by rw [List.length_cons]; omega⟩ scanned
        ⟨same.mode.trans hsame.mode, same.run.trans hsame.run⟩ ?_ closed failed awaiting first
      rw [offset, hoffset]
      omega

/-- The first receipt of a chunk decides its scan. -/
theorem scanLoop_stop {ops : ReceiptMatchOps σ} (hops : ops.Decisive) (bytes : List UInt8) {s : ReceiptScanner}
    {done : List UInt8} (h : ScannedTo s done) (m : σ) (consumed : Nat) (d : ReceiptDisposition)
    (hroom : s.offset + bytes.length ≤ uint64Max) :
    ScanStop ops s m done bytes consumed d (scanLoop ops bytes s m ⟨consumed, d⟩) := by
  induction bytes generalizing s done consumed with
  | nil =>
      exact .passed (by simpa using h) ⟨rfl, rfl⟩ rfl ⟨rfl, rfl⟩ (by rw [List.append_nil])
  | cons c bytes ih =>
      rw [List.length_cons] at hroom
      obtain ⟨hscan, hsame, hoffset, hfailed, hawait, hcase⟩ := scanByte_spec ops h m c
      rw [scanLoop, if_neg (by omega)]
      cases hb : scanByte ops s m c with
      | mk t rest =>
          obtain ⟨m', disp⟩ := rest
          rw [hb] at hscan hsame hoffset hfailed hawait hcase
          dsimp only at hscan hsame hoffset hfailed hawait hcase
          rcases hcase with ⟨hig, hnone⟩ | ⟨w, hd, hm, hfirst, hclosed⟩
          · injection hig with hm hdisp
            subst hm hdisp
            exact (ih hscan (consumed + 1) (by omega)).cons hsame hoffset ⟨hfailed, hawait⟩ hnone
          · have hdec := decideReceipt_decisive hops m w
            rw [← hd] at hdec
            subst hm
            have stop {u : ReceiptScanner} (hu : u = { t with failed := u.failed, awaitingSubmission := u.awaitingSubmission })
                (hf : u.failed = if disp = .awaitingSubmission then s.failed else true)
                (ha : u.awaitingSubmission = if disp = .awaitingSubmission then true else s.awaitingSubmission) :
                ScanStop ops s m done (c :: bytes) consumed d (u, (decideReceipt ops m w).2, ⟨consumed + 1, disp⟩) := by
              rw [hd]
              rw [hd] at hf ha
              have htake : (c :: bytes).take 1 = [c] := rfl
              refine .decided (k := 1) ⟨le_rfl, by simp⟩ ?_ ?_ ?_ (by rw [htake]; exact hclosed) hf ha
                (by rw [htake]; exact hfirst)
              · rw [htake, hu]
                exact ⟨hscan.line, hscan.oversized, hscan.past⟩
              · rw [hu]
                exact ⟨hsame.mode, hsame.run⟩
              · rw [hu]
                exact hoffset
            cases disp with
            | ignored => exact absurd rfl hdec.1
            | accepted => exact absurd rfl hdec.2
            | awaitingSubmission => exact stop rfl hfailed rfl
            | gap => exact stop rfl rfl hawait
            | corrupt => exact stop rfl rfl hawait

end RS2ServerFix.NativeLog
