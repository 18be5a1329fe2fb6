import RS2ServerFix.Bootstrap.ResolverSound

namespace RS2ServerFix.Bootstrap

open Lib

section Asking

variable {κ : Type} [DecidableEq κ] {bootstrap : Nat} {s t : World κ} {i : κ} {ls : κ → Known}

theorem Agrees.asks (h : Agrees ls s) {q : Op} {answer : q.Answer} (hmay : may q (ls i))
    (hr : responds bootstrap i q s answer t) :
    ∃ l, answers bootstrap q (ls i) answer l ∧ Agrees (Function.update ls i l) t ∧ Keeps s t := by
  cases q with
  | loadSystemLibrary path =>
      by_cases hloaded : answer.1 ≠ 0 ∧ answer.1 ≠ bootstrap
      · rw [responds, if_pos hloaded] at hr
        subst hr
        refine ⟨_, ?_, h.load hmay answer.1⟩
        rw [answers, if_pos hloaded]
        exact ⟨_, rfl⟩
      · rw [responds, if_neg hloaded] at hr
        subst hr
        refine ⟨ls i, ?_, h.keep i, .refl _⟩
        rw [answers, if_neg hloaded]
  | freeLibrary module =>
      obtain ⟨c, hc, rfl⟩ := hr
      obtain ⟨r, hhand⟩ := hmay
      exact ⟨_, rfl, h.freeLibrary hhand hc⟩
  | allocateDispatch =>
      rcases hr with ⟨hnull, rfl⟩ | ⟨a, hheap, ha, rfl⟩
      · exact ⟨ls i, Or.inl ⟨hnull, rfl⟩, h.keep i, .refl _⟩
      · exact ⟨_, Or.inr ⟨_, a, hheap, rfl⟩, h.allocate hmay ha⟩
  | freeDispatch p =>
      obtain ⟨a, c, rfl, hc, rfl⟩ := hr
      obtain ⟨n, b, hhand, hb⟩ := hmay
      obtain rfl := Place.heap.inj hb
      exact ⟨_, rfl, h.freeDispatch hhand hc⟩
  | beginOnce checkOnly =>
      obtain ⟨hknown, rfl⟩ := hr
      by_cases hdone : answer.1 = true ∧ answer.2.1 = false ∧ answer.2.2 ≠ .null
      · have hp : t.Published answer.2.2 := Or.inl (hknown hdone.1 hdone.2.1 hdone.2.2)
        refine ⟨_, ?_, h.see i hp, .refl _⟩
        rw [answers, if_pos hdone]
        exact ⟨_, h.whole.complete _ hp, rfl⟩
      · refine ⟨ls i, ?_, h.keep i, .refl _⟩
        rw [answers, if_neg hdone]
  | completeOnce p =>
      rcases hr with ⟨rfl, hnormal, rfl⟩ | ⟨rfl, rfl⟩
      · rcases hmay with ⟨rfl, hwriting, hsees⟩ | ⟨⟨n, a, hhand, rfl⟩, hbehind⟩
        · obtain ⟨d, hd⟩ := Option.ne_none_iff_exists'.mp hsees
          have hp : s.Published .fallback := by
            obtain ⟨-, hp | ⟨n, a, -, hno⟩ | ⟨-, hno⟩⟩ := (h.fits i).sees .fallback d hd
            · exact hp
            · cases hno
            · rw [hwriting] at hno
              cases hno
          exact ⟨ls i, rfl, h.completeFallback hnormal hp⟩
        · exact ⟨_, rfl, h.completeRecord hnormal hhand hbehind⟩
      · exact ⟨ls i, rfl, h.keep i, .refl _⟩
  | readRecord p =>
      obtain ⟨rfl, rfl⟩ := hr
      obtain ⟨d, hd⟩ := Option.ne_none_iff_exists'.mp hmay
      refine ⟨ls i, ⟨?_, rfl⟩, h.keep i, .refl _⟩
      exact hd.trans (congrArg some ((h.fits i).sees p d hd).1.symm)
  | writeRecord p d =>
      obtain rfl := hr
      exact ⟨_, rfl, h.write hmay d⟩
  | fallbackState =>
      obtain ⟨rfl, rfl⟩ := hr
      by_cases hready : t.fallbackState = .ready
      · have hp : t.Published .fallback := Or.inr ⟨rfl, hready⟩
        exact ⟨_, Or.inl ⟨hready, _, h.whole.complete _ hp, rfl⟩, h.see i hp, .refl _⟩
      · exact ⟨ls i, Or.inr ⟨hready, rfl⟩, h.keep i, .refl _⟩
  | startWriting =>
      rcases hr with ⟨rfl, hempty, rfl⟩ | ⟨rfl, -, rfl⟩
      · exact ⟨_, rfl, h.startWriting hempty⟩
      · exact ⟨ls i, rfl, h.keep i, .refl _⟩
  | setReady =>
      obtain rfl := hr
      exact ⟨_, rfl, h.setReady hmay.1 hmay.2⟩
  | buildSystemPath | getModulePath _ | queryFileIdentity _ | getExport _ _ | queryAllocationBase _ =>
      obtain rfl := hr
      exact ⟨ls i, rfl, h.keep i, .refl _⟩

end Asking

variable {ops : GenuineResolverOps} {bootstrap : Nat} {l : Known} {α : Type}

theorem queryPlain {q : Op} {g : q.Answer → Work α} {post : α → Known → Prop} (hmay : may q l)
    (hplain : ∀ answer l', answers bootstrap q l answer l' → l' = l) (h : ∀ answer,
      (g answer).Abides (view bootstrap) post l) :
    (Ask.query q >>= g).Abides (view bootstrap) post l := by
  refine Ask.Abides.queryBind hmay fun answer l' hl => ?_
  obtain rfl := hplain answer l' hl
  exact h answer

/-- A reference to such a module and such a record in hand, and no writing begun. -/
structure Has (module : Option Nat) (record : Option (Nat × Nat)) (l : Known) : Prop where
  reference : l.reference.map Prod.snd = module
  record : l.record = record
  writing : l.writing = false

section Has

variable {module : Option Nat} {record : Option (Nat × Nat)}

theorem Has.see (h : Has module record l) (p : Place) (d : X3AudioDispatch) : Has module record (l.see p d) :=
  ⟨h.reference, h.record, h.writing⟩

theorem Has.none_reference (h : Has none record l) : l.reference = none := Option.map_eq_none_iff.mp h.reference

theorem Has.some_reference {m : Nat} (h : Has (some m) record l) : ∃ r, l.reference = some (r, m) := by
  obtain ⟨⟨r, m'⟩, hr, rfl⟩ := Option.map_eq_some_iff.mp h.reference
  exact ⟨r, hr⟩

theorem Has.give (h : Has module record l) : Has none record l.give := ⟨rfl, h.record, h.writing⟩

theorem Has.forget (h : Has module record l) (p : Place) : Has module none (l.forget p) := ⟨h.reference, rfl, h.writing⟩

theorem readComplete_abides {p : Place} {d : X3AudioDispatch} (hsees : l.sees p = some d)
    {post : Option X3AudioDispatch → Known → Prop} (hpost : isCompleteDispatch d = true → post (some d) l)
    (hnone : post none l) : (readComplete p).Abides (view bootstrap) post l := by
  have hmay : may (.readRecord p) l := by simp [may, hsees]
  refine Ask.Abides.queryBind hmay fun checked l' hl => ?_
  obtain ⟨hchecked, rfl⟩ := hl
  obtain rfl : d = checked := Option.some.inj (hsees.symm.trans hchecked)
  refine Ask.Abides.ite (fun hcomplete => ?_) fun _ => hnone
  refine Ask.Abides.queryBind hmay fun again l' hl => ?_
  obtain ⟨hagain, rfl⟩ := hl
  obtain rfl : d = again := Option.some.inj (hsees.symm.trans hagain)
  exact hpost hcomplete

/-- What is found is complete, and what was in hand still is. -/
def Found (module : Option Nat) (record : Option (Nat × Nat)) (found : Option X3AudioDispatch) (l : Known) : Prop :=
  Has module record l ∧ ∀ d, found = some d → isCompleteDispatch d = true

theorem Has.notFound (h : Has module record l) : Found module record none l :=
  ⟨h, fun d hd => by cases hd⟩

theorem Has.found (h : Has module record l) {d : X3AudioDispatch} (hd : isCompleteDispatch d = true) :
    Found module record (some d) l := by
  refine ⟨h, fun e he => ?_⟩
  rw [← Option.some.inj he]
  exact hd

theorem Has.readComplete (h : Has module record l) (p : Place) (d : X3AudioDispatch) :
    (readComplete p).Abides (view bootstrap) (Found module record) (l.see p d) :=
  readComplete_abides (Function.update_self p (some d) l.sees) (fun hd => (h.see p d).found hd) (h.see p d).notFound

theorem Has.tryGetNormal (h : Has module record l) :
    (tryGetNormal ops).Abides (view bootstrap) (Found module record) l := by
  refine Ask.Abides.ite (fun _ => h.notFound) fun _ => ?_
  refine Ask.Abides.queryBind trivial fun answer l' hl => ?_
  obtain ⟨success, pending, context⟩ := answer
  simp only [view, answers] at hl
  split at hl
  · obtain ⟨d, hd, rfl⟩ := hl
    exact Ask.Abides.ite (fun _ => (h.see context d).notFound) fun _ => h.readComplete context d
  · next hno =>
      obtain rfl := hl
      refine Ask.Abides.ite (fun _ => h.notFound) fun hyes => absurd ?_ hno
      simp only [not_or, Bool.not_eq_true', Bool.not_eq_false, Bool.not_eq_true] at hyes
      exact ⟨hyes.1, hyes.2.1, hyes.2.2.1⟩

theorem Has.tryGetReadyFallback (h : Has module record l) :
    tryGetReadyFallback.Abides (view bootstrap) (Found module record) l := by
  refine Ask.Abides.queryBind trivial fun state l' hl => ?_
  rcases hl with ⟨hready, d, hd, rfl⟩ | ⟨hno, rfl⟩
  · exact Ask.Abides.ite (fun hno => absurd hready hno) fun _ => h.readComplete .fallback d
  · exact Ask.Abides.ite (fun _ => h.notFound) fun hyes => absurd (not_not.mp hyes) hno

theorem Has.published (h : Has module record l) :
    (published ops).Abides (view bootstrap) (Found module record) l := by
  apply Ask.Abides.bind
  refine Ask.Abides.mono h.tryGetNormal ?_
  rintro (_ | d) l' hfound
  · exact hfound.1.tryGetReadyFallback
  · exact hfound

theorem Found.on {look : Work (Option X3AudioDispatch)} {next : Option X3AudioDispatch → Work α}
    {post : α → Known → Prop} (hlook : look.Abides (view bootstrap) (Found module record) l)
    (hyes : ∀ d l', isCompleteDispatch d = true → Has module record l' →
      (next (some d)).Abides (view bootstrap) post l')
    (hno : ∀ l', Has module record l' → (next none).Abides (view bootstrap) post l') :
    (look >>= next).Abides (view bootstrap) post l := by
  apply Ask.Abides.bind
  refine Ask.Abides.mono hlook ?_
  rintro (_ | d) l' hfound
  · exact hno l' hfound.1
  · exact hyes d l' (hfound.2 d rfl) hfound.1

end Has

/-- The result owns the one reference, or nothing is in hand. -/
def Resolved (ops : GenuineResolverOps) (result : GenuineResolverResult) (l : Known) : Prop :=
  if result.ownsModule then ops.freeLibrary = true ∧ isCompleteDispatch result.dispatch = true ∧
    Has (some result.dispatch.module) none l else Has none none l

section Resolving

variable {candidate : Nat}

theorem freeLibrary_abides {module : Nat} {record : Option (Nat × Nat)} (h : Has (some module) record l) {a : α}
    {post : α → Known → Prop} (hpost : ∀ l', Has none record l' → post a l') :
    (Ask.query (Op.freeLibrary module) >>= fun _ => (pure a : Work α)).Abides (view bootstrap) post l := by
  refine Ask.Abides.queryBind h.some_reference fun answer l' hl => ?_
  obtain rfl := hl
  exact hpost _ h.give

theorem reject_abides (h : Has (some candidate) none l) (status : GenuineResolverStatus) (error : Nat) :
    (reject candidate status error).Abides (view bootstrap) (Resolved ops) l :=
  freeLibrary_abides h fun _ h' => h'

theorem resolveBases_abides (hops : ops.freeLibrary = true) (h : Has (some candidate) none l)
    (hcandidate : candidate ≠ 0)
    {initializeFn calculateFn : Nat} (hfirst : initializeFn ≠ 0) (hsecond : calculateFn ≠ 0) :
    (resolveBases candidate initializeFn calculateFn).Abides (view bootstrap) (Resolved ops) l := by
  refine queryPlain trivial (fun _ _ hl => hl) fun answer => ?_
  obtain ⟨queried, base, error⟩ := answer
  refine Ask.Abides.ite (fun _ => reject_abides h _ _) fun _ => ?_
  refine Ask.Abides.ite (fun _ => reject_abides h _ _) fun _ => ?_
  refine queryPlain trivial (fun _ _ hl => hl) fun answer => ?_
  obtain ⟨queried, base, error⟩ := answer
  refine Ask.Abides.ite (fun _ => reject_abides h _ _) fun _ => ?_
  refine Ask.Abides.ite (fun _ => reject_abides h _ _) fun _ => ?_
  have hcomplete : isCompleteDispatch ⟨candidate, initializeFn, calculateFn, .ok, 0⟩ = true := by
    simp [isCompleteDispatch, hcandidate, hfirst, hsecond]
  exact ⟨hops, hcomplete, h⟩

theorem resolveExports_abides (hops : ops.freeLibrary = true) (h : Has (some candidate) none l)
    (hcandidate : candidate ≠ 0) :
    (resolveExports candidate).Abides (view bootstrap) (Resolved ops) l := by
  refine queryPlain trivial (fun _ _ hl => hl) fun answer => ?_
  obtain ⟨initializeFn, error⟩ := answer
  refine Ask.Abides.ite (fun _ => reject_abides h _ _) fun hfirst => ?_
  refine queryPlain trivial (fun _ _ hl => hl) fun answer => ?_
  obtain ⟨calculateFn, error⟩ := answer
  refine Ask.Abides.ite (fun _ => reject_abides h _ _) fun hsecond => ?_
  exact resolveBases_abides hops h hcandidate hfirst hsecond

theorem resolveCandidate_abides (hops : ops.freeLibrary = true) (h : Has (some candidate) none l)
    (hcandidate : candidate ≠ 0)
    (expectedPath : Path) : (resolveCandidate expectedPath candidate).Abides (view bootstrap) (Resolved ops) l := by
  refine queryPlain trivial (fun _ _ hl => hl) fun answer => ?_
  obtain ⟨found, candidatePath, error⟩ := answer
  refine Ask.Abides.ite (fun _ => reject_abides h _ _) fun _ => ?_
  refine queryPlain trivial (fun _ _ hl => hl) fun answer => ?_
  obtain ⟨known, expected, error⟩ := answer
  refine Ask.Abides.ite (fun _ => reject_abides h _ _) fun _ => ?_
  refine queryPlain trivial (fun _ _ hl => hl) fun answer => ?_
  obtain ⟨known, actual, error⟩ := answer
  refine Ask.Abides.ite (fun _ => reject_abides h _ _) fun _ => ?_
  refine Ask.Abides.ite (fun _ => reject_abides h _ _) fun _ => ?_
  exact Ask.Abides.ite (fun _ => reject_abides h _ _) fun _ => resolveExports_abides hops h hcandidate

/-- Resolving ends with the one reference owned, or with none. -/
theorem resolve_abides (h : Has none none l) :
    (resolveGenuineX3AudioPrivate ops bootstrap).Abides (view bootstrap) (Resolved ops) l := by
  refine Ask.Abides.ite (fun _ => h) fun hops => ?_
  refine queryPlain trivial (fun _ _ hl => hl) fun answer => ?_
  obtain ⟨built, expectedPath, error⟩ := answer
  refine Ask.Abides.ite (fun _ => h) fun _ => ?_
  refine Ask.Abides.queryBind h.none_reference fun answer l' hl => ?_
  obtain ⟨candidate, error⟩ := answer
  simp only [view, answers] at hl
  split at hl
  · next hloaded =>
      obtain ⟨r, rfl⟩ := hl
      refine Ask.Abides.ite (fun hno => absurd hno hloaded.1) fun _ => ?_
      refine Ask.Abides.ite (fun hno => absurd hno hloaded.2) fun _ => ?_
      have hfree : ops.freeLibrary = true := by
        simp [hasPrivateOps] at hops
        tauto
      have hhas : Has (some candidate) none (l.take r candidate) := ⟨rfl, h.record, h.writing⟩
      exact resolveCandidate_abides hfree hhas hloaded.1 expectedPath
  · next hno =>
      obtain rfl := hl
      refine Ask.Abides.ite (fun _ => h) fun hzero => ?_
      refine Ask.Abides.ite (fun _ => h) fun hself => absurd ⟨hzero, hself⟩ hno

end Resolving

section Publishing

variable {d : X3AudioDispatch}

theorem rest_persistent (h : Has none none l) (d : X3AudioDispatch) : Rest ops (persistent d) l where
  record := h.record
  writing := h.writing
  complete hvalid := hvalid
  carries _ hno := by cases hno
  nothing _ := h.none_reference

theorem rest_failed (h : Has none none l) (d : X3AudioDispatch) : Rest ops (failedLease d) l where
  record := h.record
  writing := h.writing
  complete hno := by cases hno
  carries hno := by cases hno
  nothing _ := h.none_reference

theorem freeLibraryThen_abides (h : Has (some d.module) none l) (winner : X3AudioDispatch) :
    (freeLibraryThen d.module (persistent winner)).Abides (view bootstrap) (Rest ops) l :=
  freeLibrary_abides h fun _ h' => rest_persistent h' winner

theorem forwardPrivate_abides (hops : ops.freeLibrary = true) (hd : isCompleteDispatch d = true)
    (h : Has (some d.module) none l) : (forwardPrivate d).Abides (view bootstrap) (Rest ops) l := by
  refine Found.on h.tryGetReadyFallback (fun winner l' _ h' => freeLibraryThen_abides h' winner) fun l' h' => ?_
  exact {
    record := h'.record
    writing := h'.writing
    complete := fun _ => hd
    carries := fun _ _ => ⟨hops, h'.some_reference⟩
    nothing := fun hno => by cases hno rfl }

theorem readOwn_abides (h : Has none none l) {p : Place} {d : X3AudioDispatch} (hsees : l.sees p = some d) :
    (Ask.query (Op.readRecord p) >>= fun written => (pure (persistent written) : Work GenuineDispatchLease)).Abides
      (view bootstrap) (Rest ops) l := by
  refine Ask.Abides.queryBind (by simp [view, may, hsees]) fun written l' hl => ?_
  obtain ⟨-, rfl⟩ := hl
  exact rest_persistent h written

theorem publishFallback_abides (hops : ops.freeLibrary = true) (hd : isCompleteDispatch d = true)
    (h : Has (some d.module) none l) : (publishFallback ops d).Abides (view bootstrap) (Rest ops) l := by
  refine Ask.Abides.queryBind h.writing fun started l' hl => ?_
  cases started with
  | false =>
      obtain rfl := hl
      exact forwardPrivate_abides hops hd h
  | true =>
      obtain rfl := hl
      refine Ask.Abides.queryBind (Or.inr ⟨rfl, rfl⟩) fun _ l' hl => ?_
      obtain rfl := hl
      obtain ⟨r, hr⟩ := h.some_reference
      have hsees : (l.startWriting.see .fallback d).sees .fallback = some d := by simp [Known.see]
      refine Ask.Abides.queryBind ⟨rfl, d, r, hsees, hd, hr⟩ fun _ l' hl => ?_
      obtain rfl := hl
      have hidle : Has none none (l.startWriting.see .fallback d).setReady := ⟨rfl, h.record, rfl⟩
      have hready : (l.startWriting.see .fallback d).setReady.sees .fallback = some d := hsees
      refine Ask.Abides.ite (fun _ => ?_) fun _ => readOwn_abides hidle hready
      refine Ask.Abides.queryBind (Or.inl ⟨rfl, rfl, by simp [hready]⟩) fun completed l' hl => ?_
      obtain rfl : l' = (l.startWriting.see .fallback d).setReady := by
        cases completed <;> exact hl
      exact readOwn_abides hidle hready

theorem publishedOrFallback_abides (hops : ops.freeLibrary = true) (hd : isCompleteDispatch d = true)
    (h : Has (some d.module) none l) : (publishedOrFallback ops d).Abides (view bootstrap) (Rest ops) l :=
  Found.on h.published (fun winner _ _ h' => freeLibraryThen_abides h' winner) fun _ h' =>
    publishFallback_abides hops hd h'

theorem freeRecordThen_abides {module : Option Nat} {n a : Nat} (h : Has module (some (n, a)) l)
    {next : Work GenuineDispatchLease} (hnext : ∀ l', Has module none l' → next.Abides (view bootstrap) (Rest ops) l') :
    (freeRecordThen (.heap a) next).Abides (view bootstrap) (Rest ops) l := by
  refine Ask.Abides.queryBind ⟨n, a, h.record, rfl⟩ fun _ l' hl => ?_
  obtain rfl := hl
  exact hnext _ (h.forget _)

/-- A record that was allocated is published, or freed. -/
theorem publishRecord_abides (hops : ops.freeLibrary = true) (hd : isCompleteDispatch d = true) {n a : Nat}
    (h : Has (some d.module) (some (n, a)) l) : (publishRecord ops d (.heap a)).Abides (view bootstrap) (Rest ops) l := by
  have hother : ∀ l', Has (some d.module) none l' → (publishedOrFallback ops d).Abides (view bootstrap) (Rest ops) l' :=
    fun l' h' => publishedOrFallback_abides hops hd h'
  refine Ask.Abides.ite (fun _ => ?_) fun _ => freeRecordThen_abides h hother
  refine Ask.Abides.queryBind (Or.inl ⟨n, a, h.record, rfl⟩) fun _ l' hl => ?_
  obtain rfl := hl
  obtain ⟨r, hr⟩ := h.some_reference
  have hsees : (l.see (.heap a) d).sees (.heap a) = some d := Function.update_self _ _ _
  refine Ask.Abides.queryBind (Or.inr ⟨⟨n, a, h.record, rfl⟩, d, r, hsees, hd, hr⟩) fun completed l' hl => ?_
  have h := h.see (.heap a) d
  cases completed with
  | true =>
      simp only [view, answers, ne_eq, reduceCtorEq, not_false_eq_true, decide_true, Bool.and_true, cond_true] at hl
      obtain rfl := hl
      have hidle : Has none none (l.see (.heap a) d).publish := ⟨rfl, rfl, h.writing⟩
      exact readOwn_abides hidle hsees
  | false =>
      obtain rfl := hl
      refine Found.on h.tryGetNormal (fun winner _ _ h' => freeRecordThen_abides h' fun _ h'' => ?_) fun _ h' => ?_
      · exact freeLibraryThen_abides h'' winner
      · exact freeRecordThen_abides h' hother

theorem publishNormal_abides (hops : ops.freeLibrary = true) (hd : isCompleteDispatch d = true)
    (h : Has (some d.module) none l) (begun pending : Bool) :
    (publishNormal ops d begun pending).Abides (view bootstrap) (Rest ops) l := by
  refine Ask.Abides.ite (fun _ => ?_) fun _ => publishedOrFallback_abides hops hd h
  refine Ask.Abides.queryBind h.record fun allocation l' hl => ?_
  rcases hl with ⟨hnull, rfl⟩ | ⟨n, a, hheap, rfl⟩
  · exact Ask.Abides.ite (fun hno => absurd hnull hno) fun _ => publishedOrFallback_abides hops hd h
  · obtain rfl := hheap
    refine Ask.Abides.ite (fun _ => publishRecord_abides hops hd ⟨h.reference, rfl, h.writing⟩) fun hno => ?_
    exact absurd (by simp) hno

theorem publishPrivateSuccess_abides {result : GenuineResolverResult} (howns : result.ownsModule = true)
    (h : Resolved ops result l) (begun pending : Bool) :
    (publishPrivateSuccess ops result begun pending).Abides (view bootstrap) (Rest ops) l := by
  rw [Resolved, if_pos howns] at h
  obtain ⟨hops, hd, h⟩ := h
  refine Ask.Abides.ite (fun hno => ?_) fun _ => ?_
  · simp [howns, hd] at hno
  · exact Found.on h.published (fun winner _ _ h' => freeLibraryThen_abides h' winner)
      fun _ h' => publishNormal_abides hops hd h' begun pending

end Publishing

theorem attempt_abides (h : Has none none l) (begun pending : Bool)
    {retry : X3AudioDispatch → Work GenuineDispatchLease}
    (hretry : ∀ d l', Has none none l' → (retry d).Abides (view bootstrap) (Rest ops) l') :
    (attempt ops bootstrap begun pending retry).Abides (view bootstrap) (Rest ops) l := by
  apply Ask.Abides.bind
  refine Ask.Abides.mono (resolve_abides h) fun result l' hresolved => ?_
  refine Ask.Abides.ite (fun hyes => publishPrivateSuccess_abides hyes.1 hresolved begun pending) fun hno => ?_
  have h' : Has none none l' := by
    rw [Resolved] at hresolved
    split at hresolved
    · next howns => exact absurd ⟨howns, hresolved.2.1⟩ hno
    · exact hresolved
  refine Found.on h'.published (fun d _ _ h' => rest_persistent h' d) fun _ h' => ?_
  exact Ask.Abides.ite (fun _ => rest_failed h' _) fun _ => hretry _ _ h'

theorem attempts_abides (h : Has none none l) (begun pending : Bool) :
    (attempts ops bootstrap begun pending).Abides (view bootstrap) (Rest ops) l := by
  refine attempt_abides h begun pending fun _ l' h' => ?_
  refine Found.on h'.published (fun d _ _ h' => rest_persistent h' d) fun _ h' => ?_
  exact attempt_abides h' begun pending fun d _ h'' => rest_failed h'' d

theorem acquireBegun_abides (h : Has none none l) :
    (acquireBegun ops bootstrap).Abides (view bootstrap) (Rest ops) l := by
  refine Ask.Abides.ite (fun _ => attempts_abides h false true) fun _ => ?_
  refine Ask.Abides.queryBind trivial fun answer l' hl => ?_
  obtain ⟨begun, pending, context⟩ := answer
  simp only [view, answers] at hl
  split at hl
  · obtain ⟨d, hd, rfl⟩ := hl
    refine Ask.Abides.ite (fun _ => ?_) fun _ => attempts_abides (h.see context d) begun pending
    exact Found.on (h.readComplete context d) (fun d _ _ h' => rest_persistent h' d)
      fun _ h' => attempts_abides h' begun pending
  · next hno =>
      obtain rfl := hl
      refine Ask.Abides.ite (fun hyes => absurd ⟨hyes.1, ?_, hyes.2.2.1⟩ hno) fun _ => attempts_abides h begun pending
      exact (Bool.not_eq_true' pending).mp hyes.2.1

theorem acquire_abides (h : Has none none l) :
    (acquireGenuineX3Audio ops bootstrap).Abides (view bootstrap) (Rest ops) l := by
  refine Ask.Abides.ite (fun _ => rest_failed h _) fun _ => ?_
  exact Found.on h.published (fun d _ _ h' => rest_persistent h' d) fun _ h' => acquireBegun_abides h'

/-- What a lease carries is given back with it. -/
theorem release_abides {lease : GenuineDispatchLease} (h : Rest ops lease l) :
    (releaseGenuineX3AudioLease ops lease).Abides (view bootstrap) (Rest ops) l := by
  refine Ask.Abides.ite (fun hyes => ?_) fun hno => ?_
  · obtain ⟨-, r, hr⟩ := h.carries hyes.1 hyes.2.1
    have hhas : Has (some lease.dispatch.module) none l := ⟨by rw [hr]; rfl, h.record, h.writing⟩
    exact freeLibrary_abides hhas fun _ h' => rest_failed h' noDispatch
  · have hnone : l.reference = none := by
      refine h.nothing fun hvalid => ?_
      by_contra hrelease
      have hrelease : lease.releaseModuleOnClose = true := by simpa using hrelease
      have hmodule : lease.dispatch.module ≠ 0 := by
        have hcomplete := h.complete hvalid
        simp only [isCompleteDispatch, Bool.and_eq_true, decide_eq_true_eq] at hcomplete
        exact hcomplete.1.1.2
      exact hno ⟨hvalid, hrelease, hmodule, (h.carries hvalid hrelease).1⟩
    exact rest_failed ⟨by rw [hnone]; rfl, h.record, h.writing⟩ noDispatch

end RS2ServerFix.Bootstrap
