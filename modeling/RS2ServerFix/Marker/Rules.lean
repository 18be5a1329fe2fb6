import RS2ServerFix.Marker.Write

namespace RS2ServerFix.Marker

open Lib NativeLog

abbrev MarkerEvents : Type := List (Sigma MarkerAnswer)

/-- The file was created, written with the whole text, flushed and closed, each
without an error. -/
def WrittenWhole (path : List UInt16) (text : List UInt8) (events : MarkerEvents) : Prop :=
  ∃ (opened : FileOpened) (writing : FileWritten) (flushing closing : FileResult),
    events = [⟨.createAlways path, opened⟩, ⟨.write opened.file text, writing⟩, ⟨.flush opened.file, flushing⟩,
      ⟨.close opened.file, closing⟩] ∧
    opened.usable = true ∧ writing.ok = true ∧ writing.written.toNat = text.length ∧ flushing.ok = true ∧
    closing.ok = true

def Unremoved (events : MarkerEvents) : Prop :=
  ∃ (path : List UInt16) (removal : FileResult), ⟨.remove path, removal⟩ ∈ events ∧ removal.ok = false

/-- What a file that was not written as it should be has come to. -/
structure Abandoned (path : List UInt16) (cleanupError : UInt32) (events : MarkerEvents) (out : FileWrite) : Prop where
  failed : out.success = false
  error : out.error ≠ errorSuccess
  cleanup : cleanupError = errorSuccess → (out.cleanupError ≠ errorSuccess ↔ Unremoved events)
  removed : ∀ p (opened : FileOpened), ⟨.createAlways p, opened⟩ ∈ events → opened.usable = true →
    p = path ∧ ∃ removal : FileResult, ⟨.remove path, removal⟩ ∈ events

theorem errorOr_ne {otherwise : UInt32} (h : otherwise ≠ errorSuccess) (reported : UInt32) :
    errorOr reported otherwise ≠ errorSuccess := by
  unfold errorOr
  split
  · exact h
  · assumption

theorem removeMarker_yields {path : List UInt16} {localError cleanupError : UInt32} {events : MarkerEvents}
    {out : FileWrite} (h : Yields (removeMarker path localError cleanupError) events out) :
    ∃ removal : FileResult, events = [⟨.remove path, removal⟩] ∧ out.success = false ∧ out.error = localError ∧
      out.cleanupError = if removal.ok then cleanupError else errorOr removal.error errorWriteFault := by
  obtain ⟨removal, rest, rfl, hrest⟩ := Yields.of_query (c := out) h
  obtain ⟨rfl, rfl⟩ := Yields.done_iff.mp hrest
  exact ⟨removal, rfl, rfl, rfl, rfl⟩

theorem closeMarker_yields {path : List UInt16} {file : UInt64} {success : Bool} {localError cleanupError : UInt32}
    {events : MarkerEvents} {out : FileWrite}
    (h : Yields (closeMarker path file success localError cleanupError) events out)
    (herror : success = false → localError ≠ errorSuccess) :
    ∃ closing : FileResult,
      (success = true ∧ closing.ok = true ∧ events = [⟨.close file, closing⟩] ∧
        out = ⟨true, errorSuccess, cleanupError⟩) ∨
      ∃ removal : FileResult, events = [⟨.close file, closing⟩, ⟨.remove path, removal⟩] ∧ out.success = false ∧
        out.error ≠ errorSuccess ∧
        out.cleanupError = if removal.ok then cleanupError else errorOr removal.error errorWriteFault := by
  obtain ⟨closing, rest, rfl, hrest⟩ := Yields.of_query (c := out) h
  refine ⟨closing, ?_⟩
  split at hrest
  · next hs =>
    obtain ⟨removal, rfl, hfalse, he, hcleanup⟩ := removeMarker_yields hrest
    exact .inr ⟨removal, rfl, hfalse, he ▸ herror (by simpa using hs), hcleanup⟩
  split at hrest
  · obtain ⟨removal, rfl, hfalse, he, hcleanup⟩ := removeMarker_yields hrest
    exact .inr ⟨removal, rfl, hfalse, he ▸ errorOr_ne (by decide) _, hcleanup⟩
  · next hs hc =>
    obtain ⟨rfl, rfl⟩ := Yields.done_iff.mp hrest
    exact .inl ⟨by simpa using hs, by simpa using hc, rfl, rfl⟩

theorem Abandoned.after {path : List UInt16} {cleanupError : UInt32} {out : FileWrite}
    {removal : FileResult} (before : MarkerEvents)
    (hbefore : ∀ e ∈ before, (∀ p (o : FileOpened), e = ⟨.createAlways p, o⟩ → p = path) ∧
      ∀ p (r : FileResult), e ≠ ⟨.remove p, r⟩)
    (hfailed : out.success = false) (herror : out.error ≠ errorSuccess)
    (hcleanup : out.cleanupError = if removal.ok then cleanupError else errorOr removal.error errorWriteFault) :
    Abandoned path cleanupError (before ++ [⟨.remove path, removal⟩]) out where
  failed := hfailed
  error := herror
  cleanup := by
    intro hzero
    cases hok : removal.ok
    · have hne : out.cleanupError ≠ errorSuccess := by
        rw [hcleanup, hok]
        exact errorOr_ne (by decide) _
      exact ⟨fun _ => ⟨path, removal, by simp, hok⟩, fun _ => hne⟩
    · have heq : out.cleanupError = errorSuccess := by
        rw [hcleanup, hok]
        exact hzero
      refine ⟨fun h => absurd heq h, fun h => ?_⟩
      obtain ⟨p, r, hmem, hr⟩ := h
      rcases List.mem_append.mp hmem with hmem | hmem
      · exact absurd rfl ((hbefore _ hmem).2 p r)
      · cases List.mem_singleton.mp hmem
        rw [hok] at hr
        cases hr
  removed := by
    intro p o hmem _
    rcases List.mem_append.mp hmem with hmem | hmem
    · exact ⟨(hbefore _ hmem).1 p o rfl, removal, by simp⟩
    · cases List.mem_singleton.mp hmem

theorem writeMarkerFile_yields {path : List UInt16} {text : List UInt8} {cleanupError : UInt32} {events : MarkerEvents}
    {out : FileWrite} (h : Yields (writeMarkerFile path text cleanupError) events out) :
    out = ⟨true, errorSuccess, cleanupError⟩ ∧ WrittenWhole path text events ∨ Abandoned path cleanupError events out := by
  have hnothing : ∀ {out : FileWrite} {events : MarkerEvents}, out.success = false → out.error ≠ errorSuccess →
      out.cleanupError = cleanupError → (∀ e ∈ events, ∀ p (r : FileResult), e ≠ ⟨.remove p, r⟩) →
      (∀ e ∈ events, ∀ p (o : FileOpened), e = ⟨.createAlways p, o⟩ → o.usable = false) →
      Abandoned path cleanupError events out := by
    intro out events hfailed herror hcleanup hremove hcreate
    refine ⟨hfailed, herror, fun hzero => ⟨fun hne => absurd (hcleanup.trans hzero) hne, ?_⟩, ?_⟩
    · rintro ⟨p, r, hmem, -⟩
      exact absurd rfl (hremove _ hmem p r)
    · intro p o hmem husable
      rw [hcreate _ hmem p o rfl] at husable
      cases husable
  unfold writeMarkerFile at h
  split at h
  · obtain ⟨rfl, rfl⟩ := Yields.done_iff.mp h
    exact .inr (hnothing rfl (show errorInvalidParameter ≠ errorSuccess by decide) rfl (by simp) (by simp))
  obtain ⟨opened, rest, rfl, hopen⟩ := Yields.of_query (c := out) h
  split at hopen
  · next husable =>
    obtain ⟨rfl, rfl⟩ := Yields.done_iff.mp hopen
    refine .inr (hnothing rfl (errorOr_ne (by decide) _) rfl ?_ ?_)
    · intro e he p r heq
      rw [List.mem_singleton.mp he] at heq
      cases heq
    · intro e he p o heq
      rw [List.mem_singleton.mp he] at heq
      cases heq
      simpa using husable
  next husable =>
  have husable : opened.usable = true := by simpa using husable
  obtain ⟨writing, rest, rfl, hwrite⟩ := Yields.of_query (c := out) hopen
  split at hwrite
  · obtain ⟨closing, ⟨hs, -⟩ | ⟨removal, rfl, hfailed, herror, hcleanup⟩⟩ :=
      closeMarker_yields hwrite fun _ => errorOr_ne (by decide) _
    · cases hs
    · exact .inr (.after [⟨.createAlways path, opened⟩, ⟨.write opened.file text, writing⟩,
        ⟨.close opened.file, closing⟩] (by simp) hfailed herror hcleanup)
  next hwhole =>
  rw [not_or, not_not] at hwhole
  have hok : writing.ok = true := by simpa using hwhole.1
  obtain ⟨flushing, rest, rfl, hflush⟩ := Yields.of_query (c := out) hwrite
  split at hflush
  · obtain ⟨closing, ⟨hs, -⟩ | ⟨removal, rfl, hfailed, herror, hcleanup⟩⟩ :=
      closeMarker_yields hflush fun _ => errorOr_ne (by decide) _
    · cases hs
    · exact .inr (.after [⟨.createAlways path, opened⟩, ⟨.write opened.file text, writing⟩,
        ⟨.flush opened.file, flushing⟩, ⟨.close opened.file, closing⟩] (by simp) hfailed herror hcleanup)
  next hflushed =>
  have hflushed : flushing.ok = true := by simpa using hflushed
  obtain ⟨closing, ⟨-, hclosed, rfl, rfl⟩ | ⟨removal, rfl, hfailed, herror, hcleanup⟩⟩ :=
    closeMarker_yields hflush fun h => by cases h
  · exact .inl ⟨rfl, opened, writing, flushing, closing, rfl, husable, hok, hwhole.2, hflushed, hclosed⟩
  · exact .inr (.after [⟨.createAlways path, opened⟩, ⟨.write opened.file text, writing⟩,
      ⟨.flush opened.file, flushing⟩, ⟨.close opened.file, closing⟩] (by simp) hfailed herror hcleanup)

theorem attemptMarker_yields {path : Option (List UInt16)} {text : Option (List UInt8)} {cleanupError : UInt32}
    {events : MarkerEvents} {out : FileWrite} (h : Yields (attemptMarker path text cleanupError) events out) :
    (∃ p t, path = some p ∧ text = some t ∧ out = ⟨true, errorSuccess, cleanupError⟩ ∧ WrittenWhole p t events) ∨
      out.success = false ∧ (cleanupError = errorSuccess → (out.cleanupError ≠ errorSuccess ↔ Unremoved events)) ∧
        ∀ p (opened : FileOpened), ⟨.createAlways p, opened⟩ ∈ events → opened.usable = true →
          path = some p ∧ ∃ removal : FileResult, ⟨.remove p, removal⟩ ∈ events := by
  have hnone : Yields (pure ⟨false, errorSuccess, cleanupError⟩ : MarkerAsk FileWrite) events out →
      out.success = false ∧ (cleanupError = errorSuccess → (out.cleanupError ≠ errorSuccess ↔ Unremoved events)) ∧
        ∀ p (opened : FileOpened), ⟨.createAlways p, opened⟩ ∈ events → opened.usable = true →
          path = some p ∧ ∃ removal : FileResult, ⟨.remove p, removal⟩ ∈ events := by
    intro h
    obtain ⟨rfl, rfl⟩ := Yields.done_iff.mp h
    exact ⟨rfl, fun hzero => ⟨fun hne => absurd hzero hne, fun ⟨_, _, hmem, _⟩ => absurd hmem List.not_mem_nil⟩,
      fun _ _ hmem => absurd hmem List.not_mem_nil⟩
  cases path with
  | none => exact .inr (hnone h)
  | some p =>
      cases text with
      | none => exact .inr (hnone h)
      | some t =>
          rcases writeMarkerFile_yields h with ⟨hout, hwhole⟩ | habandoned
          · exact .inl ⟨p, t, rfl, rfl, hout, hwhole⟩
          · refine .inr ⟨habandoned.failed, habandoned.cleanup, fun q opened hmem husable => ?_⟩
            obtain ⟨rfl, hremoved⟩ := habandoned.removed q opened hmem husable
            exact ⟨rfl, hremoved⟩

theorem buildMarkerPath_length {directory : Option (List UInt16)} {processId : UInt32} {capacity : Nat}
    {path : List UInt16} (h : buildMarkerPath directory processId capacity = some path) : path.length < capacity := by
  unfold buildMarkerPath at h
  split at h
  · cases h
  split at h
  · cases h
  dsimp only at h
  generalize _ ++ _ ++ markerFilename processId = built at h
  split at h
  · cases h
  · next hfits =>
    injection h with h
    subst h
    omega

theorem copyPath_built {directory : Option (List UInt16)} {processId : UInt32} {capacity : Nat} {path : List UInt16}
    (h : buildMarkerPath directory processId capacity = some path) : copyPath path capacity = path :=
  if_neg (Nat.not_le.mpr (buildMarkerPath_length h))

theorem fallbackPath_some {lower : UInt16 → UInt16} {primaryPath directory : Option (List UInt16)} {processId : UInt32}
    {path : List UInt16} (h : fallbackPath lower primaryPath directory processId = some path) :
    buildMarkerPath directory processId kMarkerPathCapacity = some path ∧
      ∀ primary, primaryPath = some primary → wcsicmpEqual lower primary path = false := by
  obtain ⟨hbuilt, hdiffers⟩ := Option.filter_eq_some_iff.mp h
  refine ⟨hbuilt, ?_⟩
  rintro primary rfl
  simpa using hdiffers

/-- The data of the fallback: only the two words on how it came to be written
differ, the result where a file was left behind. -/
structure Reports (data : MarkerData) (primaryError : UInt32) (events : MarkerEvents) (reported : MarkerData) :
    Prop where
  same : reported = { data with primaryWriteError := primaryError, initializeResult := reported.initializeResult }
  unremoved : Unremoved events → reported.initializeResult = kInitMarkerWriteFailed ∧ markerStateAccepted reported = false
  otherwise : ¬ Unremoved events → reported.initializeResult = data.initializeResult

/-- A file that is there in the end: it is the last thing that was done. -/
def Stands (path : List UInt16) (data : MarkerData) (events before : MarkerEvents) (text : List UInt8) : Prop :=
  ∃ file, events = before ++ file ∧ formatMarkerUtf8 data kMarkerCapacity = some text ∧ WrittenWhole path text file

structure MarkerOutcome (lower : UInt16 → UInt16) (primaryDirectory fallbackDirectory : Option (List UInt16)) (data : MarkerData)
    (events : MarkerEvents) (returned : Bool) (result : MarkerWriteResult) : Prop where
  agrees : returned = result.written
  primary : result.written = true → result.usedFallback = false →
    buildMarkerPath primaryDirectory data.processId kMarkerPathCapacity = some result.writtenPath ∧
      ∃ before text, Stands result.writtenPath data events before text
  fallback : result.usedFallback = true → result.written = true ∧
    buildMarkerPath fallbackDirectory data.processId kMarkerPathCapacity = some result.writtenPath ∧
    (∀ path, buildMarkerPath primaryDirectory data.processId kMarkerPathCapacity = some path →
      wcsicmpEqual lower path result.writtenPath = false) ∧
    result.primaryError ≠ errorSuccess ∧
    ∃ before text reported, Stands result.writtenPath reported events before text ∧
      Reports data result.primaryError before reported ∧
      HasLine text (ascii "primary_write_error") (decimal result.primaryError.toNat) ∧
      HasLine text (ascii "initialize_result") (decimal reported.initializeResult.toNat) ∧
      ∀ path (opened : FileOpened), ⟨.createAlways path, opened⟩ ∈ before → opened.usable = true →
        buildMarkerPath primaryDirectory data.processId kMarkerPathCapacity = some path ∧
          ∃ removal : FileResult, ⟨.remove path, removal⟩ ∈ before
  failed : returned = false → result.usedFallback = false ∧ result.writtenPath = [] ∧ result.finalError ≠ errorSuccess

theorem fallbackData_reports {data : MarkerData} {primaryError cleanupError : UInt32} {events : MarkerEvents}
    (h : cleanupError ≠ errorSuccess ↔ Unremoved events) :
    Reports data primaryError events (fallbackData data primaryError cleanupError) where
  same := rfl
  unremoved := by
    intro hleft
    have hresult : (fallbackData data primaryError cleanupError).initializeResult = kInitMarkerWriteFailed :=
      if_pos (h.mpr hleft)
    refine ⟨hresult, ?_⟩
    rw [markerStateAccepted, hresult, show decide (kInitMarkerWriteFailed = kInitOk) = false from rfl, Bool.and_false]
  otherwise := fun hleft => if_neg fun hne => hleft (h.mp hne)

theorem unremoved_allocate {allocated : Bool} {events : MarkerEvents} :
    Unremoved (⟨.allocate, allocated⟩ :: events) ↔ Unremoved events := by
  constructor
  · rintro ⟨path, removal, hmem, hok⟩
    rcases List.mem_cons.mp hmem with he | hmem
    · cases he
    · exact ⟨path, removal, hmem, hok⟩
  · rintro ⟨path, removal, hmem, hok⟩
    exact ⟨path, removal, List.mem_cons_of_mem _ hmem, hok⟩

theorem marker_write_falls_back (lower : UInt16 → UInt16) (ops : MarkerFileOps)
    (primaryDirectory fallbackDirectory : Option (List UInt16)) (data : MarkerData) {events : MarkerEvents}
    {returned : Bool} {result : MarkerWriteResult}
    (h : Yields (writeMarkerWithFallback lower ops primaryDirectory fallbackDirectory data) events (returned, result)) :
    MarkerOutcome lower primaryDirectory fallbackDirectory data events returned result := by
  have hrefused : ∀ {result : MarkerWriteResult} {returned : Bool}, returned = false → result.written = false →
      result.usedFallback = false → result.writtenPath = [] → result.finalError ≠ errorSuccess →
      MarkerOutcome lower primaryDirectory fallbackDirectory data events returned result := by
    intro result returned hr hw hu hpath herror
    refine ⟨hr.trans hw.symm, fun h => ?_, fun h => ?_, fun _ => ⟨hu, hpath, herror⟩⟩
    · rw [hw] at h
      cases h
    · rw [hu] at h
      cases h
  unfold writeMarkerWithFallback at h
  split at h
  · obtain ⟨-, heq⟩ := Yields.done_iff.mp h
    obtain ⟨rfl, rfl⟩ := Prod.mk.inj heq
    exact hrefused rfl rfl rfl rfl (show errorInvalidParameter ≠ errorSuccess by decide)
  obtain ⟨allocated, rest, rfl, hallocated⟩ := Yields.of_query (c := (returned, result)) h
  split at hallocated
  · obtain ⟨-, heq⟩ := Yields.done_iff.mp hallocated
    obtain ⟨rfl, rfl⟩ := Prod.mk.inj heq
    exact hrefused rfl rfl rfl rfl (show errorNotEnoughMemory ≠ errorSuccess by decide)
  obtain ⟨before, first, after, rfl, hfirst, hrest⟩ := Yields.of_bind hallocated
  rcases attemptMarker_yields hfirst with ⟨path, text, hpath, htext, rfl, hwhole⟩ | ⟨hfailed, hcleanup, hremoved⟩
  · rw [if_pos rfl] at hrest
    obtain ⟨rfl, heq⟩ := Yields.done_iff.mp hrest
    obtain ⟨rfl, rfl⟩ := Prod.mk.inj heq
    have hcopied : copyPath ((buildMarkerPath primaryDirectory data.processId kMarkerPathCapacity).getD [])
        kMarkerPathCapacity = path := by
      rw [hpath]
      exact copyPath_built hpath
    refine ⟨rfl, fun _ _ => ?_, fun hused => ?_, fun hfalse => ?_⟩
    · dsimp only
      rw [hcopied]
      exact ⟨hpath, [⟨.allocate, allocated⟩], text, before, by simp, htext, hwhole⟩
    · cases hused
    · cases hfalse
  rw [if_neg (by simp [hfailed])] at hrest
  obtain ⟨middle, second, last, rfl, hsecond, hlast⟩ := Yields.of_bind hrest
  rcases attemptMarker_yields hsecond with ⟨path, text, hpath, htext, rfl, hwhole⟩ | ⟨hfailed', -, -⟩
  · rw [if_neg (by simp)] at hlast
    obtain ⟨rfl, heq⟩ := Yields.done_iff.mp hlast
    obtain ⟨rfl, rfl⟩ := Prod.mk.inj heq
    obtain ⟨hbuilt, hdiffers⟩ := fallbackPath_some hpath
    have hcopied : copyPath ((fallbackPath lower (buildMarkerPath primaryDirectory data.processId kMarkerPathCapacity)
        fallbackDirectory data.processId).getD []) kMarkerPathCapacity = path := by
      rw [hpath]
      exact copyPath_built hbuilt
    obtain ⟨hresult, herror⟩ := formatMarkerUtf8_says htext
    have hreports : Reports data (errorOr first.error errorInvalidName) (⟨.allocate, allocated⟩ :: before)
        (fallbackData data (errorOr first.error errorInvalidName) first.cleanupError) :=
      fallbackData_reports ((hcleanup rfl).trans unremoved_allocate.symm)
    refine ⟨rfl, fun _ hunused => ?_, fun _ => ?_, fun hfalse => ?_⟩
    · cases hunused
    · dsimp only
      rw [hcopied]
      refine ⟨rfl, hbuilt, hdiffers, errorOr_ne (by decide) _, ⟨.allocate, allocated⟩ :: before, text, _,
        ⟨middle, by simp, htext, hwhole⟩, hreports, herror, hresult, fun q opened hmem husable => ?_⟩
      rcases List.mem_cons.mp hmem with he | hmem
      · cases he
      · obtain ⟨hq, removal, hremoval⟩ := hremoved q opened hmem husable
        exact ⟨hq, removal, List.mem_cons_of_mem _ hremoval⟩
    · cases hfalse
  · rw [if_pos (by simp [hfailed'])] at hlast
    obtain ⟨-, heq⟩ := Yields.done_iff.mp hlast
    obtain ⟨rfl, rfl⟩ := Prod.mk.inj heq
    exact hrefused rfl rfl rfl rfl (errorOr_ne (by decide) _)

def sampleMarker : MarkerData where
  utc := ⟨2024, 2, 4, 29, 23, 59, 58, 7⟩
  processId := 4242
  executableSize := 65536
  digest := kCurrentFullDump
  digestValid := true
  buildIdentity := .known .currentFullDump
  genuineSystem32 := true
  genuineExportsMask := 3
  triggerKind := 1
  mode := .active
  recon := ⟨.known .active, .known .none, 0, true⟩
  initializeResult := 0
  primaryWriteError := 0
  bootstrapBesideExecutable := true
  companionBesideExecutable := true
  complete := true
  executableLeaf := (Vector.replicate 260 0).set 0 97

/-- The first file takes nothing and cannot be removed; `n` counts the files. -/
def firstFileStuck (n : Nat) : (q : MarkerQuestion) → MarkerAnswer q × Nat
  | .allocate => (true, n)
  | .createAlways _ => (⟨n.toUInt64 + 16, 0⟩, n + 1)
  | .write _ bytes => (⟨⟨true, 0⟩, if n = 1 then 0 else bytes.length.toUInt32⟩, n)
  | .flush _ => (⟨true, 0⟩, n)
  | .close _ => (⟨true, 0⟩, n)
  | .remove _ => (⟨false, 0⟩, n)

def sampleWrite : MarkerAsk (Bool × MarkerWriteResult) :=
  writeMarkerWithFallback id ⟨true, true, true, true, true⟩ (some (wide "C:\\primary")) (some (wide "C:\\temporary"))
    sampleMarker

theorem marker_write_falls_back_sample :
    (sampleWrite.talk firstFileStuck 0).2.2.usedFallback = true ∧ markerStateAccepted sampleMarker = true ∧
      MarkerOutcome id (some (wide "C:\\primary")) (some (wide "C:\\temporary")) sampleMarker
        (sampleWrite.talk firstFileStuck 0).1 (sampleWrite.talk firstFileStuck 0).2.1
        (sampleWrite.talk firstFileStuck 0).2.2 :=
  ⟨by decide +kernel, by decide +kernel, marker_write_falls_back id ⟨true, true, true, true, true⟩ _ _ sampleMarker
    (Yields.talk_pair firstFileStuck 0 sampleWrite)⟩

end RS2ServerFix.Marker
