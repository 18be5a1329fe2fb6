import RS2ServerFix.Lib.JsonText
import RS2ServerFix.NativeLog.Escape
import RS2ServerFix.Reporting.FormatFacts

namespace RS2ServerFix.Reporting

open NativeLog
open Lib.Json (Value Str Tail Object Whole plain)

theorem digit_decimal {n : Nat} (h : n < 10) : Lib.Json.digit (48 + n.toUInt8) = true := by
  have hall : ∀ k : Fin 10, Lib.Json.digit (48 + k.val.toUInt8) = true := by decide
  exact hall ⟨n, h⟩

theorem digits_digits {places n : Nat} (hp : 0 < places) : Lib.Json.Digits (digits places n) := by
  induction places generalizing n with
  | zero => exact absurd hp (Nat.lt_irrefl 0)
  | succ places ih =>
      rw [digits]
      split
      · rename_i hlt
        exact ⟨List.cons_ne_nil _ _, by rw [List.all_cons, digit_decimal hlt]; rfl⟩
      · refine ⟨by simp, ?_⟩
        have hrest : (digits places (n / 10)).all Lib.Json.digit = true := by
          cases places with
          | zero => rfl
          | succ places => exact (ih (Nat.succ_pos places)).2
        rw [List.all_append, hrest, List.all_cons, digit_decimal (Nat.mod_lt n (by decide))]
        rfl

theorem digits_whole {places n : Nat} (hp : 0 < places) (h : n < 10 ^ places) : Whole (digits places n) := by
  refine ⟨digits_digits hp, ?_⟩
  induction places generalizing n with
  | zero => exact absurd hp (Nat.lt_irrefl 0)
  | succ places ih =>
      rw [digits]
      split
      · rename_i hlt
        intro hhead
        rw [List.head?_cons, Option.some.injEq] at hhead
        rw [hhead]
      · rename_i hlarge
        have hpos : 0 < places := by
          rcases Nat.eq_zero_or_pos places with rfl | hpos
          · exact absurd h hlarge
          · exact hpos
        have hn : n / 10 < 10 ^ places := by
          rw [Nat.pow_succ] at h
          omega
        intro hhead
        rw [List.head?_append_of_ne_nil _ (digits_digits hpos).1] at hhead
        have hzero := digits_shown places (n / 10) hn
        rw [ih hpos hn hhead] at hzero
        have hshown : shown [48] = 0 := rfl
        omega

theorem decimal_value {n : Nat} (h : n ≤ uint64Max) : Value (decimal n) :=
  .number (digits_whole (by decide) (lt_of_le_of_lt h (by decide))).number

theorem quoted_str {s : List UInt8} (h : s.all plain = true) : Str (quoted s) := by
  have hquote : ascii "\"" = [34] := by decide
  rw [quoted, hquote, List.append_assoc]
  exact Lib.Json.str_of_plain h

theorem hexDigit_plain (v : UInt8) (h : v < 16) : plain (hexDigit v) = true := by
  have hall : ∀ k : Fin 16, plain (hexDigit k.val.toUInt8) = true := by decide
  have hv := hall ⟨v.toNat, UInt8.lt_iff_toNat_lt.mp h⟩
  simpa using hv

theorem hex_plain (bytes : List UInt8) : (hex bytes).all plain = true := by
  refine List.all_eq_true.mpr fun c hc => ?_
  obtain ⟨v, -, hv⟩ := List.mem_flatMap.mp hc
  obtain ⟨hhigh, hlow⟩ := nibble_bounds v
  rcases List.mem_pair.mp hv with rfl | rfl
  · exact hexDigit_plain _ hhigh
  · exact hexDigit_plain _ hlow

theorem hex_str (bytes : List UInt8) : Str (quoted (hex bytes)) := quoted_str (hex_plain bytes)

theorem member_eq (name : String) (value : List UInt8) :
    member name value = 44 :: (quoted (ascii name) ++ 58 :: value) := by
  have hopen : ascii ",\"" = [44, 34] := by decide
  have hclose : ascii "\":" = [34, 58] := by decide
  have hquote : ascii "\"" = [34] := by decide
  simp only [member, quoted, hopen, hclose, hquote, List.cons_append, List.nil_append, List.append_assoc]

theorem member_tail {name : String} {value : List UInt8} (hname : (ascii name).all plain = true) (hv : Value value) :
    Tail (member name value) :=
  member_eq name value ▸ .member (quoted_str hname) hv

theorem number_tail {name : String} (hname : (ascii name).all plain = true) {n : Nat} (hn : n ≤ uint64Max) :
    Tail (member name (decimal n)) := member_tail hname (decimal_value hn)

theorem text_tail {name : String} (hname : (ascii name).all plain = true) {s : List UInt8} (hs : Str s) :
    Tail (member name s) := member_tail hname (.string hs)

theorem word_tail {name : String} (hname : (ascii name).all plain = true) {t : List UInt8}
    (ht : t ∈ Lib.Json.literals) : Tail (member name t) := member_tail hname (.literal ht)

/-- The names of the scalars are among those of a sample. -/
theorem scalarTexts_tail (sample : Scalars) {pairs : Scalars} (h : pairs.map Prod.fst ⊆ sample.map Prod.fst)
    (hnames : sample.all (fun p => (ascii p.1).all plain) = true) (hvalues : ∀ p ∈ pairs, p.2 ≤ uint64Max) :
    Tail (scalarTexts pairs).flatten := by
  refine Tail.flatten fun t ht => ?_
  obtain ⟨p, hp, rfl⟩ := List.mem_map.mp ht
  obtain ⟨q, hq, heq⟩ := List.mem_map.mp (h (List.mem_map_of_mem hp))
  exact number_tail (heq ▸ List.all_eq_true.mp hnames q hq) (hvalues p hp)

section Scalars

@[simp] theorem le_max64 (v : UInt64) : v.toNat ≤ uint64Max := Nat.le_of_lt_succ v.toNat_lt

@[simp] theorem le_max32 (v : UInt32) : v.toNat ≤ uint64Max := (Nat.le_of_lt v.toNat_lt).trans (by decide)

theorem mem_optional {P : String × Nat → Prop} {c : Prop} [Decidable c] {pairs : Scalars} (h : ∀ q ∈ pairs, P q) :
    ∀ q ∈ (if c then pairs else []), P q := by
  split
  · exact h
  · exact fun q hq => absurd hq List.not_mem_nil

theorem stateScalars_le (p : ReportStatePayload) : ∀ q ∈ stateScalars p, q.2 ≤ uint64Max := by
  simp [stateScalars]

theorem requestScalars_le (p : ReportRequestPayload) : ∀ q ∈ requestScalars p, q.2 ≤ uint64Max := by
  simp [requestScalars]

theorem builderScalars_le (p : ReportBuilderPayload) : ∀ q ∈ builderScalars p, q.2 ≤ uint64Max := by
  simp only [builderScalars, List.forall_mem_append]
  exact ⟨⟨⟨by simp, mem_optional (by simp)⟩, by simp⟩, mem_optional (by simp)⟩

theorem anchorScalars_le (p : ReportAnchorPayload) : ∀ q ∈ anchorScalars p, q.2 ≤ uint64Max := by
  simp [anchorScalars]

theorem transportScalars_le (p : ReportTransportSummaryPayload) : ∀ q ∈ transportScalars p, q.2 ≤ uint64Max := by
  simp [transportScalars]

theorem controlScalars_le (p : ReportControlPayload) : ∀ q ∈ controlScalars p, q.2 ≤ uint64Max := by
  simp [controlScalars]

theorem recoveryOrigin_le (p : ReportRecoveryPayload) : recoveryOrigin p ≤ uint64Max := by
  rw [recoveryOrigin]
  split
  · decide
  · split
    · decide
    · decide

theorem recoveryScalars_le (p : ReportRecoveryPayload) : ∀ q ∈ recoveryScalars p, q.2 ≤ uint64Max := by
  simp [recoveryScalars, recoveryOrigin_le]

theorem compactScalars_le (a : ReportPayloadV3) (kind : RecordKindV3) :
    ∀ q ∈ compactScalars a kind, q.2 ≤ uint64Max := by
  cases kind
  case state | anchor | transportSummary => simp [compactScalars]
  all_goals
    simp only [compactScalars, List.forall_mem_append]
    exact ⟨by simp, mem_optional (by simp)⟩

end Scalars

section Payloads

theorem headerText_tail (h : ReportHeader) : Tail (headerText h) := by
  refine .append (.append (.append (.append (.append ?_ ?_) ?_) ?_) ?_) ?_
  all_goals exact number_tail (by decide) (by simp)

theorem detailText_tail (compact : Bool) : Tail (detailText compact) := by
  cases compact
  · exact text_tail (by decide) (quoted_str (by decide))
  · exact text_tail (by decide) (quoted_str (by decide))

/-- A builder payload has no names beyond those of one with both flags. -/
theorem builderScalars_names (p : ReportBuilderPayload) : (builderScalars p).map Prod.fst ⊆
    (builderScalars { (default : ReportBuilderPayload) with preparedValid := 1, preparedDirtyValid := 1 }).map Prod.fst := by
  have hoptional {c : Prop} [Decidable c] (pairs : Scalars) :
      ((if c then pairs else []).map Prod.fst).Sublist (pairs.map Prod.fst) := by
    split
    · exact .refl _
    · exact List.nil_sublist _
  simp only [builderScalars, List.map_append, if_true]
  exact (((List.Sublist.refl _).append (hoptional _)).append (.refl _)).append (hoptional _) |>.subset

theorem builderScalars_tail (p : ReportBuilderPayload) : Tail (scalarTexts (builderScalars p)).flatten :=
  scalarTexts_tail _ (builderScalars_names p) (by decide +kernel) (builderScalars_le p)

theorem compactScalars_tail (a : ReportPayloadV3) (kind : RecordKindV3) :
    Tail (scalarTexts (compactScalars a kind)).flatten := by
  have hle := compactScalars_le a kind
  cases kind
  case state => exact scalarTexts_tail (compactScalars default .state) (.refl _) (by decide) hle
  case anchor => exact scalarTexts_tail (compactScalars default .anchor) (.refl _) (by decide) hle
  case transportSummary => exact scalarTexts_tail (compactScalars default .transportSummary) (.refl _) (by decide) hle
  all_goals
    refine scalarTexts_tail (compactScalars { (default : ReportPayloadV3) with
      builder := { (default : ReportBuilderPayload) with preparedValid := 1 } } .request) ?_ (by decide) hle
    simp only [compactScalars, List.map_append, if_true]
    split
    · exact .refl _
    · exact List.subset_append_left _ _

def durationMembers (d : ReportDurationSummary) : List UInt8 :=
  member "calls" (decimal d.calls.toNat) ++ member "elapsed_ticks" (decimal d.elapsedTicks.toNat) ++
    member "maximum_ticks" (decimal d.maximumTicks.toNat) ++
    member "over_five_milliseconds" (decimal d.overFiveMilliseconds.toNat)

def durationObject (i : Nat) (d : ReportDurationSummary) : List UInt8 :=
  123 :: (quoted (ascii "class") ++ 58 :: decimal i ++ durationMembers d ++ [125])

theorem durationText_eq (i : Nat) (d : ReportDurationSummary) :
    durationText i d = (if i = 0 then [] else ascii ",") ++ durationObject i d := by
  have hopen : ascii "\x7b\"class\":" = 123 :: (quoted (ascii "class") ++ [58]) := by decide
  have hclose : ascii "\x7d" = [125] := by decide
  simp only [durationText, durationObject, durationMembers, hopen, hclose, List.cons_append, List.nil_append,
    List.append_assoc]

theorem durationObject_value {i : Nat} (hi : i ≤ uint64Max) (d : ReportDurationSummary) :
    Value (durationObject i d) := by
  have htail : Tail (durationMembers d) := by
    refine .append (.append (.append ?_ ?_) ?_) ?_
    all_goals exact number_tail (by decide) (by simp)
  exact (htail.object (quoted_str (by decide)) (decimal_value hi)).value

theorem mapIdx_flatten {α : Type} (c : UInt8) (f : Nat → α → List UInt8) (l : List α) :
    (l.mapIdx fun i a => c :: f i a).flatten = (l.mapIdx f).flatMap (c :: ·) := by
  induction l generalizing f with
  | nil => rfl
  | cons a l ih => rw [List.mapIdx_cons, List.mapIdx_cons, List.flatten_cons, List.flatMap_cons, ih fun i => f (i + 1)]

theorem durations_eq (ds : List ReportDurationSummary) :
    (ds.mapIdx durationText).flatten = Lib.Json.commas (ds.mapIdx durationObject) := by
  have hcomma : ascii "," = [44] := by decide
  cases ds with
  | nil => rfl
  | cons d ds =>
      have hrest : (fun i => durationText (i + 1)) = fun i d => 44 :: durationObject (i + 1) d := by
        funext i d
        rw [durationText_eq, if_neg (Nat.succ_ne_zero i), hcomma]
        rfl
      rw [List.mapIdx_cons, List.mapIdx_cons, List.flatten_cons, Lib.Json.commas, durationText_eq, if_pos rfl,
        List.nil_append, hrest, mapIdx_flatten]

theorem durations_tail (ds : List ReportDurationSummary) (h : ds.length ≤ uint64Max) :
    Tail (ascii ",\"durations\":[" ++ (ds.mapIdx durationText).flatten ++ ascii "]") := by
  have hopen : ascii ",\"durations\":[" = 44 :: (quoted (ascii "durations") ++ [58, 91]) := by decide
  have hclose : ascii "]" = [93] := by decide
  have hvalues : ∀ t ∈ ds.mapIdx durationObject, Value t := by
    intro t ht
    obtain ⟨i, hi, rfl⟩ := List.mem_mapIdx.mp ht
    exact durationObject_value ((Nat.le_of_lt hi).trans h) _
  have hmember := Tail.member (quoted_str (s := ascii "durations") (by decide)) (.array hvalues)
  rw [durations_eq, hopen, hclose]
  simpa only [List.cons_append, List.nil_append, List.append_assoc] using hmember

theorem anchorTexts_tail (p : ReportAnchorPayload) :
    Tail (scalarTexts (anchorScalars p) ++ [ascii ",\"durations\":["] ++
      p.durations.toList.mapIdx durationText ++ [ascii "]"]).flatten := by
  have hscalars : Tail (scalarTexts (anchorScalars p)).flatten :=
    scalarTexts_tail (anchorScalars default) (.refl _) (by decide +kernel) (anchorScalars_le p)
  have hdurations := durations_tail p.durations.toList (by rw [Vector.length_toList]; decide)
  simpa only [List.flatten_append, List.flatten_singleton, List.append_assoc] using hscalars.append hdurations

theorem payloadTexts_tail (a : ReportPayloadV3) (kind : RecordKindV3) : Tail (payloadTexts a kind).flatten := by
  cases kind with
  | state => exact scalarTexts_tail (stateScalars default) (.refl _) (by decide +kernel) (stateScalars_le a.state)
  | request | witness =>
      exact scalarTexts_tail (requestScalars default) (.refl _) (by decide +kernel) (requestScalars_le a.request)
  | builderEnter | builderReturn | builderUnwind => exact builderScalars_tail a.builder
  | anchor => exact anchorTexts_tail a.anchor
  | transportSummary =>
      exact scalarTexts_tail (transportScalars default) (.refl _) (by decide +kernel) (transportScalars_le a.transport)
  | control => exact scalarTexts_tail (controlScalars default) (.refl _) (by decide +kernel) (controlScalars_le a.control)
  | recovery =>
      exact scalarTexts_tail (recoveryScalars default) (.refl _) (by decide +kernel) (recoveryScalars_le a.recovery)

theorem recordTexts_tail (diagnostics : Diagnostics) (r : ReportRecordV3) (kind : RecordKindV3) (detail : Bool) :
    Tail (recordTexts diagnostics r kind detail).flatten := by
  have hheader := headerText_tail r.header
  rw [recordTexts, List.flatten_cons]
  split
  · split
    · rw [List.flatten_cons]
      exact hheader.append ((detailText_tail true).append (compactScalars_tail r.payload kind))
    · rw [List.flatten_cons]
      exact hheader.append ((detailText_tail false).append (payloadTexts_tail r.payload kind))
  · exact hheader.append (payloadTexts_tail r.payload kind)

end Payloads

end RS2ServerFix.Reporting
