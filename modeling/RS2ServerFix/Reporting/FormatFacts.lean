import RS2ServerFix.Reporting.Format

namespace RS2ServerFix.Reporting

open NativeLog

namespace Json

variable {j : Json}

theorem append_of_bad (h : j.good = false) (text : List UInt8) : j.append text = j := by
  simp [append, h]

theorem append_of_fits (h : j.good = true) {text : List UInt8} (hfit : j.out.length + text.length < j.capacity) :
    j.append text = { j with out := j.out ++ text } := by
  rw [append, if_neg (by simp [h]), if_neg (by omega)]

theorem append_good {text : List UInt8} (h : (j.append text).good = true) :
    j.good = true ∧ (j.append text).out = j.out ++ text ∧ (j.append text).capacity = j.capacity ∧
      j.out.length + text.length < j.capacity := by
  by_cases hg : j.good = true
  · by_cases hfit : j.capacity - j.out.length ≤ text.length
    · rw [append, if_neg (by simp [hg]), if_pos hfit] at h
      exact absurd h (by simp)
    · rw [append_of_fits hg (by omega)]
      exact ⟨hg, rfl, rfl, by omega⟩
  · rw [append_of_bad (by simpa using hg)] at h
    exact absurd h hg

theorem foldl_of_fits (h : j.good = true) (texts : List (List UInt8))
    (hfit : j.out.length + texts.flatten.length < j.capacity) :
    texts.foldl append j = { j with out := j.out ++ texts.flatten } := by
  induction texts generalizing j with
  | nil => simp
  | cons text texts ih =>
      rw [List.flatten_cons, List.length_append] at hfit
      have hrest := @ih { j with out := j.out ++ text } h (by dsimp only; rw [List.length_append]; omega)
      rw [List.foldl_cons, append_of_fits h (by omega), hrest, List.flatten_cons, ← List.append_assoc]

def Grew (j k : Json) : Prop :=
  k.good = true → j.good = true ∧ k.capacity = j.capacity ∧ ∃ more, k.out = j.out ++ more

theorem Grew.refl (j : Json) : Grew j j := fun h => ⟨h, rfl, [], (List.append_nil _).symm⟩

theorem Grew.trans {j k l : Json} (h : Grew j k) (h' : Grew k l) : Grew j l := by
  intro hl
  obtain ⟨hk, hcap, more, hout⟩ := h' hl
  obtain ⟨hj, hcap', more', hout'⟩ := h hk
  exact ⟨hj, hcap.trans hcap', more' ++ more, by rw [hout, hout', List.append_assoc]⟩

theorem append_grew (j : Json) (text : List UInt8) : Grew j (j.append text) := by
  intro h
  obtain ⟨hg, hout, hcap, _⟩ := append_good h
  exact ⟨hg, hcap, text, hout⟩

theorem path_grew (j : Json) (text : List UInt16) : Grew j (j.path text) := by
  intro h
  by_cases hg : j.good = true
  · rw [path, if_neg (by simp [hg])] at h ⊢
    cases he : escapeJsonUtf16 text (j.capacity - j.out.length) with
    | none => rw [he] at h; cases h
    | some escaped => exact ⟨hg, rfl, escaped, rfl⟩
  · rw [path, if_pos (by simpa using hg)] at h
    exact absurd h hg

theorem finish_some {m : List UInt8} (h : j.finish = some m) :
    j.good = true ∧ m = j.out ++ ascii "\x7d" ∧ m.length < j.capacity ∧ m.all printable = true := by
  rw [finish] at h
  split at h
  · rename_i hg
    rw [Bool.and_eq_true] at hg
    injection h with h
    obtain ⟨hg', hout, _, hfit⟩ := append_good hg.1
    rw [← h, hout]
    exact ⟨hg', rfl, by rw [List.length_append]; exact hfit, hout ▸ hg.2⟩
  · cases h

theorem finish_of_fits (h : j.good = true) (hfit : j.out.length + 1 < j.capacity) (hp : j.out.all printable = true) :
    j.finish = some (j.out ++ ascii "\x7d") := by
  have hlen : (ascii "\x7d").length = 1 := by decide
  have hbrace : (ascii "\x7d").all printable = true := by decide
  rw [finish, append_of_fits h (by rw [hlen]; exact hfit)]
  dsimp only
  rw [if_pos (by rw [h, List.all_append, hp, hbrace]; rfl)]

end Json

def Text (n : Nat) (t : List UInt8) : Prop := t.length ≤ n ∧ t.all printable = true

namespace Text

variable {n m : Nat} {s t : List UInt8}

theorem append (hs : Text n s) (ht : Text m t) : Text (n + m) (s ++ t) := by
  refine ⟨?_, by rw [List.all_append, hs.2, ht.2]; rfl⟩
  rw [List.length_append]
  exact Nat.add_le_add hs.1 ht.1

theorem mono (h : Text n t) (hn : n ≤ m) : Text m t := ⟨h.1.trans hn, h.2⟩

theorem nil : Text 0 [] := ⟨le_rfl, rfl⟩

theorem ofBool (h : (decide (t.length ≤ n) && t.all printable) = true) : Text n t := by
  rw [Bool.and_eq_true, decide_eq_true_eq] at h
  exact h

theorem flatten {texts : List (List UInt8)} (h : ∀ t ∈ texts, Text n t) : Text (texts.length * n) texts.flatten := by
  induction texts with
  | nil => simpa using nil
  | cons t texts ih =>
      have ht := h t (by simp)
      have htexts := ih fun u hu => h u (by simp [hu])
      exact (ht.append htexts).mono (by rw [List.length_cons, Nat.add_mul]; omega)

end Text

theorem digit_printable (n : Nat) (h : n < 10) : printable (48 + n.toUInt8) = true := by
  have : ∀ k : Fin 10, printable (48 + k.val.toUInt8) = true := by decide
  exact this ⟨n, h⟩

theorem digits_text (places n : Nat) : Text places (digits places n) := by
  induction places generalizing n with
  | zero => exact .nil
  | succ places ih =>
      rw [digits]
      split
      · rename_i hlt
        refine ⟨by simp, ?_⟩
        rw [List.all_cons, digit_printable n hlt, List.all_nil]
        rfl
      · refine (ih (n / 10)).append (m := 1) ⟨by simp, ?_⟩
        rw [List.all_cons, digit_printable (n % 10) (Nat.mod_lt _ (by omega)), List.all_nil]
        rfl

theorem decimal_text (n : Nat) : Text 20 (decimal n) := digits_text 20 n

theorem digits_length {places k n : Nat} (hk : 0 < k) (h : n < 10 ^ k) : (digits places n).length ≤ k := by
  induction places generalizing k n with
  | zero => exact Nat.zero_le k
  | succ places ih =>
      rw [digits]
      split
      · exact hk
      · rename_i hlarge
        obtain ⟨k, rfl⟩ := Nat.exists_eq_succ_of_ne_zero (Nat.ne_of_gt hk)
        have hpos : 0 < k := by
          rcases Nat.eq_zero_or_pos k with rfl | hpos
          · exact absurd h hlarge
          · exact hpos
        rw [List.length_append]
        exact Nat.succ_le_succ (ih hpos (by rw [Nat.pow_succ] at h; omega))

theorem decimal32_text (v : UInt32) : Text 10 (decimal v.toNat) :=
  ⟨digits_length (by decide) (lt_of_lt_of_le v.toNat_lt (by decide)), (decimal_text v.toNat).2⟩

theorem hexDigit_printable (v : UInt8) (h : v < 16) : printable (hexDigit v) = true := by
  have : ∀ k : Fin 16, printable (hexDigit k.val.toUInt8) = true := by decide
  have hv := this ⟨v.toNat, UInt8.lt_iff_toNat_lt.mp h⟩
  simpa using hv

theorem byte_nibbles (v : UInt8) : v.toNat = (v >>> 4).toNat * 16 + (v &&& 15).toNat := by
  have hlow : (v &&& 15).toNat = v.toNat % 16 := by
    rw [UInt8.toNat_and]
    exact Nat.and_two_pow_sub_one_eq_mod v.toNat 4
  have hhigh : (v >>> 4).toNat = v.toNat / 16 := by
    rw [UInt8.toNat_shiftRight]
    exact Nat.shiftRight_eq_div_pow v.toNat 4
  omega

theorem nibble_bounds (v : UInt8) : v >>> 4 < 16 ∧ v &&& 15 < 16 := by
  have hv := byte_nibbles v
  have hlt := v.toNat_lt
  have hlow : (v &&& 15).toNat < 16 := by
    rw [UInt8.toNat_and]
    exact lt_of_le_of_lt Nat.and_le_right (by decide)
  exact ⟨UInt8.lt_iff_toNat_lt.mpr (by show (v >>> 4).toNat < 16; omega), UInt8.lt_iff_toNat_lt.mpr hlow⟩

theorem hexPair_text (v : UInt8) : Text 2 [hexDigit (v >>> 4), hexDigit (v &&& 15)] := by
  obtain ⟨hhigh, hlow⟩ := nibble_bounds v
  refine ⟨le_rfl, ?_⟩
  rw [List.all_cons, List.all_cons, hexDigit_printable _ hhigh, hexDigit_printable _ hlow]
  rfl

theorem hex_text (bytes : List UInt8) : Text (2 * bytes.length) (hex bytes) := by
  induction bytes with
  | nil => exact .nil
  | cons v bytes ih =>
      have h := (hexPair_text v).append ih
      exact h.mono (by rw [List.length_cons]; omega)

theorem member_text {name : String} {k n : Nat} {value : List UInt8} (hname : Text k (ascii name))
    (hvalue : Text n value) : Text (2 + k + 2 + n) (member name value) :=
  ((Text.append (.ofBool (by decide)) hname).append (.ofBool (by decide))).append hvalue

/-- The pieces of a list of scalars: their size depends on the names alone, and those
are the names of a sample. -/
theorem scalarTexts_text (sample : Scalars) {pairs : Scalars} {k n : Nat}
    (h : pairs.map Prod.fst = sample.map Prod.fst)
    (hnames : sample.all (fun p => decide ((ascii p.1).length ≤ k) && (ascii p.1).all printable) = true)
    (hn : sample.length * (k + 24) ≤ n) : Text n (scalarTexts pairs).flatten := by
  have hlen : (scalarTexts pairs).length = sample.length := by
    rw [scalarTexts, List.length_map, ← List.length_map Prod.fst, h, List.length_map]
  rw [← hlen] at hn
  refine (Text.flatten fun t ht => ?_).mono hn
  obtain ⟨p, hp, rfl⟩ := List.mem_map.mp ht
  obtain ⟨q, hq, heq⟩ := List.mem_map.mp (h ▸ List.mem_map_of_mem hp)
  exact (member_text (.ofBool (heq ▸ List.all_eq_true.mp hnames q hq)) (decimal_text p.2)).mono (by omega)

theorem number32_text {name : String} {k : Nat} (hname : Text k (ascii name)) (v : UInt32) :
    Text (2 + k + 2 + 10) (member name (decimal v.toNat)) := member_text hname (decimal32_text v)

theorem number64_text {name : String} {k : Nat} (hname : Text k (ascii name)) (n : Nat) :
    Text (2 + k + 2 + 20) (member name (decimal n)) := member_text hname (decimal_text n)

theorem envelope_text (c : NativeFormatContext) {type : String} {k : Nat} (htype : Text k (ascii type))
    (sequence qpc utc : Nat) : Text (206 + k) (envelope c type sequence qpc utc) := by
  have hrun : Text 32 (hex c.header.runId.toList) := (hex_text _).mono (by simp)
  refine Text.mono (n := 21 + (20 + (k + (12 + (32 + (1 + (2 + 3 + 2 + 10 + (2 + 8 + 2 + 20) + (2 + 3 + 2 + 20) +
    (2 + 20 + 2 + 20)))))))) ?_ (by omega)
  refine Text.append (.ofBool (by decide)) (.append (.ofBool (by decide)) (.append htype (.append (.ofBool (by decide))
    (.append hrun (.append (.ofBool (by decide)) (.append (.append (.append ?_ ?_) ?_) ?_))))))
  · exact number32_text (.ofBool (by decide)) _
  all_goals exact number64_text (.ofBool (by decide)) _

theorem headerText_text (h : ReportHeader) : Text 300 (headerText h) := by
  refine Text.mono (n := 2 + 13 + 2 + 20 + (2 + 13 + 2 + 20) + (2 + 4 + 2 + 20) + (2 + 6 + 2 + 20) + (2 + 5 + 2 + 20) +
    (2 + 9 + 2 + 20)) ?_ (by decide)
  refine .append (.append (.append (.append (.append ?_ ?_) ?_) ?_) ?_) ?_
  all_goals exact member_text (.ofBool (by decide)) (decimal_text _)

theorem detailText_text (compact : Bool) : Text 40 (detailText compact) := by
  cases compact <;> exact .ofBool (by decide)

theorem type_text (kind : RecordKindV3) : Text 17 (ascii kind.type) := by
  cases kind <;> exact .ofBool (by decide)

theorem durationText_text {i : Nat} (d : ReportDurationSummary) : Text 200 (durationText i d) := by
  refine Text.mono (n := 1 + 9 + 20 + (2 + 5 + 2 + 20) + (2 + 13 + 2 + 20) + (2 + 13 + 2 + 20) + (2 + 22 + 2 + 20) + 1) ?_
    (by decide)
  refine .append (.append (.append (.append (.append (.append (.append ?_ (.ofBool (by decide))) (decimal_text i)) ?_) ?_) ?_) ?_)
    (.ofBool (by decide))
  · split
    · exact .mono .nil (by decide)
    · exact .ofBool (by decide)
  all_goals exact member_text (.ofBool (by decide)) (decimal_text _)

theorem anchorTexts_text (p : ReportAnchorPayload) :
    Text 2000 (scalarTexts (anchorScalars p) ++ [ascii ",\"durations\":["] ++
      p.durations.toList.mapIdx durationText ++ [ascii "]"]).flatten := by
  have hscalars : Text 600 (scalarTexts (anchorScalars p)).flatten :=
    scalarTexts_text (k := 27) (anchorScalars default) rfl (by decide) (by decide)
  have hdurations : Text 800 (p.durations.toList.mapIdx durationText).flatten := by
    refine (Text.flatten fun t ht => ?_).mono (n := (p.durations.toList.mapIdx durationText).length * 200) (by simp)
    obtain ⟨i, hi, rfl⟩ := List.mem_mapIdx.mp ht
    exact durationText_text _
  rw [List.flatten_append, List.flatten_append, List.flatten_append, List.flatten_singleton, List.flatten_singleton]
  exact (((hscalars.append (m := 20) (.ofBool (by decide))).append hdurations).append (m := 1)
    (.ofBool (by decide))).mono (by decide)

theorem compactScalars_text (a : ReportPayloadV3) (kind : RecordKindV3) :
    Text 2000 (scalarTexts (compactScalars a kind)).flatten := by
  cases kind
  case state => exact scalarTexts_text (k := 40) (compactScalars default .state) rfl (by decide) (by decide)
  case anchor => exact scalarTexts_text (k := 40) (compactScalars default .anchor) rfl (by decide) (by decide)
  case transportSummary =>
    exact scalarTexts_text (k := 40) (compactScalars default .transportSummary) rfl (by decide) (by decide)
  all_goals
    simp only [compactScalars]
    split
    · exact scalarTexts_text (k := 40) (compactScalars { (default : ReportPayloadV3) with
        builder := { (default : ReportBuilderPayload) with preparedValid := 1 } } .request) rfl (by decide) (by decide)
    · exact scalarTexts_text (k := 40) (compactScalars default .request) rfl (by decide) (by decide)

theorem builderScalars_text (p : ReportBuilderPayload) : Text 2500 (scalarTexts (builderScalars p)).flatten := by
  have hnames (prepared dirty : UInt32) (hp : prepared = 1 ↔ p.preparedValid = 1)
      (hd : dirty = 1 ↔ p.preparedDirtyValid = 1) : (builderScalars p).map Prod.fst =
        (builderScalars { (default : ReportBuilderPayload) with
          preparedValid := prepared, preparedDirtyValid := dirty }).map Prod.fst := by
    simp only [builderScalars, hp, hd]
    split <;> split <;> rfl
  by_cases hp : p.preparedValid = 1 <;> by_cases hd : p.preparedDirtyValid = 1
  · exact scalarTexts_text (k := 40) _ (hnames 1 1 (by simp [hp]) (by simp [hd])) (by decide) (by decide)
  · exact scalarTexts_text (k := 40) _ (hnames 1 0 (by simp [hp]) (by simp [hd])) (by decide) (by decide)
  · exact scalarTexts_text (k := 40) _ (hnames 0 1 (by simp [hp]) (by simp [hd])) (by decide) (by decide)
  · exact scalarTexts_text (k := 40) _ (hnames 0 0 (by simp [hp]) (by simp [hd])) (by decide) (by decide)

theorem payloadTexts_text (a : ReportPayloadV3) (kind : RecordKindV3) : Text 2500 (payloadTexts a kind).flatten := by
  cases kind with
  | state => exact scalarTexts_text (k := 40) (stateScalars default) rfl (by decide) (by decide)
  | request | witness => exact scalarTexts_text (k := 40) (requestScalars default) rfl (by decide) (by decide)
  | builderEnter | builderReturn | builderUnwind => exact builderScalars_text a.builder
  | anchor => exact (anchorTexts_text a.anchor).mono (by decide)
  | transportSummary => exact scalarTexts_text (k := 40) (transportScalars default) rfl (by decide) (by decide)
  | control => exact scalarTexts_text (k := 40) (controlScalars default) rfl (by decide) (by decide)
  | recovery => exact scalarTexts_text (k := 40) (recoveryScalars default) rfl (by decide) (by decide)

theorem recordTexts_text (diagnostics : Diagnostics) (r : ReportRecordV3) (kind : RecordKindV3) (detail : Bool) :
    Text 3000 (recordTexts diagnostics r kind detail).flatten := by
  have hpayload := payloadTexts_text r.payload kind
  rw [recordTexts, List.flatten_cons]
  refine ((headerText_text r.header).append (m := 2540) ?_).mono (by decide)
  split
  · split
    · rw [List.flatten_cons]
      exact ((detailText_text true).append (compactScalars_text r.payload kind)).mono (by decide)
    · rw [List.flatten_cons]
      exact ((detailText_text false).append hpayload).mono (by decide)
  · exact hpayload.mono (by decide)

theorem literal_append (lit rest : List UInt8) (pos : Nat) :
    literal lit ⟨pos, lit ++ rest⟩ = (.yes, ⟨pos + lit.length, rest⟩) := by
  induction lit generalizing pos with
  | nil => rfl
  | cons l lit ih =>
      have hpos : pos + 1 + lit.length = pos + (l :: lit).length := by rw [List.length_cons]; omega
      rw [List.cons_append, literal]
      dsimp only
      rw [if_pos rfl, ih, hpos]

theorem typeRun_append {word : List UInt8} (hword : word.all typeChar = true) {n : Nat} (hn : word.length ≤ n)
    {c : UInt8} (hc : typeChar c = false) (rest : List UInt8) (pos : Nat) :
    typeRun n ⟨pos, word ++ c :: rest⟩ = ⟨pos + word.length, c :: rest⟩ := by
  induction word generalizing n pos with
  | nil =>
      cases n with
      | zero => rfl
      | succ n => simp [typeRun, hc]
  | cons b word ih =>
      obtain ⟨n, rfl⟩ := Nat.exists_eq_succ_of_ne_zero (n := n) (by rw [List.length_cons] at hn; omega)
      rw [List.all_cons, Bool.and_eq_true] at hword
      have hpos : pos + 1 + word.length = pos + (b :: word).length := by rw [List.length_cons]; omega
      rw [List.cons_append, typeRun]
      dsimp only
      rw [if_pos hword.1, ih hword.2 (by simpa using hn), hpos]

theorem hexRun_append (runId rest : List UInt8) (pos : Nat) :
    hexRun runId ⟨pos, hex runId ++ rest⟩ = some ⟨pos + 2 * runId.length, rest⟩ := by
  induction runId generalizing pos with
  | nil => rfl
  | cons v runId ih =>
      have hpos : pos + 2 + 2 * runId.length = pos + 2 * (v :: runId).length := by rw [List.length_cons]; omega
      have hsplit : hex (v :: runId) ++ rest = hexDigit (v >>> 4) :: hexDigit (v &&& 15) :: (hex runId ++ rest) := rfl
      rw [hsplit, hexRun]
      dsimp only
      rw [if_pos ⟨rfl, rfl⟩, ih, hpos]

theorem envelope_belongs (c : NativeFormatContext) {type : String}
    (htype : (decide ((ascii type).length ≠ 0 ∧ (ascii type).length ≤ 32) && (ascii type).all typeChar) = true)
    (sequence qpc utc : Nat) (rest : List UInt8) :
    belongsToRun (envelope c type sequence qpc utc ++ rest) c.header.runId.toList = true := by
  simp only [Bool.and_eq_true, decide_eq_true_eq] at htype
  obtain ⟨⟨hne, hle⟩, hchars⟩ := htype
  have hquote : ascii "\",\"run_id\":\"" = 34 :: ascii ",\"run_id\":\"" := by decide
  have hclose : ascii "\"" = [34] := by decide
  simp only [envelope, List.append_assoc, belongsToRun, literal_append]
  rw [hquote, List.cons_append, typeRun_append hchars hle (by decide), if_neg (by dsimp only; omega), ← List.cons_append,
    ← hquote, literal_append]
  dsimp only
  rw [hexRun_append, hclose]
  simp

theorem type_belongs (kind : RecordKindV3) : (decide ((ascii kind.type).length ≠ 0 ∧ (ascii kind.type).length ≤ 32) &&
    (ascii kind.type).all typeChar) = true := by
  cases kind <;> decide

def shown (text : List UInt8) : Nat := text.foldl (fun v d => v * 10 + (d.toNat - 48)) 0

theorem digit_toNat {n : Nat} (h : n < 10) : (48 + n.toUInt8).toNat = 48 + n := by
  have : ∀ k : Fin 10, (48 + k.val.toUInt8).toNat = 48 + k.val := by decide
  exact this ⟨n, h⟩

theorem digits_shown (places n : Nat) (h : n < 10 ^ places) : shown (digits places n) = n := by
  induction places generalizing n with
  | zero =>
      rw [Nat.pow_zero] at h
      obtain rfl : n = 0 := by omega
      rfl
  | succ places ih =>
      rw [digits]
      split
      · rename_i hlt
        simp only [shown, List.foldl_cons, List.foldl_nil, digit_toNat hlt]
        omega
      · have hrest := ih (n / 10) (by rw [Nat.pow_succ] at h; omega)
        rw [shown] at hrest ⊢
        rw [List.foldl_append, hrest, List.foldl_cons, List.foldl_nil, digit_toNat (Nat.mod_lt _ (by omega))]
        omega

theorem decimal_shown {n : Nat} (h : n ≤ uint64Max) : shown (decimal n) = n :=
  digits_shown 20 n (lt_of_le_of_lt h (by decide))

theorem digits_comma (places n : Nat) : (44 : UInt8) ∉ digits places n := by
  have hdigit {n : Nat} (h : n < 10) : (44 : UInt8) ≠ 48 + n.toUInt8 := by
    intro he
    have hnat := congrArg UInt8.toNat he
    rw [digit_toNat h] at hnat
    exact absurd hnat (by show 44 ≠ 48 + n; omega)
  induction places generalizing n with
  | zero => exact List.not_mem_nil
  | succ places ih =>
      rw [digits]
      split
      · rename_i hlt
        simpa using hdigit hlt
      · simpa using ⟨ih (n / 10), hdigit (Nat.mod_lt n (by omega))⟩

theorem cut_unique {c : UInt8} {a b x y : List UInt8} (ha : c ∉ a) (hb : c ∉ b) (h : a ++ c :: x = b ++ c :: y) :
    a = b ∧ x = y := by
  induction a generalizing b with
  | nil =>
      cases b with
      | nil => exact ⟨rfl, (List.cons.inj h).2⟩
      | cons e b =>
          have he := (List.cons.inj h).1
          exact absurd he fun he => hb (he ▸ List.mem_cons_self)
  | cons d a ih =>
      cases b with
      | nil =>
          have he := (List.cons.inj h).1
          exact absurd he fun he => ha (he ▸ List.mem_cons_self)
      | cons e b =>
          obtain ⟨rfl, hrest⟩ := List.cons.inj h
          obtain ⟨rfl, hxy⟩ := ih (fun hm => ha (List.mem_cons_of_mem _ hm)) (fun hm => hb (List.mem_cons_of_mem _ hm)) hrest
          exact ⟨rfl, hxy⟩

/-- A text that starts with an envelope shows its sequence. -/
theorem envelope_sequence (c : NativeFormatContext) {type type' : String} (htype : (34 : UInt8) ∉ ascii type)
    (htype' : (34 : UInt8) ∉ ascii type') {sequence sequence' qpc qpc' utc utc' : Nat} {rest rest' : List UInt8}
    (hle : sequence ≤ uint64Max) (hle' : sequence' ≤ uint64Max)
    (h : envelope c type sequence qpc utc ++ rest = envelope c type' sequence' qpc' utc' ++ rest') :
    sequence = sequence' := by
  have hquote : ascii "\",\"run_id\":\"" = 34 :: ascii ",\"run_id\":\"" := by decide
  have hcomma (v : Nat) : member "qpc" (decimal v) = 44 :: (ascii "\"qpc\":" ++ decimal v) := by
    rw [member, ← List.cons_append]
    congr 1
  simp only [envelope, List.append_assoc, List.append_cancel_left_eq] at h
  rw [hquote, List.cons_append, List.cons_append] at h
  obtain ⟨_, hrest⟩ := cut_unique htype htype' h
  simp only [List.append_cancel_left_eq, hcomma] at hrest
  simp only [member, List.append_assoc, List.append_cancel_left_eq, List.cons_append] at hrest
  obtain ⟨hdigits, _⟩ := cut_unique (digits_comma 20 _) (digits_comma 20 _) hrest
  rw [← decimal_shown hle, ← decimal_shown hle']
  exact congrArg shown hdigits

theorem type_quote (kind : RecordKindV3) : (34 : UInt8) ∉ ascii kind.type := by
  cases kind <;> decide

def recordText (c : NativeFormatContext) (r : ReportRecordV3) (kind : RecordKindV3) (detail : Bool) (utc : Nat) :
    List UInt8 :=
  envelope c kind.type r.header.sequence.toNat r.header.qpc.toNat utc ++
    (recordTexts c.config.diagnostics r kind detail).flatten ++ ascii "\x7d"

theorem recordText_text (c : NativeFormatContext) (r : ReportRecordV3) (kind : RecordKindV3) (detail : Bool) (utc : Nat) :
    Text 3401 (recordText c r kind detail utc) :=
  (((envelope_text c (type_text kind) _ _ utc).append (recordTexts_text c.config.diagnostics r kind detail)).append
    (m := 1) (.ofBool (by decide))).mono (by decide)

/-- A record the pipeline can hold is formatted, unless its time has no
derived clock. The bound on the text is far from the limit of a message. -/
theorem formatNativeRecord_eq {c : NativeFormatContext} (hc : contextValid c = true) {r : ReportRecordV3}
    {kind : RecordKindV3} (hkind : RecordKindV3.ofCode r.header.kind = some kind) (hseq : r.header.sequence ≠ 0)
    (hrec : validRecovery r = true) (detail : Bool) :
    formatNativeRecord c r (kMessageLimit + 1) detail =
      (deriveUtcFiletime c.log c.header.qpcFrequency.toNat r.header.qpc.toNat).map (recordText c r kind detail) := by
  have hcap : (Json.start (kMessageLimit + 1)).capacity = kMessageLimit + 1 := rfl
  rw [formatNativeRecord, if_neg (by simp [hseq, kMessageLimit]), hkind]
  dsimp only [Option.bind_eq_bind, Option.bind_some]
  rw [if_neg (by simp [hrec]), begin_, if_neg (by simp [hc])]
  cases deriveUtcFiletime c.log c.header.qpcFrequency.toNat r.header.qpc.toNat with
  | none => rfl
  | some utc =>
      have henv := envelope_text c (type_text kind) r.header.sequence.toNat r.header.qpc.toNat utc
      have htexts := recordTexts_text c.config.diagnostics r kind detail
      have hboth := henv.append htexts
      dsimp only [Option.map_some, Option.bind_some]
      have hlimit : kMessageLimit = 8192 := rfl
      have hstart : (Json.start (kMessageLimit + 1)).out = [] := rfl
      have henv' := henv.1
      have hboth' := hboth.1
      rw [List.length_append] at hboth'
      rw [Json.append_of_fits rfl (by rw [hcap, hstart, List.length_nil]; omega), hstart, List.nil_append,
        Json.foldl_of_fits rfl _ (by dsimp only; rw [hcap]; omega)]
      refine Json.finish_of_fits rfl ?_ hboth.2
      dsimp only
      rw [hcap, List.length_append]
      omega

/-- A text that was formatted is the record's. -/
theorem formatNativeRecord_some {c : NativeFormatContext} {r : ReportRecordV3} {detail : Bool} {m : List UInt8}
    (h : formatNativeRecord c r (kMessageLimit + 1) detail = some m) :
    ∃ kind utc, RecordKindV3.ofCode r.header.kind = some kind ∧
      deriveUtcFiletime c.log c.header.qpcFrequency.toNat r.header.qpc.toNat = some utc ∧
      m = recordText c r kind detail utc := by
  have hseq : r.header.sequence ≠ 0 := by
    intro hzero
    rw [formatNativeRecord, if_pos (.inr hzero)] at h
    cases h
  rw [formatNativeRecord, if_neg (by simp [hseq, kMessageLimit])] at h
  cases hkind : RecordKindV3.ofCode r.header.kind with
  | none => simp [hkind] at h
  | some kind =>
      rw [hkind] at h
      dsimp only [Option.bind_eq_bind, Option.bind_some] at h
      by_cases hbad : kind = .recovery ∧ (!validRecovery r) = true
      · rw [if_pos hbad] at h
        cases h
      · rw [if_neg hbad] at h
        have hc : contextValid c = true := by
          by_contra hc
          rw [begin_, if_pos (by simpa using hc)] at h
          cases h
        have hrec : validRecovery r = true := by
          by_contra hrec
          refine hrec ?_
          rw [validRecovery, if_neg]
          intro hcode
          rw [hcode] at hkind
          exact hbad ⟨Option.some.inj (hkind.symm.trans rfl), by simpa using hrec⟩
        have heq := formatNativeRecord_eq hc hkind hseq hrec detail
        rw [formatNativeRecord, if_neg (by simp [hseq, kMessageLimit]), hkind] at heq
        dsimp only [Option.bind_eq_bind, Option.bind_some] at heq
        rw [if_neg hbad] at heq
        obtain ⟨utc, hutc, rfl⟩ := Option.map_eq_some_iff.mp (heq.symm.trans h)
        exact ⟨kind, utc, rfl, hutc, rfl⟩

theorem recordText_belongs (c : NativeFormatContext) (r : ReportRecordV3) (kind : RecordKindV3) (detail : Bool)
    (utc : Nat) : belongsToRun (recordText c r kind detail utc) c.header.runId.toList = true := by
  rw [recordText, List.append_assoc]
  exact envelope_belongs c (type_belongs kind) _ _ utc _

theorem formatNativeBootstrap_some {c : NativeFormatContext} {m : List UInt8}
    (h : formatNativeBootstrap c (kMessageLimit + 1) = some m) :
    Text kMessageLimit m ∧ ∃ utc rest, m = envelope c "startup" 0 (calibrationMidpoint c.log) utc ++ rest := by
  rw [formatNativeBootstrap] at h
  split at h
  · cases h
  · simp only [Option.bind_eq_bind, Option.bind_eq_some_iff, begin_] at h
    obtain ⟨j, hj, hm⟩ := h
    split at hj
    · cases hj
    · obtain ⟨utc, _, rfl⟩ := Option.map_eq_some_iff.mp hj
      obtain ⟨hgood, rfl, hlen, hp⟩ := Json.finish_some hm
      have hop (k : Json) : k.Grew (if c.config.diagnostics = .operational then k.append operationalText else k) := by
        split
        · exact Json.append_grew _ _
        · exact .refl _
      obtain ⟨henv, hcap, more, hout⟩ := ((((Json.append_grew _ (bootstrapText c)).trans (Json.path_grew _ _)).trans
        (hop _)).trans (Json.append_grew _ (startupText c.startup))) hgood
      obtain ⟨_, henv, hcap', _⟩ := Json.append_good henv
      rw [hcap, hcap'] at hlen
      refine ⟨⟨Nat.lt_succ_iff.mp hlen, hp⟩, utc, more ++ ascii "\x7d", ?_⟩
      rw [hout, henv, List.append_assoc]
      rfl

theorem prepareMessage_envelope (c : NativeFormatContext) (type : String) (sequence qpc utc : Nat) (rest : List UInt8)
    (h : Text kMessageLimit (envelope c type sequence qpc utc ++ rest)) :
    prepareMessage (envelope c type sequence qpc utc ++ rest) (kMessageLimit + 1) =
      some ((envelope c type sequence qpc utc ++ rest).map UInt8.toUInt16 ++ [0]) := by
  have hle := h.1
  have hstart : (envelope c type sequence qpc utc ++ rest).take kMarker.length = kMarker := by
    rw [envelope, List.append_assoc, List.take_left]
  have hmarker : kMarker.length ≤ (envelope c type sequence qpc utc ++ rest).length := by
    rw [envelope, List.append_assoc, List.length_append]
    exact Nat.le_add_right _ _
  rw [prepareMessage, if_neg (by omega), if_pos ⟨h.2, hstart⟩]

end RS2ServerFix.Reporting
