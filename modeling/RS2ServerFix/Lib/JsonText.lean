import RS2ServerFix.Lib.JsonString

namespace RS2ServerFix.Lib.Json

def digit (c : UInt8) : Bool := 48 ≤ c && c ≤ 57

def Digits (t : List UInt8) : Prop := t ≠ [] ∧ t.all digit = true

/-- Digits without a leading zero. -/
def Whole (t : List UInt8) : Prop := Digits t ∧ (t.head? = some 48 → t = [48])

def Fraction (t : List UInt8) : Prop := t = [] ∨ ∃ ds, Digits ds ∧ t = 46 :: ds

def Exponent (t : List UInt8) : Prop :=
  t = [] ∨ ∃ e sign ds, (e = 101 ∨ e = 69) ∧ (sign = [] ∨ sign = [43] ∨ sign = [45]) ∧ Digits ds ∧
    t = e :: (sign ++ ds)

def Number (t : List UInt8) : Prop :=
  ∃ sign whole fraction exponent, (sign = [] ∨ sign = [45]) ∧ Whole whole ∧ Fraction fraction ∧
    Exponent exponent ∧ t = sign ++ whole ++ fraction ++ exponent

def Str (t : List UInt8) : Prop := ∃ us, string t = some (us, [])

/-- `true`, `false` and `null`. -/
def literals : List (List UInt8) := [[116, 114, 117, 101], [102, 97, 108, 115, 101], [110, 117, 108, 108]]

def commas : List (List UInt8) → List UInt8
  | [] => []
  | t :: ts => t ++ ts.flatMap (44 :: ·)

def pair (m : List UInt8 × List UInt8) : List UInt8 := m.1 ++ 58 :: m.2

/-- A value in ASCII, without white space between its tokens. -/
inductive Value : List UInt8 → Prop
  | literal {t : List UInt8} (h : t ∈ literals) : Value t
  | number {t : List UInt8} (h : Number t) : Value t
  | string {t : List UInt8} (h : Str t) : Value t
  | array {ts : List (List UInt8)} (h : ∀ t ∈ ts, Value t) : Value (91 :: (commas ts ++ [93]))
  | object {ms : List (List UInt8 × List UInt8)} (hnames : ∀ m ∈ ms, Str m.1) (hvalues : ∀ m ∈ ms, Value m.2) :
      Value (123 :: (commas (ms.map pair) ++ [125]))

def Object (t : List UInt8) : Prop :=
  ∃ ms : List (List UInt8 × List UInt8), (∀ m ∈ ms, Str m.1) ∧ (∀ m ∈ ms, Value m.2) ∧
    t = 123 :: (commas (ms.map pair) ++ [125])

/-- Members of an object behind the first one. -/
def Tail (t : List UInt8) : Prop :=
  ∃ ms : List (List UInt8 × List UInt8), (∀ m ∈ ms, Str m.1) ∧ (∀ m ∈ ms, Value m.2) ∧
    t = (ms.map pair).flatMap (44 :: ·)

theorem Object.value {t : List UInt8} (h : Object t) : Value t := by
  obtain ⟨ms, hnames, hvalues, rfl⟩ := h
  exact .object hnames hvalues

theorem Whole.number {t : List UInt8} (h : Whole t) : Number t :=
  ⟨[], t, [], [], .inl rfl, h, .inl rfl, .inl rfl, by simp⟩

theorem str_of_plain {t : List UInt8} (h : t.all plain = true) : Str (34 :: (t ++ [34])) := by
  have hunits : ∃ us, units (t ++ [34]) = some (us, []) := by
    induction t with
    | nil => exact ⟨[], units_close []⟩
    | cons c t ih =>
        rw [List.all_cons, Bool.and_eq_true] at h
        obtain ⟨us, hus⟩ := ih h.2
        exact ⟨_, units_plain h.1 hus⟩
  obtain ⟨us, hus⟩ := hunits
  exact ⟨us, by rw [Json.string, if_pos rfl, hus]⟩

namespace Tail

theorem nil : Tail [] := ⟨[], by simp, by simp, rfl⟩

theorem member {n v : List UInt8} (hn : Str n) (hv : Value v) : Tail (44 :: (n ++ 58 :: v)) := by
  refine ⟨[(n, v)], ?_, ?_, ?_⟩
  · exact fun m hm => List.mem_singleton.mp hm ▸ hn
  · exact fun m hm => List.mem_singleton.mp hm ▸ hv
  · simp [pair]

theorem append {s t : List UInt8} (hs : Tail s) (ht : Tail t) : Tail (s ++ t) := by
  obtain ⟨ms, hnames, hvalues, rfl⟩ := hs
  obtain ⟨ms', hnames', hvalues', rfl⟩ := ht
  refine ⟨ms ++ ms', fun m hm => ?_, fun m hm => ?_, ?_⟩
  · exact (List.mem_append.mp hm).elim (hnames m) (hnames' m)
  · exact (List.mem_append.mp hm).elim (hvalues m) (hvalues' m)
  · rw [List.map_append, List.flatMap_append]

theorem flatten {ts : List (List UInt8)} (h : ∀ t ∈ ts, Tail t) : Tail ts.flatten := by
  induction ts with
  | nil => exact nil
  | cons t ts ih =>
      rw [List.forall_mem_cons] at h
      exact h.1.append (ih h.2)

theorem object {n v t : List UInt8} (ht : Tail t) (hn : Str n) (hv : Value v) :
    Object (123 :: (n ++ 58 :: v ++ t ++ [125])) := by
  obtain ⟨ms, hnames, hvalues, rfl⟩ := ht
  refine ⟨(n, v) :: ms, ?_, ?_, ?_⟩
  · exact List.forall_mem_cons.mpr ⟨hn, hnames⟩
  · exact List.forall_mem_cons.mpr ⟨hv, hvalues⟩
  · rw [List.map_cons, commas, pair]

end Tail

end RS2ServerFix.Lib.Json
