import RS2ServerFix.NativeLog.Grammar
import RS2ServerFix.NativeLog.PipelineTexts
import RS2ServerFix.NativeLog.ReceiptLines

namespace RS2ServerFix.NativeLog

open Reporting

variable {format : NativeFormatContext} {mode : PrefixMode} {p m : List UInt8}

theorem typeRun_more {n : Nat} {c : Cursor} (h : (typeRun n c).rest ≠ []) (tail : List UInt8) :
    typeRun n (c.more tail) = (typeRun n c).more tail := by
  induction n generalizing c with
  | zero => rfl
  | succ n ih =>
      obtain ⟨pos, rest⟩ := c
      cases rest with
      | nil => exact absurd rfl h
      | cons b rest =>
          rw [typeRun] at h
          rw [Cursor.more_mk, List.cons_append, typeRun, typeRun]
          dsimp only at h ⊢
          by_cases hb : typeChar b = true
          · rw [if_pos hb] at h
            rw [if_pos hb, if_pos hb]
            exact ih h
          · rw [if_neg hb, if_neg hb]
            rfl

theorem hexRun_more {runId : List UInt8} {c d : Cursor} (h : hexRun runId c = some d) (tail : List UInt8) :
    hexRun runId (c.more tail) = some (d.more tail) := by
  induction runId generalizing c with
  | nil =>
      cases h
      rfl
  | cons v runId ih =>
      obtain ⟨pos, rest⟩ := c
      cases rest with
      | nil => cases h
      | cons a rest =>
          cases rest with
          | nil => cases h
          | cons b rest =>
              rw [hexRun] at h
              rw [Cursor.more_mk, List.cons_append, List.cons_append, hexRun]
              dsimp only at h ⊢
              by_cases hab : a = hexDigit (v >>> 4) ∧ b = hexDigit (v &&& 15)
              · rw [if_pos hab] at h ⊢
                exact ih h
              · rw [if_neg hab] at h
                cases h

theorem belongsToRun_iff (m runId : List UInt8) : belongsToRun m runId = true ↔
    ∃ c d f g, literal kMarker ⟨0, m⟩ = (.yes, c) ∧ literal (ascii "\x7b\"schema\":3,\"type\":\"") c = (.yes, d) ∧
      (typeRun 32 d).pos ≠ d.pos ∧ literal (ascii "\",\"run_id\":\"") (typeRun 32 d) = (.yes, f) ∧
      hexRun runId f = some g ∧ g.rest.head? = some 34 := by
  constructor
  · intro h
    rw [belongsToRun] at h
    split at h
    · rename_i c hc
      split at h
      · rename_i d hd
        dsimp only at h
        split at h
        · cases h
        · rename_i hmoved
          split at h
          · rename_i f hf
            split at h
            · rename_i g hg
              exact ⟨c, d, f, g, hc, hd, hmoved, hf, hg, of_decide_eq_true h⟩
            · cases h
          · cases h
      · cases h
    · cases h
  · rintro ⟨c, d, f, g, hc, hd, hmoved, hf, hg, hquote⟩
    rw [belongsToRun, hc]
    dsimp only
    rw [hd]
    dsimp only
    rw [if_neg hmoved, hf]
    dsimp only
    rw [hg]
    exact decide_eq_true hquote

/-- The run that a message names does not depend on what follows it. -/
theorem belongsToRun_more {runId : List UInt8} (h : belongsToRun m runId = true) (tail : List UInt8) :
    belongsToRun (m ++ tail) runId = true := by
  obtain ⟨c, d, f, g, hc, hd, hmoved, hf, hg, hquote⟩ := (belongsToRun_iff m runId).mp h
  have hopen : (typeRun 32 d).rest ≠ [] := by
    intro hempty
    obtain ⟨q, rfl, hq, _⟩ := (literal_accepts _ _ _).mp hf
    rw [hempty] at hq
    cases hq
  have htype := typeRun_more hopen tail
  refine (belongsToRun_iff _ _).mpr ⟨c.more tail, d.more tail, f.more tail, g.more tail, ?_, ?_, ?_, ?_, hexRun_more hg tail, ?_⟩
  · exact literal_online _ _ _ _ tail hc (by decide)
  · exact literal_online _ _ _ _ tail hd (by decide)
  · rw [htype]
    exact hmoved
  · rw [htype]
    exact literal_online _ _ _ _ tail hf (by decide)
  · rw [Cursor.more_rest, List.head?_append, hquote]
    rfl

/-- The line the log writes for a message, without its feed. -/
def loggedLine (p m : List UInt8) : List UInt8 := p ++ (m ++ [carriageReturn])

theorem printable_lineFeed (h : m.all printable = true) : lineFeed ∉ m :=
  fun hm => absurd (List.all_eq_true.mp h _ hm) (by decide)

theorem inspectLine_logged (hp : LinePrefix p mode) (htext : Text kMessageLimit m) (hmarker : kMarker <+: m) :
    inspectLine (loggedLine p m ++ [lineFeed]) mode true = ⟨.frame, p.length, m.length⟩ := by
  obtain ⟨hlength, hprintable⟩ := htext
  obtain ⟨rest, hrest⟩ := hmarker
  have hline : loggedLine p m ++ [lineFeed] = p ++ (m ++ [carriageReturn, lineFeed]) := by
    simp only [loggedLine, List.append_assoc, List.cons_append, List.nil_append]
  have hsize : (loggedLine p m ++ [lineFeed]).length = p.length + m.length + 2 := by
    rw [hline, List.length_append, List.length_append, ← Nat.add_assoc]
    rfl
  have hprefix : linePrefix mode ⟨0, loggedLine p m ++ [lineFeed]⟩ = (.yes, ⟨p.length, m ++ [carriageReturn, lineFeed]⟩) :=
    (linePrefix_accepts _ _ _).mpr ⟨p, hp, hline, rfl⟩
  have hmark : literal kMarker ⟨p.length, m ++ [carriageReturn, lineFeed]⟩ =
      (.yes, ⟨p.length + kMarker.length, rest ++ [carriageReturn, lineFeed]⟩) :=
    (literal_accepts _ _ _).mpr ⟨kMarker, rfl, by rw [← hrest, List.append_assoc], rfl⟩
  have hlong : kMarker.length ≤ m.length := by
    rw [← hrest, List.length_append]
    exact Nat.le_add_right _ _
  have hmessage : (loggedLine p m ++ [lineFeed]).drop p.length = m ++ [carriageReturn, lineFeed] := by
    rw [hline, List.drop_left]
  have hend (i : Nat) : (loggedLine p m ++ [lineFeed])[p.length + (m.length + i)]? = [carriageReturn, lineFeed][i]? := by
    rw [← List.getElem?_drop, hmessage, List.getElem?_append_right (Nat.le_add_right _ _), Nat.add_sub_cancel_left]
  rw [inspectLine, hprefix]
  dsimp only
  rw [if_neg (not_lt.mpr hp.length_le), hmark]
  dsimp only
  rw [if_pos rfl, completeFrame, hsize, show p.length + m.length + 2 - 2 = p.length + (m.length + 0) by omega,
    show p.length + m.length + 2 - 1 = p.length + (m.length + 1) by omega, hend, hend, hmessage,
    show p.length + (m.length + 0) - p.length = m.length by omega, List.take_left, if_pos hprintable, if_neg]
  rintro (h | h | h | h)
  · omega
  · omega
  · exact h rfl
  · exact h rfl

/-- A prepared text that is written to the log is a receipt of it. -/
theorem FrameText.logged {t : Nat} (h : FrameText format t m) (hp : LinePrefix p mode) :
    receiptOf mode format.header.runId.toList (loggedLine p m ++ [lineFeed]) = some (some m) := by
  obtain ⟨htext, hmarker, hrun, _⟩ := h
  have hline : loggedLine p m ++ [lineFeed] = p ++ (m ++ [carriageReturn, lineFeed]) := by
    simp only [loggedLine, List.append_assoc, List.cons_append, List.nil_append]
  have hshort : (loggedLine p m ++ [lineFeed]).length ≤ kLineLimit := by
    have hlength := htext.1
    have hprefix := hp.length_le
    rw [hline, List.length_append, List.length_append, kLineLimit]
    exact (Nat.add_le_add hprefix (Nat.add_le_add_right hlength 2)).trans (Nat.add_assoc _ _ _).ge
  have hview := inspectLine_logged hp htext (hmarker ▸ List.take_prefix _ _)
  rw [receiptOf, List.take_of_length_le hshort, decide_eq_false (not_lt.mpr hshort), Bool.not_false, hview]
  dsimp only
  rw [hline, List.drop_left, if_pos ⟨Nat.ne_of_gt hp.length_pos, belongsToRun_more hrun _⟩, if_neg (by simp), if_pos rfl,
    List.take_left]

theorem loggedLine_feed (h : m.all printable = true) : lineFeed ∉ loggedLine (ascii "Log: ") m := by
  simp only [loggedLine, List.mem_append, not_or]
  exact ⟨by decide, printable_lineFeed h, by decide⟩

end RS2ServerFix.NativeLog
