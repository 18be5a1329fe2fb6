import Mathlib.Data.List.Basic
import Mathlib.Tactic.Linarith

namespace RS2ServerFix.NativeLog

def ascii (s : String) : List UInt8 := s.toList.map (fun c => c.toNat.toUInt8)

def kMessageLimit : Nat := 8192
def kPrefixLimit : Nat := 128
def kLineLimit : Nat := kPrefixLimit + kMessageLimit + 2
def kMarker : List UInt8 := ascii "[RS2ServerFix:event] "

def carriageReturn : UInt8 := 13
def lineFeed : UInt8 := 10

inductive PrefixMode
  | logOnly
  | elapsedTime
  deriving DecidableEq, Repr

inductive LineKind
  | unrelated
  | incomplete
  | frame
  | malformed
  deriving DecidableEq, Repr

structure LineView where
  kind : LineKind
  messageOffset : Nat
  messageBytes : Nat
  deriving DecidableEq, Repr

inductive Match
  | no
  | part
  | yes
  deriving DecidableEq, Repr

/-- The read position of the source: the index `at` and the bytes from there
to the explicit end of the text. -/
structure Cursor where
  pos : Nat
  rest : List UInt8
  deriving DecidableEq, Repr

def literal : List UInt8 → Cursor → Match × Cursor
  | [], c => (.yes, c)
  | l :: lit, c =>
      match c.rest with
      | [] => (.part, c)
      | b :: rest => if b = l then literal lit ⟨c.pos + 1, rest⟩ else (.no, ⟨c.pos + 1, rest⟩)

def digit (c : UInt8) : Bool := 48 ≤ c && c ≤ 57

/-- The digit run of the elapsed time. `none` is the refusal of a run that
reaches the bound of the prefix. -/
def digitRun : Nat → List UInt8 → Option Cursor
  | pos, [] => some ⟨pos, []⟩
  | pos, b :: rest =>
      if digit b then
        if kPrefixLimit - 10 ≤ pos then none else digitRun (pos + 1) rest
      else some ⟨pos, b :: rest⟩

def twoDigits (c : Cursor) : Match × Cursor :=
  match c.rest with
  | [] => (.part, c)
  | a :: rest =>
      if digit a then
        match rest with
        | [] => (.part, ⟨c.pos + 1, []⟩)
        | b :: rest => if digit b then (.yes, ⟨c.pos + 2, rest⟩) else (.no, ⟨c.pos + 2, rest⟩)
      else (.no, ⟨c.pos + 1, rest⟩)

def elapsedSeconds (negative : Bool) (c : Cursor) : Match × Cursor :=
  match digitRun c.pos c.rest with
  | none => (.no, c)
  | some d =>
      if d.rest = [] then (.part, d)
      else
        let digits := d.pos - c.pos
        let minimum := if negative then 3 else 4
        if digits < minimum ∨ (minimum < digits ∧ c.rest.head? = some 48) then (.no, d)
        else
          match literal (ascii ".") d with
          | (.yes, e) =>
              match twoDigits e with
              | (.yes, f) => literal (ascii "] Log: ") f
              | r => r
          | r => r

def linePrefix (mode : PrefixMode) (c : Cursor) : Match × Cursor :=
  match mode with
  | .logOnly => literal (ascii "Log: ") c
  | .elapsedTime =>
      match literal (ascii "[") c with
      | (.yes, d) =>
          match d.rest with
          | [] => (.part, d)
          | b :: rest => if b = 45 then elapsedSeconds true ⟨d.pos + 1, rest⟩ else elapsedSeconds false d
      | r => r

def printable (b : UInt8) : Bool := 0x20 ≤ b && b ≤ 0x7e

def LineView.unrelated : LineView := ⟨.unrelated, 0, 0⟩
def LineView.incomplete : LineView := ⟨.incomplete, 0, 0⟩

def completeFrame (bytes : List UInt8) (offset stop : Nat) : LineView :=
  let size := bytes.length
  if size < stop + 2 ∨ kMessageLimit + 2 < size - offset ∨
      bytes[size - 2]? ≠ some carriageReturn ∨ bytes[size - 1]? ≠ some lineFeed then
    ⟨.malformed, offset, size - offset⟩
  else if ((bytes.drop offset).take (size - 2 - offset)).all printable then
    ⟨.frame, offset, size - 2 - offset⟩
  else ⟨.malformed, offset, size - offset⟩

def inspectLine (bytes : List UInt8) (mode : PrefixMode) (complete : Bool) : LineView :=
  match linePrefix mode ⟨0, bytes⟩ with
  | (.no, _) => .unrelated
  | (.part, _) => if complete then .unrelated else .incomplete
  | (.yes, c) =>
      if kPrefixLimit < c.pos then .unrelated
      else
        match literal kMarker c with
        | (.no, _) => .unrelated
        | (.part, _) => if complete then .unrelated else .incomplete
        | (.yes, d) =>
            if complete then completeFrame bytes c.pos d.pos
            else ⟨.incomplete, c.pos, bytes.length - c.pos⟩

def typeChar (b : UInt8) : Bool := (97 ≤ b && b ≤ 122) || b = 45

def typeRun : Nat → Cursor → Cursor
  | 0, c => c
  | n + 1, c =>
      match c.rest with
      | [] => c
      | b :: rest => if typeChar b then typeRun n ⟨c.pos + 1, rest⟩ else c

def hexDigit (v : UInt8) : UInt8 := if v < 10 then 48 + v else 87 + v

def hex (bytes : List UInt8) : List UInt8 := bytes.flatMap (fun v : UInt8 => [hexDigit (v >>> 4), hexDigit (v &&& 15)])

def hexRun : List UInt8 → Cursor → Option Cursor
  | [], c => some c
  | v :: runId, c =>
      match c.rest with
      | a :: b :: rest =>
          if a = hexDigit (v >>> 4) ∧ b = hexDigit (v &&& 15) then hexRun runId ⟨c.pos + 2, rest⟩ else none
      | _ => none

def belongsToRun (message runId : List UInt8) : Bool :=
  match literal kMarker ⟨0, message⟩ with
  | (.yes, c) =>
      match literal (ascii "\x7b\"schema\":3,\"type\":\"") c with
      | (.yes, d) =>
          let e := typeRun 32 d
          if e.pos = d.pos then false
          else
            match literal (ascii "\",\"run_id\":\"") e with
            | (.yes, f) =>
                match hexRun runId f with
                | some g => g.rest.head? = some 34
                | none => false
            | _ => false
      | _ => false
  | _ => false

def escapedUnit (value : UInt16) : List UInt8 :=
  if value = 34 ∨ value = 92 then [92, value.toUInt8]
  else if 0x20 ≤ value ∧ value ≤ 0x7e then [value.toUInt8]
  else
    [92, 117, hexDigit ((value >>> 12) &&& 15).toUInt8, hexDigit ((value >>> 8) &&& 15).toUInt8,
      hexDigit ((value >>> 4) &&& 15).toUInt8, hexDigit (value &&& 15).toUInt8]

/-- One character of the escaped text; the last place is the terminator's. -/
def putEscaped (capacity : Nat) (output : List UInt8) (c : UInt8) : Option (List UInt8) :=
  if output.length < capacity - 1 then some (output ++ [c]) else none

def escapeJsonUtf16 (text : List UInt16) (capacity : Nat) : Option (List UInt8) :=
  if capacity = 0 ∨ 1023 < text.length then none
  else (34 :: text.flatMap escapedUnit ++ [34]).foldlM (putEscaped capacity) []

def prepareMessage (text : List UInt8) (capacity : Nat) : Option (List UInt16) :=
  if text.length < kMarker.length ∨ kMessageLimit < text.length ∨ capacity ≤ text.length then none
  else if text.all printable ∧ text.take kMarker.length = kMarker then
    some (text.map UInt8.toUInt16 ++ [0])
  else none

def validMessage (message : List UInt16) (chars : Nat) : Bool :=
  decide (kMarker.length ≤ chars) && decide (chars ≤ kMessageLimit) && decide (message[chars]? = some 0) &&
    (message.take chars).all (fun c => 0x20 ≤ c && c ≤ 0x7e) &&
    decide (message.take kMarker.length = kMarker.map UInt8.toUInt16)

end RS2ServerFix.NativeLog
