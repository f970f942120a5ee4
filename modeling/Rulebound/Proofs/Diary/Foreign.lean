import Rulebound.Diary.Reader
import Rulebound.Json.Printer
import Rulebound.Proofs.Text.Lines

/-!
# Lines that are no entries

A line of a diary that holds nothing a reader looks for is as good as absent, whatever is written
there, with two exceptions that end every reading: JSON that the parser gives up on, and a value
that counts as something without being an object.
-/

namespace Rulebound.Diary

section Readers

variable [Json.Nesting] {line : List Char}

/-! ## What a line holds -/

def object? (line : List Char) : Option Json.Fields :=
  match Json.parse line with
  | .ok (.object fields) => some fields
  | _ => none

def cyclePayload? (line : List Char) : Option Json :=
  (object? line).bind payload?

def header? (line : List Char) : Option Json :=
  ((object? line).filter (isOfType "header")).map .object

/-- The fault of a line that no reader gets past, although there is nothing in it to be read: JSON
that the parser gives up on, or a value that counts as something and is no object. -/
def obstacle? (line : List Char) : Option Fault :=
  match Json.parse line with
  | .error .notJson => none
  | .error reason => some reason.fault
  | .ok (.object _) => none
  | .ok value => if value.isTruthy then some (noFields value) else none

def record? (line : List Char) : Option Cycle.Record :=
  (cyclePayload? line).bind fun payload => (Cycle.Record.decode payload).toExcept.toOption

/-- The fault of a line for the reader of cycles: a payload that cannot be read is one too. -/
def recordFault? (line : List Char) : Option Fault :=
  match cyclePayload? line with
  | none => obstacle? line
  | some payload =>
      match (Cycle.Record.decode payload).toExcept with
      | .error fault => some fault
      | .ok _ => none

/-- What the search for a header ends with at a line, if it ends there. -/
def headerResult? (line : List Char) : Option (Except Fault (Option Json)) :=
  match obstacle? line with
  | some fault => some (.error fault)
  | none => (header? line).map fun header => .ok (some header)

/-! ## Reading one line -/

omit [Json.Nesting] in
theorem fieldsOf_some {value : Json} (h : ∀ fields, value ≠ .object fields) :
    fieldsOf (some value) =
      (if value.isTruthy then some (noFields value) else none).elim (.ok []) .error := by
  have hplain : fieldsOf (some value) =
      if value.isTruthy then .error (noFields value) else .ok [] := by
    cases value with
    | object fields => exact absurd rfl (h fields)
    | _ => rfl
  rw [hplain]
  split <;> rfl

theorem fieldsOf_readAny (line : List Char) :
    Json.readAny line >>= fieldsOf =
      (obstacle? line).elim (.ok ((object? line).getD [])) .error := by
  unfold Json.readAny obstacle? object?
  cases Json.parse line with
  | error reason => cases reason <;> rfl
  | ok value =>
      by_cases hobject : ∃ fields, value = .object fields
      · obtain ⟨fields, rfl⟩ := hobject
        rfl
      · have hother := fieldsOf_some fun fields heq => hobject ⟨fields, heq⟩
        cases value with
        | object fields => exact absurd ⟨fields, rfl⟩ hobject
        | _ => exact hother

/-- What stands in the way is no object. -/
theorem object?_of_obstacle? (h : (obstacle? line).isSome = true) : object? line = none := by
  unfold obstacle? at h
  unfold object?
  split at h
  · exact nomatch h
  · rename_i hparse
    rw [hparse]
  · exact nomatch h
  · rename_i value hother hparse
    rw [hparse]
    split
    · rename_i fields hobject
      exact absurd (Except.ok.inj hobject) (hother fields)
    · rfl

theorem recordOf_readAny (line : List Char) :
    Json.readAny line >>= recordOf = (recordFault? line).elim (.ok (record? line)) .error := by
  have hfields : Json.readAny line >>= recordOf = (Json.readAny line >>= fieldsOf) >>= fun fields =>
      match payload? fields with
      | none => .ok none
      | some payload => some <$> (Cycle.Record.decode payload).toExcept := by
    unfold recordOf
    cases Json.readAny line <;> rfl
  rw [hfields, fieldsOf_readAny]
  unfold recordFault? record? cyclePayload?
  cases hobject : object? line with
  | none => cases obstacle? line <;> rfl
  | some fields =>
      have hfree : obstacle? line = none := by
        rw [Option.eq_none_iff_forall_ne_some]
        intro fault hfault
        have hnone := object?_of_obstacle? (Option.isSome_iff_exists.2 ⟨fault, hfault⟩)
        exact nomatch hnone.symm.trans hobject
      rw [hfree]
      cases hpayload : payload? fields with
      | none => simp [hpayload, bind, Except.bind]
      | some payload =>
          cases hdecode : (Cycle.Record.decode payload).toExcept with
          | error fault => simp [hpayload, hdecode, bind, Except.bind, Functor.map, Except.map]
          | ok record => simp [hpayload, hdecode, bind, Except.bind, Functor.map, Except.map,
              Except.toOption]

/-! ## Reading all lines -/

/-- The records of a diary are those of the lines before the first one with a fault. -/
theorem recordsIn_eq (lines : List (List Char)) :
    recordsIn lines =
      ⟨(lines.takeWhile fun line => (recordFault? line).isNone).filterMap record?,
        lines.findSome? recordFault?⟩ := by
  induction lines with
  | nil => rfl
  | cons line rest ih =>
      rw [recordsIn, recordOf_readAny]
      cases hfault : recordFault? line with
      | some fault => simp [hfault]
      | none =>
          cases hrecord : record? line <;> simp [hfault, hrecord, ih]

theorem headerIn_cons (line : List Char) (rest : List (List Char)) :
    headerIn (line :: rest) = (headerResult? line).getD (headerIn rest) := by
  rw [headerIn, fieldsOf_readAny]
  unfold headerResult?
  cases obstacle? line with
  | some fault => rfl
  | none =>
      unfold header?
      cases object? line with
      | none => rfl
      | some fields =>
          rw [Option.filter_some]
          cases htype : isOfType "header" fields <;> simp [htype]

/-- The header of a diary is that of the first line with one, unless a line before it is in the
way. -/
theorem headerIn_eq (lines : List (List Char)) :
    headerIn lines = (lines.findSome? headerResult?).getD (.ok none) := by
  induction lines with
  | nil => rfl
  | cons line rest ih =>
      rw [headerIn_cons, ih, List.findSome?_cons]
      cases headerResult? line <;> rfl

/-! ## Leaving lines out -/

section Filtered

variable {keep : List Char → Bool}

omit [Json.Nesting] in
/-- A reading that goes on after some lines as if they were not there is the reading of the other
lines. -/
theorem reading_filter {α : Type} {reading : List (List Char) → α}
    (hpasses : ∀ line rest, keep line = false → reading (line :: rest) = reading rest)
    (hgoes : ∀ line {first last}, reading first = reading last →
      reading (line :: first) = reading (line :: last))
    (lines : List (List Char)) : reading (lines.filter keep) = reading lines := by
  induction lines with
  | nil => rfl
  | cons line rest ih =>
      cases hkeep : keep line with
      | true =>
          rw [List.filter_cons_of_pos hkeep]
          exact hgoes line ih
      | false => rw [List.filter_cons_of_neg (Bool.eq_false_iff.1 hkeep), ih, hpasses _ _ hkeep]

/-- The reader of cycles does not miss lines that hold no cycle and are not in the way. -/
theorem recordsIn_filter
    (h : ∀ line, cyclePayload? line ≠ none ∨ obstacle? line ≠ none → keep line = true)
    (lines : List (List Char)) : recordsIn (lines.filter keep) = recordsIn lines := by
  refine reading_filter (fun line rest hkeep => ?_) (fun line _ _ hrest => ?_) lines
  · have hnothing := mt (h line) (Bool.eq_false_iff.1 hkeep)
    rw [not_or, not_not, not_not] at hnothing
    obtain ⟨hcycle, hfree⟩ := hnothing
    have hfault : recordFault? line = none := by
      unfold recordFault?
      rw [hcycle]
      exact hfree
    have hrecord : record? line = none := by
      unfold record?
      rw [hcycle]
      rfl
    rw [recordsIn, recordOf_readAny, hfault, hrecord]
    rfl
  · rw [recordsIn, recordsIn, hrest]

/-- The reader of headers does not miss lines that are no headers and are not in the way. -/
theorem headerIn_filter
    (h : ∀ line, header? line ≠ none ∨ obstacle? line ≠ none → keep line = true)
    (lines : List (List Char)) : headerIn (lines.filter keep) = headerIn lines := by
  refine reading_filter (fun line rest hkeep => ?_) (fun line _ _ hrest => ?_) lines
  · have hnothing := mt (h line) (Bool.eq_false_iff.1 hkeep)
    rw [not_or, not_not, not_not] at hnothing
    obtain ⟨hheader, hfree⟩ := hnothing
    have hresult : headerResult? line = none := by
      unfold headerResult?
      rw [hfree, hheader]
      rfl
    rw [headerIn_cons, hresult, Option.getD_none]
  · rw [headerIn_cons, headerIn_cons, hrest]

end Filtered

theorem readRecords_of_decode {bytes : List UInt8} {text : List Char}
    (h : Text.decode? bytes = some text) : readRecords bytes = recordsIn (Text.lines text) := by
  unfold readRecords linesOf
  rw [h]

theorem readHeader_of_decode {bytes : List UInt8} {text : List Char}
    (h : Text.decode? bytes = some text) : readHeader bytes = headerIn (Text.lines text) := by
  unfold readHeader linesOf
  rw [h]
  rfl

/-- Of a file of text, the cycles are read that come before the first line with a fault, and the
first header, if nothing is in the way. Lines that are neither read nor in the way can be left
out. -/
theorem foreign_lines_skipped {bytes : List UInt8} {text : List Char}
    (h : Text.decode? bytes = some text) :
    readRecords bytes =
        ⟨((Text.lines text).takeWhile fun line => (recordFault? line).isNone).filterMap record?,
          (Text.lines text).findSome? recordFault?⟩ ∧
      readHeader bytes = ((Text.lines text).findSome? headerResult?).getD (.ok none) ∧
      ∀ (others : List UInt8) (keep : List Char → Bool),
        Text.decode? others = some ((Text.lines text).filter keep).flatten →
        ((∀ line, cyclePayload? line ≠ none ∨ obstacle? line ≠ none → keep line = true) →
          readRecords others = readRecords bytes) ∧
        ((∀ line, header? line ≠ none ∨ obstacle? line ≠ none → keep line = true) →
          readHeader others = readHeader bytes) := by
  rw [readRecords_of_decode h, readHeader_of_decode h]
  refine ⟨recordsIn_eq _, headerIn_eq _, fun others keep hothers => ?_⟩
  rw [readRecords_of_decode hothers, readHeader_of_decode hothers,
    ((Text.areLines_lines text).filter keep).lines_flatten]
  exact ⟨fun hcycles => recordsIn_filter hcycles _, fun hheaders => headerIn_filter hheaders _⟩

end Readers

def lineOf (value : Json) : List Char :=
  Json.print value ++ ['\n']

def headerLine : List Char :=
  lineOf (.object [("type", .string "header")])

def cycleLine : List Char :=
  lineOf (.object [("type", .string "cycle"), ("payload", .object [("tick", .int 1),
    ("timestamp", .string "2026-01-31T15:50:00+00:00"), ("goal", .string "Build"),
    ("result", .object [("success", .bool true)])])])

def mixedText : List Char :=
  "Resuming.\n".toList ++ lineOf (.object [("type", .string "event")]) ++ lineOf (.array []) ++
    headerLine ++ lineOf .null ++ "[not json\n".toList ++ cycleLine ++ "0".toList

section Lines

attribute [local instance] Json.Nesting.usual

/-- The lines around the header and the cycle make no difference. -/
theorem mixed_lines_skipped :
    Text.decode? (Text.encode mixedText) = some mixedText ∧
      readRecords (Text.encode cycleLine) = readRecords (Text.encode mixedText) ∧
      readHeader (Text.encode headerLine) = readHeader (Text.encode mixedText) ∧
      (readRecords (Text.encode mixedText)).records.length = 1 ∧
      (readHeader (Text.encode mixedText)).toOption.join.isSome = true := by
  have hmixed : Text.decode? (Text.encode mixedText) = some mixedText := by decide +kernel
  obtain ⟨-, -, hskipped⟩ := foreign_lines_skipped hmixed
  have hrecords := (hskipped (Text.encode cycleLine)
    (fun line => (cyclePayload? line).isSome || (obstacle? line).isSome) (by decide +kernel)).1
  have hheader := (hskipped (Text.encode headerLine)
    (fun line => (header? line).isSome || (obstacle? line).isSome) (by decide +kernel)).2
  simp only [Bool.or_eq_true, Option.isSome_iff_ne_none] at hrecords hheader
  exact ⟨hmixed, hrecords fun _ hline => hline, hheader fun _ hline => hline, by decide +kernel,
    by decide +kernel⟩

/-- A number is neither a header nor a cycle, and it is in the way of both. -/
theorem number_line_stops :
    let numberLine := lineOf (.int 5)
    let stopped := Text.encode (numberLine ++ headerLine ++ cycleLine)
    let left := Text.encode (headerLine ++ cycleLine)
    Text.decode? stopped = some (numberLine ++ headerLine ++ cycleLine) ∧
      (cyclePayload? numberLine).isNone = true ∧ (header? numberLine).isNone = true ∧
      readRecords stopped = ⟨[], some (noFields (.int 5))⟩ ∧
      (readRecords left).records.length = 1 ∧ (readRecords left).fault? = none ∧
      (readHeader stopped).isOk = false ∧
      (readHeader left).toOption.join.isSome = true := by
  decide +kernel

end Lines

end Rulebound.Diary
