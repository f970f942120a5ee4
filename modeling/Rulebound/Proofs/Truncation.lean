import Rulebound.Proofs.Diary
import Rulebound.Proofs.Json.Cut

/-!
# Diaries that lost their end

A diary may end anywhere if the agent was stopped while it wrote. What is left of its last line is
then no JSON and is passed over, and every line before it is read as if nothing had happened. An
entry that lacks nothing but the end of its line counts as whole.
-/

namespace Rulebound.Diary

/-! ## Entries that were added -/

section Added

variable [Json.Nesting] {files after : Files} {file : Path}

theorem isWritable_of_append {entry : Entry} (h : append files file entry = .ok after) :
    entry.IsWritable := by
  cases hcreate : files.create file [] with
  | error fault =>
      unfold append at h
      rw [hcreate] at h
      exact nomatch h
  | ok opened =>
      cases hwritable : Json.unwritable? Json.deepest entry.toJson with
      | none => exact hwritable
      | some reason =>
          rw [append_of_unwritable hcreate hwritable] at h
          exact nomatch h

end Added

/-! ## What is read of an entry -/

def recordsOf (entries : List Entry) : List Cycle.Record :=
  entries.filterMap Entry.record?

theorem recordsOf_cons (entry : Entry) (entries : List Entry) :
    recordsOf (entry :: entries) = entry.record?.toList ++ recordsOf entries := by
  unfold recordsOf
  cases hrecord : entry.record? with
  | none => rw [List.filterMap_cons_none hrecord, Option.toList_none, List.nil_append]
  | some record => rw [List.filterMap_cons_some hrecord, Option.toList_some, List.singleton_append]

theorem recordsOf_append (first later : List Entry) :
    recordsOf (first ++ later) = recordsOf first ++ recordsOf later :=
  List.filterMap_append

theorem not_isNumber_toJson (entry : Entry) : ¬ Json.IsNumber entry.toJson := by
  cases entry <;> exact id

section Line

variable [Json.Nesting] {entry : Entry} {ending : List Char}

/-- The record of a line that holds the whole text of an entry, with its end or without it. -/
theorem recordsIn_cons (h : entry.IsWritable) (hends : Json.EndsNumber ending)
    (hblank : Json.skipSpace ending = []) {rest : List (List Char)} {records : List Cycle.Record}
    (hrest : recordsIn rest = ⟨records, none⟩) :
    recordsIn ((Json.print entry.toJson ++ ending) :: rest) =
      ⟨entry.record?.toList ++ records, none⟩ := by
  rw [recordsIn, readAny_print_append h hends hblank]
  simp only [bind, Except.bind, recordOf_reread, hrest]

theorem parse_part (h : entry.IsWritable) {part : List Char}
    (hcut : Json.IsCut part (Json.print entry.toJson)) : Json.parse part = .error .notJson :=
  Json.parse_of_isCut h (not_isNumber_toJson entry) hcut

/-- Nothing is read of a part of the text of an entry, and it is no fault. -/
theorem recordsIn_part (h : entry.IsWritable) {part : List Char}
    (hcut : Json.IsCut part (Json.print entry.toJson)) :
    recordsIn (Text.lines part) = ⟨[], none⟩ := by
  have hrow : Text.IsRow part := by
    obtain ⟨missing, -, heq⟩ := hcut
    intro c hc
    exact isRow_print entry.toJson c (heq ▸ List.mem_append_left missing hc)
  by_cases hempty : part = []
  · rw [hempty]
    rfl
  · have hread : Json.readAny part = .ok none := by
      unfold Json.readAny
      rw [parse_part h hcut]
    rw [Text.lines_open hrow hempty, recordsIn, hread]
    rfl

end Line

/-! ## The entries that are left -/

/-- The first entries of a diary, as many as have their whole text within so many characters. -/
def entriesWithin : Nat → List Entry → List Entry
  | _, [] => []
  | room, entry :: rest =>
      if (Json.print entry.toJson).length ≤ room then
        entry :: entriesWithin (room - entry.lineChars.length) rest
      else []

/-- What is read of the first characters of a diary: the records of the entries that are left. -/
theorem recordsIn_take [Json.Nesting] (room : Nat) {entries : List Entry}
    (h : ∀ entry ∈ entries, entry.IsWritable) :
    recordsIn (Text.lines ((textOf entries).take room)) =
      ⟨recordsOf (entriesWithin room entries), none⟩ := by
  fun_induction entriesWithin room entries with
  | case1 room =>
      rw [textOf, List.flatMap_nil, List.take_nil]
      rfl
  | case2 room entry rest hroom ih =>
      rw [List.forall_mem_cons] at h
      have hrest := ih h.2
      rw [textOf_cons, List.take_append, List.take_of_length_le hroom, recordsOf_cons]
      rw [Entry.lineChars, List.length_append, List.length_singleton] at hrest ⊢
      have hfull : Json.print entry.toJson ≠ [] :=
        List.ne_nil_of_length_pos (Json.length_print_pos entry.toJson)
      cases hleft : room - (Json.print entry.toJson).length with
      | zero =>
          -- Only the end of the line is missing.
          have hnone : room - ((Json.print entry.toJson).length + 1) = 0 := by omega
          rw [hnone, List.take_zero] at hrest
          rw [hnone, List.take_zero, List.append_nil,
            Text.lines_open (isRow_print entry.toJson) hfull]
          have hline := recordsIn_cons h.1 Json.endsNumber_nil rfl hrest
          rw [List.append_nil] at hline
          exact hline
      | succ left =>
          have hsame : room - ((Json.print entry.toJson).length + 1) = left := by omega
          rw [hsame] at hrest
          rw [hsame, List.take_succ_cons, Text.lines_cons (isRow_print entry.toJson)]
          exact recordsIn_cons h.1 (Json.endsNumber_cons (by decide) []) rfl hrest
  | case3 room entry rest hroom =>
      have hlong : room ≤ (Json.print entry.toJson).length := by omega
      rw [textOf_cons, List.take_append_of_le_length hlong]
      refine recordsIn_part (h entry List.mem_cons_self)
        ⟨(Json.print entry.toJson).drop room, ?_, (List.take_append_drop room _).symm⟩
      rw [Ne, List.drop_eq_nil_iff]
      exact hroom

theorem entriesWithin_eq {room : Nat} {entries : List Entry}
    (h : (textOf entries).length ≤ room) : entriesWithin room entries = entries := by
  fun_induction entriesWithin room entries with
  | case1 room => rfl
  | case2 room entry rest hroom ih =>
      rw [textOf_cons, List.length_append, List.length_cons] at h
      rw [ih (by rw [Entry.lineChars, List.length_append, List.length_singleton]; omega)]
  | case3 room entry rest hroom =>
      rw [textOf_cons, List.length_append] at h
      omega

/-! ## Reading what is left -/

theorem readRecords_bytesOf [Json.Nesting] {entries : List Entry}
    (h : ∀ entry ∈ entries, entry.IsWritable) :
    readRecords (bytesOf entries) = ⟨recordsOf entries, none⟩ := by
  have hall := recordsIn_take (textOf entries).length h
  rw [List.take_length, entriesWithin_eq (Nat.le_refl _)] at hall
  unfold readRecords linesOf bytesOf
  rw [Text.decode?_encode (textOf_ascii entries)]
  exact hall

section Sample

attribute [local instance] Json.Nesting.usual

end Sample

end Rulebound.Diary
