import Rulebound.Diary.Follower
import Rulebound.Proofs.Truncation

/-!
# What a follower shows

However the text of a diary arrives and whenever a line is looked for in between, the lines that are
read make up the text. A record is shown if its line was read in one part, or was cut before
nothing but its end. A line that was cut elsewhere is read as two texts that are no values, and
its record is lost.
-/

namespace Rulebound.Diary

namespace Follower

variable {follower : Follower} {moves : List Move}

def arrived : List Move → List Char
  | [] => []
  | .arrive piece :: moves => piece ++ arrived moves
  | .poll :: moves => arrived moves

theorem arrived_polls (count : Nat) (moves : List Move) :
    arrived (List.replicate count .poll ++ moves) = arrived moves := by
  induction count with
  | zero => rfl
  | succ count ih =>
      rw [List.replicate_succ, List.cons_append]
      exact ih

/-- The line that is read in a move, if any is. -/
def lineAt (follower : Follower) : Move → List (List Char)
  | .arrive _ => []
  | .poll => (follower.next?.map (·.1)).toList

/-- The lines as they are read. -/
def linesRead [Json.Nesting] (follower : Follower) : List Move → List (List Char)
  | [] => []
  | move :: moves => follower.lineAt move ++ linesRead (follower.move move) moves

/-! ## One move -/

theorem next?_of_fault {fault : Fault} (h : follower.fault? = some fault) :
    follower.next? = none := by
  unfold next?
  rw [h]

theorem next?_eq_some {line rest : List Char} (hplain : ∀ c ∈ follower.unread, c ≠ '\r')
    (h : follower.next? = some (line, rest)) :
    follower.unread = line ++ rest ∧ Text.IsPiece line := by
  obtain ⟨hsplit, hinside, -⟩ := Text.firstLine_split hplain
  unfold next? at h
  split at h
  · exact nomatch h
  · exact nomatch h
  · rename_i hne
    have hfound := Option.some.inj h
    rw [hfound] at hsplit hinside hne
    exact ⟨hsplit, fun hnil => hne rest (by rw [hnil]), hinside⟩

theorem lineAt_poll {line rest : List Char} (h : follower.next? = some (line, rest)) :
    follower.lineAt .poll = [line] := by
  unfold lineAt
  rw [h]
  rfl

theorem lineAt_of_none (h : follower.next? = none) : follower.lineAt .poll = [] := by
  unfold lineAt
  rw [h]
  rfl

variable [Json.Nesting]

theorem poll_of_none (h : follower.next? = none) : follower.poll = follower := by
  unfold poll
  rw [h]

theorem poll_of_error {line rest : List Char} {fault : Fault}
    (h : follower.next? = some (line, rest))
    (hread : (Json.readAny line >>= recordOf) = .error fault) :
    follower.poll = { follower with unread := rest, fault? := some fault } := by
  unfold poll
  rw [h]
  dsimp only
  rw [hread]

theorem poll_of_ok {line rest : List Char} {record? : Option Cycle.Record}
    (h : follower.next? = some (line, rest))
    (hread : (Json.readAny line >>= recordOf) = .ok record?) :
    follower.poll =
      { follower with unread := rest, shown := follower.shown ++ record?.toList } := by
  unfold poll
  rw [h]
  dsimp only
  rw [hread]

theorem unread_poll {line rest : List Char} (h : follower.next? = some (line, rest)) :
    follower.poll.unread = rest := by
  cases hread : Json.readAny line >>= recordOf with
  | error fault => rw [poll_of_error h hread]
  | ok record? => rw [poll_of_ok h hread]

theorem run_cons (follower : Follower) (move : Move) (moves : List Move) :
    follower.run (move :: moves) = (follower.move move).run moves := rfl

/-! ## Runs -/

/-- After a fault nothing more is shown. -/
theorem run_of_fault {fault : Fault} (h : follower.fault? = some fault) (moves : List Move) :
    (follower.run moves).shown = follower.shown ∧ (follower.run moves).fault? = some fault := by
  induction moves generalizing follower with
  | nil => exact ⟨rfl, h⟩
  | cons move moves ih =>
      rw [run_cons]
      cases move with
      | arrive piece => exact ih h
      | poll =>
          have hpoll : follower.move .poll = follower := poll_of_none (next?_of_fault h)
          rw [hpoll]
          exact ih h

/-- What is shown in a run is what is in the lines that are read. -/
theorem run_shown (h : follower.fault? = none) (moves : List Move) :
    (follower.run moves).shown =
        follower.shown ++ (recordsIn (follower.linesRead moves)).records ∧
      (follower.run moves).fault? = (recordsIn (follower.linesRead moves)).fault? := by
  induction moves generalizing follower with
  | nil => exact ⟨(List.append_nil _).symm, h⟩
  | cons move moves ih =>
      rw [run_cons]
      unfold linesRead
      cases move with
      | arrive piece => exact ih h
      | poll =>
          cases hnext : follower.next? with
          | none =>
              have hpoll : follower.move .poll = follower := poll_of_none hnext
              rw [hpoll, lineAt_of_none hnext]
              exact ih h
          | some found =>
              obtain ⟨line, rest⟩ := found
              rw [lineAt_poll hnext, List.singleton_append, recordsIn]
              cases hread : Json.readAny line >>= recordOf with
              | error fault =>
                  -- The fault ends both, the run and the reading of the lines.
                  have hpoll := poll_of_error hnext hread
                  have hended : follower.poll.fault? = some fault := by rw [hpoll]
                  obtain ⟨hshown, hfault⟩ := run_of_fault hended moves
                  have hsame : follower.poll.shown = follower.shown := by rw [hpoll]
                  exact ⟨(hshown.trans hsame).trans (List.append_nil _).symm, hfault⟩
              | ok record? =>
                  have hpoll := poll_of_ok hnext hread
                  have hcalm : follower.poll.fault? = none := by rw [hpoll]; exact h
                  obtain ⟨hshown, hfault⟩ := ih hcalm
                  have hmore : follower.poll.shown = follower.shown ++ record?.toList := by
                    rw [hpoll]
                  refine ⟨hshown.trans ?_, hfault⟩
                  rw [hmore, List.append_assoc]
                  rfl

theorem run_unread (moves : List Move)
    (h : ∀ c ∈ follower.unread ++ arrived moves, c ≠ '\r') :
    follower.unread ++ arrived moves =
        (follower.linesRead moves).flatten ++ (follower.run moves).unread ∧
      ∀ line ∈ follower.linesRead moves, Text.IsPiece line := by
  induction moves generalizing follower with
  | nil => exact ⟨List.append_nil _, nofun⟩
  | cons move moves ih =>
      rw [run_cons]
      unfold linesRead
      cases move with
      | arrive piece =>
          unfold arrived at h ⊢
          rw [← List.append_assoc] at h ⊢
          exact @ih (follower.move (.arrive piece)) h
      | poll =>
          cases hnext : follower.next? with
          | none =>
              have hpoll : follower.move .poll = follower := poll_of_none hnext
              rw [hpoll, lineAt_of_none hnext]
              exact ih h
          | some found =>
              obtain ⟨line, rest⟩ := found
              obtain ⟨hsplit, hpiece⟩ :=
                next?_eq_some (fun c hc => h c (List.mem_append_left _ hc)) hnext
              have hunread : (follower.move .poll).unread = rest := unread_poll hnext
              have hrest : ∀ c ∈ (follower.move .poll).unread ++ arrived moves, c ≠ '\r' := by
                intro c hc
                rw [hunread] at hc
                refine h c ?_
                rw [hsplit, List.append_assoc]
                exact List.mem_append_right _ hc
              obtain ⟨hleft, hpieces⟩ := ih hrest
              rw [hunread] at hleft
              rw [lineAt_poll hnext, List.singleton_append]
              refine ⟨?_, List.forall_mem_cons.2 ⟨hpiece, hpieces⟩⟩
              rw [List.flatten_cons, List.append_assoc, ← hleft, hsplit, List.append_assoc]
              rfl

/-- The moves of following a diary that is there: lines are looked for until nothing is left before
each piece that arrives, and after the last one. -/
def schedule (follower : Follower) : Arrivals → List Move
  | [] => List.replicate follower.unread.length .poll
  | piece :: arrivals =>
      let arrival := .arrive (piece.getD "").toList
      List.replicate follower.unread.length .poll ++
        arrival :: schedule (follower.drained.move arrival) arrivals

theorem arrived_schedule (follower : Follower) (arrivals : Arrivals) :
    arrived (follower.schedule arrivals) =
      arrivals.flatMap fun piece => (piece.getD "").toList := by
  induction arrivals generalizing follower with
  | nil =>
      have hnone := arrived_polls follower.unread.length []
      rw [List.append_nil] at hnone
      exact hnone
  | cons piece arrivals ih =>
      unfold schedule
      rw [arrived_polls, List.flatMap_cons]
      exact congrArg ((piece.getD "").toList ++ ·) (ih _)

theorem followFrom_eq_run (follower : Follower) (arrivals : Arrivals) :
    (followFrom follower arrivals).shown = (follower.run (follower.schedule arrivals)).shown ∧
      (followFrom follower arrivals).fault? =
        (follower.run (follower.schedule arrivals)).fault? := by
  induction arrivals generalizing follower with
  | nil =>
      unfold followFrom
      cases hfault : follower.drained.fault? with
      | some fault => simp only [hfault]; exact ⟨rfl, hfault.symm⟩
      | none => simp only [hfault]; exact ⟨rfl, hfault.symm⟩
  | cons piece arrivals ih =>
      have hsplit : follower.run (follower.schedule (piece :: arrivals)) =
          (follower.drained.move (.arrive (piece.getD "").toList)).run
            ((follower.drained.move (.arrive (piece.getD "").toList)).schedule arrivals) :=
        List.foldl_append
      unfold followFrom
      rw [hsplit]
      cases hfault : follower.drained.fault? with
      | some fault =>
          have hmoved : (follower.drained.move (.arrive (piece.getD "").toList)).fault? =
              some fault := hfault
          obtain ⟨hshown, hended⟩ := run_of_fault hmoved _
          simp only [hfault]
          exact ⟨hshown.symm, hended.symm⟩
      | none =>
          simp only [hfault]
          exact ih _

/-- Following a diary, which may not be there yet, is a run in which the same text arrives. -/
theorem follow_eq_run (text? : Option String) (arrivals : Arrivals) :
    ∃ moves, arrived moves =
        (text?.getD "").toList ++ (arrivals.flatMap fun piece => (piece.getD "").toList) ∧
      (follow text? arrivals).shown = (({} : Follower).run moves).shown ∧
      (follow text? arrivals).fault? = (({} : Follower).run moves).fault? := by
  have hthere : ∀ (text : String) (arrivals : Arrivals),
      ∃ moves, arrived moves =
          text.toList ++ (arrivals.flatMap fun piece => (piece.getD "").toList) ∧
        (follow (some text) arrivals).shown = (({} : Follower).run moves).shown ∧
        (follow (some text) arrivals).fault? = (({} : Follower).run moves).fault? := by
    intro text arrivals
    refine ⟨.arrive text.toList :: schedule { unread := text.toList } arrivals, ?_, ?_⟩
    · exact congrArg (text.toList ++ ·) (arrived_schedule _ arrivals)
    · rw [follow]
      exact followFrom_eq_run { unread := text.toList } arrivals
  induction arrivals generalizing text? with
  | nil =>
      cases text? with
      | some text => exact hthere text []
      | none => exact ⟨[], rfl, rfl, rfl⟩
  | cons piece arrivals ih =>
      cases text? with
      | some text => exact hthere text (piece :: arrivals)
      | none =>
          rw [follow]
          exact ih piece

end Follower

/-! ## Lines read in parts -/

namespace Entry

/-- The value of an entry is in one of the parts in which its line was read. -/
def IsWhole (entry : Entry) (parts : List (List Char)) : Prop :=
  entry.lineChars ∈ parts ∨ Json.print entry.toJson ∈ parts

instance (entry : Entry) (parts : List (List Char)) : Decidable (entry.IsWhole parts) :=
  inferInstanceAs (Decidable (_ ∨ _))

end Entry

section Parts

variable {entry : Entry} {line : List Char}

theorem exists_fields (entry : Entry) : ∃ fields, entry.toJson = .object fields := by
  cases entry <;> exact ⟨_, rfl⟩

theorem length_le_flatten {parts : List (List Char)} (h : ∀ part ∈ parts, part ≠ []) :
    parts.length ≤ parts.flatten.length := by
  induction parts with
  | nil => exact Nat.le_refl _
  | cons part parts ih =>
      obtain ⟨hpart, hparts⟩ := List.forall_mem_cons.1 h
      have hpos := List.length_pos_iff.2 hpart
      have hrest := ih hparts
      rw [List.flatten_cons, List.length_append, List.length_cons]
      omega

/-- A line that is read whole is read in at most two parts, the second of which is its end. -/
theorem length_of_isWhole {parts : List (List Char)} (hparts : parts.flatten = entry.lineChars)
    (hpieces : ∀ part ∈ parts, Text.IsPiece part) (h : entry.IsWhole parts) :
    parts.length ≤ 2 := by
  obtain ⟨part, hmem, hlong⟩ : ∃ part ∈ parts, entry.lineChars.length ≤ part.length + 1 := by
    rcases h with hline | hvalue
    · exact ⟨_, hline, Nat.le_succ _⟩
    · exact ⟨_, hvalue, by simp [Entry.lineChars]⟩
  obtain ⟨before, after, rfl⟩ := List.append_of_mem hmem
  have hlength := congrArg List.length hparts
  have hbefore : before.length ≤ before.flatten.length :=
    length_le_flatten fun other hother => (hpieces other (List.mem_append_left _ hother)).nonempty
  have hafter : after.length ≤ after.flatten.length :=
    length_le_flatten fun other hother =>
      (hpieces other (List.mem_append_right _ (List.mem_cons_of_mem _ hother))).nonempty
  rw [List.flatten_append, List.flatten_cons, List.length_append, List.length_append] at hlength
  rw [List.length_append, List.length_cons]
  omega

theorem not_isWhole_torn {first last : List Char}
    (hcut : Json.print entry.toJson = first ++ last) (hfirst : first ≠ []) (hlast : last ≠ []) :
    ¬ entry.IsWhole [first, last ++ ['\n']] := by
  have hline : entry.lineChars = first ++ last ++ ['\n'] := by
    unfold Entry.lineChars
    rw [hcut]
  have hrow := isRow_print entry.toJson
  unfold Entry.IsWhole
  rw [hline, hcut]
  rw [hcut] at hrow
  simp only [List.mem_cons, List.not_mem_nil, or_false]
  rintro ((heq | heq) | (heq | heq))
  · have hlength := congrArg List.length heq
    simp at hlength
  · have hlength := congrArg List.length heq
    simp at hlength
    exact hfirst hlength
  · have hlength := congrArg List.length heq
    simp at hlength
    exact hlast hlength
  · have hmem : '\n' ∈ first ++ last := by
      rw [heq]
      exact List.mem_append_right _ List.mem_cons_self
    exact (hrow '\n' hmem).1 rfl

variable [Json.Nesting]

theorem recordsIn_value (h : Json.readAny line = .ok (some (Json.reread entry.toJson)))
    (rest : List (List Char)) :
    recordsIn (line :: rest) =
      ⟨entry.record?.toList ++ (recordsIn rest).records, (recordsIn rest).fault?⟩ := by
  have hread : (Json.readAny line >>= recordOf) = .ok entry.record? := by
    rw [h]
    exact recordOf_reread entry
  rw [recordsIn, hread]

theorem recordsIn_nothing (h : Json.readAny line = .ok none) (rest : List (List Char)) :
    recordsIn (line :: rest) = recordsIn rest := by
  have hread : (Json.readAny line >>= recordOf) = .ok none := by
    rw [h]
    rfl
  rw [recordsIn, hread]
  rfl

/-- A line that is no value is passed over, unless it is a fault. -/
theorem recordsIn_no_value (h : ∀ value, Json.parse line ≠ .ok value) (rest : List (List Char)) :
    recordsIn (line :: rest) = recordsIn rest ∨
      ∃ fault, recordsIn (line :: rest) = ⟨[], some fault⟩ := by
  cases hread : Json.readAny line with
  | error fault =>
      refine .inr ⟨fault, ?_⟩
      rw [recordsIn, hread]
      rfl
  | ok value? =>
      cases value? with
      | none => exact .inl (recordsIn_nothing hread rest)
      | some value =>
          unfold Json.readAny at hread
          split at hread
          · rename_i hparse
            exact absurd hparse (h _)
          · cases hread
          · cases hread

theorem readAny_print (h : entry.IsWritable) :
    Json.readAny (Json.print entry.toJson) = .ok (some (Json.reread entry.toJson)) := by
  have hread := readAny_print_append h Json.endsNumber_nil rfl
  rw [List.append_nil] at hread
  exact hread

/-- The line of an entry that is cut within its value is no value before the cut nor after it. -/
theorem not_parse_torn (h : entry.IsWritable) {first last : List Char}
    (hcut : Json.print entry.toJson = first ++ last) (hfirst : first ≠ []) (hlast : last ≠ [])
    (value : Json) :
    Json.parse first ≠ .ok value ∧ Json.parse (last ++ ['\n']) ≠ .ok value := by
  have hpart : Json.parse first = .error .notJson := parse_part h ⟨last, hlast, hcut⟩
  obtain ⟨fields, hobject⟩ := exists_fields entry
  unfold Entry.IsWritable at h
  rw [hobject] at hcut h
  have hnested := Json.isNested_printFields h
  have htext : '\x7b' :: (Json.printFields fields ++ ['\x7d']) = first ++ last := hcut
  exact ⟨hpart ▸ nofun, Json.not_parse_last hnested htext hfirst hlast value⟩

/-- What comes of a line that is read in at most two parts: its record if it was read whole; else
nothing, or a fault. -/
theorem recordsIn_parts (h : entry.IsWritable) {parts : List (List Char)}
    (hparts : parts.flatten = entry.lineChars) (hpieces : ∀ part ∈ parts, Text.IsPiece part)
    (hshort : parts.length ≤ 2) (rest : List (List Char)) :
    (entry.IsWhole parts ∧ recordsIn (parts ++ rest) =
      ⟨entry.record?.toList ++ (recordsIn rest).records, (recordsIn rest).fault?⟩) ∨
    (¬ entry.IsWhole parts ∧ (recordsIn (parts ++ rest) = recordsIn rest ∨
      ∃ fault, recordsIn (parts ++ rest) = ⟨[], some fault⟩)) := by
  match parts with
  | [] => exact absurd hparts.symm (by simp [Entry.lineChars])
  | [part] =>
      have hpart : part = entry.lineChars := by simpa using hparts
      subst hpart
      exact .inl ⟨.inl List.mem_cons_self, recordsIn_value (readAny_lineChars h) rest⟩
  | [first, second] =>
      have hfirst := (hpieces first List.mem_cons_self).nonempty
      have hsecond := (hpieces second (List.mem_cons_of_mem _ List.mem_cons_self)).nonempty
      obtain ⟨last, d, rfl⟩ := (List.eq_nil_or_concat' second).resolve_left hsecond
      have hboth : first ++ last ++ [d] = Json.print entry.toJson ++ ['\n'] := by
        simpa [Entry.lineChars] using hparts
      obtain ⟨hcut, hend⟩ := List.append_inj' hboth rfl
      obtain rfl := List.singleton_inj.1 hend
      -- Cut before nothing but its end, the line has its value in the first part.
      by_cases hlast : last = []
      · subst hlast
        rw [List.append_nil] at hcut
        have hblank : Json.readAny ['\n'] = .ok none := rfl
        refine .inl ⟨.inr (hcut ▸ List.mem_cons_self), ?_⟩
        have hafter : recordsIn ([[] ++ ['\n']] ++ rest) = recordsIn rest :=
          recordsIn_nothing hblank rest
        rw [hcut, List.cons_append, recordsIn_value (readAny_print h), hafter]
      · have hnone := not_parse_torn h hcut.symm hfirst hlast
        refine .inr ⟨not_isWhole_torn hcut.symm hfirst hlast, ?_⟩
        rcases recordsIn_no_value (fun value => (hnone value).1) ([last ++ ['\n']] ++ rest) with
          hpassed | hended
        · rw [List.cons_append, hpassed]
          exact recordsIn_no_value (fun value => (hnone value).2) rest
        · exact .inr hended

end Parts

/-! ## Whole diaries -/

section Whole

variable {entries : List Entry} {groups : List (List (List Char))}

/-- The parts in which the lines of entries were read, grouped by entry. -/
def AreGrouped (entries : List Entry) (groups : List (List (List Char))) : Prop :=
  List.Forall₂ (fun entry parts => parts.flatten = entry.lineChars) entries groups

def wholeRecords (entries : List Entry) (groups : List (List (List Char))) : List Cycle.Record :=
  (entries.zip groups).filterMap fun pair =>
    if pair.1.IsWhole pair.2 then pair.1.record? else none

theorem wholeRecords_cons (entry : Entry) (parts : List (List Char)) (entries : List Entry)
    (groups : List (List (List Char))) :
    wholeRecords (entry :: entries) (parts :: groups) =
      (if entry.IsWhole parts then entry.record? else none).toList ++
        wholeRecords entries groups := by
  unfold wholeRecords
  rw [List.zip_cons_cons, List.filterMap_cons]
  dsimp only
  split <;> simp_all

/-- Of lines that are read in at most two parts each, the records of those are read that are whole,
up to a fault that a line which is not whole may end the reading with. -/
theorem recordsIn_groups [Json.Nesting] (hwritable : ∀ entry ∈ entries, entry.IsWritable)
    (h : AreGrouped entries groups) (hpieces : ∀ part ∈ groups.flatten, Text.IsPiece part)
    (hshort : ∀ parts ∈ groups, parts.length ≤ 2) :
    (recordsIn groups.flatten).records <+: wholeRecords entries groups ∧
      ((recordsIn groups.flatten).fault? = none →
        (recordsIn groups.flatten).records = wholeRecords entries groups) ∧
      ((∀ pair ∈ entries.zip groups, pair.1.IsWhole pair.2) →
        (recordsIn groups.flatten).fault? = none) := by
  induction h with
  | nil => exact ⟨List.prefix_rfl, fun _ => rfl, fun _ => rfl⟩
  | @cons entry parts entries groups hparts _ ih =>
      obtain ⟨hfront, hall, hcalm⟩ :=
        ih (fun other hother => hwritable other (List.mem_cons_of_mem _ hother))
          (fun part hpart => hpieces part (List.mem_append_right _ hpart))
          (fun other hother => hshort other (List.mem_cons_of_mem _ hother))
      rw [List.flatten_cons, wholeRecords_cons, List.zip_cons_cons, List.forall_mem_cons]
      rcases recordsIn_parts (hwritable entry List.mem_cons_self) hparts
          (fun part hpart => hpieces part (List.mem_append_left _ hpart))
          (hshort parts List.mem_cons_self) groups.flatten with
        ⟨hwhole, hread⟩ | ⟨htorn, hpassed | ⟨fault, hended⟩⟩
      · rw [hread, if_pos hwhole]
        refine ⟨(List.prefix_append_right_inj _).2 hfront, fun hnone => ?_, fun h => hcalm h.2⟩
        rw [hall hnone]
      · rw [hpassed, if_neg htorn]
        exact ⟨hfront, hall, fun h => hcalm h.2⟩
      · rw [hended, if_neg htorn]
        exact ⟨List.nil_prefix, nofun, fun h => absurd h.1 htorn⟩

theorem filterMap_record_eq (h : AreGrouped entries groups) :
    entries.filterMap Entry.record? = (entries.zip groups).filterMap (·.1.record?) := by
  induction h with
  | nil => rfl
  | cons _ _ ih => rw [List.zip_cons_cons, List.filterMap_cons, List.filterMap_cons, ih]

/-- Where some values are passed over, no more are found, and as many only if none of them was to be
found. -/
theorem length_filterMap_le {α β : Type} {all some? : α → Option β}
    (h : ∀ a, some? a = all a ∨ some? a = none) (values : List α) :
    (values.filterMap some?).length ≤ (values.filterMap all).length ∧
      ((values.filterMap all).length ≤ (values.filterMap some?).length →
        ∀ a ∈ values, (all a).isSome → some? a = all a) := by
  induction values with
  | nil => exact ⟨Nat.le_refl _, fun _ a ha => nomatch ha⟩
  | cons a values ih =>
      obtain ⟨hle, hall⟩ := ih
      rw [List.forall_mem_cons]
      cases hfound : all a with
      | none =>
          have hnone : some? a = none := (h a).elim (·.trans hfound) id
          rw [List.filterMap_cons_none hnone, List.filterMap_cons_none hfound]
          exact ⟨hle, fun hmore => ⟨nofun, hall hmore⟩⟩
      | some b =>
          rcases h a with hsame | hnone
          · rw [hfound] at hsame
            rw [List.filterMap_cons_some hsame, List.filterMap_cons_some hfound]
            exact ⟨Nat.succ_le_succ hle,
              fun hmore => ⟨fun _ => hsame, hall (Nat.le_of_succ_le_succ hmore)⟩⟩
          · rw [List.filterMap_cons_none hnone, List.filterMap_cons_some hfound, List.length_cons]
            exact ⟨Nat.le_succ_of_le hle,
              fun hmore => absurd (Nat.lt_of_succ_le hmore) (Nat.not_lt.2 hle)⟩

theorem isWhole_of_length (h : AreGrouped entries groups)
    (hmany : (entries.filterMap Entry.record?).length ≤ (wholeRecords entries groups).length) :
    ∀ pair ∈ entries.zip groups, pair.1.record?.isSome → pair.1.IsWhole pair.2 := by
  intro pair hpair hrecord
  have hparted : ∀ other : Entry × List (List Char),
      (if other.1.IsWhole other.2 then other.1.record? else none) = other.1.record? ∨
        (if other.1.IsWhole other.2 then other.1.record? else none) = none := by
    intro other
    split
    · exact .inl rfl
    · exact .inr rfl
  rw [filterMap_record_eq h] at hmany
  have hsame := (length_filterMap_le hparted _).2 hmany pair hpair hrecord
  by_contra htorn
  rw [if_neg htorn] at hsame
  rw [← hsame] at hrecord
  exact nomatch hrecord

theorem short_of_isWhole (h : AreGrouped entries groups)
    (hpieces : ∀ part ∈ groups.flatten, Text.IsPiece part)
    (hwhole : ∀ pair ∈ entries.zip groups, pair.1.IsWhole pair.2) :
    ∀ parts ∈ groups, parts.length ≤ 2 := by
  induction h with
  | nil => exact nofun
  | cons hparts _ ih =>
      rw [List.zip_cons_cons, List.forall_mem_cons] at hwhole
      rw [List.forall_mem_cons]
      refine ⟨length_of_isWhole hparts ?_ hwhole.1, ih ?_ hwhole.2⟩
      · exact fun part hpart => hpieces part (List.mem_append_left _ hpart)
      · exact fun part hpart => hpieces part (List.mem_append_right _ hpart)

theorem wholeRecords_of_isWhole (h : AreGrouped entries groups)
    (hwhole : ∀ pair ∈ entries.zip groups, pair.1.IsWhole pair.2) :
    wholeRecords entries groups = entries.filterMap Entry.record? := by
  rw [filterMap_record_eq h]
  exact List.filterMap_congr fun pair hpair => if_pos (hwhole pair hpair)

end Whole

theorem plain_textOf (entries : List Entry) : ∀ c ∈ textOf entries, c ≠ '\r' := by
  intro c hc
  obtain ⟨entry, -, hmem⟩ := List.mem_flatMap.1 hc
  rcases List.mem_append.1 hmem with hinside | hend
  · exact (isRow_print entry.toJson c hinside).2
  · rw [List.mem_singleton.1 hend]
    decide

namespace Follower

/-- A run that reads all of a diary reads its lines, each in one or more parts. -/
theorem exists_grouped [Json.Nesting] {entries : List Entry} {moves : List Move}
    (harrived : arrived moves = textOf entries)
    (hread : (({} : Follower).run moves).unread = []) :
    ∃ groups, AreGrouped entries groups ∧ ({} : Follower).linesRead moves = groups.flatten ∧
      ∀ part ∈ groups.flatten, Text.IsPiece part := by
  have hplain : ∀ c ∈ ({} : Follower).unread ++ arrived moves, c ≠ '\r' := by
    intro c hc
    rw [harrived] at hc
    exact plain_textOf entries c hc
  obtain ⟨hflat, hpieces⟩ := run_unread moves hplain
  rw [hread, List.append_nil] at hflat
  have htext : (({} : Follower).linesRead moves).flatten =
      (entries.map fun entry => Json.print entry.toJson).flatMap (· ++ ['\n']) := by
    rw [← textOf_eq, ← hflat, harrived]
    rfl
  have hrows : ∀ row ∈ entries.map fun entry => Json.print entry.toJson, '\n' ∉ row := by
    intro row hrow hmem
    obtain ⟨entry, -, rfl⟩ := List.mem_map.1 hrow
    exact (isRow_print entry.toJson '\n' hmem).1 rfl
  obtain ⟨groups, hgroups, hlines⟩ := Text.exists_groups hrows hpieces htext
  exact ⟨groups, List.forall₂_map_left_iff.1 hlines, hgroups, hgroups ▸ hpieces⟩

/-- However the text of a diary arrives, and whenever a line is looked for, what is read until
nothing is left is the lines of the diary, each in one or more parts. If all lines are whole, all
records are shown. Where no line is read in more than two parts, exactly the records whose lines are
whole are shown, in their order, unless a part of another line is a fault and ends the showing; so
all records are shown only if all their lines are whole. -/
theorem run_shows [Json.Nesting] {entries : List Entry}
    (hwritable : ∀ entry ∈ entries, entry.IsWritable) {moves : List Move}
    (harrived : arrived moves = textOf entries)
    (hread : (({} : Follower).run moves).unread = []) :
    let last := ({} : Follower).run moves
    let records := (readRecords (bytesOf entries)).records
    ∃ groups, AreGrouped entries groups ∧
      ({} : Follower).linesRead moves = groups.flatten ∧
      ((∀ pair ∈ entries.zip groups, pair.1.IsWhole pair.2) →
        last.fault? = none ∧ last.shown = records) ∧
      ((∀ parts ∈ groups, parts.length ≤ 2) →
        last.shown <+: wholeRecords entries groups ∧
        (last.fault? = none → last.shown = wholeRecords entries groups) ∧
        (last.shown = records →
          ∀ pair ∈ entries.zip groups, pair.1.record?.isSome → pair.1.IsWhole pair.2)) := by
  intro last records
  have hrecords : records = entries.filterMap Entry.record? := by
    simp only [records, readRecords, bytesOf, linesOf_textOf, recordsIn_lineChars hwritable]
  obtain ⟨groups, hgrouped, hgroups, hpieces⟩ := exists_grouped harrived hread
  have hbegun : ({} : Follower).fault? = none := rfl
  obtain ⟨hshown, hfault⟩ := run_shown hbegun moves
  rw [hgroups] at hshown hfault
  have hshows : (∀ parts ∈ groups, parts.length ≤ 2) →
      last.shown <+: wholeRecords entries groups ∧
        (last.fault? = none → last.shown = wholeRecords entries groups) ∧
        ((∀ pair ∈ entries.zip groups, pair.1.IsWhole pair.2) → last.fault? = none) := by
    intro hshort
    rw [show last.shown = (recordsIn groups.flatten).records from hshown,
      show last.fault? = (recordsIn groups.flatten).fault? from hfault]
    exact recordsIn_groups hwritable hgrouped hpieces hshort
  refine ⟨groups, hgrouped, hgroups, fun hwhole => ?_, fun hshort => ?_⟩
  · obtain ⟨-, hall, hcalm⟩ := hshows (short_of_isWhole hgrouped hpieces hwhole)
    have hnone := hcalm hwhole
    refine ⟨hnone, ?_⟩
    rw [hrecords, ← wholeRecords_of_isWhole hgrouped hwhole]
    exact hall hnone
  · obtain ⟨hfront, hall, -⟩ := hshows hshort
    refine ⟨hfront, hall, fun hsame => isWhole_of_length hgrouped ?_⟩
    rw [← hrecords, ← hsame]
    exact hfront.length_le

def bareRecord (tick : Int) : Cycle.Record where
  tick
  timestamp := ""
  goal := "rest"
  observation := none
  reasoning := none
  action := none
  result := ⟨false, some "dark"⟩
  violation := none

def bareEntries : List Entry := [.cycle (bareRecord 1), .cycle (bareRecord 2)]

def cutMoves : List Move :=
  [.arrive ((textOf bareEntries).take 40), .poll, .arrive ((textOf bareEntries).drop 40), .poll,
    .poll]

section Cut

attribute [local instance] Json.Nesting.usual

theorem cut_shows :
    let last := ({} : Follower).run cutMoves
    last.unread = [] ∧ last.fault? = none ∧ last.shown = [bareRecord 2] ∧
      ∃ groups, AreGrouped bareEntries groups ∧
        wholeRecords bareEntries groups = [bareRecord 2] := by
  intro last
  have hwritable : ∀ entry ∈ bareEntries, entry.IsWritable := by
    intro entry hentry
    simp only [bareEntries, List.mem_cons, List.not_mem_nil, or_false] at hentry
    rcases hentry with rfl | rfl
    all_goals decide
  have harrived : arrived cutMoves = textOf bareEntries := by
    simp [arrived, cutMoves]
  have hlast : last.unread = [] ∧ last.fault? = none ∧ last.shown = [bareRecord 2] ∧
      ((({} : Follower).linesRead cutMoves).length = 3) := by
    decide +kernel
  obtain ⟨hread, hnone, hshown, hthree⟩ := hlast
  obtain ⟨groups, hgrouped, hlines, -, hshort⟩ := run_shows hwritable harrived hread
  have hlengths : ∀ parts ∈ groups, parts.length ≤ 2 := by
    rw [hlines, List.length_flatten] at hthree
    rcases hgrouped with _ | ⟨hfirst, _ | ⟨hsecond, _ | _⟩⟩
    rename_i first second
    have hone : first.length ≠ 0 := fun hnil => by
      rw [List.length_eq_zero_iff.1 hnil] at hfirst
      exact absurd hfirst.symm (by simp [Entry.lineChars])
    have htwo : second.length ≠ 0 := fun hnil => by
      rw [List.length_eq_zero_iff.1 hnil] at hsecond
      exact absurd hsecond.symm (by simp [Entry.lineChars])
    simp only [List.map_cons, List.map_nil, List.sum_cons, List.sum_nil] at hthree
    simp only [List.forall_mem_cons, List.not_mem_nil, false_imp_iff, implies_true, and_true]
    omega
  obtain ⟨-, hall, -⟩ := hshort hlengths
  exact ⟨hread, hnone, hshown, groups, hgrouped, (hall hnone).symm.trans hshown⟩

/-- A record whose line is cut where it is looked for is never shown. -/
theorem cut_record_lost :
    let last := ({} : Follower).run cutMoves
    arrived cutMoves = textOf bareEntries ∧ last.unread = [] ∧ last.fault? = none ∧
      last.shown ≠ (readRecords (bytesOf bareEntries)).records := by
  decide +kernel

end Cut

end Follower

end Rulebound.Diary
