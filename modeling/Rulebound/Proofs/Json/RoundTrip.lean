import Rulebound.Proofs.Json.Fits
import Rulebound.Proofs.Json.Number
import Rulebound.Proofs.Json.String

/-!
# Reading back what was written

A value that nothing keeps from being written is read back from its text, its strings put together
again from their code units and its fields given one after another; a sound value is read back as
it is. What the reader does at the front of a text is said once for each kind of value; the round
trip is an induction on the value, which takes the fuel from the length of its text and the room
from the levels of nesting that are left.
-/

namespace Rulebound.Json

/-! ## Values that stay as they are -/

mutual

/-- A value in which every text is settled and no object gives a name twice. -/
def IsSettled : Json → Prop
  | string value => value.IsSettled
  | array items => AreSettled items
  | object fields => (fields.map (·.1)).Nodup ∧ HaveSettled fields
  | _ => True

def AreSettled : List Json → Prop
  | [] => True
  | item :: rest => IsSettled item ∧ AreSettled rest

def HaveSettled : Fields → Prop
  | [] => True
  | (name, value) :: rest => name.IsSettled ∧ IsSettled value ∧ HaveSettled rest

end

mutual

def decideSettled : (value : Json) → Decidable (IsSettled value)
  | null => .isTrue trivial
  | bool _ => .isTrue trivial
  | float _ => .isTrue trivial
  | int _ => .isTrue trivial
  | string value => inferInstanceAs (Decidable (value.IsSettled))
  | array items => decideAllSettled items
  | object fields =>
      have := decideFieldsSettled fields
      inferInstanceAs (Decidable ((fields.map (·.1)).Nodup ∧ HaveSettled fields))

def decideAllSettled : (items : List Json) → Decidable (AreSettled items)
  | [] => .isTrue trivial
  | item :: rest =>
      have := decideSettled item
      have := decideAllSettled rest
      inferInstanceAs (Decidable (IsSettled item ∧ AreSettled rest))

def decideFieldsSettled : (fields : Fields) → Decidable (HaveSettled fields)
  | [] => .isTrue trivial
  | (name, value) :: rest =>
      have := decideSettled value
      have := decideFieldsSettled rest
      inferInstanceAs (Decidable (name.IsSettled ∧ IsSettled value ∧ HaveSettled rest))

end

instance (value : Json) : Decidable (IsSettled value) := decideSettled value

mutual

/-- A value in which no integer has too many digits to be written. -/
def IsCountable : Json → Prop
  | int value => IsShort value
  | array items => AreCountable items
  | object fields => HaveCountable fields
  | _ => True

def AreCountable : List Json → Prop
  | [] => True
  | item :: rest => IsCountable item ∧ AreCountable rest

def HaveCountable : Fields → Prop
  | [] => True
  | (_, value) :: rest => IsCountable value ∧ HaveCountable rest

end

mutual

def decideCountable : (value : Json) → Decidable (IsCountable value)
  | null => .isTrue trivial
  | bool _ => .isTrue trivial
  | float _ => .isTrue trivial
  | string _ => .isTrue trivial
  | int value => inferInstanceAs (Decidable (IsShort value))
  | array items => decideAllCountable items
  | object fields => decideFieldsCountable fields

def decideAllCountable : (items : List Json) → Decidable (AreCountable items)
  | [] => .isTrue trivial
  | item :: rest =>
      have := decideCountable item
      have := decideAllCountable rest
      inferInstanceAs (Decidable (IsCountable item ∧ AreCountable rest))

def decideFieldsCountable : (fields : Fields) → Decidable (HaveCountable fields)
  | [] => .isTrue trivial
  | (_, value) :: rest =>
      have := decideCountable value
      have := decideFieldsCountable rest
      inferInstanceAs (Decidable (IsCountable value ∧ HaveCountable rest))

end

instance (value : Json) : Decidable (IsCountable value) := decideCountable value

mutual

def levels : Json → Nat
  | array items => levelsOfItems items + 1
  | object fields => levelsOfFields fields + 1
  | _ => 0

def levelsOfItems : List Json → Nat
  | [] => 0
  | item :: rest => max (levels item) (levelsOfItems rest)

def levelsOfFields : Fields → Nat
  | [] => 0
  | (_, value) :: rest => max (levels value) (levelsOfFields rest)

end

/-! ## Values as they are read back -/

mutual

/-- A value with its strings put together again, and with each name of an object given once, in its
first place and with its last value. -/
def reread : Json → Json
  | string value => string value.rejoin
  | array items => array (rereadItems items)
  | object fields => object (rereadFields [] fields)
  | value => value

def rereadItems : List Json → List Json
  | [] => []
  | item :: rest => reread item :: rereadItems rest

/-- The fields of an object after those that were read before. -/
def rereadFields : Fields → Fields → Fields
  | before, [] => before
  | before, (name, value) :: rest =>
      rereadFields (insert before name.rejoin (reread value)) rest

end

theorem insert_of_not_mem {before : Fields} {name : CodeText} (h : name ∉ before.map (·.1))
    (value : Json) : insert before name value = before ++ [(name, value)] := by
  induction before with
  | nil => rfl
  | cons field before ih =>
      rw [List.map_cons, List.mem_cons, not_or] at h
      rw [insert, if_neg fun heq => h.1 heq.symm, ih h.2, List.cons_append]

theorem name_not_mem {before fields : Fields} {name : CodeText} {value : Json}
    (h : ((before ++ (name, value) :: fields).map (·.1)).Nodup) : name ∉ before.map (·.1) := by
  rw [List.map_append, List.map_cons, List.nodup_append] at h
  intro hmem
  exact h.2.2 name hmem name List.mem_cons_self rfl

/-- Where no name is given twice, each field is read back by itself. -/
theorem rereadFields_eq {before fields : Fields} (hnames : ((before ++ fields).map (·.1)).Nodup)
    (hsettled : ∀ field ∈ fields, field.1.IsSettled) :
    rereadFields before fields = before ++ fields.map fun field => (field.1, reread field.2) := by
  induction fields generalizing before with
  | nil => rw [rereadFields, List.map_nil, List.append_nil]
  | cons field fields ih =>
      obtain ⟨name, value⟩ := field
      rw [List.forall_mem_cons] at hsettled
      have hnext : ((before ++ [(name, reread value)] ++ fields).map (·.1)).Nodup := by
        simpa using hnames
      rw [rereadFields, CodeText.rejoin_eq hsettled.1, insert_of_not_mem (name_not_mem hnames),
        ih hnext hsettled.2, List.append_assoc, List.singleton_append, List.map_cons]

theorem rereadItems_eq (items : List Json) : rereadItems items = items.map reread := by
  induction items with
  | nil => rfl
  | cons item rest ih => rw [rereadItems, ih, List.map_cons]

theorem reread_object {fields : Fields} {names : List String}
    (hnames : fields.map (·.1) = names.map .plain) (hdistinct : names.Nodup) :
    reread (object fields) = object (fields.map fun field => (field.1, reread field.2)) := by
  have hall : (([] ++ fields : Fields).map (·.1)).Nodup := by
    rw [List.nil_append, hnames]
    exact hdistinct.map fun _ _ heq => CodeText.plain.inj heq
  have hsettled : ∀ field ∈ fields, field.1.IsSettled := by
    intro field hfield
    have hname : field.1 ∈ names.map CodeText.plain := hnames ▸ List.mem_map_of_mem hfield
    obtain ⟨name, -, heq⟩ := List.mem_map.1 hname
    rw [← heq]
    trivial
  rw [reread, rereadFields_eq hall hsettled, List.nil_append]

@[simp] theorem isSettled_ofText? (text? : Option String) : (ofText? text?).IsSettled := by
  cases text? <;> trivial

theorem isSettled_array {items : List Json} (h : ∀ item ∈ items, item.IsSettled) :
    (array items).IsSettled := by
  unfold IsSettled
  induction items with
  | nil => trivial
  | cons item rest ih =>
      rw [List.forall_mem_cons] at h
      exact ⟨h.1, ih h.2⟩

@[simp] theorem isSettled_list {α : Type} {toJson : α → Json} (parts : List α)
    (h : ∀ part, (toJson part).IsSettled) : (array (parts.map toJson)).IsSettled := by
  refine isSettled_array fun item hitem => ?_
  obtain ⟨part, -, rfl⟩ := List.mem_map.1 hitem
  exact h part

@[simp] theorem isSettled_ofTexts (texts : List String) : (ofTexts texts).IsSettled :=
  isSettled_list texts fun _ => trivial

theorem HaveSettled.settled {fields : Fields} (h : HaveSettled fields) :
    ∀ field ∈ fields, field.1.IsSettled := by
  induction fields with
  | nil => exact List.forall_mem_nil _
  | cons field fields ih => exact List.forall_mem_cons.2 ⟨h.1, ih h.2.2⟩

mutual

/-- A settled value is read back as it is. -/
theorem reread_eq : ∀ value : Json, IsSettled value → reread value = value
  | null, _ => rfl
  | bool _, _ => rfl
  | int _, _ => rfl
  | float _, _ => rfl
  | string _, h => congrArg string (CodeText.rejoin_eq h)
  | array items, h => by
      rw [reread, rereadItems_eq, reread_items_eq items h]
  | object fields, h => by
      have hnames : ((([] : Fields) ++ fields).map (·.1)).Nodup := h.1
      rw [reread, rereadFields_eq hnames h.2.settled, List.nil_append,
        reread_fields_eq fields h.2]

theorem reread_items_eq : ∀ items : List Json, AreSettled items → items.map reread = items
  | [], _ => rfl
  | item :: rest, h => by
      rw [List.map_cons, reread_eq item h.1, reread_items_eq rest h.2]

theorem reread_fields_eq : ∀ fields : Fields, HaveSettled fields →
    (fields.map fun field => (field.1, reread field.2)) = fields
  | [], _ => rfl
  | (name, value) :: rest, h => by
      rw [List.map_cons, reread_eq value h.2.1, reread_fields_eq rest h.2.2]

end

/-! ## One step of the reader -/

section Steps

variable {fuel room : Nat} {rest after body : List Char} {c : Char}

theorem skipSpace_cons (h : isSpace c = false) (text : List Char) :
    skipSpace (c :: text) = c :: text :=
  List.dropWhile_cons_of_neg (by simp [h])

theorem skipSpace_blank (h : isSpace c = false) (text : List Char) :
    skipSpace (' ' :: c :: text) = c :: text := by
  unfold skipSpace
  rw [List.dropWhile_cons_of_pos rfl]
  exact skipSpace_cons h text

theorem readValue_of_startsNumber (hstart : StartsNumber c) (tail : List Char) :
    readValue (fuel + 1) room (c :: tail) = number (c :: tail) := by
  have hquote : c ≠ '"' := hstart.ne (by decide)
  have hbracket : c ≠ '[' := hstart.ne (by decide)
  have hbrace : c ≠ '\x7b' := hstart.ne (by decide)
  have hnull : afterWord? "null".toList (c :: tail) = none :=
    afterWord?_of_ne (hstart.ne (by decide)).symm _ _
  have htrue : afterWord? "true".toList (c :: tail) = none :=
    afterWord?_of_ne (hstart.ne (by decide)).symm _ _
  have hfalse : afterWord? "false".toList (c :: tail) = none :=
    afterWord?_of_ne (hstart.ne (by decide)).symm _ _
  rw [readValue]
  · rw [if_neg hbrace, hnull, htrue, hfalse]
  · exact hquote
  · exact hbracket

theorem readValue_number {text : List Char} {found : Json × List Char}
    (h : number text = .ok found) : readValue (fuel + 1) room text = .ok found := by
  obtain ⟨c, tail, rfl, hstart⟩ := number_cons h
  rw [readValue_of_startsNumber hstart, h]

theorem readValue_string {units : List Nat} (h : stringBody body = some (units, rest)) :
    readValue (fuel + 1) room ('"' :: body) =
      .ok (string (CodeText.ofUnits units), rest) := by
  rw [readValue, h]
  rfl

theorem readValue_array {items : List Json} (hspace : isSpace c = false) (hend : c ≠ ']')
    (h : readItems fuel room (c :: body) = .ok (items, rest)) :
    readValue (fuel + 1) (room + 1) ('[' :: c :: body) = .ok (array items, rest) := by
  rw [readValue, skipSpace_cons hspace]
  simp only [inward, bind, Except.bind]
  split
  · rename_i heq
    exact absurd (List.cons.inj heq).1 hend
  · rw [h]
    rfl

theorem readValue_object {fields : Fields}
    (h : readFields fuel room [] ('"' :: body) = .ok (fields, rest)) :
    readValue (fuel + 1) (room + 1) ('\x7b' :: '"' :: body) = .ok (object fields, rest) := by
  rw [readValue, if_pos rfl, skipSpace_cons rfl]
  · simp only [inward, bind, Except.bind, h]
    rfl
  · decide
  · decide

theorem readItems_last {text : List Char} {item : Json}
    (h : readValue fuel room text = .ok (item, ']' :: rest)) :
    readItems (fuel + 1) room text = .ok ([item], rest) := by
  rw [readItems, h]
  rfl

theorem readItems_more {text : List Char} {item : Json} {items : List Json}
    (hspace : isSpace c = false)
    (h : readValue fuel room text = .ok (item, ',' :: ' ' :: c :: after))
    (hmore : readItems fuel room (c :: after) = .ok (items, rest)) :
    readItems (fuel + 1) room text = .ok (item :: items, rest) := by
  rw [readItems, h]
  simp only [bind, Except.bind, skipSpace_cons (c := ',') rfl, skipSpace_blank hspace, hmore]
  rfl

variable {units : List Nat} {before fields : Fields} {value : Json}

theorem readFields_last (hspace : isSpace c = false)
    (hname : stringBody body = some (units, ':' :: ' ' :: c :: after))
    (h : readValue fuel room (c :: after) = .ok (value, '\x7d' :: rest)) :
    readFields (fuel + 1) room before ('"' :: body) =
      .ok (insert before (CodeText.ofUnits units) value, rest) := by
  rw [readFields, hname]
  simp only [orNotJson, bind, Except.bind, skipSpace_cons (c := ':') rfl, skipSpace_blank hspace, h,
    skipSpace_cons (c := '\x7d') rfl]
  rfl

theorem readFields_more {next : List Char} (hspace : isSpace c = false)
    (hname : stringBody body = some (units, ':' :: ' ' :: c :: after))
    (h : readValue fuel room (c :: after) = .ok (value, ',' :: ' ' :: '"' :: next))
    (hmore : readFields fuel room (insert before (CodeText.ofUnits units) value)
      ('"' :: next) = .ok (fields, rest)) :
    readFields (fuel + 1) room before ('"' :: body) = .ok (fields, rest) := by
  rw [readFields, hname]
  simp only [orNotJson, bind, Except.bind, skipSpace_cons (c := ':') rfl, skipSpace_blank hspace, h,
    skipSpace_cons (c := ',') rfl, skipSpace_blank (c := '"') rfl, ↓reduceIte, hmore]

end Steps

/-! ## How values begin and end -/

theorem endsNumber_nil : EndsNumber [] := fun _ h => nomatch h

/-- The text of a value begins with no space, nor does it end an array. -/
theorem print_cons : ∀ value : Json,
    ∃ c tail, print value = c :: tail ∧ isSpace c = false ∧ c ≠ ']'
  | null => ⟨'n', _, rfl, rfl, by decide⟩
  | bool true => ⟨'t', _, rfl, rfl, by decide⟩
  | bool false => ⟨'f', _, rfl, rfl, by decide⟩
  | string _ => ⟨'"', _, rfl, rfl, by decide⟩
  | array _ => ⟨'[', _, rfl, rfl, by decide⟩
  | object _ => ⟨'\x7b', _, rfl, rfl, by decide⟩
  | int n => by
      obtain ⟨c, tail, heq, hstart⟩ := intChars_cons n
      exact ⟨c, tail, heq, hstart.isSpace, hstart.ne (by decide)⟩
  | float x => by
      have hread := number_recordChars x endsNumber_nil
      rw [List.append_nil] at hread
      obtain ⟨c, tail, heq, hstart⟩ := number_cons hread
      exact ⟨c, tail, heq, hstart.isSpace, hstart.ne (by decide)⟩

theorem length_print_pos (value : Json) : 0 < (print value).length := by
  obtain ⟨c, tail, heq, -⟩ := print_cons value
  rw [heq, List.length_cons]
  exact Nat.succ_pos _

theorem printItems_cons (item : Json) (items : List Json) (rest : List Char) :
    ∃ c tail, printItems (item :: items) ++ rest = c :: tail ∧ isSpace c = false ∧ c ≠ ']' := by
  obtain ⟨c, tail, heq, hstart⟩ := print_cons item
  cases items with
  | nil => exact ⟨c, tail ++ rest, by rw [printItems, heq, List.cons_append], hstart⟩
  | cons next items =>
      exact ⟨c, _, by rw [printItems, heq, List.cons_append, List.cons_append, List.cons_append],
        hstart⟩

theorem printFields_cons (field : CodeText × Json) (fields : Fields) (rest : List Char) :
    ∃ tail, printFields (field :: fields) ++ rest = '"' :: tail := by
  obtain ⟨name, value⟩ := field
  cases fields with
  | nil => exact ⟨_, rfl⟩
  | cons next fields => exact ⟨_, rfl⟩

/-! ## The round trip -/

theorem pos_of_print_le {value : Json} {fuel : Nat} (hfuel : (print value).length ≤ fuel) :
    ∃ less, fuel = less + 1 := by
  have hpos := length_print_pos value
  exact ⟨fuel - 1, by omega⟩

theorem endsNumber_comma (rest : List Char) : EndsNumber (',' :: rest) :=
  endsNumber_cons (by decide) rest

theorem print_array_append (items : List Json) (rest : List Char) :
    print (array items) ++ rest = '[' :: (printItems items ++ ']' :: rest) := by
  simp [print]

theorem print_object_append (fields : Fields) (rest : List Char) :
    print (object fields) ++ rest = '\x7b' :: (printFields fields ++ '\x7d' :: rest) := by
  simp [print]

theorem printItems_more (item next : Json) (items : List Json) (rest : List Char) :
    printItems (item :: next :: items) ++ rest =
      print item ++ ',' :: ' ' :: (printItems (next :: items) ++ rest) := by
  simp [printItems]

theorem printFields_last (name : CodeText) (value : Json) (rest : List Char) :
    printFields [(name, value)] ++ rest =
      printString name ++ ':' :: ' ' :: (print value ++ rest) := by
  simp [printFields]

theorem printFields_more (name : CodeText) (value : Json) (next : CodeText × Json) (fields : Fields)
    (rest : List Char) :
    printFields ((name, value) :: next :: fields) ++ rest =
      printString name ++ ':' :: ' ' :: (print value ++ ',' :: ' ' ::
        (printFields (next :: fields) ++ rest)) := by
  obtain ⟨nextName, nextValue⟩ := next
  simp [printFields]

mutual

theorem readValue_print : ∀ (value : Json) (fuel room : Nat) (rest : List Char),
    Fits room value → (print value).length ≤ fuel → EndsNumber rest →
    readValue fuel room (print value ++ rest) = .ok (reread value, rest) := by
  intro value fuel room rest hfits hfuel hrest
  obtain ⟨fuel, rfl⟩ := pos_of_print_le hfuel
  match value with
  | null => rfl
  | bool true => rfl
  | bool false => rfl
  | int n => exact readValue_number (number_intChars (fits_int.1 hfits) hrest)
  | float x => exact readValue_number (number_recordChars x hrest)
  | string text =>
      obtain ⟨body, units, heq, hbody, htext⟩ := printString_append text rest
      rw [print, heq, readValue_string hbody, htext, reread]
  | array items =>
      cases room with
      | zero => exact nomatch hfits
      | succ room =>
          have hlength := congrArg List.length (print_array_append items [])
          simp only [List.length_cons, List.length_append, List.length_nil] at hlength
          rw [print_array_append]
          cases items with
          | nil => rfl
          | cons item items =>
              obtain ⟨c, tail, heq, hspace, hend⟩ := printItems_cons item items (']' :: rest)
              have hread := readItems_print (item :: items) fuel room rest
                (List.cons_ne_nil _ _) (fits_array.1 hfits) (by omega)
              rw [heq] at hread ⊢
              exact readValue_array hspace hend hread
  | object fields =>
      cases room with
      | zero => exact nomatch hfits
      | succ room =>
          have hlength := congrArg List.length (print_object_append fields [])
          simp only [List.length_cons, List.length_append, List.length_nil] at hlength
          rw [print_object_append]
          cases fields with
          | nil => rfl
          | cons field fields =>
              obtain ⟨tail, heq⟩ := printFields_cons field fields ('\x7d' :: rest)
              have hread := readFields_print (field :: fields) fuel room [] rest
                (List.cons_ne_nil _ _) (fits_object.1 hfits) (by omega)
              rw [heq] at hread ⊢
              exact readValue_object hread

theorem readItems_print : ∀ (items : List Json) (fuel room : Nat) (rest : List Char),
    items ≠ [] → (∀ item ∈ items, Fits room item) → (printItems items).length < fuel →
    readItems fuel room (printItems items ++ ']' :: rest) = .ok (rereadItems items, rest) := by
  intro items fuel room rest hne hfits hfuel
  cases fuel with
  | zero => omega
  | succ fuel =>
      match items with
      | [] => exact absurd rfl hne
      | [item] =>
          rw [printItems] at hfuel
          exact readItems_last (readValue_print item fuel room _ (hfits item List.mem_cons_self)
            (by omega) (endsNumber_cons (by decide) rest))
      | item :: next :: items =>
          rw [List.forall_mem_cons] at hfits
          have hlength := congrArg List.length (printItems_more item next items [])
          simp only [List.length_cons, List.length_append, List.length_nil] at hlength
          obtain ⟨c, tail, heq, hspace, -⟩ := printItems_cons next items (']' :: rest)
          have hread := readItems_print (next :: items) fuel room rest
            (List.cons_ne_nil _ _) hfits.2 (by omega)
          rw [printItems_more]
          rw [heq] at hread ⊢
          exact readItems_more hspace (readValue_print item fuel room _ hfits.1
            (by omega) (endsNumber_comma _)) hread

theorem readFields_print : ∀ (fields : Fields) (fuel room : Nat) (before : Fields)
    (rest : List Char), fields ≠ [] → (∀ field ∈ fields, Fits room field.2) →
    (printFields fields).length < fuel →
    readFields fuel room before (printFields fields ++ '\x7d' :: rest) =
      .ok (rereadFields before fields, rest) := by
  intro fields fuel room before rest hne hfits hfuel
  cases fuel with
  | zero => omega
  | succ fuel =>
      match fields with
      | [] => exact absurd rfl hne
      | [(name, value)] =>
          have hlength := congrArg List.length (printFields_last name value [])
          simp only [List.length_cons, List.length_append, List.length_nil] at hlength
          obtain ⟨c, tail, hvalue, hspace, -⟩ := print_cons value
          have hread := readValue_print value fuel room _ (hfits _ List.mem_cons_self) (by omega)
            (endsNumber_cons (c := '\x7d') (by decide) rest)
          rw [hvalue, List.cons_append] at hread
          obtain ⟨body, units, heq, hbody, htext⟩ := printString_append name
            (':' :: ' ' :: c :: (tail ++ '\x7d' :: rest))
          have hfields : readFields (fuel + 1) room before ('"' :: body) =
              .ok (insert before (CodeText.ofUnits units) (reread value), rest) :=
            readFields_last hspace hbody hread
          rw [htext] at hfields
          rw [printFields_last, hvalue, List.cons_append, heq]
          exact hfields
      | (name, value) :: next :: fields =>
          rw [List.forall_mem_cons] at hfits
          have hlength := congrArg List.length (printFields_more name value next fields [])
          simp only [List.length_cons, List.length_append, List.length_nil] at hlength
          obtain ⟨c, tail, hvalue, hspace, -⟩ := print_cons value
          obtain ⟨others, hothers⟩ := printFields_cons next fields ('\x7d' :: rest)
          have hread := readValue_print value fuel room _ hfits.1 (by omega)
            (endsNumber_comma (' ' :: '"' :: others))
          rw [hvalue, List.cons_append] at hread
          obtain ⟨body, units, heq, hbody, htext⟩ := printString_append name
            (':' :: ' ' :: c :: (tail ++ ',' :: ' ' :: '"' :: others))
          have hmore := readFields_print (next :: fields) fuel room
            (insert before name.rejoin (reread value)) rest (List.cons_ne_nil _ _)
            hfits.2 (by omega)
          rw [hothers] at hmore
          rw [printFields_more, hothers, hvalue, List.cons_append, heq]
          refine readFields_more hspace hbody hread ?_
          rw [htext]
          exact hmore

end

mutual

/-- Nothing keeps a countable value from being written where there is room for its levels. -/
theorem fits_of_isCountable : ∀ (value : Json) (room : Nat), IsCountable value →
    levels value ≤ room → Fits room value
  | null, _, _, _ => fits_null
  | bool _, _, _, _ => fits_bool _
  | float _, _, _, _ => fits_float _
  | string _, _, _, _ => fits_string _
  | int _, _, hcount, _ => fits_int.2 hcount
  | array _, 0, _, hlevels => absurd hlevels (Nat.not_succ_le_zero _)
  | array items, room + 1, hcount, hlevels =>
      fits_array.2 (fit_of_areCountable items room hcount (Nat.le_of_succ_le_succ hlevels))
  | object _, 0, _, hlevels => absurd hlevels (Nat.not_succ_le_zero _)
  | object fields, room + 1, hcount, hlevels =>
      fits_object.2 (fit_of_haveCountable fields room hcount (Nat.le_of_succ_le_succ hlevels))

theorem fit_of_areCountable : ∀ (items : List Json) (room : Nat), AreCountable items →
    levelsOfItems items ≤ room → ∀ item ∈ items, Fits room item
  | [], _, _, _ => List.forall_mem_nil _
  | item :: rest, room, hcount, hlevels => by
      rw [levelsOfItems, Nat.max_le] at hlevels
      exact List.forall_mem_cons.2 ⟨fits_of_isCountable item room hcount.1 hlevels.1,
        fit_of_areCountable rest room hcount.2 hlevels.2⟩

theorem fit_of_haveCountable : ∀ (fields : Fields) (room : Nat), HaveCountable fields →
    levelsOfFields fields ≤ room → ∀ field ∈ fields, Fits room field.2
  | [], _, _, _ => List.forall_mem_nil _
  | (_, value) :: rest, room, hcount, hlevels => by
      rw [levelsOfFields, Nat.max_le] at hlevels
      exact List.forall_mem_cons.2 ⟨fits_of_isCountable value room hcount.1 hlevels.1,
        fit_of_haveCountable rest room hcount.2 hlevels.2⟩

end

/-- A value that is written is read back from its text, whatever blanks follow it. -/
theorem parse_print_of_fits [Nesting] {value : Json} (h : Fits deepest value) {rest : List Char}
    (hends : EndsNumber rest) (hblank : skipSpace rest = []) :
    parse (print value ++ rest) = .ok (reread value) := by
  obtain ⟨c, tail, heq, hspace, -⟩ := print_cons value
  have hread := readValue_print value ((print value ++ rest).length + 1) deepest rest h
    (by rw [List.length_append]; omega) hends
  have hskip : skipSpace (print value ++ rest) = print value ++ rest := by
    rw [heq, List.cons_append]
    exact skipSpace_cons hspace _
  unfold parse parseWithin
  rw [hskip, hread]
  simp only [bind, Except.bind, hblank]
  rfl

/-! ## Values that are not written -/

def nest : Nat → Json
  | 0 => array []
  | depth + 1 => array [nest depth]

theorem unwritable?_nest {room depth : Nat} (h : room ≤ depth) :
    unwritable? room (nest depth) = some .tooDeep := by
  induction room generalizing depth with
  | zero => cases depth <;> rfl
  | succ room ih =>
      cases depth with
      | zero => omega
      | succ depth =>
          rw [nest, unwritable?, unwritableItem?, ih (Nat.le_of_succ_le_succ h)]
          rfl

theorem unwritableInt?_pow10 : unwritableInt? (pow10 longestInteger) = some .longInteger := by
  unfold unwritableInt?
  rw [if_neg not_isShort_pow10]

end Rulebound.Json
