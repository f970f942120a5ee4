import Rulebound.Proofs.Json.LeadingDigits
import Rulebound.Proofs.Json.Nesting

/-!
# Texts cut short

Of the text of a value that is written, no part but the whole is read as a value, unless the value
is a number. A part of an array, an object or a string is no JSON, wherever it was cut; a part of a
number may be a number, but nothing that it is followed by in a value is left of it. So the reading
of an object that lost its end never ends in a fault.
-/

namespace Rulebound.Json

variable {part text first last : List Char} {c : Char}

/-! ## Cuts -/

/-- A text that lost its end. -/
def IsCut (part text : List Char) : Prop :=
  ∃ missing, missing ≠ [] ∧ text = part ++ missing

theorem isCut_nil (h : text ≠ []) : IsCut [] text :=
  ⟨text, h, rfl⟩

theorem IsCut.append (h : IsCut part (first ++ last)) :
    IsCut part first ∨ ∃ more, part = first ++ more ∧ IsCut more last := by
  obtain ⟨missing, hmissing, heq⟩ := h
  rcases List.append_eq_append_iff.1 heq with ⟨more, hpart, hlast⟩ | ⟨rest, hfirst, hrest⟩
  · exact .inr ⟨more, hpart, missing, hmissing, hlast⟩
  · cases rest with
    | nil =>
        rw [List.append_nil] at hfirst
        exact .inr ⟨[], by rw [List.append_nil, hfirst], missing, hmissing, hrest.symm⟩
    | cons d rest => exact .inl ⟨d :: rest, List.cons_ne_nil _ _, hfirst⟩

theorem IsCut.cons (h : IsCut part (c :: text)) : part = [] ∨ ∃ more, part = c :: more ∧
    IsCut more text := by
  obtain ⟨missing, hmissing, heq⟩ := h
  cases part with
  | nil => exact .inl rfl
  | cons d part =>
      obtain ⟨rfl, rfl⟩ := List.cons.inj heq
      exact .inr ⟨part, rfl, missing, hmissing, rfl⟩

theorem not_isCut_of_nil : ¬ IsCut part [] := by
  rintro ⟨missing, hmissing, heq⟩
  exact hmissing (List.append_eq_nil_iff.1 heq.symm).2

theorem skipSpace_of_isCut {tail : List Char} (hspace : isSpace c = false)
    (h : IsCut part (c :: tail)) : skipSpace part = part := by
  rcases h.cons with rfl | ⟨more, rfl, -⟩
  · rfl
  · exact skipSpace_cons hspace more

theorem IsCut.separator {mark : Char} {tail : List Char} (hspace : isSpace c = false)
    (h : IsCut part (mark :: ' ' :: c :: tail)) : part = [] ∨ ∃ more, part = mark :: more ∧
      IsCut (skipSpace more) (c :: tail) := by
  rcases h.cons with hnone | ⟨more, hpart, hmore⟩
  · exact .inl hnone
  · refine .inr ⟨more, hpart, ?_⟩
    rcases hmore.cons with rfl | ⟨rest, rfl, hrest⟩
    · exact isCut_nil (List.cons_ne_nil _ _)
    · have hblank : skipSpace (' ' :: rest) = skipSpace rest := rfl
      rw [hblank, skipSpace_of_isCut hspace hrest]
      exact hrest

/-! ## Fuel -/

/-- A reading that came to the same as another one, or to nothing because its fuel ran out. -/
def IsWithin {α : Type} (less more : Except Unreadable α) : Prop :=
  less = .error .notJson ∨ less = more

namespace IsWithin

variable {α β : Type} {less more most : Except Unreadable α}

theorem refl (result : Except Unreadable α) : IsWithin result result :=
  .inr rfl

theorem trans (h : IsWithin less more) (hmore : IsWithin more most) : IsWithin less most := by
  rcases h with hnone | rfl
  · exact .inl hnone
  · exact hmore

theorem bind {first second : α → Except Unreadable β} (h : IsWithin less more)
    (hnext : ∀ value, IsWithin (first value) (second value)) :
    IsWithin (less >>= first) (more >>= second) := by
  rcases h with rfl | rfl
  · exact .inl rfl
  · cases less with
    | error reason => exact .inr rfl
    | ok value => exact hnext value

end IsWithin

/-- With so much fuel, one more changes nothing that was read. -/
structure IsSteady (fuel : Nat) : Prop where
  value : ∀ room text, IsWithin (readValue fuel room text) (readValue (fuel + 1) room text)
  items : ∀ room text, IsWithin (readItems fuel room text) (readItems (fuel + 1) room text)
  fields : ∀ room before text,
    IsWithin (readFields fuel room before text) (readFields (fuel + 1) room before text)

theorem isSteady (fuel : Nat) : IsSteady fuel := by
  induction fuel with
  | zero => exact ⟨fun _ _ => .inl rfl, fun _ _ => .inl rfl, fun _ _ _ => .inl rfl⟩
  | succ fuel ih =>
      refine ⟨fun room text => ?_, fun room text => ?_, fun room before text => ?_⟩
      · unfold readValue
        split
        · exact .refl _
        · exact .refl _
        · refine .bind (.refl _) fun room => ?_
          split
          · exact .refl _
          · exact .bind (ih.items room _) fun _ => .refl _
        · split
          · refine .bind (.refl _) fun room => ?_
            split
            · exact .refl _
            · split
              · exact .refl _
              · exact .bind (ih.fields room _ _) fun _ => .refl _
          · exact .refl _
      · unfold readItems
        refine .bind (ih.value room text) ?_
        rintro ⟨item, rest⟩
        dsimp only
        split
        · exact .bind (ih.items room _) fun _ => .refl _
        · exact .refl _
        · exact .refl _
      · unfold readFields
        split
        · refine .bind (.refl _) ?_
          rintro ⟨units, rest⟩
          dsimp only
          split
          · refine .bind (ih.value room _) ?_
            rintro ⟨value, rest⟩
            dsimp only
            split
            · exact .refl _
            · split
              · exact ih.fields room _ _
              · exact .refl _
          · exact .refl _
        · exact .refl _

/-- The text of a value that is written is read back with any fuel, or the fuel runs out. -/
theorem readValue_print_isWithin {value : Json} {room : Nat} (hfits : Fits room value)
    {rest : List Char} (hrest : EndsNumber rest) (fuel : Nat) :
    IsWithin (readValue fuel room (print value ++ rest)) (.ok (reread value, rest)) := by
  have hgrow : ∀ more, IsWithin (readValue fuel room (print value ++ rest))
      (readValue (fuel + more) room (print value ++ rest)) := by
    intro more
    induction more with
    | zero => exact .refl _
    | succ more ih => exact ih.trans ((isSteady _).value room _)
  have hread := readValue_print value (fuel + (print value).length) room rest hfits
    (Nat.le_add_left _ _) hrest
  rw [← hread]
  exact hgrow _

/-! ## Strings -/

theorem stringBody_append {rest : List Char} {units : List Nat}
    (h : stringBody text = some (units, rest)) (more : List Char) :
    stringBody (text ++ more) = some (units, rest ++ more) := by
  fun_induction stringBody text generalizing units rest with
  | case1 => cases h
  | case2 after =>
      obtain ⟨rfl, rfl⟩ := Prod.mk.inj (Option.some.inj h)
      rfl
  | case3 a b c d text ih =>
      simp only [bind, Option.bind_eq_some_iff] at h
      obtain ⟨unit, hunit, ⟨others, after⟩, hbody, heq⟩ := h
      obtain ⟨rfl, rfl⟩ := Prod.mk.inj (Option.some.inj heq)
      simp only [List.cons_append, stringBody, hunit, ih hbody]
      rfl
  | case4 c text _ ih =>
      simp only [bind, Option.bind_eq_some_iff] at h
      obtain ⟨unit, hunit, ⟨others, after⟩, hbody, heq⟩ := h
      obtain ⟨rfl, rfl⟩ := Prod.mk.inj (Option.some.inj heq)
      have hunicode : c ≠ 'u' := by
        rintro rfl
        cases hunit
      rw [List.cons_append, List.cons_append, stringBody_escape hunicode hunit, ih hbody]
      rfl
  | case5 => cases h
  | case6 c text hquote _ _ hplain ih =>
      simp only [bind, Option.bind_eq_some_iff] at h
      obtain ⟨⟨others, after⟩, hbody, heq⟩ := h
      obtain ⟨rfl, rfl⟩ := Prod.mk.inj (Option.some.inj heq)
      rw [not_or, Nat.not_lt] at hplain
      rw [List.cons_append, stringBody_plain hquote hplain.1 hplain.2, ih hbody]
      rfl

/-- A string that lost its end has no closing quote. -/
theorem stringBody_of_isCut {name : CodeText} (h : IsCut part (printString name)) :
    part = [] ∨ ∃ body, part = '"' :: body ∧ stringBody body = none := by
  obtain ⟨whole, units, hprint, hread, -⟩ := printString_append name []
  rw [List.append_nil] at hprint
  rw [hprint] at h
  rcases h.cons with hnone | ⟨body, hpart, missing, hmissing, rfl⟩
  · exact .inl hnone
  · refine .inr ⟨body, hpart, ?_⟩
    cases hbody : stringBody body with
    | none => rfl
    | some found =>
        have hwhole := stringBody_append hbody missing
        rw [hread] at hwhole
        have hnothing : [] = found.2 ++ missing := congrArg Prod.snd (Option.some.inj hwhole)
        exact absurd (List.append_eq_nil_iff.1 hnothing.symm).2 hmissing

/-! ## One step of the reader -/

section Steps

variable {fuel room : Nat} {rest more body : List Char} {item value : Json}

theorem skipSpace_of_tight (h : ∀ c ∈ rest, IsTight c) : skipSpace rest = rest := by
  cases rest with
  | nil => rfl
  | cons c rest => exact skipSpace_cons (h c List.mem_cons_self).2.2.2 rest

theorem readValue_nil : readValue fuel room [] = .error .notJson := by
  cases fuel <;> rfl

theorem readItems_nil : readItems fuel room [] = .error .notJson := by
  cases fuel with
  | zero => rfl
  | succ fuel =>
      rw [readItems, readValue_nil]
      rfl

theorem readValue_array_of_error (hskip : skipSpace text = text)
    (hend : ∀ rest, text = ']' :: rest → False) (h : readItems fuel room text = .error .notJson) :
    readValue (fuel + 1) (room + 1) ('[' :: text) = .error .notJson := by
  rw [readValue, hskip]
  simp only [inward, bind, Except.bind, h]

theorem readValue_object_of_error (h : readFields fuel room [] ('"' :: body) = .error .notJson) :
    readValue (fuel + 1) (room + 1) ('\x7b' :: '"' :: body) = .error .notJson := by
  rw [readValue, if_pos rfl, skipSpace_cons rfl]
  · simp only [inward, bind, Except.bind, h]
    rfl
  · decide
  · decide

theorem readItems_of_error (h : readValue fuel room text = .error .notJson) :
    readItems (fuel + 1) room text = .error .notJson := by
  rw [readItems, h]
  rfl

theorem readItems_of_tight (h : readValue fuel room text = .ok (item, rest))
    (htight : ∀ c ∈ rest, IsTight c) : readItems (fuel + 1) room text = .error .notJson := by
  rw [readItems, h]
  simp only [bind, Except.bind, skipSpace_of_tight htight]
  split
  · exact absurd (htight ',' List.mem_cons_self) (by decide)
  · exact absurd (htight ']' List.mem_cons_self) (by decide)
  · rfl

theorem readItems_comma (h : readValue fuel room text = .ok (item, ',' :: more))
    (hmore : readItems fuel room (skipSpace more) = .error .notJson) :
    readItems (fuel + 1) room text = .error .notJson := by
  rw [readItems, h]
  simp only [bind, Except.bind, skipSpace_cons (c := ',') rfl, hmore]

variable {units : List Nat} {before : Fields}

theorem readFields_nil : readFields fuel room before [] = .error .notJson := by
  cases fuel <;> rfl

theorem readFields_of_open (h : stringBody body = none) :
    readFields (fuel + 1) room before ('"' :: body) = .error .notJson := by
  rw [readFields, h]
  rfl

theorem readFields_of_name (hname : stringBody body = some (units, [])) :
    readFields (fuel + 1) room before ('"' :: body) = .error .notJson := by
  rw [readFields, hname]
  rfl

theorem readFields_of_error (hname : stringBody body = some (units, ':' :: more))
    (h : readValue fuel room (skipSpace more) = .error .notJson) :
    readFields (fuel + 1) room before ('"' :: body) = .error .notJson := by
  rw [readFields, hname]
  simp only [orNotJson, bind, Except.bind, skipSpace_cons (c := ':') rfl, h]

theorem readFields_of_tight (hname : stringBody body = some (units, ':' :: more))
    (h : readValue fuel room (skipSpace more) = .ok (value, rest))
    (htight : ∀ c ∈ rest, IsTight c) :
    readFields (fuel + 1) room before ('"' :: body) = .error .notJson := by
  rw [readFields, hname]
  simp only [orNotJson, bind, Except.bind, skipSpace_cons (c := ':') rfl, h,
    skipSpace_of_tight htight]
  cases rest with
  | nil => rfl
  | cons c rest =>
      have hc := htight c List.mem_cons_self
      have hcomma : c ≠ ',' := hc.2.1
      have hbrace : c ≠ '\x7d' := by
        rintro rfl
        exact absurd hc (by decide)
      simp only [hcomma, hbrace, ↓reduceIte]

theorem readFields_comma {after : List Char}
    (hname : stringBody body = some (units, ':' :: more))
    (h : readValue fuel room (skipSpace more) = .ok (value, ',' :: after))
    (hmore : readFields fuel room (insert before (CodeText.ofUnits units) value)
      (skipSpace after) = .error .notJson) :
    readFields (fuel + 1) room before ('"' :: body) = .error .notJson := by
  rw [readFields, hname]
  simp only [orNotJson, bind, Except.bind, skipSpace_cons (c := ':') rfl, h,
    skipSpace_cons (c := ',') rfl, ↓reduceIte, hmore]

end Steps

/-! ## Values -/

def IsNumber : Json → Prop
  | int _ | float _ => True
  | _ => False

/-- What comes of a value that lost its end: no JSON, or a number after which nothing is left that
could go on. -/
inductive IsBroken (value : Json) (result : Except Unreadable (Json × List Char)) : Prop
  | notJson (h : result = .error .notJson)
  | number {found : Json} {rest : List Char} (isNumber : IsNumber value)
      (h : result = .ok (found, rest)) (tight : ∀ c ∈ rest, IsTight c)

theorem readValue_of_isCut_number {value found : Json} (hnumber : IsNumber value)
    (hread : number text = .ok (found, [])) (hdigits : leadingDigits text ≤ longestInteger)
    (h : IsCut part text) (fuel room : Nat) : IsBroken value (readValue fuel room part) := by
  obtain ⟨front, hfront, htight⟩ := tightUpTo_number hread
  rw [List.append_nil] at hfront
  obtain ⟨first, others, rfl, hstart⟩ := number_cons hread
  rcases h.cons with rfl | ⟨more, rfl, -⟩
  · exact .notJson readValue_nil
  · cases fuel with
    | zero => exact .notJson rfl
    | succ fuel =>
        rw [readValue_of_startsNumber hstart]
        cases hpart : number (first :: more) with
        | error reason =>
            rcases number_error hpart with rfl | hlong
            · exact .notJson rfl
            · obtain ⟨missing, -, hwhole⟩ := h
              have hless := leadingDigits_append (first :: more) missing
              rw [← hwhole] at hless
              omega
        | ok result =>
            obtain ⟨read, rest⟩ := result
            obtain ⟨taken, htaken, -⟩ := tightUpTo_number hpart
            refine .number hnumber rfl fun c hc => htight c ?_
            obtain ⟨missing, -, hwhole⟩ := h
            rw [← hfront, hwhole, htaken, List.append_assoc]
            exact List.mem_append_right _ (List.mem_append_left _ hc)

/-- A word that lost its end is no word. -/
theorem readValue_of_isCut_word {word : List Char}
    (hword : word = "null".toList ∨ word = "true".toList ∨ word = "false".toList)
    (h : IsCut part word) (fuel room : Nat) : readValue fuel room part = .error .notJson := by
  obtain ⟨missing, hmissing, heq⟩ := h
  have hpart : part = word.take part.length := by rw [heq, List.take_left]
  have hshort : part.length < word.length := by
    rw [heq, List.length_append]
    have hpos := List.length_pos_iff.2 hmissing
    omega
  cases fuel with
  | zero => rfl
  | succ fuel =>
      generalize part.length = size at hpart hshort
      subst hpart
      rcases hword with rfl | rfl | rfl
      · have hsize : size < 4 := hshort
        interval_cases size <;> rfl
      · have hsize : size < 4 := hshort
        interval_cases size <;> rfl
      · have hsize : size < 5 := hshort
        interval_cases size <;> rfl

theorem readItems_inside {fuel room : Nat} {item : Json}
    (h : IsBroken item (readValue fuel room part)) :
    readItems (fuel + 1) room part = .error .notJson := by
  cases h with
  | notJson hread => exact readItems_of_error hread
  | number _ hread htight => exact readItems_of_tight hread htight

theorem readFields_inside {fuel room : Nat} {value : Json} {before : Fields} {body more : List Char}
    {units : List Nat} (hname : stringBody body = some (units, ':' :: more))
    (h : IsBroken value (readValue fuel room (skipSpace more))) :
    readFields (fuel + 1) room before ('"' :: body) = .error .notJson := by
  cases h with
  | notJson hread => exact readFields_of_error hname hread
  | number _ hread htight => exact readFields_of_tight hname hread htight

/-! ## Arrays and objects -/

/-- What comes after the first item of an array. -/
def itemsAfter : List Json → List Char
  | [] => [']']
  | item :: items => ',' :: ' ' :: (printItems (item :: items) ++ [']'])

/-- What comes after the first field of an object. -/
def fieldsAfter : Fields → List Char
  | [] => ['\x7d']
  | field :: fields => ',' :: ' ' :: (printFields (field :: fields) ++ ['\x7d'])

theorem printItems_after (item : Json) (items : List Json) :
    printItems (item :: items) ++ [']'] = print item ++ itemsAfter items := by
  cases items with
  | nil => rfl
  | cons next items => exact printItems_more item next items [']']

theorem printFields_after (name : CodeText) (value : Json) (fields : Fields) :
    printFields ((name, value) :: fields) ++ ['\x7d'] =
      printString name ++ ':' :: ' ' :: (print value ++ fieldsAfter fields) := by
  cases fields with
  | nil => exact printFields_last name value ['\x7d']
  | cons next fields => exact printFields_more name value next fields ['\x7d']

/-- The items of a list are no items where they lost their end. -/
def ItemsBreak (items : List Json) : Prop :=
  ∀ (fuel room : Nat) (part : List Char), items ≠ [] → (∀ item ∈ items, Fits room item) →
    IsCut part (printItems items ++ [']']) → readItems fuel room part = .error .notJson

/-- Fields are no fields where they lost their end. -/
def FieldsBreak (fields : Fields) : Prop :=
  ∀ (fuel room : Nat) (before : Fields) (part : List Char), fields ≠ [] →
    (∀ field ∈ fields, Fits room field.2) → IsCut part (printFields fields ++ ['\x7d']) →
    readFields fuel room before part = .error .notJson

theorem readValue_of_isCut_array {items : List Json} {fuel room : Nat}
    (hfits : Fits room (array items)) (hcut : IsCut part (print (array items)))
    (hitems : ItemsBreak items) : readValue fuel room part = .error .notJson := by
  have hprint := print_array_append items []
  rw [List.append_nil] at hprint
  rw [hprint] at hcut
  rcases hcut.cons with rfl | ⟨more, rfl, hmore⟩
  · exact readValue_nil
  · cases fuel with
    | zero => rfl
    | succ fuel =>
        cases room with
        | zero => exact absurd hfits (not_fits_zero_array items)
        | succ room =>
            cases items with
            | nil =>
                rcases hmore.cons with rfl | ⟨rest, rfl, hrest⟩
                · exact readValue_array_of_error rfl (fun _ heq => List.cons_ne_nil _ _ heq.symm)
                    readItems_nil
                · exact absurd hrest not_isCut_of_nil
            | cons item items =>
                obtain ⟨c, tail, heq, hspace, hend⟩ := printItems_cons item items [']']
                have hread := hitems fuel room more (List.cons_ne_nil _ _) (fits_array.1 hfits)
                  hmore
                rw [heq] at hmore
                refine readValue_array_of_error (skipSpace_of_isCut hspace hmore) ?_ hread
                rintro rest rfl
                obtain ⟨missing, -, hwhole⟩ := hmore
                exact hend (List.cons.inj hwhole).1

theorem readValue_of_isCut_object {fields : Fields} {fuel room : Nat}
    (hfits : Fits room (object fields)) (hcut : IsCut part (print (object fields)))
    (hfields : FieldsBreak fields) : readValue fuel room part = .error .notJson := by
  have hprint := print_object_append fields []
  rw [List.append_nil] at hprint
  rw [hprint] at hcut
  rcases hcut.cons with rfl | ⟨more, rfl, hmore⟩
  · exact readValue_nil
  · cases fuel with
    | zero => rfl
    | succ fuel =>
        cases room with
        | zero => exact absurd hfits (not_fits_zero_object fields)
        | succ room =>
            cases fields with
            | nil =>
                rcases hmore.cons with rfl | ⟨rest, rfl, hrest⟩
                · rfl
                · exact absurd hrest not_isCut_of_nil
            | cons field fields =>
                have hread := hfields fuel room [] more (List.cons_ne_nil _ _)
                  (fits_object.1 hfits) hmore
                obtain ⟨tail, heq⟩ := printFields_cons field fields ['\x7d']
                rw [heq] at hmore
                rcases hmore.cons with rfl | ⟨body, rfl, -⟩
                · rfl
                · exact readValue_object_of_error hread

section Past

variable {fuel room : Nat} {left : List Char}

theorem endsNumber_of_isCut {tail : List Char}
    (hc : isDigit c = false ∧ c ≠ '.' ∧ c ≠ 'e' ∧ c ≠ 'E') (h : IsCut left (c :: tail)) :
    EndsNumber left := by
  rcases h.cons with rfl | ⟨more, rfl, -⟩
  · exact endsNumber_nil
  · exact endsNumber_cons hc more

/-- Items that end after the first one: directly, after the comma or within a later one. -/
theorem readItems_past {item : Json} {items : List Json} (hitem : Fits room item)
    (hothers : ∀ other ∈ items, Fits room other) (hcut : IsCut left (itemsAfter items))
    (hitems : ItemsBreak items) :
    readItems (fuel + 1) room (print item ++ left) = .error .notJson := by
  have hends : EndsNumber left := by
    cases items <;> exact endsNumber_of_isCut (by decide) hcut
  rcases readValue_print_isWithin hitem hends fuel with hread | hread
  · exact readItems_of_error hread
  · cases items with
    | nil =>
        rcases hcut.cons with rfl | ⟨more, -, hmore⟩
        · exact readItems_of_tight hread (List.forall_mem_nil _)
        · exact absurd hmore not_isCut_of_nil
    | cons next items =>
        obtain ⟨c, tail, heq, hspace, -⟩ := printItems_cons next items [']']
        rw [itemsAfter, heq] at hcut
        rcases hcut.separator hspace with rfl | ⟨more, rfl, hmore⟩
        · exact readItems_of_tight hread (List.forall_mem_nil _)
        · rw [← heq] at hmore
          exact readItems_comma hread
            (hitems fuel room (skipSpace more) (List.cons_ne_nil _ _) hothers hmore)

/-- Fields that end after the value of the first one: directly, after the comma or within a later
field. -/
theorem readFields_past {value : Json} {fields before : Fields} {body more : List Char}
    {units : List Nat} (hname : stringBody body = some (units, ':' :: more))
    (hmore : skipSpace more = print value ++ left) (hvalue : Fits room value)
    (hothers : ∀ field ∈ fields, Fits room field.2) (hcut : IsCut left (fieldsAfter fields))
    (hfields : FieldsBreak fields) :
    readFields (fuel + 1) room before ('"' :: body) = .error .notJson := by
  have hends : EndsNumber left := by
    cases fields <;> exact endsNumber_of_isCut (by decide) hcut
  rcases readValue_print_isWithin hvalue hends fuel with hread | hread
  · rw [← hmore] at hread
    exact readFields_of_error hname hread
  · rw [← hmore] at hread
    cases fields with
    | nil =>
        rcases hcut.cons with rfl | ⟨rest, -, hrest⟩
        · exact readFields_of_tight hname hread (List.forall_mem_nil _)
        · exact absurd hrest not_isCut_of_nil
    | cons next fields =>
        obtain ⟨tail, heq⟩ := printFields_cons next fields ['\x7d']
        rw [fieldsAfter, heq] at hcut
        rcases hcut.separator rfl with rfl | ⟨rest, rfl, hrest⟩
        · exact readFields_of_tight hname hread (List.forall_mem_nil _)
        · rw [← heq] at hrest
          exact readFields_comma hname hread
            (hfields fuel room _ (skipSpace rest) (List.cons_ne_nil _ _) hothers hrest)

end Past

/-! ## Values that lost their end -/

theorem readValue_of_isCut_string {text : CodeText} (hcut : IsCut part (print (string text)))
    (fuel room : Nat) : readValue fuel room part = .error .notJson := by
  cases fuel with
  | zero => rfl
  | succ fuel =>
      rcases stringBody_of_isCut hcut with rfl | ⟨body, rfl, hbody⟩
      · rfl
      · rw [readValue, hbody]
        rfl

mutual

/-- A value that lost its end is no JSON, unless it is a number. -/
theorem readValue_of_isCut : ∀ (value : Json) (fuel room : Nat) (part : List Char),
    Fits room value → IsCut part (print value) → IsBroken value (readValue fuel room part) := by
  intro value fuel room part hfits hcut
  match value with
  | null => exact .notJson (readValue_of_isCut_word (.inl rfl) hcut fuel room)
  | bool true => exact .notJson (readValue_of_isCut_word (.inr (.inl rfl)) hcut fuel room)
  | bool false => exact .notJson (readValue_of_isCut_word (.inr (.inr rfl)) hcut fuel room)
  | int n =>
      have hnumber : IsNumber (int n) := trivial
      have hshort := fits_int.1 hfits
      have hread := number_intChars hshort endsNumber_nil
      rw [List.append_nil] at hread
      exact readValue_of_isCut_number hnumber hread
        ((leadingDigits_intChars n).trans hshort) hcut fuel room
  | float x =>
      have hnumber : IsNumber (float x) := trivial
      have hread := number_recordChars x endsNumber_nil
      rw [List.append_nil] at hread
      exact readValue_of_isCut_number hnumber hread (leadingDigits_recordChars x) hcut fuel room
  | string text => exact .notJson (readValue_of_isCut_string hcut fuel room)
  | array items =>
      exact .notJson (readValue_of_isCut_array hfits hcut (readItems_of_isCut items))
  | object fields =>
      exact .notJson (readValue_of_isCut_object hfits hcut (readFields_of_isCut fields))

/-- The items of an array that lost its end are no items. -/
theorem readItems_of_isCut : ∀ items : List Json, ItemsBreak items := by
  intro items fuel room part hne hfits hcut
  cases fuel with
  | zero => rfl
  | succ fuel =>
      match items with
      | [] => exact absurd rfl hne
      | item :: items =>
          rw [List.forall_mem_cons] at hfits
          obtain ⟨hitem, hothers⟩ := hfits
          rw [printItems_after] at hcut
          rcases hcut.append with hinside | ⟨left, rfl, hleft⟩
          · exact readItems_inside (readValue_of_isCut item fuel room part hitem hinside)
          · exact readItems_past hitem hothers hleft (readItems_of_isCut items)

/-- The fields of an object that lost its end are no fields. -/
theorem readFields_of_isCut : ∀ fields : Fields, FieldsBreak fields := by
  intro fields fuel room before part hne hfits hcut
  cases fuel with
  | zero => rfl
  | succ fuel =>
      match fields with
      | [] => exact absurd rfl hne
      | (name, value) :: fields =>
          rw [List.forall_mem_cons] at hfits
          obtain ⟨hvalue, hothers⟩ := hfits
          rw [printFields_after] at hcut
          rcases hcut.append with hinside | ⟨more, rfl, hmore⟩
          · rcases stringBody_of_isCut hinside with rfl | ⟨body, rfl, hbody⟩
            · exact readFields_nil
            · exact readFields_of_open hbody
          · obtain ⟨body, units, heq, hname, -⟩ := printString_append name more
            obtain ⟨c, tail, hprint, hspace, -⟩ := print_cons value
            rw [hprint, List.cons_append] at hmore
            rw [heq]
            rcases hmore.separator hspace with rfl | ⟨rest, rfl, hrest⟩
            · exact readFields_of_name hname
            · rw [← List.cons_append, ← hprint] at hrest
              rcases hrest.append with hinside | ⟨left, hsplit, hleft⟩
              · exact readFields_inside hname
                  (readValue_of_isCut value fuel room (skipSpace rest) hvalue hinside)
              · exact readFields_past hname hsplit hvalue hothers hleft
                  (readFields_of_isCut fields)

end

/-- The text of a value that is written and is no number is no JSON once it has lost its end. -/
theorem parse_of_isCut [Nesting] {value : Json} (hfits : Fits deepest value)
    (hnumber : ¬ IsNumber value) (h : IsCut part (print value)) : parse part = .error .notJson := by
  obtain ⟨c, tail, heq, hspace, -⟩ := print_cons value
  have hskip : skipSpace part = part := skipSpace_of_isCut hspace (heq ▸ h)
  unfold parse parseWithin
  rw [hskip]
  cases readValue_of_isCut value (part.length + 1) deepest part hfits h with
  | notJson hread =>
      rw [hread]
      rfl
  | number hisNumber => exact absurd hisNumber hnumber

end Rulebound.Json
