import Rulebound.Proofs.Files
import Rulebound.Proofs.Json.RoundTrip

/-!
# Texts that lack a beginning

What the reader takes for a value has its quotes and brackets matched. So the text of an object that
lost its beginning is no value: its last bracket closes nothing or stands within a string that was
never begun.
-/

namespace Rulebound.Json

/-! ## Scanning -/

/-- Where a scan of a text is: outside strings, within one, or within one after a backslash. -/
inductive Spot where
  | outside
  | inside
  | escaped
deriving DecidableEq, Repr

/-- How far a scan has got: how many brackets are open, and where it is. -/
structure Scan where
  depth : Nat
  spot : Spot
deriving DecidableEq, Repr

namespace Scan

/-- The scan of a text that is whole so far. -/
def even : Scan := ⟨0, .outside⟩

/-- One character further. Outside strings a backslash ends the scan, and so does a bracket that
closes nothing. -/
def step (scan : Scan) (c : Char) : Option Scan :=
  match scan.spot with
  | .outside =>
      if c = '"' then some ⟨scan.depth, .inside⟩
      else if c = '\\' then none
      else if c = '[' ∨ c = '\x7b' then some ⟨scan.depth + 1, .outside⟩
      else if c = ']' ∨ c = '\x7d' then
        if scan.depth = 0 then none else some ⟨scan.depth - 1, .outside⟩
      else some scan
  | .inside =>
      if c = '"' then some ⟨scan.depth, .outside⟩
      else if c = '\\' then some ⟨scan.depth, .escaped⟩
      else some scan
  | .escaped => some ⟨scan.depth, .inside⟩

def through (scan : Scan) (text : List Char) : Option Scan :=
  text.foldlM step scan

theorem through_append (scan : Scan) (first last : List Char) :
    scan.through (first ++ last) = (scan.through first).bind (·.through last) :=
  List.foldlM_append

theorem through_cons (scan : Scan) (c : Char) (text : List Char) :
    scan.through (c :: text) = (scan.step c).bind (·.through text) :=
  List.foldlM_cons

/-- More brackets that are open change nothing but their number. -/
theorem step_deeper {scan next : Scan} {c : Char} (h : scan.step c = some next) (more : Nat) :
    step ⟨scan.depth + more, scan.spot⟩ c = some ⟨next.depth + more, next.spot⟩ := by
  obtain ⟨depth, spot⟩ := scan
  cases spot <;> simp only [step] at h ⊢ <;> grind

theorem through_deeper {scan last : Scan} {text : List Char} (h : scan.through text = some last)
    (more : Nat) :
    through ⟨scan.depth + more, scan.spot⟩ text = some ⟨last.depth + more, last.spot⟩ := by
  induction text generalizing scan with
  | nil =>
      obtain rfl := Option.some.inj h
      rfl
  | cons c text ih =>
      rw [through_cons, Option.bind_eq_some_iff] at h
      obtain ⟨next, hnext, hrest⟩ := h
      rw [through_cons, step_deeper hnext more]
      exact ih hrest

/-- Outside strings, only a quote leads into one. -/
theorem spot_of_step {depth : Nat} {c : Char} {next : Scan} (hquote : c ≠ '"')
    (h : step ⟨depth, .outside⟩ c = some next) : next = ⟨next.depth, .outside⟩ := by
  simp only [step, hquote, if_false] at h
  grind

/-- Scans of one text of which one begins within a string and one outside never agree. -/
theorem through_opposite {text : List Char} {depth other : Nat} {first second : Scan}
    (hfirst : through ⟨depth, .inside⟩ text = some first)
    (hsecond : through ⟨other, .outside⟩ text = some second) :
    first.spot = .inside ∧ second.spot = .outside ∨
      first.spot = .outside ∧ second.spot = .inside := by
  induction text generalizing depth other first second with
  | nil =>
      obtain rfl := Option.some.inj hfirst
      obtain rfl := Option.some.inj hsecond
      exact .inl ⟨rfl, rfl⟩
  | cons c text ih =>
      rw [through_cons, Option.bind_eq_some_iff] at hfirst hsecond
      obtain ⟨one, hone, hfirst⟩ := hfirst
      obtain ⟨two, htwo, hsecond⟩ := hsecond
      by_cases hquote : c = '"'
      · subst hquote
        obtain rfl := Option.some.inj hone
        obtain rfl := Option.some.inj htwo
        rcases ih hsecond hfirst with ⟨hone, htwo⟩ | ⟨hone, htwo⟩
        · exact .inr ⟨htwo, hone⟩
        · exact .inl ⟨htwo, hone⟩
      · by_cases hslash : c = '\\'
        · subst hslash
          exact nomatch htwo
        · rw [spot_of_step hquote htwo] at hsecond
          simp only [step, hquote, hslash, if_false, Option.some.injEq] at hone
          subst hone
          exact ih hfirst hsecond

end Scan

/-- A text in which quotes and brackets are matched. -/
def IsNested (text : List Char) : Prop :=
  Scan.even.through text = some Scan.even

namespace IsNested

variable {first last text : List Char}

theorem nil : IsNested [] := rfl

theorem append (hfirst : IsNested first) (hlast : IsNested last) : IsNested (first ++ last) := by
  unfold IsNested at *
  rw [Scan.through_append, hfirst]
  exact hlast

/-- A nested text stays nested within brackets of which the second closes the first. -/
theorem within {opening closing : Char}
    (hopening : Scan.even.step opening = some ⟨1, .outside⟩)
    (hclosing : Scan.step ⟨1, .outside⟩ closing = some Scan.even) (h : IsNested text) :
    IsNested (opening :: (text ++ [closing])) := by
  have hdeeper : Scan.through ⟨1, .outside⟩ text = some ⟨1, .outside⟩ := Scan.through_deeper h 1
  unfold IsNested
  calc Scan.even.through (opening :: (text ++ [closing]))
      = Scan.through ⟨1, .outside⟩ (text ++ [closing]) := by
        rw [Scan.through_cons, hopening, Option.bind_some]
    _ = Scan.through ⟨1, .outside⟩ [closing] := by
        rw [Scan.through_append, hdeeper, Option.bind_some]
    _ = some Scan.even := by
        rw [Scan.through_cons, hclosing]
        rfl

end IsNested

def IsPlain (c : Char) : Prop :=
  c ∉ ['"', '\\', '[', ']', '\x7b', '\x7d']

instance (c : Char) : Decidable (IsPlain c) :=
  inferInstanceAs (Decidable (c ∉ _))

theorem isNested_of_plain {text : List Char} (h : ∀ c ∈ text, IsPlain c) : IsNested text := by
  induction text with
  | nil => exact .nil
  | cons c text ih =>
      have hplain := h c List.mem_cons_self
      have hstep : Scan.even.step c = some Scan.even := by
        simp only [IsPlain, List.mem_cons, List.not_mem_nil, or_false, not_or] at hplain
        simp [Scan.step, Scan.even, hplain]
      unfold IsNested
      rw [Scan.through_cons, hstep]
      exact ih fun d hd => h d (List.mem_cons_of_mem _ hd)

/-! ## What the reader takes -/

theorem skipSpace_split (text : List Char) :
    ∃ blanks, text = blanks ++ skipSpace text ∧ IsNested blanks := by
  refine ⟨text.takeWhile isSpace, (List.takeWhile_append_dropWhile ..).symm, ?_⟩
  refine isNested_of_plain fun c hc => ?_
  have hspace : isSpace c = true := List.mem_takeWhile_imp hc
  unfold isSpace at hspace
  unfold IsPlain
  grind

/-- A separator is taken with the blanks before and after it. -/
theorem separator_split {c : Char} {text more : List Char} (hc : IsPlain c)
    (h : skipSpace text = c :: more) :
    ∃ part, text = part ++ skipSpace more ∧ IsNested part := by
  obtain ⟨before, hbefore, hfront⟩ := skipSpace_split text
  obtain ⟨after, hafter, hback⟩ := skipSpace_split more
  have hmark : IsNested [c] := isNested_of_plain (by simpa using hc)
  refine ⟨before ++ [c] ++ after, ?_, (hfront.append hmark).append hback⟩
  calc text = before ++ c :: more := h ▸ hbefore
    _ = before ++ c :: (after ++ skipSpace more) := by rw [← hafter]
    _ = before ++ [c] ++ after ++ skipSpace more := by simp

theorem eq_of_afterWord? {word text rest : List Char} (h : afterWord? word text = some rest) :
    text = word ++ rest := by
  induction word generalizing text with
  | nil => exact Option.some.inj h
  | cons w word ih =>
      cases text with
      | nil => cases h
      | cons c text =>
          unfold afterWord? at h
          split at h
          · rename_i heq
            rw [ih h, heq]
            rfl
          · cases h

/-! ### Strings -/

/-- A text that a string can go on with: a scan that is inside a string stays there. -/
def StaysInside (text : List Char) : Prop :=
  ∀ depth, Scan.through ⟨depth, .inside⟩ text = some ⟨depth, .inside⟩

theorem StaysInside.cons {c : Char} {text : List Char} (hquote : c ≠ '"') (hslash : c ≠ '\\')
    (h : StaysInside text) : StaysInside (c :: text) := by
  intro depth
  have hstep : Scan.step ⟨depth, .inside⟩ c = some ⟨depth, .inside⟩ := by
    simp [Scan.step, hquote, hslash]
  rw [Scan.through_cons, hstep]
  exact h depth

theorem StaysInside.escape {text : List Char} (h : StaysInside text) (c : Char) :
    StaysInside ('\\' :: c :: text) :=
  fun depth => h depth

theorem ne_of_hexValue? {c : Char} {digit : Nat} (h : hexValue? c = some digit) :
    c ≠ '"' ∧ c ≠ '\\' := by
  constructor
  · rintro rfl
    cases h
  · rintro rfl
    cases h

/-- What is taken for the inside of a string ends at a quote, and no scan of it leaves it. -/
theorem stringBody_split {text rest : List Char} {units : List Nat}
    (h : stringBody text = some (units, rest)) :
    ∃ inner, text = inner ++ '"' :: rest ∧ StaysInside inner := by
  fun_induction stringBody text generalizing units rest with
  | case1 => cases h
  | case2 after =>
      obtain ⟨-, rfl⟩ := Prod.mk.inj (Option.some.inj h)
      exact ⟨[], rfl, fun _ => rfl⟩
  | case3 a b c d text ih =>
      simp only [bind, Option.bind_eq_some_iff] at h
      obtain ⟨unit, hunit, ⟨others, after⟩, hbody, heq⟩ := h
      obtain ⟨-, rfl⟩ := Prod.mk.inj (Option.some.inj heq)
      obtain ⟨inner, rfl, hinner⟩ := ih hbody
      simp only [unit?, bind, Option.bind_eq_some_iff] at hunit
      obtain ⟨_, ha, _, hb, _, hc, _, hd, -⟩ := hunit
      have hdigits : StaysInside (a :: b :: c :: d :: inner) :=
        .cons (ne_of_hexValue? ha).1 (ne_of_hexValue? ha).2 <|
        .cons (ne_of_hexValue? hb).1 (ne_of_hexValue? hb).2 <|
        .cons (ne_of_hexValue? hc).1 (ne_of_hexValue? hc).2 <|
        .cons (ne_of_hexValue? hd).1 (ne_of_hexValue? hd).2 hinner
      exact ⟨'\\' :: 'u' :: a :: b :: c :: d :: inner, rfl, hdigits.escape 'u'⟩
  | case4 c text _ ih =>
      simp only [bind, Option.bind_eq_some_iff] at h
      obtain ⟨unit, -, ⟨others, after⟩, hbody, heq⟩ := h
      obtain ⟨-, rfl⟩ := Prod.mk.inj (Option.some.inj heq)
      obtain ⟨inner, rfl, hinner⟩ := ih hbody
      exact ⟨'\\' :: c :: inner, rfl, hinner.escape c⟩
  | case5 => cases h
  | case6 c text hquote _ _ hplain ih =>
      simp only [bind, Option.bind_eq_some_iff] at h
      obtain ⟨⟨others, after⟩, hbody, heq⟩ := h
      obtain ⟨-, rfl⟩ := Prod.mk.inj (Option.some.inj heq)
      obtain ⟨inner, rfl, hinner⟩ := ih hbody
      exact ⟨c :: inner, rfl, hinner.cons hquote fun hslash => hplain (.inl hslash)⟩

theorem isNested_string {inner : List Char} (h : StaysInside inner) :
    IsNested ('"' :: (inner ++ ['"'])) := by
  unfold IsNested
  rw [Scan.through_cons]
  show Scan.through ⟨0, .inside⟩ (inner ++ ['"']) = _
  rw [Scan.through_append, h 0]
  rfl

/-! ### Numbers -/

/-- A plain character that separates no parts of a value. -/
def IsTight (c : Char) : Prop :=
  IsPlain c ∧ c ≠ ',' ∧ c ≠ ':' ∧ isSpace c = false

instance (c : Char) : Decidable (IsTight c) :=
  inferInstanceAs (Decidable (_ ∧ _))

/-- A text goes on with another one after characters that are all tight. -/
def TightUpTo (text rest : List Char) : Prop :=
  ∃ part, text = part ++ rest ∧ ∀ c ∈ part, IsTight c

namespace TightUpTo

variable {text rest last : List Char}

theorem refl (text : List Char) : TightUpTo text text :=
  ⟨[], rfl, fun _ h => nomatch h⟩

theorem trans (h : TightUpTo text rest) (hrest : TightUpTo rest last) : TightUpTo text last := by
  obtain ⟨part, rfl, hpart⟩ := h
  obtain ⟨more, rfl, hmore⟩ := hrest
  exact ⟨part ++ more, (List.append_assoc ..).symm, List.forall_mem_append.2 ⟨hpart, hmore⟩⟩

theorem cons {c : Char} (hc : IsTight c) (h : TightUpTo text rest) :
    TightUpTo (c :: text) rest := by
  obtain ⟨part, rfl, hpart⟩ := h
  exact ⟨c :: part, rfl, List.forall_mem_cons.2 ⟨hc, hpart⟩⟩

theorem word {word : List Char} (hword : ∀ c ∈ word, IsTight c)
    (h : afterWord? word text = some rest) : TightUpTo text rest :=
  ⟨word, eq_of_afterWord? h, hword⟩

end TightUpTo

theorem isTight_of_isDigit {c : Char} (h : isDigit c = true) : IsTight c := by
  have hne : ∀ d, isDigit d = false → c ≠ d := by
    rintro d hd rfl
    rw [h] at hd
    exact Bool.noConfusion hd
  refine ⟨?_, hne ',' rfl, hne ':' rfl, ?_⟩
  · simp only [IsPlain, List.mem_cons, List.not_mem_nil, or_false, not_or]
    exact ⟨hne _ rfl, hne _ rfl, hne _ rfl, hne _ rfl, hne _ rfl, hne _ rfl⟩
  · simp [isSpace, hne ' ' rfl, hne '\t' rfl, hne '\n' rfl, hne '\r' rfl]

theorem tightUpTo_takeDigits (text : List Char) : TightUpTo text (takeDigits text).2 :=
  ⟨text.takeWhile isDigit, (List.takeWhile_append_dropWhile ..).symm,
    fun _ hc => isTight_of_isDigit (List.mem_takeWhile_imp hc)⟩

theorem tightUpTo_wholePart {text rest : List Char} {digits : List Nat}
    (h : wholePart? text = some (digits, rest)) : TightUpTo text rest := by
  unfold wholePart? at h
  split at h
  · cases h
  · obtain ⟨-, rfl⟩ := Prod.mk.inj (Option.some.inj h)
    exact .cons (by decide) (.refl _)
  · split at h
    · obtain rfl : rest = _ := (congrArg Prod.snd (Option.some.inj h)).symm
      exact tightUpTo_takeDigits _
    · cases h

theorem tightUpTo_fractionPart {text rest : List Char} {digits : List Nat}
    (h : fractionPart text = some (digits, rest)) : TightUpTo text rest := by
  unfold fractionPart at h
  split at h
  · rename_i after
    have hdigits := tightUpTo_takeDigits after
    split at h
    · cases h
    · rw [Option.some.inj h] at hdigits
      exact .cons (by decide) hdigits
  · cases h

theorem tightUpTo_exponentPart {text rest : List Char} {exponent : Int}
    (h : exponentPart text = some (exponent, rest)) : TightUpTo text rest := by
  unfold exponentPart at h
  split at h
  · cases h
  · rename_i c tail
    split at h
    · rename_i hmark
      have hc : IsTight c := by
        rcases hmark with rfl | rfl
        all_goals decide
      split at h
      rename_i negative signed hsign
      have hdigits := tightUpTo_takeDigits signed
      have hafter : TightUpTo signed rest := by
        split at h
        · cases h
        · rename_i heq
          obtain ⟨-, rfl⟩ := Prod.mk.inj (Option.some.inj h)
          rw [heq] at hdigits
          exact hdigits
      refine .cons hc ?_
      split at hsign
      · obtain ⟨rfl, rfl⟩ := Prod.mk.inj hsign
        exact .cons (by decide) hafter
      · obtain ⟨rfl, rfl⟩ := Prod.mk.inj hsign
        exact .cons (by decide) hafter
      · obtain ⟨rfl, rfl⟩ := Prod.mk.inj hsign
        exact hafter
    · cases h

theorem tightUpTo_unsigned {negative : Bool} {text rest : List Char} {value : Json}
    (h : unsigned negative text = .ok (value, rest)) : TightUpTo text rest := by
  unfold unsigned at h
  cases hwhole : wholePart? text with
  | none =>
      rw [hwhole] at h
      cases h
  | some found =>
      obtain ⟨whole, after⟩ := found
      rw [hwhole] at h
      refine (tightUpTo_wholePart hwhole).trans ?_
      simp only [orNotJson, bind, Except.bind] at h
      split at h
      · split at h
        · cases h
        · obtain ⟨-, rfl⟩ := Prod.mk.inj (Except.ok.inj h)
          exact .refl _
      · rename_i exponent tail _ hexponent
        obtain ⟨-, rfl⟩ := Prod.mk.inj (Except.ok.inj h)
        exact tightUpTo_exponentPart hexponent
      · rename_i fraction tail hfraction
        obtain ⟨-, rfl⟩ := Prod.mk.inj (Except.ok.inj h)
        refine (tightUpTo_fractionPart hfraction).trans ?_
        cases hexponent : exponentPart tail with
        | none => exact .refl _
        | some found => exact tightUpTo_exponentPart hexponent

/-- What is taken for a number has no quote, no backslash, no bracket and no separator. -/
theorem tightUpTo_number {text rest : List Char} {value : Json}
    (h : number text = .ok (value, rest)) : TightUpTo text rest := by
  unfold number at h
  split at h
  · rename_i hnan
    obtain ⟨-, rfl⟩ := Prod.mk.inj (Except.ok.inj h)
    exact .word (by simp [IsTight, IsPlain, isSpace]) hnan
  · split at h
    rename_i negative tail hsign
    have htail : TightUpTo tail rest := by
      split at h
      · rename_i hinfinity
        obtain ⟨-, rfl⟩ := Prod.mk.inj (Except.ok.inj h)
        exact .word (by simp [IsTight, IsPlain, isSpace]) hinfinity
      · exact tightUpTo_unsigned h
    split at hsign
    · obtain ⟨rfl, rfl⟩ := Prod.mk.inj hsign
      exact .cons (by decide) htail
    · obtain ⟨rfl, rfl⟩ := Prod.mk.inj hsign
      exact htail

/-! ### Values -/

/-- With so much fuel, what is taken for a value is nested. -/
def ValuesNested (fuel : Nat) : Prop :=
  ∀ room text value rest, readValue fuel room text = .ok (value, rest) →
    ∃ part, text = part ++ rest ∧ IsNested part

/-- With so much fuel, what is taken for the items of an array is nested up to its end. -/
def ItemsNested (fuel : Nat) : Prop :=
  ∀ room text items rest, readItems fuel room text = .ok (items, rest) →
    ∃ part, text = part ++ ']' :: rest ∧ IsNested part

/-- With so much fuel, what is taken for the fields of an object is nested up to its end. -/
def FieldsNested (fuel : Nat) : Prop :=
  ∀ room before text fields rest, readFields fuel room before text = .ok (fields, rest) →
    ∃ part, text = part ++ '\x7d' :: rest ∧ IsNested part

section Steps

variable {fuel room : Nat} {text tail rest : List Char}

theorem stringBody_of_orNotJson {found : List Nat × List Char}
    (h : orNotJson (stringBody text) = .ok found) :
    ∃ inner, text = inner ++ '"' :: found.2 ∧ StaysInside inner := by
  cases hbody : stringBody text with
  | none =>
      rw [hbody] at h
      cases h
  | some body =>
      rw [hbody] at h
      obtain rfl := Except.ok.inj h
      exact stringBody_split hbody

/-- What is taken for an array is nested within its brackets. -/
theorem array_split (hitems : ItemsNested fuel) {value : Json}
    (h : readValue (fuel + 1) room ('[' :: tail) = .ok (value, rest)) :
    ∃ inner, tail = inner ++ ']' :: rest ∧ IsNested inner := by
  obtain ⟨blanks, hblanks, hnested⟩ := skipSpace_split tail
  rw [readValue, bind_eq_ok] at h
  obtain ⟨room, -, h⟩ := h
  split at h
  · rename_i after hskip
    obtain ⟨-, rfl⟩ := Prod.mk.inj (Except.ok.inj h)
    exact ⟨blanks, hskip ▸ hblanks, hnested⟩
  · rw [bind_eq_ok] at h
    obtain ⟨⟨items, after⟩, hread, h⟩ := h
    obtain ⟨-, rfl⟩ := Prod.mk.inj (Except.ok.inj h)
    obtain ⟨part, hpart, hinner⟩ := hitems _ _ _ _ hread
    refine ⟨blanks ++ part, ?_, hnested.append hinner⟩
    rw [List.append_assoc, ← hpart]
    exact hblanks

/-- What is taken for an object is nested within its braces. -/
theorem object_split (hfields : FieldsNested fuel) {value : Json}
    (h : readValue (fuel + 1) room ('\x7b' :: tail) = .ok (value, rest)) :
    ∃ inner, tail = inner ++ '\x7d' :: rest ∧ IsNested inner := by
  obtain ⟨blanks, hblanks, hnested⟩ := skipSpace_split tail
  rw [readValue, if_pos rfl, bind_eq_ok] at h
  case x_3 => decide
  case x_4 => decide
  obtain ⟨room, -, h⟩ := h
  split at h
  · cases h
  · rename_i c after hskip
    split at h
    · rename_i hend
      obtain ⟨-, rfl⟩ := Prod.mk.inj (Except.ok.inj h)
      exact ⟨blanks, hend ▸ hskip ▸ hblanks, hnested⟩
    · rw [bind_eq_ok] at h
      obtain ⟨⟨fields, last⟩, hread, h⟩ := h
      obtain ⟨-, rfl⟩ := Prod.mk.inj (Except.ok.inj h)
      obtain ⟨part, hpart, hinner⟩ := hfields _ _ _ _ _ hread
      refine ⟨blanks ++ part, ?_, hnested.append hinner⟩
      rw [List.append_assoc, ← hpart, ← hskip]
      exact hblanks

theorem valuesNested_succ (hitems : ItemsNested fuel) (hfields : FieldsNested fuel) :
    ValuesNested (fuel + 1) := by
  intro room text value rest h
  have hall := h
  unfold readValue at h
  split at h
  · cases h
  · rename_i body
    rw [bind_eq_ok] at h
    obtain ⟨⟨units, after⟩, hbody, h⟩ := h
    obtain ⟨-, rfl⟩ := Prod.mk.inj (Except.ok.inj h)
    obtain ⟨inner, rfl, hinner⟩ := stringBody_of_orNotJson hbody
    exact ⟨'"' :: (inner ++ ['"']), by simp, isNested_string hinner⟩
  · rename_i tail
    obtain ⟨inner, rfl, hinner⟩ := array_split hitems hall
    exact ⟨'[' :: (inner ++ [']']), by simp, hinner.within rfl rfl⟩
  · rename_i c tail _ _
    split at h
    · rename_i hbrace
      subst hbrace
      obtain ⟨inner, rfl, hinner⟩ := object_split hfields hall
      exact ⟨'\x7b' :: (inner ++ ['\x7d']), by simp, hinner.within rfl rfl⟩
    · have htight : TightUpTo (c :: tail) rest := by
        split at h
        · rename_i hword
          obtain ⟨-, rfl⟩ := Prod.mk.inj (Except.ok.inj h)
          exact .word (by simp [IsTight, IsPlain, isSpace]) hword
        · rename_i hword _
          obtain ⟨-, rfl⟩ := Prod.mk.inj (Except.ok.inj h)
          exact .word (by simp [IsTight, IsPlain, isSpace]) hword
        · rename_i hword _ _
          obtain ⟨-, rfl⟩ := Prod.mk.inj (Except.ok.inj h)
          exact .word (by simp [IsTight, IsPlain, isSpace]) hword
        · exact tightUpTo_number h
      obtain ⟨part, hpart, hchars⟩ := htight
      exact ⟨part, hpart, isNested_of_plain fun d hd => (hchars d hd).1⟩

theorem itemsNested_succ (hvalues : ValuesNested fuel) (hitems : ItemsNested fuel) :
    ItemsNested (fuel + 1) := by
  intro room text items rest h
  rw [readItems, bind_eq_ok] at h
  obtain ⟨⟨item, after⟩, hread, h⟩ := h
  obtain ⟨part, rfl, hpart⟩ := hvalues _ _ _ _ hread
  dsimp only at h
  split at h
  · rename_i more hskip
    rw [bind_eq_ok] at h
    obtain ⟨⟨others, last⟩, hothers, h⟩ := h
    obtain ⟨-, rfl⟩ := Prod.mk.inj (Except.ok.inj h)
    obtain ⟨comma, rfl, hcomma⟩ := separator_split (by decide) hskip
    obtain ⟨tail, htail, hinner⟩ := hitems _ _ _ _ hothers
    refine ⟨part ++ comma ++ tail, ?_, (hpart.append hcomma).append hinner⟩
    rw [htail]
    simp
  · rename_i more hskip
    obtain ⟨-, rfl⟩ := Prod.mk.inj (Except.ok.inj h)
    obtain ⟨blanks, hblanks, hnested⟩ := skipSpace_split after
    refine ⟨part ++ blanks, ?_, hpart.append hnested⟩
    rw [hskip] at hblanks
    rw [hblanks, List.append_assoc]
  · cases h

/-- A field is nested: its name, the colon after it and its value. -/
theorem field_split (hvalues : ValuesNested fuel) {body after left : List Char}
    {named : List Nat × List Char} {value : Json} (hbody : orNotJson (stringBody body) = .ok named)
    (hskip : skipSpace named.2 = ':' :: after)
    (hread : readValue fuel room (skipSpace after) = .ok (value, left)) :
    ∃ field, '"' :: body = field ++ left ∧ IsNested field := by
  obtain ⟨inner, rfl, hinner⟩ := stringBody_of_orNotJson hbody
  obtain ⟨colon, hnamed, hcolon⟩ := separator_split (by decide) hskip
  obtain ⟨part, hpart, hvalue⟩ := hvalues _ _ _ _ hread
  refine ⟨'"' :: (inner ++ ['"']) ++ colon ++ part, ?_,
    ((isNested_string hinner).append hcolon).append hvalue⟩
  rw [hnamed, hpart]
  simp

theorem fieldsNested_succ (hvalues : ValuesNested fuel) (hfields : FieldsNested fuel) :
    FieldsNested (fuel + 1) := by
  intro room before text fields rest h
  unfold readFields at h
  split at h
  · rw [bind_eq_ok] at h
    obtain ⟨named, hbody, h⟩ := h
    dsimp only at h
    split at h
    · rename_i after hskip
      rw [bind_eq_ok] at h
      obtain ⟨⟨value, left⟩, hread, h⟩ := h
      obtain ⟨field, hfield, hnested⟩ := field_split hvalues hbody hskip hread
      rw [hfield]
      dsimp only at h
      split at h
      · cases h
      · rename_i c more hmore
        split at h
        · rename_i hmark
          subst hmark
          obtain ⟨comma, rfl, hcomma⟩ := separator_split (by decide) hmore
          obtain ⟨tail, htail, hothers⟩ := hfields _ _ _ _ _ h
          refine ⟨field ++ comma ++ tail, ?_, (hnested.append hcomma).append hothers⟩
          rw [htail]
          simp
        · split at h
          · rename_i hend
            subst hend
            obtain ⟨-, rfl⟩ := Prod.mk.inj (Except.ok.inj h)
            obtain ⟨blanks, hblanks, hblank⟩ := skipSpace_split left
            refine ⟨field ++ blanks, ?_, hnested.append hblank⟩
            rw [hmore] at hblanks
            rw [hblanks, List.append_assoc]
          · cases h
    · cases h
  · cases h

end Steps

theorem read_nested (fuel : Nat) : ValuesNested fuel ∧ ItemsNested fuel ∧ FieldsNested fuel := by
  induction fuel with
  | zero => exact ⟨fun _ _ _ _ => nofun, fun _ _ _ _ => nofun, fun _ _ _ _ _ => nofun⟩
  | succ fuel ih =>
      obtain ⟨hvalues, hitems, hfields⟩ := ih
      exact ⟨valuesNested_succ hitems hfields, itemsNested_succ hvalues hitems,
        fieldsNested_succ hvalues hfields⟩

/-! ## Texts that are values -/

theorem isNested_of_parse [Nesting] {text : List Char} {value : Json} (h : parse text = .ok value) :
    IsNested text := by
  unfold parse parseWithin at h
  rw [bind_eq_ok] at h
  obtain ⟨⟨found, rest⟩, hread, h⟩ := h
  obtain ⟨before, hbefore, hfront⟩ := skipSpace_split text
  obtain ⟨part, hpart, hvalue⟩ := (read_nested _).1 _ _ _ _ hread
  obtain ⟨after, hafter, hback⟩ := skipSpace_split rest
  dsimp only at h
  split at h
  · rename_i hend
    rw [List.isEmpty_iff.1 hend, List.append_nil] at hafter
    rw [hbefore, hpart, hafter]
    exact hfront.append (hvalue.append hback)
  · cases h

theorem isNested_printFields {room : Nat} {fields : Fields} (h : Fits room (object fields)) :
    IsNested (printFields fields) := by
  have hread := readValue_print (object fields) ((print (object fields)).length + 1) room []
    h (Nat.le_succ _) endsNumber_nil
  rw [print_object_append] at hread
  obtain ⟨inner, heq, hinner⟩ := object_split (read_nested _).2.2 hread
  rw [List.append_cancel_right heq]
  exact hinner

/-! ## Cutting an object -/

section Cut

variable {inner first last : List Char} (hinner : IsNested inner)
  (hcut : '\x7b' :: (inner ++ ['\x7d']) = first ++ last)
  (hfirst : first ≠ []) (hlast : last ≠ [])

include hcut hfirst hlast

theorem cut_inner :
    ∃ before after, first = '\x7b' :: before ∧ last = after ++ ['\x7d'] ∧
      inner = before ++ after := by
  obtain ⟨c, before, rfl⟩ := List.exists_cons_of_ne_nil hfirst
  obtain ⟨after, d, rfl⟩ := (List.eq_nil_or_concat' last).resolve_left hlast
  obtain ⟨rfl, -⟩ := List.cons.inj hcut
  have hrest : inner ++ ['\x7d'] = before ++ (after ++ [d]) := (List.cons.inj hcut).2
  rw [← List.append_assoc] at hrest
  obtain ⟨hboth, hend⟩ := List.append_inj' hrest rfl
  obtain rfl := List.singleton_inj.1 hend
  exact ⟨before, after, rfl, rfl, hboth⟩

include hinner

/-- The text of an object without its beginning is no value. -/
theorem not_parse_last [Nesting] (value : Json) : parse (last ++ ['\n']) ≠ .ok value := by
  intro h
  obtain ⟨before, after, rfl, rfl, rfl⟩ := cut_inner hcut hfirst hlast
  have hwhole := isNested_of_parse h
  unfold IsNested at hinner hwhole
  rw [Scan.through_append, Option.bind_eq_some_iff] at hinner
  obtain ⟨⟨depth, spot⟩, -, htrue⟩ := hinner
  rw [List.append_assoc, Scan.through_append, Option.bind_eq_some_iff] at hwhole
  obtain ⟨⟨other, place⟩, hfalse, hclosed⟩ := hwhole
  -- Read on its own, the last part comes to its brace outside strings with one bracket open.
  obtain ⟨rfl, rfl⟩ : place = .outside ∧ other = 1 := by
    cases place with
    | outside =>
        cases other with
        | zero => exact nomatch hclosed
        | succ less => exact ⟨rfl, congrArg (·.depth + 1) (Option.some.inj hclosed)⟩
    | inside => exact nomatch hclosed
    | escaped => exact nomatch hclosed
  -- So it ends with more brackets open than it has been given, wherever it is read.
  have hagree : ∀ start tail, Scan.through ⟨0, start⟩ tail = some ⟨1, .outside⟩ →
      Scan.through ⟨depth, start⟩ tail ≠ some .even := by
    intro start tail hshallow hdeep
    have hdeeper := Scan.through_deeper hshallow depth
    dsimp only at hdeeper
    rw [Nat.zero_add, hdeep] at hdeeper
    have hdepth : 0 = 1 + depth := congrArg (·.depth) (Option.some.inj hdeeper)
    omega
  cases spot with
  | outside => exact hagree _ _ hfalse htrue
  | inside =>
      rcases Scan.through_opposite htrue hfalse with ⟨hone, -⟩ | ⟨-, htwo⟩
      · exact nomatch hone
      · exact nomatch htwo
  | escaped =>
      cases after with
      | nil => exact nomatch htrue
      | cons c tail =>
          rw [Scan.through_cons, Option.bind_eq_some_iff] at htrue hfalse
          obtain ⟨one, hone, htrue⟩ := htrue
          obtain ⟨two, htwo, hfalse⟩ := hfalse
          obtain rfl := Option.some.inj hone
          by_cases hquote : c = '"'
          · subst hquote
            obtain rfl := Option.some.inj htwo
            exact hagree _ _ hfalse htrue
          · rw [Scan.spot_of_step hquote htwo] at hfalse
            rcases Scan.through_opposite htrue hfalse with ⟨hinside, -⟩ | ⟨-, hinside⟩
            · exact nomatch hinside
            · exact nomatch hinside

end Cut

end Rulebound.Json
