import Rulebound.Number.Reading
import Rulebound.Proofs.Json.Number

/-!
# Numbers that people type

A row of digits with an exponent is read as the decimal that it is. So every finite number, of
either sign, is read from some text: from the digits of its shortest decimal.
-/

namespace Rulebound

namespace NumberText

/-! ## Plain texts -/

/-- A character that is taken as it is: it is ASCII, no blank and no low line. -/
def IsPlain (c : Char) : Prop :=
  c.toNat < 128 ∧ c ≠ '_' ∧ isPadding c = false

instance (c : Char) : Decidable (IsPlain c) :=
  inferInstanceAs (Decidable (_ ∧ _))

variable {text : List Char}

theorem dropWhile_padding (h : ∀ c ∈ text, isPadding c = false) :
    text.dropWhile isPadding = text := by
  cases text with
  | nil => rfl
  | cons c rest => exact List.dropWhile_cons_of_neg (by simp [h c List.mem_cons_self])

theorem dropLowLines?_of_ne (afterDigit : Bool) (h : ∀ c ∈ text, c ≠ '_') :
    dropLowLines? afterDigit text = some text := by
  induction text generalizing afterDigit with
  | nil => rfl
  | cons c rest ih =>
      obtain ⟨hfirst, hrest⟩ := List.forall_mem_cons.1 h
      rw [dropLowLines?, if_neg hfirst, ih _ hrest, Option.map_some]

theorem generous?_of_plain (h : ∀ c ∈ text, IsPlain c) :
    generous? (String.ofList text) = some text := by
  have hunpad : unpad text = text := by
    have hback : ∀ c ∈ text.reverse, isPadding c = false := fun c hc =>
      (h c (List.mem_reverse.1 hc)).2.2
    rw [unpad, dropWhile_padding fun c hc => (h c hc).2.2, dropWhile_padding hback,
      List.reverse_reverse]
  have hascii : asciiDigits text = text :=
    (List.map_congr_left fun c hc => if_pos (h c hc).1).trans (List.map_id' text)
  rw [generous?, String.toList_ofList, hunpad, hascii]
  exact dropLowLines?_of_ne false fun c hc => (h c hc).2.1

theorem isPlain_digitChars {digits : List ℕ} (h : AreDigits digits) :
    ∀ c ∈ digitChars digits, IsPlain c := by
  have hall : ∀ d < 10, IsPlain (digitChar d) := by decide
  intro c hc
  obtain ⟨d, hmem, rfl⟩ := List.mem_map.1 hc
  exact hall d (h d hmem)

/-! ## Digits with an exponent -/

theorem takeDigits_append {digits : List ℕ} (hdigits : AreDigits digits) {rest : List Char}
    (hrest : Json.EndsDigits rest) : takeDigits (digitChars digits ++ rest) = (digits, rest) :=
  Json.takeDigits_append hdigits hrest

theorem takeExponent_exponentChars (e : ℤ) :
    takeExponent (NumberLayout.exponentChars e) = some (e, []) := by
  obtain ⟨digits, hne, hdigits, hvalue, hchars⟩ := Json.exponentDigits e.natAbs
  have htake : takeDigits (digitChars digits ++ []) = (digits, []) :=
    takeDigits_append hdigits nofun
  rw [List.append_nil] at htake
  unfold NumberLayout.exponentChars
  dsimp only
  rw [hchars]
  obtain ⟨digit, others, rfl⟩ := List.exists_cons_of_ne_nil hne
  by_cases hneg : e < 0
  · rw [if_pos hneg]
    simp only [takeExponent, takeSign, true_or, if_true, htake, hvalue]
    congr 2
    omega
  · rw [if_neg hneg]
    simp only [takeExponent, takeSign, true_or, if_true, htake, hvalue, Bool.false_eq_true,
      if_false]
    congr 2
    omega

theorem isPlain_exponentChars (e : ℤ) : ∀ c ∈ NumberLayout.exponentChars e, IsPlain c := by
  obtain ⟨digits, -, hdigits, -, hchars⟩ := Json.exponentDigits e.natAbs
  have hmark : IsPlain 'e' := by decide
  have hsign : IsPlain (if e < 0 then '-' else '+') := by split <;> decide
  unfold NumberLayout.exponentChars
  dsimp only
  rw [hchars, List.forall_mem_cons, List.forall_mem_cons]
  exact ⟨hmark, hsign, isPlain_digitChars hdigits⟩

theorem decimal?_scientific {digits : List ℕ} (hne : digits ≠ []) (hdigits : AreDigits digits)
    (e : ℤ) : decimal? (digitChars digits ++ NumberLayout.exponentChars e) =
      some ⟨digits, e + digits.length⟩ := by
  obtain ⟨tail, htail⟩ := Json.exponentChars_cons e
  have hends : Json.EndsDigits (NumberLayout.exponentChars e) := by
    rw [htail]
    exact Json.endsDigits_cons rfl tail
  have hpoint : ∀ rest, NumberLayout.exponentChars e = '.' :: rest → False := by
    intro rest heq
    rw [htail] at heq
    exact absurd (List.cons.inj heq).1 (by decide)
  have htake := takeDigits_append hdigits hends
  have hexponent := takeExponent_exponentChars e
  generalize NumberLayout.exponentChars e = rest at htake hpoint hexponent ⊢
  obtain ⟨digit, others, rfl⟩ := List.exists_cons_of_ne_nil hne
  unfold decimal?
  simp only [htake, hexponent, List.append_nil]

/-- What begins with a digit is the name of no number, so it is read as a decimal, whatever its
sign. -/
theorem number?_sign {d : ℕ} (hd : d < 10) (negative : Bool) (tail : List Char) :
    number? (NumberLayout.sign negative (digitChar d :: tail)) =
      (decimal? (digitChar d :: tail)).map (·.toBinary64 negative) := by
  have hdigit : ∀ d < 10, digitChar d ≠ '-' ∧ digitChar d ≠ '+' ∧ (digitChar d).toLower ≠ 'i' ∧
      (digitChar d).toLower ≠ 'n' := by decide
  obtain ⟨hminus, hplus, hi, hn⟩ := hdigit d hd
  have hsign : takeSign (NumberLayout.sign negative (digitChar d :: tail)) =
      (negative, digitChar d :: tail) := by
    cases negative with
    | true => rfl
    | false =>
        unfold NumberLayout.sign takeSign
        simp only [Bool.false_eq_true, if_false]
        split
        · rename_i heq
          exact absurd (List.cons.inj heq).1 hminus
        · rename_i heq
          exact absurd (List.cons.inj heq).1 hplus
        · rfl
  unfold number?
  simp only [hsign]
  rw [if_neg, if_neg]
  · intro hname
    exact hn (List.cons.inj hname).1
  · rintro (hname | hname)
    · exact hi (List.cons.inj hname).1
    · exact hi (List.cons.inj hname).1

theorem number?_scientific {digits : List ℕ} (hne : digits ≠ []) (hdigits : AreDigits digits)
    (e : ℤ) (negative : Bool) :
    number? (NumberLayout.sign negative (digitChars digits ++ NumberLayout.exponentChars e)) =
      some (Decimal.toBinary64 negative ⟨digits, e + digits.length⟩) := by
  have hread := decimal?_scientific hne hdigits e
  obtain ⟨digit, others, rfl⟩ := List.exists_cons_of_ne_nil hne
  have hcons : digitChars (digit :: others) ++ NumberLayout.exponentChars e =
      digitChar digit :: (digitChars others ++ NumberLayout.exponentChars e) := rfl
  rw [hcons] at hread ⊢
  rw [number?_sign (hdigits digit List.mem_cons_self), hread, Option.map_some]

end NumberText

namespace Binary64

/-- Digits with an exponent are read as the decimal that they are. -/
theorem read?_scientific {digits : List ℕ} (hne : digits ≠ []) (hdigits : AreDigits digits)
    (e : ℤ) (negative : Bool) :
    read? (String.ofList (NumberLayout.sign negative
        (digitChars digits ++ NumberLayout.exponentChars e))) =
      some (Decimal.toBinary64 negative ⟨digits, e + digits.length⟩) := by
  have hplain : ∀ c ∈ NumberLayout.sign negative
      (digitChars digits ++ NumberLayout.exponentChars e), NumberText.IsPlain c := by
    have hrest : ∀ c ∈ digitChars digits ++ NumberLayout.exponentChars e,
        NumberText.IsPlain c :=
      List.forall_mem_append.2
        ⟨NumberText.isPlain_digitChars hdigits, NumberText.isPlain_exponentChars e⟩
    cases negative with
    | true => exact List.forall_mem_cons.2 ⟨by decide, hrest⟩
    | false => exact hrest
  rw [read?, NumberText.generous?_of_plain hplain, Option.bind_some,
    NumberText.number?_scientific hne hdigits]

/-- Every finite number is read from some text. -/
theorem exists_read? {x : Binary64} (h : x.isFinite = true) : ∃ text, read? text = some x := by
  cases x with
  | nan => exact nomatch h
  | infinite negative => exact nomatch h
  | finite negative units hrep =>
      rcases Nat.eq_zero_or_pos units with rfl | hunits
      · refine ⟨_, (read?_scientific (List.cons_ne_nil 0 []) (areDigits_replicate_zero 1) 0
          negative).trans (congrArg some ?_)⟩
        exact toBinary64_of_zeros hrep 1 _ negative
      · obtain ⟨⟨digit, others, hlead, -⟩, hdigits, hreads⟩ := shortest_reads hunits hrep
        have hne : (shortest units).digits ≠ [] := by simp [hlead]
        refine ⟨_, (read?_scientific hne hdigits
          ((shortest units).point - (shortest units).digits.length) negative).trans
            (congrArg some ?_)⟩
        rw [Int.sub_add_cancel]
        exact toBinary64_of_reads hunits hrep hdigits hreads negative

end Binary64

end Rulebound
