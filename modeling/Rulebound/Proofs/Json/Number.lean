import Rulebound.Json.Printer
import Rulebound.Json.Reader
import Rulebound.Proofs.Number.Shortest

/-!
# Numbers in written values

A number that is written is read back, where something follows that can be no part of it: an
integer as the same integer, a double as the same double, whichever layout it is written in.
-/

namespace Rulebound.Json

def EndsNumber (rest : List Char) : Prop :=
  ∀ c ∈ rest.head?, isDigit c = false ∧ c ≠ '.' ∧ c ≠ 'e' ∧ c ≠ 'E'

theorem endsNumber_cons {c : Char} (h : isDigit c = false ∧ c ≠ '.' ∧ c ≠ 'e' ∧ c ≠ 'E')
    (rest : List Char) : EndsNumber (c :: rest) := by
  intro first hfirst
  rw [List.head?_cons, Option.mem_some_iff] at hfirst
  exact hfirst ▸ h

/-! ## Rows of digits -/

theorem isDigit_digitChar {d : ℕ} (h : d < 10) : isDigit (digitChar d) = true := by
  unfold isDigit
  rw [asciiDigit?_digitChar h]
  rfl

def EndsDigits (rest : List Char) : Prop :=
  ∀ c ∈ rest.head?, isDigit c = false

theorem endsDigits_cons {c : Char} (h : isDigit c = false) (rest : List Char) :
    EndsDigits (c :: rest) := by
  intro first hfirst
  rw [List.head?_cons, Option.mem_some_iff] at hfirst
  exact hfirst ▸ h

theorem EndsNumber.endsDigits {rest : List Char} (h : EndsNumber rest) : EndsDigits rest :=
  fun c hc => (h c hc).1

theorem takeDigits_append {digits : List ℕ} (hdigits : AreDigits digits) {rest : List Char}
    (hrest : EndsDigits rest) : takeDigits (digitChars digits ++ rest) = (digits, rest) := by
  have hall : ∀ c ∈ digitChars digits, isDigit c = true := by
    intro c hc
    obtain ⟨d, hmem, rfl⟩ := List.mem_map.1 hc
    exact isDigit_digitChar (hdigits d hmem)
  have htake : rest.takeWhile isDigit = [] := by
    cases rest with
    | nil => rfl
    | cons c rest => exact List.takeWhile_cons_of_neg (by simp [hrest c rfl])
  have hdrop : rest.dropWhile isDigit = rest := by
    cases rest with
    | nil => rfl
    | cons c rest => exact List.dropWhile_cons_of_neg (by simp [hrest c rfl])
  unfold takeDigits
  rw [List.takeWhile_append_of_pos hall, List.dropWhile_append_of_pos hall, htake, hdrop,
    List.append_nil, filterMap_digitChars hdigits]

/-- Digits as they stand before a point: a lone zero, or digits that do not begin with one. -/
def IsWhole (digits : List ℕ) : Prop :=
  digits = [0] ∨ ∃ digit rest, digits = digit :: rest ∧ digit ≠ 0

theorem wholePart?_append {digits : List ℕ} (hwhole : IsWhole digits) (hdigits : AreDigits digits)
    {rest : List Char} (hrest : EndsDigits rest) :
    wholePart? (digitChars digits ++ rest) = some (digits, rest) := by
  rcases hwhole with rfl | ⟨digit, others, rfl, hne⟩
  · rfl
  · have hlt : digit < 10 := hdigits digit List.mem_cons_self
    have hzero : digitChar digit ≠ '0' := by
      have hall : ∀ d, d < 10 → d ≠ 0 → digitChar d ≠ '0' := by decide
      exact hall digit hlt hne
    have htake := takeDigits_append hdigits hrest
    have hcons : digitChars (digit :: others) ++ rest =
        digitChar digit :: (digitChars others ++ rest) := rfl
    rw [hcons] at htake ⊢
    unfold wholePart?
    split
    · rename_i heq
      exact absurd heq (List.cons_ne_nil _ _)
    · rename_i heq
      exact absurd (List.cons.inj heq).1 hzero
    · rename_i c tail _ heq
      obtain ⟨rfl, rfl⟩ := List.cons.inj heq
      rw [if_pos (isDigit_digitChar hlt), htake]

/-! ## Fractions and exponents -/

theorem fractionPart_append {digits : List ℕ} (hne : digits ≠ []) (hdigits : AreDigits digits)
    {rest : List Char} (hrest : EndsDigits rest) :
    fractionPart ('.' :: (digitChars digits ++ rest)) = some (digits, rest) := by
  have htake := takeDigits_append hdigits hrest
  cases digits with
  | nil => exact absurd rfl hne
  | cons digit others => simp only [fractionPart, htake]

theorem fractionPart_eq_none {rest : List Char} (hrest : ∀ c ∈ rest.head?, c ≠ '.') :
    fractionPart rest = none := by
  cases rest with
  | nil => rfl
  | cons c rest =>
      have hpoint : c ≠ '.' := hrest c rfl
      unfold fractionPart
      split
      · rename_i heq
        exact absurd (List.cons.inj heq).1 hpoint
      · rfl

theorem exponentPart_eq_none {rest : List Char} (hrest : EndsNumber rest) :
    exponentPart rest = none := by
  cases rest with
  | nil => rfl
  | cons c rest =>
      obtain ⟨-, -, hlower, hupper⟩ := hrest c rfl
      have hmark : ¬ (c = 'e' ∨ c = 'E') := by simp [hlower, hupper]
      simp only [exponentPart, hmark, ↓reduceIte]

/-- The digits of an exponent: at least two. -/
theorem exponentDigits (n : ℕ) :
    ∃ digits, digits ≠ [] ∧ AreDigits digits ∧ ofDigits digits = n ∧
      (if (natChars n).length < 2 then '0' :: natChars n else natChars n) = digitChars digits := by
  by_cases hshort : (natChars n).length < 2
  · refine ⟨0 :: digitsOf n, List.cons_ne_nil _ _, ?_, ?_, ?_⟩
    · intro digit hmem
      rcases List.mem_cons.1 hmem with rfl | hmem
      · omega
      · exact areDigits_digitsOf n digit hmem
    · rw [ofDigits_cons, Nat.zero_mul, Nat.zero_add, ofDigits_digitsOf]
    · rw [if_pos hshort]
      rfl
  · refine ⟨digitsOf n, digitsOf_ne_nil n, areDigits_digitsOf n, ofDigits_digitsOf n, ?_⟩
    rw [if_neg hshort]
    rfl

theorem exponentPart_append (e : ℤ) {rest : List Char} (hrest : EndsNumber rest) :
    exponentPart (NumberLayout.exponentChars e ++ rest) = some (e, rest) := by
  obtain ⟨digits, hne, hdigits, hvalue, hchars⟩ := exponentDigits e.natAbs
  have htake := takeDigits_append hdigits hrest.endsDigits
  unfold NumberLayout.exponentChars
  dsimp only
  rw [hchars]
  by_cases hneg : e < 0
  · rw [if_pos hneg]
    simp only [List.cons_append, exponentPart, true_or, ↓reduceIte, htake]
    cases digits with
    | nil => exact absurd rfl hne
    | cons digit others =>
        simp only [hvalue]
        congr 2
        omega
  · rw [if_neg hneg]
    simp only [List.cons_append, exponentPart, true_or, ↓reduceIte, htake]
    cases digits with
    | nil => exact absurd rfl hne
    | cons digit others =>
        simp only [hvalue, Bool.false_eq_true, ↓reduceIte]
        congr 2
        omega

/-! ## Numbers without a sign -/

variable {rest : List Char} (negative : Bool)

theorem unsigned_integer {digits : List ℕ} (hwhole : IsWhole digits) (hdigits : AreDigits digits)
    (hshort : digits.length ≤ longestInteger) (hrest : EndsNumber rest) :
    unsigned negative (digitChars digits ++ rest) =
      .ok (int (if negative then -(ofDigits digits : ℤ) else ofDigits digits), rest) := by
  have hpart := wholePart?_append hwhole hdigits hrest.endsDigits
  have hfraction := fractionPart_eq_none fun c hc => (hrest c hc).2.1
  have hexponent := exponentPart_eq_none hrest
  unfold unsigned
  rw [hpart]
  simp only [orNotJson, bind, Except.bind, hfraction, hexponent, ofWhole, Nat.not_lt.2 hshort,
    ↓reduceIte, pure, Except.pure]

theorem unsigned_positional {whole fraction : List ℕ} (hwhole : IsWhole whole)
    (hdigits : AreDigits whole) (hne : fraction ≠ []) (hfraction : AreDigits fraction)
    (hrest : EndsNumber rest) :
    unsigned negative (digitChars whole ++ '.' :: (digitChars fraction ++ rest)) =
      .ok (float (Decimal.toBinary64 negative ⟨whole ++ fraction, whole.length⟩), rest) := by
  have hpoint : EndsDigits ('.' :: (digitChars fraction ++ rest)) := endsDigits_cons rfl _
  have hpart := wholePart?_append hwhole hdigits hpoint
  have hplaces := fractionPart_append hne hfraction hrest.endsDigits
  have hexponent := exponentPart_eq_none hrest
  unfold unsigned
  rw [hpart]
  simp only [orNotJson, bind, Except.bind, hplaces, hexponent, Option.getD_none, Int.zero_add,
    pure, Except.pure]

theorem exponentChars_cons (e : ℤ) :
    ∃ tail, NumberLayout.exponentChars e = 'e' :: tail := ⟨_, rfl⟩

theorem unsigned_scientific {digit : ℕ} {others : List ℕ} (hne : digit ≠ 0)
    (hdigits : AreDigits (digit :: others)) (e : ℤ) (hrest : EndsNumber rest) :
    unsigned negative (digitChars [digit] ++
        (if (digitChars others).isEmpty then [] else '.' :: digitChars others) ++
        NumberLayout.exponentChars e ++ rest) =
      .ok (float (Decimal.toBinary64 negative ⟨digit :: others, e + 1⟩), rest) := by
  have hlead : AreDigits [digit] := fun d hd => hdigits d (by simp_all)
  have hothers : AreDigits others := fun d hd => hdigits d (List.mem_cons_of_mem _ hd)
  have hwhole : IsWhole [digit] := .inr ⟨digit, [], rfl, hne⟩
  have hexponent := exponentPart_append e hrest
  obtain ⟨tail, htail⟩ := exponentChars_cons e
  have hmark : EndsDigits (NumberLayout.exponentChars e ++ rest) := by
    rw [htail]
    exact endsDigits_cons rfl _
  cases others with
  | nil =>
      have hpart := wholePart?_append hwhole hlead hmark
      have hfraction : fractionPart (NumberLayout.exponentChars e ++ rest) = none := by
        rw [htail]
        rfl
      have hempty : (digitChars []).isEmpty = true := rfl
      rw [if_pos hempty, List.append_nil, List.append_assoc]
      unfold unsigned
      rw [hpart]
      simp only [orNotJson, bind, Except.bind, hfraction, hexponent, pure, Except.pure,
        List.length_cons, List.length_nil, Nat.zero_add, Nat.cast_one]
  | cons second others =>
      have hpoint : EndsDigits ('.' :: (digitChars (second :: others) ++
          (NumberLayout.exponentChars e ++ rest))) := endsDigits_cons rfl _
      have hpart := wholePart?_append hwhole hlead hpoint
      have hfraction := fractionPart_append (List.cons_ne_nil second others) hothers hmark
      have hfull : ¬ (digitChars (second :: others)).isEmpty = true := by simp [digitChars]
      rw [if_neg hfull, List.append_assoc, List.append_assoc, List.cons_append]
      unfold unsigned
      rw [hpart]
      simp only [orNotJson, bind, Except.bind, hfraction, hexponent, pure, Except.pure,
        Option.getD_some, List.length_cons, List.length_nil, Nat.zero_add, Nat.cast_one,
        List.cons_append, List.nil_append]

/-! ## Layouts -/

/-- A decimal as a whole part and a fraction, with a point between them where it is written. -/
structure IsSplit (d : Decimal) (whole fraction : List ℕ) : Prop where
  isWhole : IsWhole whole
  whole_digits : AreDigits whole
  fraction_ne_nil : fraction ≠ []
  fraction_digits : AreDigits fraction
  value : (⟨whole ++ fraction, whole.length⟩ : Decimal).value = d.value
  text : NumberLayout.positional true d = digitChars whole ++ '.' :: digitChars fraction

section Positional

variable {d : Decimal} {digit : ℕ} {others : List ℕ} (hlead : d.digits = digit :: others)
  (hne : digit ≠ 0) (hdigits : AreDigits d.digits)

include hlead hne hdigits

theorem isSplit_inside {place : ℕ} (hplace : d.point = place + 1)
    (hinside : place + 1 < d.digits.length) :
    IsSplit d (d.digits.take (place + 1)) (d.digits.drop (place + 1)) := by
  have htoNat : d.point.toNat = place + 1 := by omega
  have hback : (-d.point).toNat = 0 := by omega
  have hfull : (d.digits.take (place + 1)).length = place + 1 := by
    rw [List.length_take]
    omega
  have hrest : d.digits.drop (place + 1) ≠ [] := by
    intro hnil
    have hlength := congrArg List.length hnil
    rw [List.length_drop, List.length_nil] at hlength
    omega
  refine ⟨.inr ?_, ?_, hrest, ?_, ?_, ?_⟩
  · exact ⟨digit, others.take place, by rw [hlead, List.take_succ_cons], hne⟩
  · exact fun d' hd' => hdigits d' (List.mem_of_mem_take hd')
  · exact fun d' hd' => hdigits d' (List.mem_of_mem_drop hd')
  · rw [List.take_append_drop, hfull]
    congr 2
    omega
  · have hfilled : (d.digits.take (place + 1)).isEmpty = false := by
      cases hcut : d.digits.take (place + 1) with
      | nil => simp [hcut] at hfull
      | cons => rfl
    have hopen : (d.digits.drop (place + 1)).isEmpty = false := by
      cases hcut : d.digits.drop (place + 1) with
      | nil => exact absurd hcut hrest
      | cons => rfl
    unfold NumberLayout.positional
    dsimp only
    rw [htoNat, hback, hfull, Nat.sub_self, List.replicate_zero, List.append_nil,
      List.nil_append, hfilled, hopen]
    rfl

theorem isSplit_beyond {place : ℕ} (hplace : d.point = place + 1)
    (hbeyond : d.digits.length ≤ place + 1) :
    IsSplit d (d.digits ++ List.replicate (place + 1 - d.digits.length) 0) [0] := by
  have htoNat : d.point.toNat = place + 1 := by omega
  have hall : d.digits.take (place + 1) = d.digits := List.take_of_length_le hbeyond
  have hnone : d.digits.drop (place + 1) = [] := List.drop_of_length_le hbeyond
  have hlength : (d.digits ++ List.replicate (place + 1 - d.digits.length) 0).length =
      place + 1 := by
    rw [List.length_append, List.length_replicate]
    omega
  refine ⟨.inr ?_, areDigits_append.2 ⟨hdigits, areDigits_replicate_zero _⟩,
    List.cons_ne_nil _ _, areDigits_replicate_zero 1, ?_, ?_⟩
  · exact ⟨digit, others ++ List.replicate (place + 1 - d.digits.length) 0,
      by rw [hlead, List.cons_append], hne⟩
  · have hvalue := Decimal.value_append_zeros d.digits d.point
      (place + 1 - d.digits.length + 1)
    have hpoint : d.point = ((place + 1 : ℕ) : ℤ) := by omega
    rw [hlength, List.append_assoc, ← List.replicate_succ', ← hpoint]
    exact hvalue
  · have hfilled : (d.digits ++ List.replicate (place + 1 - d.digits.length) 0).isEmpty =
        false := by
      rw [hlead]
      rfl
    unfold NumberLayout.positional
    dsimp only
    rw [htoNat, hall, hnone, hfilled]
    have hback : (-d.point).toNat = 0 := by omega
    rw [hback]
    rfl

omit hne in
theorem isSplit_small (hsmall : d.point ≤ 0) :
    IsSplit d [0] (List.replicate (-d.point).toNat 0 ++ d.digits) := by
  have htoNat : d.point.toNat = 0 := by omega
  refine ⟨.inl rfl, areDigits_replicate_zero 1, ?_,
    areDigits_append.2 ⟨areDigits_replicate_zero _, hdigits⟩, ?_, ?_⟩
  · simp [hlead]
  · have hvalue := Decimal.value_zeros_append (1 + (-d.point).toNat) d.digits d.point
    have hpoint : d.point + ((1 + (-d.point).toNat : ℕ) : ℤ) = (([0] : List ℕ).length : ℕ) := by
      simp only [List.length_cons, List.length_nil]
      omega
    rw [hpoint, Nat.add_comm, List.replicate_succ] at hvalue
    exact hvalue
  · simp [NumberLayout.positional, htoNat, hlead, digitChars]
    rfl

/-- A decimal that does not begin with a zero is written as a whole part and a fraction. -/
theorem exists_isSplit : ∃ whole fraction, IsSplit d whole fraction := by
  rcases Int.lt_or_le 0 d.point with hpositive | hsmall
  · obtain ⟨place, hplace⟩ : ∃ place : ℕ, d.point = place + 1 :=
      ⟨(d.point - 1).toNat, by omega⟩
    rcases Nat.lt_or_ge (place + 1) d.digits.length with hinside | hbeyond
    · exact ⟨_, _, isSplit_inside hlead hne hdigits hplace hinside⟩
    · exact ⟨_, _, isSplit_beyond hlead hne hdigits hplace hbeyond⟩
  · exact ⟨_, _, isSplit_small hlead hdigits hsmall⟩

end Positional

/-- A decimal that does not begin with a zero is read back as one of the same value. -/
theorem unsigned_ofDecimal {d : Decimal} {digit : ℕ} {others : List ℕ}
    (hlead : d.digits = digit :: others) (hne : digit ≠ 0) (hdigits : AreDigits d.digits)
    (hrest : EndsNumber rest) :
    ∃ found : Decimal, AreDigits found.digits ∧ found.value = d.value ∧
      unsigned negative (NumberLayout.record.ofDecimal d ++ rest) =
        .ok (float (found.toBinary64 negative), rest) := by
  unfold NumberLayout.ofDecimal
  split
  · obtain ⟨whole, fraction, hsplit⟩ := exists_isSplit hlead hne hdigits
    have hkeeps : NumberLayout.record.keepsPoint = true := rfl
    refine ⟨⟨whole ++ fraction, whole.length⟩,
      areDigits_append.2 ⟨hsplit.whole_digits, hsplit.fraction_digits⟩, hsplit.value, ?_⟩
    rw [hkeeps, hsplit.text, List.append_assoc, List.cons_append]
    exact unsigned_positional negative hsplit.isWhole hsplit.whole_digits hsplit.fraction_ne_nil
      hsplit.fraction_digits hrest
  · have hsame : d.point - 1 + 1 = d.point := by omega
    rw [hlead] at hdigits
    refine ⟨d, hlead ▸ hdigits, rfl, ?_⟩
    have hread := unsigned_scientific negative hne hdigits (d.point - 1) hrest
    rw [hsame] at hread
    unfold NumberLayout.scientific
    dsimp only
    rw [hlead, List.drop_one, List.tail_cons, List.take_one, List.head?_cons, Option.toList_some]
    rw [hread, ← hlead]

/-! ## Numbers with a sign -/

theorem afterWord?_of_ne {w c : Char} (h : w ≠ c) (word text : List Char) :
    afterWord? (w :: word) (c :: text) = none := by
  rw [afterWord?, if_neg h]

theorem head_of_unsigned {text : List Char} {found : Json × List Char}
    (h : unsigned negative text = .ok found) : ∃ c tail, text = c :: tail ∧ isDigit c = true := by
  unfold unsigned at h
  cases text with
  | nil => exact nomatch h
  | cons c tail =>
      refine ⟨c, tail, rfl, ?_⟩
      by_cases hzero : c = '0'
      · rw [hzero]
        rfl
      · by_contra hdigit
        have hnone : wholePart? (c :: tail) = none := by
          unfold wholePart?
          split
          · rfl
          · rename_i heq
            exact absurd (List.cons.inj heq).1 hzero
          · rename_i heq
            obtain ⟨rfl, rfl⟩ := List.cons.inj heq
            rw [if_neg hdigit]
        rw [hnone] at h
        exact nomatch h

theorem number_sign {text : List Char} {found : Json × List Char}
    (h : unsigned negative text = .ok found) :
    number (NumberLayout.sign negative text) = .ok found := by
  obtain ⟨c, tail, rfl, hdigit⟩ := head_of_unsigned negative h
  have hletter : ∀ letter, isDigit letter = false → letter ≠ c := by
    rintro letter hnot rfl
    exact absurd hdigit (by simp [hnot])
  have hinfinity : afterWord? "Infinity".toList (c :: tail) = none :=
    afterWord?_of_ne (hletter 'I' rfl) _ _
  cases negative with
  | true =>
      have hnan : afterWord? "NaN".toList ('-' :: c :: tail) = none :=
        afterWord?_of_ne (by decide) _ _
      unfold number NumberLayout.sign
      simp only [↓reduceIte, hnan, hinfinity, h]
  | false =>
      have hnan : afterWord? "NaN".toList (c :: tail) = none :=
        afterWord?_of_ne (hletter 'N' rfl) _ _
      have hminus : ∀ rest, c :: tail = '-' :: rest → False := fun rest heq =>
        hletter '-' rfl (List.cons.inj heq).1.symm
      unfold number NumberLayout.sign
      simp only [Bool.false_eq_true, ↓reduceIte, hnan, hinfinity, h]

/-- An integer of no more digits than are read is read back. -/
theorem number_intChars {n : ℤ} (hshort : (digitsOf n.natAbs).length ≤ longestInteger)
    (hrest : EndsNumber rest) : number (intChars n ++ rest) = .ok (int n, rest) := by
  have hwhole : IsWhole (digitsOf n.natAbs) := by
    rcases Nat.eq_zero_or_pos n.natAbs with hzero | hpos
    · rw [hzero]
      exact .inl rfl
    · exact .inr (digitsOf_eq_cons hpos)
  have hsign : intChars n ++ rest =
      NumberLayout.sign (decide (n < 0)) (natChars n.natAbs ++ rest) := by
    unfold intChars NumberLayout.sign
    by_cases hneg : n < 0
    · rw [if_pos hneg, if_pos (decide_eq_true hneg)]
      rfl
    · rw [if_neg hneg, if_neg (by simp [hneg])]
  have hread := unsigned_integer (decide (n < 0)) hwhole (areDigits_digitsOf n.natAbs) hshort hrest
  rw [ofDigits_digitsOf] at hread
  have hvalue : (if decide (n < 0) = true then -((n.natAbs : ℕ) : ℤ) else ((n.natAbs : ℕ) : ℤ)) =
      n := by
    by_cases hneg : n < 0
    · rw [if_pos (decide_eq_true hneg)]
      omega
    · rw [if_neg (by simp [hneg])]
      omega
  rw [hvalue] at hread
  rw [hsign]
  exact number_sign _ hread

theorem unsigned_zero (hrep : Binary64.Representable 0) (hrest : EndsNumber rest) :
    unsigned negative (NumberLayout.record.ofDecimal ⟨[0], 1⟩ ++ rest) =
      .ok (float (.finite negative 0 hrep), rest) := by
  have hzeros : AreDigits [0] := areDigits_replicate_zero 1
  have hread := unsigned_positional negative (.inl rfl) hzeros (List.cons_ne_nil _ _) hzeros hrest
  rw [← Binary64.toBinary64_of_zeros hrep 2 1 negative]
  exact hread

/-- A number in a record is read back. -/
theorem number_recordChars (x : Binary64) (hrest : EndsNumber rest) :
    number (x.recordChars ++ rest) = .ok (float x, rest) := by
  unfold Binary64.recordChars
  cases x with
  | nan => rfl
  | infinite negative => cases negative <;> rfl
  | finite negative units hrep =>
      have hsign :
          NumberLayout.record.write Binary64.shortest (.finite negative units hrep) ++ rest =
          NumberLayout.sign negative (NumberLayout.record.ofDecimal
            (if units = 0 then ⟨[0], 1⟩ else Binary64.shortest units) ++ rest) := by
        unfold NumberLayout.write NumberLayout.sign
        cases negative <;> rfl
      rw [hsign]
      rcases Nat.eq_zero_or_pos units with rfl | hunits
      · exact number_sign negative (unsigned_zero negative hrep hrest)
      · obtain ⟨⟨digit, others, hlead, hne⟩, hdigits, hreads⟩ :=
          Binary64.shortest_reads hunits hrep
        obtain ⟨found, hfound, hvalue, hread⟩ :=
          unsigned_ofDecimal negative hlead hne hdigits hrest
        rw [← hvalue] at hreads
        rw [Binary64.toBinary64_of_reads hunits hrep hfound hreads negative] at hread
        rw [if_neg hunits.ne']
        exact number_sign negative hread

/-! ## How numbers begin -/

def StartsNumber (c : Char) : Prop :=
  isDigit c = true ∨ c = '-' ∨ c = 'N' ∨ c = 'I'

instance (c : Char) : Decidable (StartsNumber c) :=
  inferInstanceAs (Decidable (_ ∨ _))

theorem StartsNumber.ne {c d : Char} (hc : StartsNumber c) (hd : ¬ StartsNumber d) : c ≠ d := by
  rintro rfl
  exact hd hc

theorem StartsNumber.isSpace {c : Char} (h : StartsNumber c) : isSpace c = false := by
  have hblank : c ≠ ' ' := h.ne (by decide)
  have htab : c ≠ '\t' := h.ne (by decide)
  have hfeed : c ≠ '\n' := h.ne (by decide)
  have hreturn : c ≠ '\r' := h.ne (by decide)
  simp [Json.isSpace, hblank, htab, hfeed, hreturn]

theorem intChars_cons (n : ℤ) : ∃ c tail, intChars n = c :: tail ∧ StartsNumber c := by
  unfold intChars
  split
  · exact ⟨'-', _, rfl, .inr (.inl rfl)⟩
  · obtain ⟨digit, others, hdigits⟩ := List.exists_cons_of_ne_nil (digitsOf_ne_nil n.natAbs)
    have hlt : digit < 10 := areDigits_digitsOf n.natAbs digit (hdigits ▸ List.mem_cons_self)
    unfold natChars
    rw [hdigits]
    exact ⟨digitChar digit, digitChars others, rfl, .inl (isDigit_digitChar hlt)⟩

theorem number_cons {text : List Char} {found : Json × List Char} (h : number text = .ok found) :
    ∃ c tail, text = c :: tail ∧ StartsNumber c := by
  cases text with
  | nil => exact nomatch h
  | cons c tail =>
      refine ⟨c, tail, rfl, ?_⟩
      by_contra hstart
      have hnan : afterWord? "NaN".toList (c :: tail) = none :=
        afterWord?_of_ne (fun heq => hstart (.inr (.inr (.inl heq.symm)))) _ _
      have hinfinity : afterWord? "Infinity".toList (c :: tail) = none :=
        afterWord?_of_ne (fun heq => hstart (.inr (.inr (.inr heq.symm)))) _ _
      have hminus : ∀ rest, c :: tail = '-' :: rest → False := fun rest heq =>
        hstart (.inr (.inl (List.cons.inj heq).1))
      unfold number at h
      simp only [hnan, hinfinity] at h
      obtain ⟨first, others, heq, hdigit⟩ := head_of_unsigned false h
      obtain ⟨rfl, -⟩ := List.cons.inj heq
      exact hstart (.inl hdigit)

end Rulebound.Json
