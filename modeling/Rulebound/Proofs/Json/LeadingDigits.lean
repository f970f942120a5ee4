import Rulebound.Proofs.Json.Number

/-!
# How numbers begin

Reading a number ends in a fault, and not just in no JSON, only where the text begins with too many
digits for an integer. No number that is written does, so none of its parts does either.
-/

namespace Rulebound.Json

variable {text : List Char}

def unsignedPart (text : List Char) : List Char :=
  match text with
  | '-' :: rest => rest
  | text => text

theorem unsignedPart_of_ne (h : ∀ rest, text = '-' :: rest → False) :
    unsignedPart text = text := by
  unfold unsignedPart
  split
  · exact (h _ rfl).elim
  · rfl

def leadingDigits (text : List Char) : Nat :=
  ((unsignedPart text).takeWhile isDigit).length

theorem unsigned_error {negative : Bool} {reason : Unreadable}
    (h : unsigned negative text = .error reason) :
    reason = .notJson ∨ longestInteger < (text.takeWhile isDigit).length := by
  unfold unsigned at h
  cases hwhole : wholePart? text with
  | none =>
      rw [hwhole] at h
      exact .inl (Except.error.inj h).symm
  | some found =>
      obtain ⟨whole, after⟩ := found
      have hlength : whole.length ≤ (text.takeWhile isDigit).length := by
        unfold wholePart? at hwhole
        split at hwhole
        · cases hwhole
        · obtain ⟨rfl, -⟩ := Prod.mk.inj (Option.some.inj hwhole)
          rw [List.takeWhile_cons_of_pos rfl]
          exact Nat.succ_le_succ (Nat.zero_le _)
        · split at hwhole
          · obtain rfl : _ = whole := congrArg Prod.fst (Option.some.inj hwhole)
            exact List.length_filterMap_le _ _
          · cases hwhole
      rw [hwhole] at h
      simp only [orNotJson, bind, Except.bind] at h
      split at h
      · unfold ofWhole at h
        by_cases hlong : longestInteger < whole.length
        · exact .inr (Nat.lt_of_lt_of_le hlong hlength)
        · rw [if_neg hlong] at h
          cases h
      · cases h
      · cases h

theorem number_error {reason : Unreadable} (h : number text = .error reason) :
    reason = .notJson ∨ longestInteger < leadingDigits text := by
  unfold number at h
  split at h
  · cases h
  · split at h
    rename_i negative tail hsign
    have htail : tail = unsignedPart text := by
      split at hsign
      · exact (Prod.mk.inj hsign).2.symm
      · rename_i hplain
        rw [unsignedPart_of_ne hplain]
        exact (Prod.mk.inj hsign).2.symm
    split at h
    · cases h
    · unfold leadingDigits
      rw [← htail]
      exact unsigned_error h

theorem leadingDigits_append (part missing : List Char) :
    leadingDigits part ≤ leadingDigits (part ++ missing) := by
  have hgrow : ∀ first : List Char,
      (first.takeWhile isDigit).length ≤ ((first ++ missing).takeWhile isDigit).length := by
    intro first
    rw [List.takeWhile_append]
    split
    · rename_i hall
      rw [List.length_append]
      omega
    · exact Nat.le_refl _
  unfold leadingDigits
  cases part with
  | nil => exact Nat.zero_le _
  | cons c part =>
      by_cases hminus : c = '-'
      · subst hminus
        exact hgrow part
      · have hsame : ∀ tail, unsignedPart (c :: tail) = c :: tail := fun tail =>
          unsignedPart_of_ne fun rest heq => hminus (List.cons.inj heq).1
        rw [List.cons_append, hsame, hsame]
        exact hgrow (c :: part)

theorem unsignedPart_digitChars {whole : List Nat} (hwhole : AreDigits whole) {tail : List Char}
    (htail : ∀ rest, tail = '-' :: rest → False) :
    unsignedPart (digitChars whole ++ tail) = digitChars whole ++ tail := by
  refine unsignedPart_of_ne fun rest heq => ?_
  cases whole with
  | nil => exact htail rest heq
  | cons digit others =>
      have hminus : digitChar digit = '-' := (List.cons.inj heq).1
      have hdigit := isDigit_digitChar (hwhole digit List.mem_cons_self)
      rw [hminus] at hdigit
      exact absurd hdigit (by decide)

theorem leadingDigits_intChars (n : Int) :
    leadingDigits (intChars n) ≤ (digitsOf n.natAbs).length := by
  have hpart : unsignedPart (intChars n) = natChars n.natAbs := by
    unfold intChars
    split
    · rfl
    · have hnone : ∀ rest, [] = '-' :: rest → False := nofun
      have hdigits := unsignedPart_digitChars (areDigits_digitsOf n.natAbs) hnone
      rwa [List.append_nil] at hdigits
  have hlength : (natChars n.natAbs).length = (digitsOf n.natAbs).length := List.length_map _
  unfold leadingDigits
  rw [hpart, ← hlength]
  exact (List.takeWhile_sublist _).length_le

theorem length_takeWhile_isDigit_le {stop : Char} (hstop : isDigit stop = false)
    (front tail : List Char) :
    ((front ++ stop :: tail).takeWhile isDigit).length ≤ front.length := by
  induction front with
  | nil => rw [List.nil_append, List.takeWhile_cons_of_neg (by simp [hstop])]
  | cons c front ih =>
      rw [List.cons_append, List.takeWhile_cons]
      split
      · exact Nat.succ_le_succ ih
      · exact Nat.zero_le _

/-- A text that begins with digits, not too many of them to be read as an integer, and goes on with
something else. -/
structure IsFronted (text : List Char) (whole : List Nat) (stop : Char) (tail : List Char) :
    Prop where
  text : text = digitChars whole ++ stop :: tail
  digits : AreDigits whole
  short : whole.length ≤ longestInteger
  isDigit : isDigit stop = false
  minus : stop ≠ '-'

theorem IsFronted.leadingDigits_sign {whole : List Nat} {stop : Char} {tail : List Char}
    (h : IsFronted text whole stop tail) (negative : Bool) :
    leadingDigits (NumberLayout.sign negative text) ≤ longestInteger := by
  have hstop : ∀ rest, stop :: tail = '-' :: rest → False := fun rest heq =>
    h.minus (List.cons.inj heq).1
  have hplain : unsignedPart text = text := by
    rw [h.text]
    exact unsignedPart_digitChars h.digits hstop
  have hpart : unsignedPart (NumberLayout.sign negative text) = text := by
    cases negative with
    | true => rfl
    | false => exact hplain
  have hlength : (digitChars whole).length = whole.length := List.length_map _
  unfold leadingDigits
  rw [hpart, h.text]
  exact (length_takeWhile_isDigit_le h.isDigit _ tail).trans (hlength ▸ h.short)

theorem isFronted_positional {d : Decimal} (hdigits : AreDigits d.digits) (hpoint : d.point ≤ 16) :
    ∃ whole stop tail, IsFronted (NumberLayout.positional true d) whole stop tail := by
  have hlimit : longestInteger = 4300 := rfl
  have hfilled : AreDigits (d.digits.take d.point.toNat ++
      List.replicate (d.point.toNat - (d.digits.take d.point.toNat).length) 0) :=
    areDigits_append.2 ⟨fun digit hdigit => hdigits digit (List.mem_of_mem_take hdigit),
      areDigits_replicate_zero _⟩
  have hlength : (d.digits.take d.point.toNat ++
      List.replicate (d.point.toNat - (d.digits.take d.point.toNat).length) 0).length ≤
        longestInteger := by
    rw [List.length_append, List.length_replicate, List.length_take]
    omega
  unfold NumberLayout.positional
  dsimp only
  generalize d.digits.take d.point.toNat ++
    List.replicate (d.point.toNat - (d.digits.take d.point.toNat).length) 0 = filled at *
  generalize List.replicate (-d.point).toNat 0 ++ d.digits.drop d.point.toNat = rest
  have hfront : ∃ whole, (if filled.isEmpty then ['0'] else digitChars filled) =
      digitChars whole ∧ AreDigits whole ∧ whole.length ≤ longestInteger := by
    split
    · exact ⟨[0], rfl, areDigits_replicate_zero 1, by decide⟩
    · exact ⟨filled, rfl, hfilled, hlength⟩
  obtain ⟨whole, hwhole, hdigits, hshort⟩ := hfront
  rw [hwhole]
  split
  · exact ⟨whole, '.', ['0'], by simp, hdigits, hshort, rfl, by decide⟩
  · exact ⟨whole, '.', digitChars rest, rfl, hdigits, hshort, rfl, by decide⟩

theorem isFronted_scientific {d : Decimal} (hdigits : AreDigits d.digits) :
    ∃ whole stop tail, IsFronted (NumberLayout.scientific d) whole stop tail := by
  have hfront : AreDigits (d.digits.take 1) := fun digit hdigit =>
    hdigits digit (List.mem_of_mem_take hdigit)
  have hshort : (d.digits.take 1).length ≤ longestInteger := by
    rw [List.length_take]
    exact (Nat.min_le_left _ _).trans (by decide)
  obtain ⟨tail, htail⟩ := exponentChars_cons (d.point - 1)
  unfold NumberLayout.scientific
  dsimp only
  rw [htail]
  split
  · exact ⟨_, 'e', tail, by simp, hfront, hshort, rfl, by decide⟩
  · exact ⟨_, '.', digitChars (d.digits.drop 1) ++ 'e' :: tail, by simp, hfront, hshort, rfl,
      by decide⟩

theorem isFronted_ofDecimal {d : Decimal} (hdigits : AreDigits d.digits) :
    ∃ whole stop tail, IsFronted (NumberLayout.record.ofDecimal d) whole stop tail := by
  unfold NumberLayout.ofDecimal
  split
  · rename_i hrange
    have hmost : NumberLayout.record.most = 16 := rfl
    have hkeeps : NumberLayout.record.keepsPoint = true := rfl
    rw [hmost] at hrange
    rw [hkeeps]
    exact isFronted_positional hdigits (by omega)
  · exact isFronted_scientific hdigits

/-- No number in a record begins with more digits than are read as an integer. -/
theorem leadingDigits_recordChars (x : Binary64) :
    leadingDigits x.recordChars ≤ longestInteger := by
  unfold Binary64.recordChars NumberLayout.write
  cases x with
  | nan => decide
  | infinite negative => cases negative <;> decide
  | finite negative units hrep =>
      dsimp only
      have hdigits :
          AreDigits (if units = 0 then ⟨[0], 1⟩ else Binary64.shortest units).digits := by
        split
        · exact areDigits_replicate_zero 1
        · rename_i hne
          exact (Binary64.shortest_reads (Nat.pos_of_ne_zero hne) hrep).2.1
      obtain ⟨whole, stop, tail, hfronted⟩ := isFronted_ofDecimal hdigits
      exact hfronted.leadingDigits_sign negative

end Rulebound.Json
