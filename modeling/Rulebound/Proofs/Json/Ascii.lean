import Rulebound.Proofs.Json.RoundTrip

/-!
# The characters of written values

Whatever a value holds, its text is printable ASCII, so that no line end is within it.
-/

namespace Rulebound.Json

def ArePrintable (text : List Char) : Prop :=
  ∀ c ∈ text, IsPrintable c

instance (text : List Char) : Decidable (ArePrintable text) :=
  List.decidableBAll IsPrintable text

theorem arePrintable_append {first last : List Char} :
    ArePrintable (first ++ last) ↔ ArePrintable first ∧ ArePrintable last :=
  List.forall_mem_append

theorem arePrintable_cons {c : Char} {text : List Char} :
    ArePrintable (c :: text) ↔ IsPrintable c ∧ ArePrintable text :=
  List.forall_mem_cons

theorem arePrintable_digitChars {digits : List Nat} (h : AreDigits digits) :
    ArePrintable (digitChars digits) := by
  have hall : ∀ d, d < 10 → IsPrintable (digitChar d) := by decide
  intro c hc
  obtain ⟨d, hd, rfl⟩ := List.mem_map.1 hc
  exact hall d (h d hd)

theorem arePrintable_natChars (n : Nat) : ArePrintable (natChars n) :=
  arePrintable_digitChars (areDigits_digitsOf n)

theorem arePrintable_intChars (n : Int) : ArePrintable (intChars n) := by
  unfold intChars
  split
  · exact arePrintable_cons.2 ⟨by decide, arePrintable_natChars _⟩
  · exact arePrintable_natChars _

theorem arePrintable_exponentChars (e : Int) : ArePrintable (NumberLayout.exponentChars e) := by
  have hdigits := arePrintable_natChars e.natAbs
  unfold NumberLayout.exponentChars
  refine arePrintable_cons.2 ⟨by decide, arePrintable_cons.2 ⟨?_, ?_⟩⟩
  · split <;> decide
  · split
    · exact arePrintable_cons.2 ⟨by decide, hdigits⟩
    · exact hdigits

/-! ## Numbers -/

theorem arePrintable_sign (negative : Bool) {text : List Char} (h : ArePrintable text) :
    ArePrintable (NumberLayout.sign negative text) := by
  unfold NumberLayout.sign
  split
  · exact arePrintable_cons.2 ⟨by decide, h⟩
  · exact h

theorem arePrintable_ofDecimal {d : Decimal} {digit : Nat} {others : List Nat}
    (hlead : d.digits = digit :: others) (hne : digit ≠ 0) (hdigits : AreDigits d.digits) :
    ArePrintable (NumberLayout.record.ofDecimal d) := by
  unfold NumberLayout.ofDecimal
  split
  · obtain ⟨whole, fraction, hsplit⟩ := exists_isSplit hlead hne hdigits
    have hkeeps : NumberLayout.record.keepsPoint = true := rfl
    rw [hkeeps, hsplit.text]
    exact arePrintable_append.2 ⟨arePrintable_digitChars hsplit.whole_digits,
      arePrintable_cons.2 ⟨by decide, arePrintable_digitChars hsplit.fraction_digits⟩⟩
  · have hfront := arePrintable_digitChars fun d' hd' =>
      hdigits d' (List.mem_of_mem_take (i := 1) hd')
    have hback := arePrintable_digitChars fun d' hd' =>
      hdigits d' (List.mem_of_mem_drop (i := 1) hd')
    have hexponent := arePrintable_exponentChars (d.point - 1)
    unfold NumberLayout.scientific
    dsimp only
    split
    · exact arePrintable_append.2 ⟨arePrintable_append.2 ⟨hfront, by decide⟩, hexponent⟩
    · exact arePrintable_append.2 ⟨arePrintable_append.2 ⟨hfront,
        arePrintable_cons.2 ⟨by decide, hback⟩⟩, hexponent⟩

theorem arePrintable_recordChars (x : Binary64) : ArePrintable x.recordChars := by
  unfold Binary64.recordChars NumberLayout.write
  cases x with
  | nan => decide
  | infinite negative => exact arePrintable_sign negative (by decide)
  | finite negative units hrep =>
      refine arePrintable_sign negative ?_
      split
      · decide
      · rename_i hne
        obtain ⟨⟨digit, others, hlead, hdigit⟩, hdigits, -⟩ :=
          Binary64.shortest_reads (Nat.pos_of_ne_zero hne) hrep
        exact arePrintable_ofDecimal hlead hdigit hdigits

/-! ## Values -/

mutual

/-- The text of a value is printable ASCII. -/
theorem arePrintable_print : ∀ value : Json, ArePrintable (print value)
  | null => by decide
  | bool true => by decide
  | bool false => by decide
  | int n => arePrintable_intChars n
  | float x => arePrintable_recordChars x
  | string _ => fun _ hc => isPrintable_printString hc
  | array items => by
      rw [print]
      exact arePrintable_append.2 ⟨arePrintable_cons.2 ⟨by decide, arePrintable_printItems items⟩,
        by decide⟩
  | object fields => by
      rw [print]
      exact arePrintable_append.2 ⟨arePrintable_cons.2 ⟨by decide, arePrintable_printFields fields⟩,
        by decide⟩

theorem arePrintable_printItems : ∀ items : List Json, ArePrintable (printItems items)
  | [] => by decide
  | [item] => arePrintable_print item
  | item :: next :: items => by
      rw [printItems]
      exact arePrintable_append.2 ⟨arePrintable_append.2 ⟨arePrintable_print item, by decide⟩,
        arePrintable_printItems (next :: items)⟩

theorem arePrintable_printFields : ∀ fields : Fields, ArePrintable (printFields fields)
  | [] => by decide
  | [(name, value)] => by
      have hname : ArePrintable (printString name) := fun _ hc => isPrintable_printString hc
      rw [printFields]
      exact arePrintable_append.2 ⟨arePrintable_append.2 ⟨hname, by decide⟩,
        arePrintable_print value⟩
  | (name, value) :: next :: fields => by
      have hname : ArePrintable (printString name) := fun _ hc => isPrintable_printString hc
      rw [printFields]
      exact arePrintable_append.2 ⟨arePrintable_append.2 ⟨arePrintable_append.2
        ⟨arePrintable_append.2 ⟨hname, by decide⟩, arePrintable_print value⟩, by decide⟩,
        arePrintable_printFields (next :: fields)⟩

end

end Rulebound.Json
