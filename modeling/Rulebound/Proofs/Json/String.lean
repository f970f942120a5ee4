import Rulebound.Json.Printer
import Rulebound.Json.Reader
import Rulebound.Proofs.Text.Surrogate

/-!
# Strings in written values

A string is written in printable ASCII, and reading its code units up to the closing quote gives
the units of its code points.
-/

namespace Rulebound.Json

open Text (unitsOfPoint hexDigit hexChars)

/-! ## Hexadecimal digits -/

theorem hexValue?_hexDigit {d : Nat} (h : d < 16) : hexValue? (hexDigit d) = some d := by
  have hall : ∀ d, d < 16 → hexValue? (hexDigit d) = some d := by decide
  exact hall d h

theorem hexChars_four (unit : Nat) :
    hexChars 4 unit = [hexDigit (unit / 4096 % 16), hexDigit (unit / 256 % 16),
      hexDigit (unit / 16 % 16), hexDigit (unit % 16)] := by
  have hone : unit / pow2 0 = unit := Nat.div_one unit
  simp only [hexChars, List.range_succ, List.range_zero, List.nil_append, List.cons_append,
    List.map_cons, List.map_nil, List.reverse_cons, List.reverse_nil, Nat.mul_zero, hone]
  rfl

theorem unit?_hexDigits {unit : Nat} (h : unit < 0x10000) :
    unit? (hexDigit (unit / 4096 % 16)) (hexDigit (unit / 256 % 16)) (hexDigit (unit / 16 % 16))
      (hexDigit (unit % 16)) = some unit := by
  have hlimit : ∀ n, n % 16 < 16 := fun n => Nat.mod_lt n (by omega)
  have hsum : 4096 * (unit / 4096 % 16) + 256 * (unit / 256 % 16) + 16 * (unit / 16 % 16) +
      unit % 16 = unit := by omega
  unfold unit?
  rw [hexValue?_hexDigit (hlimit _), hexValue?_hexDigit (hlimit _), hexValue?_hexDigit (hlimit _),
    hexValue?_hexDigit (hlimit _)]
  simp only [Option.bind_eq_bind, Option.bind_some, Option.pure_def, hsum]

/-! ## Code points -/

def IsPrintable (c : Char) : Prop :=
  0x20 ≤ c.toNat ∧ c.toNat ≤ 0x7E

instance (c : Char) : Decidable (IsPrintable c) :=
  inferInstanceAs (Decidable (_ ∧ _))

theorem toNat_ofNat {n : Nat} (h : n < 0xD800) : (Char.ofNat n).toNat = n := by
  have hvalid : n.isValidChar := .inl h
  unfold Char.ofNat
  rw [dif_pos hvalid]
  rfl

/-- Four ways of writing a code point: an escape of one letter, the character itself, the escape of
a unit, and those of a pair. -/
theorem printPoint_cases (point : Nat) :
    (∃ c, c ≠ 'u' ∧ IsPrintable c ∧ point < 0x80 ∧ escaped? c = some point ∧
      printPoint point = ['\\', c]) ∨
    (point ≠ 0x22 ∧ point ≠ 0x5C ∧ 0x20 ≤ point ∧ point ≤ 0x7E ∧
      printPoint point = [Char.ofNat point]) ∨
    (point < 0x10000 ∧ printPoint point = unitEscape point) ∨
    (0x10000 ≤ point ∧ printPoint point =
      unitEscape (0xD800 + (point - 0x10000) / 0x400) ++
        unitEscape (0xDC00 + (point - 0x10000) % 0x400)) := by
  unfold printPoint
  split
  · rename_i heq
    exact .inl ⟨'"', by decide, by decide, by omega, by rw [heq]; rfl, rfl⟩
  split
  · rename_i heq
    exact .inl ⟨'\\', by decide, by decide, by omega, by rw [heq]; rfl, rfl⟩
  split
  · rename_i heq
    exact .inl ⟨'n', by decide, by decide, by omega, by rw [heq]; rfl, rfl⟩
  split
  · rename_i heq
    exact .inl ⟨'r', by decide, by decide, by omega, by rw [heq]; rfl, rfl⟩
  split
  · rename_i heq
    exact .inl ⟨'t', by decide, by decide, by omega, by rw [heq]; rfl, rfl⟩
  split
  · rename_i heq
    exact .inl ⟨'b', by decide, by decide, by omega, by rw [heq]; rfl, rfl⟩
  split
  · rename_i heq
    exact .inl ⟨'f', by decide, by decide, by omega, by rw [heq]; rfl, rfl⟩
  split
  · rename_i hquote hslash _ _ _ _ _ hplain
    exact .inr (.inl ⟨hquote, hslash, hplain.1, hplain.2, rfl⟩)
  split
  · rename_i hbasic
    exact .inr (.inr (.inl ⟨hbasic, rfl⟩))
  · rename_i hbasic
    exact .inr (.inr (.inr ⟨Nat.not_lt.1 hbasic, rfl⟩))

/-! ## Reading what was written -/

def withUnits (units : List Nat) (found : List Nat × List Char) : List Nat × List Char :=
  (units ++ found.1, found.2)

theorem stringBody_unitEscape {unit : Nat} (h : unit < 0x10000) (rest : List Char) :
    stringBody (unitEscape unit ++ rest) = (stringBody rest).map (withUnits [unit]) := by
  unfold unitEscape
  rw [hexChars_four]
  simp only [List.cons_append, List.nil_append, stringBody, unit?_hexDigits h]
  cases stringBody rest <;> rfl

theorem stringBody_escape {c : Char} {unit : Nat} (hunicode : c ≠ 'u')
    (hescape : escaped? c = some unit) (rest : List Char) :
    stringBody ('\\' :: c :: rest) = (stringBody rest).map (withUnits [unit]) := by
  rw [stringBody]
  · rw [hescape]
    cases stringBody rest <;> rfl
  · rintro a b c' d rest' hcontra
    exact absurd (by simp_all) hunicode

theorem stringBody_plain {c : Char} (hquote : c ≠ '"') (hslash : c ≠ '\\') (hlow : 0x20 ≤ c.toNat)
    (rest : List Char) :
    stringBody (c :: rest) = (stringBody rest).map (withUnits [c.toNat]) := by
  have hallowed : ¬ (c = '\\' ∨ c.toNat < 0x20) := by
    rintro (heq | hlt)
    · exact hslash heq
    · omega
  rw [stringBody]
  · rw [if_neg hallowed]
    cases stringBody rest <;> rfl
  · exact hquote
  · simp_all
  · simp_all

theorem unitsOfPoint_of_lt {point : Nat} (h : point < 0x10000) : unitsOfPoint point = [point] := by
  unfold Text.unitsOfPoint
  rw [if_pos h]

theorem stringBody_printPoint {point : Nat} (h : point < 0x110000) (rest : List Char) :
    stringBody (printPoint point ++ rest) =
      (stringBody rest).map (withUnits (unitsOfPoint point)) := by
  rcases printPoint_cases point with ⟨c, hunicode, -, hascii, hescape, heq⟩ |
    ⟨hquote, hslash, hlow, hhigh, heq⟩ | ⟨hbasic, heq⟩ | ⟨hbeyond, heq⟩
  · rw [heq, unitsOfPoint_of_lt (by omega)]
    exact stringBody_escape hunicode hescape rest
  · have hvalue : (Char.ofNat point).toNat = point := toNat_ofNat (by omega)
    have hne : ∀ c : Char, point ≠ c.toNat → Char.ofNat point ≠ c := by
      rintro c hdiffer rfl
      exact hdiffer hvalue.symm
    have hread := stringBody_plain (hne '"' hquote) (hne '\\' hslash) (by omega) rest
    rw [hvalue] at hread
    rw [heq, unitsOfPoint_of_lt (by omega)]
    exact hread
  · rw [heq, unitsOfPoint_of_lt hbasic]
    exact stringBody_unitEscape hbasic rest
  · rw [heq, List.append_assoc, stringBody_unitEscape (by omega), stringBody_unitEscape (by omega)]
    unfold Text.unitsOfPoint
    rw [if_neg (by omega)]
    cases stringBody rest <;> rfl

/-- The units of a written string, and what stands after its closing quote. -/
theorem stringBody_printed {points : List Nat} (h : ∀ point ∈ points, point < 0x110000)
    (rest : List Char) :
    stringBody (points.flatMap printPoint ++ '"' :: rest) =
      some (points.flatMap unitsOfPoint, rest) := by
  induction points with
  | nil => rfl
  | cons point points ih =>
      rw [List.forall_mem_cons] at h
      rw [List.flatMap_cons, List.append_assoc, stringBody_printPoint h.1, ih h.2]
      rfl

/-- A text is read back from the string that it is written as, put together again. -/
theorem printString_append (text : CodeText) (rest : List Char) :
    ∃ body units, printString text ++ rest = '"' :: body ∧ stringBody body = some (units, rest) ∧
      CodeText.ofUnits units = text.rejoin := by
  refine ⟨_, _, ?_, stringBody_printed text.points_lt rest, rfl⟩
  unfold printString
  simp only [List.cons_append, List.append_assoc, List.nil_append]

/-! ## What a string is written in -/

theorem isPrintable_hexDigit {d : Nat} (h : d < 16) : IsPrintable (hexDigit d) := by
  have hall : ∀ d, d < 16 → IsPrintable (hexDigit d) := by decide
  exact hall d h

theorem isPrintable_unitEscape {unit : Nat} {c : Char} (h : c ∈ unitEscape unit) :
    IsPrintable c := by
  have hlimit : ∀ n, n % 16 < 16 := fun n => Nat.mod_lt n (by omega)
  unfold unitEscape at h
  rw [hexChars_four] at h
  simp only [List.mem_cons, List.not_mem_nil, or_false] at h
  rcases h with rfl | rfl | rfl | rfl | rfl | rfl
  · decide
  · decide
  · exact isPrintable_hexDigit (hlimit _)
  · exact isPrintable_hexDigit (hlimit _)
  · exact isPrintable_hexDigit (hlimit _)
  · exact isPrintable_hexDigit (hlimit _)

theorem isPrintable_printPoint {point : Nat} {c : Char} (h : c ∈ printPoint point) :
    IsPrintable c := by
  rcases printPoint_cases point with ⟨letter, -, hletter, -, -, heq⟩ | ⟨-, -, hlow, hhigh, heq⟩ |
    ⟨-, heq⟩ | ⟨-, heq⟩
  · rw [heq, List.mem_cons, List.mem_singleton] at h
    rcases h with rfl | rfl
    · decide
    · exact hletter
  · rw [heq, List.mem_singleton] at h
    subst h
    unfold IsPrintable
    rw [toNat_ofNat (by omega)]
    exact ⟨hlow, hhigh⟩
  · rw [heq] at h
    exact isPrintable_unitEscape h
  · rw [heq, List.mem_append] at h
    rcases h with hhigh | hlow
    · exact isPrintable_unitEscape hhigh
    · exact isPrintable_unitEscape hlow

theorem isPrintable_printString {text : CodeText} {c : Char} (h : c ∈ printString text) :
    IsPrintable c := by
  unfold printString at h
  rw [List.cons_append, List.mem_cons, List.mem_append, List.mem_singleton] at h
  rcases h with rfl | hbody | rfl
  · decide
  · obtain ⟨d, -, hmem⟩ := List.mem_flatMap.1 hbody
    exact isPrintable_printPoint hmem
  · decide

end Rulebound.Json
