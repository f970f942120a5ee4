import Mathlib.Data.List.Chain
import Rulebound.Text.Encoding

/-!
# Surrogate pairs

A text of which every code point is turned into its code units is put together again from them. The
one text for which this fails has a high surrogate directly before a low one: together they would be
a pair. A text of characters alone has no surrogate at all.
-/

namespace Rulebound.Text

/-- The code units of a code point: two of them beyond the basic plane. -/
def unitsOfPoint (point : Nat) : List Nat :=
  if point < 0x10000 then [point]
  else [0xD800 + (point - 0x10000) / 0x400, 0xDC00 + (point - 0x10000) % 0x400]

/-- Two code points that are no pair of surrogates. -/
def Apart (first second : Nat) : Prop :=
  ¬ (isHigh first = true ∧ isLow second = true)

instance : DecidableRel Apart := fun _ _ => inferInstanceAs (Decidable (¬ (_ ∧ _)))

/-! ## Characters and code points -/

theorem isHigh_iff {unit : Nat} : isHigh unit = true ↔ 0xD800 ≤ unit ∧ unit < 0xDC00 := by
  simp [isHigh]

theorem isLow_iff {unit : Nat} : isLow unit = true ↔ 0xDC00 ≤ unit ∧ unit < 0xE000 := by
  simp [isLow]

theorem isSurrogate_iff {unit : Nat} : isSurrogate unit = true ↔ 0xD800 ≤ unit ∧ unit < 0xE000 := by
  simp only [isSurrogate, Bool.or_eq_true, isHigh_iff, isLow_iff]
  omega

theorem not_isSurrogate_toNat (c : Char) : ¬ isSurrogate c.toNat = true := by
  have hvalid := c.valid
  rw [isSurrogate_iff]
  unfold UInt32.isValidChar Nat.isValidChar at hvalid
  unfold Char.toNat
  omega

theorem toNat_lt (c : Char) : c.toNat < 0x110000 := by
  have hvalid := c.valid
  unfold UInt32.isValidChar Nat.isValidChar at hvalid
  unfold Char.toNat
  omega

/-! ## Pairing -/

theorem pairUp_cons {unit : Nat} {rest : List Nat} (h : ∀ next ∈ rest.head?, Apart unit next) :
    pairUp (unit :: rest) = unit :: pairUp rest := by
  cases rest with
  | nil => rfl
  | cons next rest =>
      have hapart : ¬ (isHigh unit && isLow next) = true := by
        rw [Bool.and_eq_true]
        exact h next rfl
      rw [pairUp, if_neg hapart]

theorem pairUp_pair {point : Nat} (hlow : 0x10000 ≤ point) (hhigh : point < 0x110000)
    (rest : List Nat) :
    pairUp ((0xD800 + (point - 0x10000) / 0x400) :: (0xDC00 + (point - 0x10000) % 0x400) :: rest) =
      point :: pairUp rest := by
  have hpair : (isHigh (0xD800 + (point - 0x10000) / 0x400) &&
      isLow (0xDC00 + (point - 0x10000) % 0x400)) = true := by
    rw [Bool.and_eq_true, isHigh_iff, isLow_iff]
    omega
  have hpoint : 0x10000 + (0xD800 + (point - 0x10000) / 0x400 - 0xD800) * 0x400 +
      (0xDC00 + (point - 0x10000) % 0x400 - 0xDC00) = point := by omega
  rw [pairUp, if_pos hpair, hpoint]

theorem pairUp_units {point : Nat} {rest : List Nat} (hpoint : point < 0x110000)
    (h : ∀ next ∈ rest.head?, Apart point next) :
    pairUp (unitsOfPoint point ++ rest) = point :: pairUp rest := by
  unfold unitsOfPoint
  split
  · exact pairUp_cons h
  · exact pairUp_pair (by omega) hpoint rest

/-- The units of a code point begin with a low one only if the point is low itself. -/
theorem apart_head_units {first point : Nat} (hpoint : point < 0x110000) (h : Apart first point)
    (rest : List Nat) : ∀ next ∈ (unitsOfPoint point ++ rest).head?, Apart first next := by
  intro next hnext
  unfold unitsOfPoint at hnext
  split at hnext
  · obtain rfl := Option.some.inj hnext
    exact h
  · obtain rfl := Option.some.inj hnext
    rintro ⟨-, hlow⟩
    rw [isLow_iff] at hlow
    omega

theorem pairUp_flatMap {points : List Nat} (hpoints : ∀ point ∈ points, point < 0x110000)
    (hchain : points.IsChain Apart) : pairUp (points.flatMap unitsOfPoint) = points := by
  induction points with
  | nil => rfl
  | cons point points ih =>
      have hhere : point < 0x110000 := hpoints point List.mem_cons_self
      have hrest := ih (fun other hother => hpoints other (List.mem_cons_of_mem _ hother))
        hchain.tail
      rw [List.flatMap_cons, pairUp_units hhere, hrest]
      cases points with
      | nil =>
          intro next hnext
          exact nomatch hnext
      | cons second points =>
          have hsecond : second < 0x110000 :=
            hpoints second (List.mem_cons_of_mem _ List.mem_cons_self)
          rw [List.flatMap_cons]
          exact apart_head_units hsecond hchain.rel _

end Rulebound.Text

namespace Rulebound.CodeText

open Text (unitsOfPoint)

/-- A text in which no high surrogate is directly before a low one. -/
def IsSettled : CodeText → Prop
  | plain _ => True
  | broken points _ => points.IsChain Text.Apart

instance : DecidablePred IsSettled
  | plain _ => .isTrue trivial
  | broken _ _ => inferInstanceAs (Decidable (List.IsChain _ _))

/-- A text as it is put together again from its code units. -/
def rejoin (text : CodeText) : CodeText :=
  ofUnits (text.points.flatMap unitsOfPoint)

theorem not_isSurrogate_of_plain {text : String} {point : Nat}
    (h : point ∈ (plain text).points) : Text.isSurrogate point = false := by
  obtain ⟨c, -, rfl⟩ := List.mem_map.1 h
  exact Bool.eq_false_iff.2 (Text.not_isSurrogate_toNat c)

theorem ofPoints_points (text : CodeText) : ofPoints text.points = text := by
  unfold ofPoints
  cases text with
  | plain text =>
      have hnone : ¬ (Text.isBroken (plain text).points = true) := by
        unfold Text.isBroken
        rw [Bool.and_eq_true, List.any_eq_true]
        rintro ⟨⟨point, hpoint, hsurrogate⟩, -⟩
        exact Bool.eq_false_iff.1 (not_isSurrogate_of_plain hpoint) hsurrogate
      have hchars : (plain text).points.map Char.ofNat = text.toList := by
        unfold points
        rw [List.map_map]
        exact (List.map_congr_left fun c _ => Char.ofNat_toNat c).trans (List.map_id _)
      rw [dif_neg hnone, hchars, String.ofList_toList]
  | broken points isBroken => exact dif_pos isBroken

theorem points_lt (text : CodeText) : ∀ point ∈ text.points, point < 0x110000 := by
  cases text with
  | plain text =>
      intro point hpoint
      obtain ⟨c, -, rfl⟩ := List.mem_map.1 hpoint
      exact Text.toNat_lt c
  | broken points isBroken =>
      simp only [Text.isBroken, Bool.and_eq_true, List.all_eq_true, decide_eq_true_eq] at isBroken
      exact isBroken.2

theorem points_isChain {text : CodeText} (h : text.IsSettled) :
    text.points.IsChain Text.Apart := by
  cases text with
  | plain text =>
      have happart : ∀ first ∈ (plain text).points, ∀ second, Text.Apart first second := by
        rintro first hfirst second ⟨hhigh, -⟩
        have hnone := not_isSurrogate_of_plain hfirst
        rw [Text.isSurrogate, hhigh, Bool.true_or] at hnone
        exact nomatch hnone
      exact (List.pairwise_of_forall_mem_list fun first hfirst second _ =>
        happart first hfirst second).isChain
  | broken points isBroken => exact h

/-- A settled text is the text of its code units. -/
theorem rejoin_eq {text : CodeText} (h : text.IsSettled) : text.rejoin = text := by
  rw [rejoin, ofUnits, Text.pairUp_flatMap text.points_lt (points_isChain h), ofPoints_points]

end Rulebound.CodeText
