import Rulebound.Proofs.Number.Norm
import Rulebound.Proofs.Number.Order
import Rulebound.Proofs.World.Operation

/-!
# The first of the nearest

Blocks and beings are looked through one after another, and one that is found replaces an earlier
one only if it is nearer. So what is found in the end is the nearest, and of equally near ones the
first.
-/

namespace Rulebound

section Search

variable {α : Type}

/-! ## The search -/

/-- Whether an item at a distance is better than what was found so far. -/
def isCloser (gap : Binary64) (best : Option (Binary64 × α)) : Bool :=
  (best.map fun least => gap.lt least.1).getD true

def better (gap? : α → Option Binary64) (best : Option (Binary64 × α)) (item : α) :
    Option (Binary64 × α) :=
  (gap? item).elim best fun gap => if isCloser gap best then some (gap, item) else best

/-- What was found, with a label in place of the item. -/
def labelled {β : Type} (label : α → β) (best : Option (Binary64 × α)) : Option (Binary64 × β) :=
  best.map fun found => (found.1, label found.2)

section Better

variable {gap? : α → Option Binary64} {item : α} {gap : Binary64}

theorem better_of_none (h : gap? item = none) (best : Option (Binary64 × α)) :
    better gap? best item = best := by
  rw [better, h, Option.elim_none]

theorem better_of_some (h : gap? item = some gap) (best : Option (Binary64 × α)) :
    better gap? best item = if isCloser gap best then some (gap, item) else best := by
  rw [better, h, Option.elim_some]

theorem isCloser_labelled {β : Type} (label : α → β) (gap : Binary64)
    (best : Option (Binary64 × α)) : isCloser gap (labelled label best) = isCloser gap best := by
  cases best <;> rfl

/-- What is found among items of which only some are at a distance: nothing if there are none,
otherwise one with all before it farther away and none after it nearer. -/
inductive FirstNearest (gap? : α → Option Binary64) : List α → Option (Binary64 × α) → Prop
  | nothing {items : List α} (none : ∀ item ∈ items, gap? item = none) :
      FirstNearest gap? items .none
  | found {before after : List α} {item : α} {gap : Binary64} (at_gap : gap? item = some gap)
      (farther : ∀ other ∈ before, ∀ far, gap? other = some far → gap.lt far = true)
      (no_nearer : ∀ other ∈ after, ∀ far, gap? other = some far → gap.le far = true) :
      FirstNearest gap? (before ++ item :: after) (some (gap, item))

/-- What is found stays if the next item is at no distance, or at none that is less. -/
theorem FirstNearest.keep {items : List α} {best : Option (Binary64 × α)}
    (h : FirstNearest gap? items best) {item : α}
    (hfar : ∀ far, gap? item = some far → ∃ least, best = some least ∧ least.1.le far = true) :
    FirstNearest gap? (items ++ [item]) best := by
  cases h with
  | nothing hnone =>
      refine .nothing fun other hmem => ?_
      rcases List.mem_append.1 hmem with hold | hnew
      · exact hnone other hold
      · rw [List.mem_singleton.1 hnew, Option.eq_none_iff_forall_ne_some]
        intro far hitem
        obtain ⟨least, hbest, -⟩ := hfar far hitem
        exact nomatch hbest
  | found hchosen hbefore hafter =>
      rw [List.append_assoc, List.cons_append]
      refine .found hchosen hbefore fun other hmem far hother => ?_
      rcases List.mem_append.1 hmem with hold | hnew
      · exact hafter other hold far hother
      · rw [List.mem_singleton.1 hnew] at hother
        obtain ⟨least, hbest, hle⟩ := hfar far hother
        rwa [← Option.some.inj hbest] at hle

/-- What is found is replaced by the next item if that is at a distance, and at a lesser one. -/
theorem FirstNearest.replace {items : List α} {best : Option (Binary64 × α)}
    (h : FirstNearest gap? items best) (hgap : gap? item = some gap)
    (hless : ∀ least, best = some least → gap.lt least.1 = true) :
    FirstNearest gap? (items ++ [item]) (some (gap, item)) := by
  refine .found hgap (fun other hmem far hfar => ?_) nofun
  cases h with
  | nothing hnone => exact nomatch (hnone other hmem).symm.trans hfar
  | found hchosen hbefore hafter =>
      have hnearer := hless _ rfl
      rcases List.mem_append.1 hmem with hfirst | hrest
      · exact Binary64.lt_of_lt_of_le hnearer (Binary64.le_of_lt (hbefore other hfirst far hfar))
      · rcases List.mem_cons.1 hrest with hsame | hlater
        · rw [hsame, hchosen, Option.some.injEq] at hfar
          rwa [← hfar]
        · exact Binary64.lt_of_lt_of_le hnearer (hafter other hlater far hfar)

theorem FirstNearest.isNan {items : List α} {found : Binary64 × α}
    (hnumber : ∀ item gap, gap? item = some gap → gap.isNan = false)
    (h : FirstNearest gap? items (some found)) : found.1.isNan = false := by
  cases h with
  | found hchosen _ _ => exact hnumber _ _ hchosen

theorem FirstNearest.step (hnumber : ∀ item gap, gap? item = some gap → gap.isNan = false)
    {items : List α} {best : Option (Binary64 × α)} (h : FirstNearest gap? items best) (item : α) :
    FirstNearest gap? (items ++ [item]) (better gap? best item) := by
  cases hgap : gap? item with
  | none =>
      rw [better_of_none hgap]
      refine h.keep fun far hfar => ?_
      rw [hgap] at hfar
      exact nomatch hfar
  | some gap =>
      rw [better_of_some hgap]
      cases best with
      | none =>
          refine h.replace hgap fun least hleast => ?_
          exact absurd hleast.symm (Option.some_ne_none least)
      | some least =>
          have hcloser : isCloser gap (some least) = gap.lt least.1 := rfl
          rw [hcloser]
          by_cases hless : gap.lt least.1 = true
          · rw [if_pos hless]
            exact h.replace hgap fun found hfound => Option.some.inj hfound ▸ hless
          · rw [if_neg hless]
            refine h.keep fun far hfar => ⟨least, rfl, ?_⟩
            rw [Binary64.lt_eq_not_le (hnumber _ _ hgap) (h.isNan hnumber)] at hless
            rw [← Option.some.inj (hgap.symm.trans hfar)]
            simpa using hless

theorem FirstNearest.run (hnumber : ∀ item gap, gap? item = some gap → gap.isNan = false)
    {before : List α} {best : Option (Binary64 × α)} (h : FirstNearest gap? before best)
    (rest : List α) : FirstNearest gap? (before ++ rest) (rest.foldl (better gap?) best) := by
  induction rest generalizing before best with
  | nil => rwa [List.append_nil]
  | cons item rest ih =>
      have hall : before ++ item :: rest = (before ++ [item]) ++ rest := by simp
      rw [hall]
      exact ih (h.step hnumber item)

end Better

/-! ## Within reach -/

section Reach

variable (counts : α → Bool) (distance : α → Except Fault Binary64) (reach : Binary64)

/-- How far an item is, if it counts and is within reach. -/
def reached? (item : α) : Option Binary64 :=
  if counts item then (distance item).toOption.filter (·.le reach) else none

/-- An item that counts is within reach. Of the others that count, none before it is as near and
none after it nearer. -/
structure NearestOf (before : List α) (item : α) (after : List α) : Prop where
  is_counted : counts item = true
  is_nearest : ∃ gap, distance item = .ok gap ∧ gap.le reach = true ∧
    (∀ other ∈ before, counts other = true → ∀ far, distance other = .ok far →
      far.le gap = false) ∧
    ∀ other ∈ after, counts other = true → ∀ far, distance other = .ok far → far.lt gap = false

variable {item : α} {gap : Binary64}

theorem reached?_eq_some {counts : α → Bool} {distance : α → Except Fault Binary64}
    {reach : Binary64} : reached? counts distance reach item = some gap ↔
    counts item = true ∧ distance item = .ok gap ∧ gap.le reach = true := by
  unfold reached?
  by_cases hcounts : counts item = true
  · rw [if_pos hcounts]
    cases distance item with
    | error fault => simp [Except.toOption]
    | ok found => simp [Except.toOption, Option.filter_eq_some_iff, hcounts]
  · rw [if_neg hcounts]
    exact ⟨nofun, fun h => absurd h.1 hcounts⟩

/-- An item that counts replaces what was found so far exactly if it is within reach and better. -/
theorem labelled_better {β : Type} (label : α → β) (item : α) (hcounts : counts item = true)
    (hgap : distance item = .ok gap) (best : Option (Binary64 × α)) :
    labelled label (better (reached? counts distance reach) best item) =
      if gap.le reach && isCloser gap (labelled label best) then some (gap, label item)
      else labelled label best := by
  rw [isCloser_labelled]
  by_cases hreach : gap.le reach = true
  · have hsome : reached? counts distance reach item = some gap :=
      reached?_eq_some.2 ⟨hcounts, hgap, hreach⟩
    rw [hreach, Bool.true_and, better_of_some hsome]
    exact apply_ite (labelled label) ..
  · have hnone : reached? counts distance reach item = none := by
      rw [Option.eq_none_iff_forall_ne_some]
      intro far hfar
      obtain ⟨-, hsame, hnear⟩ := reached?_eq_some.1 hfar
      rw [Except.ok.inj (hgap.symm.trans hsame)] at hreach
      exact hreach hnear
    rw [Bool.eq_false_iff.2 hreach, Bool.false_and, better_of_none hnone]
    rfl

theorem better_of_not_counts (hcounts : ¬ counts item = true) (best : Option (Binary64 × α)) :
    better (reached? counts distance reach) best item = best := by
  have hnone : reached? counts distance reach item = none := if_neg hcounts
  exact better_of_none hnone best

/-- Looking through items one after another finds the first of the nearest within reach, and nothing
only if none is within reach. -/
theorem search_spec (items : List α) :
    (∃ before item after gap, items = before ++ item :: after ∧
      items.foldl (better (reached? counts distance reach)) none = some (gap, item) ∧
      NearestOf counts distance reach before item after) ∨
    (items.foldl (better (reached? counts distance reach)) none = none ∧
      ∀ item ∈ items, counts item = true → ∀ gap, distance item = .ok gap →
        gap.le reach = false) := by
  have hnumber : ∀ item gap, reached? counts distance reach item = some gap →
      gap.isNan = false := fun item gap h =>
    (Binary64.isNan_of_le (reached?_eq_some.1 h).2.2).1
  have hrun := FirstNearest.run hnumber
    (.nothing fun _ hmem => absurd hmem List.not_mem_nil) items
  rw [List.nil_append] at hrun
  generalize items.foldl (better (reached? counts distance reach)) none = best at hrun
  cases hrun with
  | nothing hnone =>
      refine .inr ⟨rfl, fun item hmem hcounts gap hgap => ?_⟩
      rw [Bool.eq_false_iff]
      intro hreach
      exact nomatch (hnone item hmem).symm.trans (reached?_eq_some.2 ⟨hcounts, hgap, hreach⟩)
  | @found before after item gap hgap hbefore hafter =>
      obtain ⟨hcounts, hdistance, hreach⟩ := reached?_eq_some.1 hgap
      have hnan := (Binary64.isNan_of_le hreach).1
      -- an item that is not farther than the one that was found is within reach too
      refine .inl ⟨before, item, after, gap, rfl, rfl, hcounts, gap, hdistance, hreach,
        fun other hmem hother far hfar => ?_, fun other hmem hother far hfar => ?_⟩
      · rw [Bool.eq_false_iff]
        intro hnear
        have hfarther := hbefore other hmem far
          (reached?_eq_some.2 ⟨hother, hfar, Binary64.le_trans hnear hreach⟩)
        rw [Binary64.lt_eq_not_le hnan (Binary64.isNan_of_le hnear).1, hnear] at hfarther
        exact Bool.noConfusion hfarther
      · rw [Bool.eq_false_iff]
        intro hnearer
        have hnear := Binary64.le_of_lt hnearer
        have hno := hafter other hmem far
          (reached?_eq_some.2 ⟨hother, hfar, Binary64.le_trans hnear hreach⟩)
        rw [Binary64.lt_eq_not_le (Binary64.isNan_of_le hnear).1 hnan, hno] at hnearer
        exact Bool.noConfusion hnearer

end Reach

end Search

/-! ## Distances -/

/-- Whether a point is one from which distances are numbers. -/
def Position.IsPlace (p : Position) : Prop :=
  p.x.isNan = false ∧ p.y.isNan = false ∧ p.z.isNan = false

instance (p : Position) : Decidable p.IsPlace :=
  inferInstanceAs (Decidable (_ ∧ _ ∧ _))

theorem Binary64.isFinite_of_ofInt? {n : Int} {value : Binary64}
    (h : Binary64.ofInt? n = some value) : value.isFinite = true := by
  unfold Binary64.ofInt? at h
  split at h
  · rename_i hfinite
    rw [Option.some.injEq] at h
    rw [← h]
    exact hfinite
  · exact nomatch h

namespace Coord

variable {coord : Coord} {origin : Position} {gap : Binary64}

/-- Whether all coordinates are small enough to be measured. -/
def IsMeasurable (coord : Coord) : Prop :=
  coord.corner?.isSome = true

instance (coord : Coord) : Decidable coord.IsMeasurable :=
  inferInstanceAs (Decidable (_ = true))

-- The definition is unfolded as a function: an application of it would be computed.
theorem distanceFrom_eq_elim : Coord.distanceFrom = fun origin (coord : Coord) =>
    coord.corner?.elim (.error Fault.integerTooLarge) fun corner =>
      .ok (origin.distance corner) := by
  unfold Coord.distanceFrom
  funext origin coord
  cases coord.corner? with
  | none => rfl
  | some corner => rfl

theorem distanceFrom_eq_ok : coord.distanceFrom origin = .ok gap ↔
    ∃ corner, coord.corner? = some corner ∧ origin.distance corner = gap := by
  simp only [distanceFrom_eq_elim]
  cases coord.corner? with
  | none => simp only [Option.elim_none, reduceCtorEq, false_and, exists_false]
  | some corner => simp only [Option.elim_some, Except.ok.injEq, Option.some.injEq,
      exists_eq_left']

theorem not_isMeasurable_of_error {fault : Fault} (h : coord.distanceFrom origin = .error fault) :
    ¬ coord.IsMeasurable := by
  intro hmeasured
  obtain ⟨corner, hcorner⟩ := Option.isSome_iff_exists.1 hmeasured
  exact nomatch h.symm.trans (distanceFrom_eq_ok.2 ⟨corner, hcorner, rfl⟩)

theorem isMeasurable_of_ok (h : coord.distanceFrom origin = .ok gap) : coord.IsMeasurable := by
  obtain ⟨corner, hcorner, -⟩ := distanceFrom_eq_ok.1 h
  exact Option.isSome_iff_exists.2 ⟨corner, hcorner⟩

theorem isFinite_of_corner? {corner : Position} (h : coord.corner? = some corner) :
    corner.x.isFinite = true ∧ corner.y.isFinite = true ∧ corner.z.isFinite = true := by
  simp only [corner?, Option.bind_eq_bind, Option.bind_eq_some_iff, Option.pure_def,
    Option.some.injEq] at h
  obtain ⟨x, hx, y, hy, z, hz, rfl⟩ := h
  exact ⟨Binary64.isFinite_of_ofInt? hx, Binary64.isFinite_of_ofInt? hy,
    Binary64.isFinite_of_ofInt? hz⟩

/-- The distance from a place is a number. -/
theorem isNan_of_distanceFrom (horigin : origin.IsPlace)
    (h : coord.distanceFrom origin = .ok gap) : gap.isNan = false := by
  obtain ⟨hx, hy, hz⟩ := horigin
  obtain ⟨corner, hcorner, hgap⟩ := distanceFrom_eq_ok.1 h
  obtain ⟨hcx, hcy, hcz⟩ := isFinite_of_corner? hcorner
  rw [← hgap, Position.distance]
  exact Binary64.isNan_norm (Binary64.isNan_sub hx hcx) (Binary64.isNan_sub hy hcy)
    (Binary64.isNan_sub hz hcz)

end Coord

end Rulebound
