import Mathlib.Data.List.Nodup
import Mathlib.Data.List.Perm.Subperm
import Rulebound.Observation
import Rulebound.Proofs.Number.Order

/-!
# The nearest sightings

Of the beings within a distance, the nearest are noted: told in their order from near to far, each
of them comes before all that are farther, and of equally near ones the first come first. Only one
selection of beings is like that.
-/

namespace Rulebound

/-! ## Sorting keeps ties in order -/

section Ahead

variable {α : Type}

/-- One item comes before another in an order, or with it and earlier in their list. -/
def Ahead (le : α → α → Bool) (a b : α × ℕ) : Prop :=
  le a.1 b.1 = true ∧ (le b.1 a.1 = true → a.2 < b.2)

theorem Ahead.not_symm {le : α → α → Bool} {a b : α × ℕ} (hab : Ahead le a b) :
    ¬ Ahead le b a := by
  intro hba
  have hless := hab.2 hba.1
  have hmore := hba.2 hab.1
  omega

/-- Items that stand in the order of their places are ahead of one another when they are sorted. -/
theorem pairwise_ahead {le : α → α → Bool} (trans : ∀ a b c, le a b → le b c → le a c)
    (total : ∀ a b, le a b || le b a) {items : List (α × ℕ)}
    (h : items.Pairwise fun a b => a.2 < b.2) :
    (items.mergeSort fun a b => le a.1 b.1).Pairwise (Ahead le) := by
  induction items with
  | nil =>
      rw [List.mergeSort_nil]
      exact .nil
  | cons item rest ih =>
      obtain ⟨hfirst, hrest⟩ := List.pairwise_cons.1 h
      have htrans : ∀ a b c : α × ℕ, le a.1 b.1 → le b.1 c.1 → le a.1 c.1 :=
        fun a b c => trans a.1 b.1 c.1
      have htotal : ∀ a b : α × ℕ, le a.1 b.1 || le b.1 a.1 := fun a b => total a.1 b.1
      obtain ⟨before, after, hall, hothers, hbefore⟩ :=
        List.mergeSort_cons htrans htotal item rest
      have hsorted := List.pairwise_mergeSort htrans htotal (item :: rest)
      have hplaces : ∀ other ∈ before ++ after, item.2 < other.2 := by
        intro other hmem
        rw [← hothers, List.mem_mergeSort] at hmem
        exact hfirst other hmem
      specialize ih hrest
      rw [hothers] at ih
      rw [hall] at hsorted ⊢
      obtain ⟨hfront, hback, hacross⟩ := List.pairwise_append.1 ih
      have hafter := List.pairwise_cons.1 (List.pairwise_append.1 hsorted).2.1
      refine List.pairwise_append.2 ⟨hfront, List.pairwise_cons.2 ⟨?_, hback⟩, ?_⟩
      · intro other hmem
        exact ⟨hafter.1 other hmem, fun _ => hplaces other (List.mem_append_right _ hmem)⟩
      · intro other hmem next hnext
        rcases List.mem_cons.1 hnext with rfl | hlater
        -- what was put before the item is not only as near
        · have hless : le next.1 other.1 = false := by simpa using hbefore other hmem
          have heither := total other.1 next.1
          rw [hless, Bool.or_false] at heither
          exact ⟨heither, fun hle => absurd hle (Bool.eq_false_iff.1 hless)⟩
        · exact hacross other hmem next hlater

end Ahead

namespace Sighting

/-! ## The order of sightings -/

/-- What is seen of some beings: each has its own type and name, and its distance. -/
def seenFrom (origin : Position) (beings : List (String × Option String × Position)) :
    List Sighting :=
  beings.map fun (type, name, position) => ⟨type, name, origin.distance position⟩

/-- Whether a sighting is as near as another. -/
def isAsNear (a b : Sighting) : Bool :=
  a.distance.le b.distance

/-- The order of nearness, in which a distance that is no number comes first. -/
def isAsNearOrUnknown (a b : Sighting) : Bool :=
  a.distance.isNan || isAsNear a b

theorem isAsNearOrUnknown_trans (a b c : Sighting) (hab : isAsNearOrUnknown a b = true)
    (hbc : isAsNearOrUnknown b c = true) : isAsNearOrUnknown a c = true := by
  unfold isAsNearOrUnknown isAsNear at *
  rcases Bool.or_eq_true_iff.1 hab with hnan | hle
  · rw [hnan, Bool.true_or]
  · rw [(Binary64.isNan_of_le hle).2, Bool.false_or] at hbc
    rw [Binary64.le_trans hle hbc, Bool.or_true]

theorem isAsNearOrUnknown_total (a b : Sighting) :
    (isAsNearOrUnknown a b || isAsNearOrUnknown b a) = true := by
  unfold isAsNearOrUnknown isAsNear
  cases ha : a.distance.isNan with
  | true => simp
  | false =>
      cases hb : b.distance.isNan with
      | true => simp
      | false =>
          have hless := Binary64.lt_eq_not_le hb ha
          cases hle : a.distance.le b.distance with
          | true => simp
          | false =>
              rw [hle] at hless
              simp [Binary64.le_of_lt hless]

/-! ## The selection -/

variable {seen : List Sighting} {maxDistance : Binary64} {limit : ℕ}

/-- Sightings with their places in the list of all that is seen: no place twice, none too far, as
many as the limit lets through, the nearer and then the earlier ones first, and nothing left out
that would come before one of them. -/
structure AreNearest (seen : List Sighting) (maxDistance : Binary64) (limit : ℕ)
    (noted : List (Sighting × ℕ)) : Prop where
  seen_there : ∀ item ∈ noted, seen[item.2]? = some item.1
  nodup_places : (noted.map Prod.snd).Nodup
  in_range : ∀ item ∈ noted, item.1.distance.le maxDistance = true
  length_eq : noted.length = min limit (seen.countP (·.distance.le maxDistance))
  in_order : noted.Pairwise (Ahead isAsNear)
  ahead_of_others : ∀ other : Sighting × ℕ, seen[other.2]? = some other.1 →
    other.1.distance.le maxDistance = true → other ∉ noted →
      ∀ item ∈ noted, Ahead isAsNear item other

def inRange (seen : List Sighting) (maxDistance : Binary64) : List (Sighting × ℕ) :=
  seen.zipIdx.filter fun item => item.1.distance.le maxDistance

theorem mem_inRange {item : Sighting × ℕ} : item ∈ inRange seen maxDistance ↔
    seen[item.2]? = some item.1 ∧ item.1.distance.le maxDistance = true := by
  rw [inRange, List.mem_filter, List.mem_zipIdx_iff_getElem?]

theorem map_inRange : (inRange seen maxDistance).map Prod.fst =
    seen.filter (·.distance.le maxDistance) := by
  have hseen : seen.zipIdx.map Prod.fst = seen := List.zipIdx_map_fst 0 seen
  conv_rhs => rw [← hseen, List.filter_map]
  rfl

theorem length_inRange :
    (inRange seen maxDistance).length = seen.countP (·.distance.le maxDistance) := by
  rw [← List.length_map (f := Prod.fst), map_inRange, List.countP_eq_length_filter]

theorem pairwise_inRange : (inRange seen maxDistance).Pairwise fun a b => a.2 < b.2 := by
  refine List.Pairwise.filter _ ?_
  rw [← List.pairwise_map (f := Prod.snd), List.zipIdx_map_snd]
  exact List.pairwise_lt_range'

def sorted (seen : List Sighting) (maxDistance : Binary64) : List (Sighting × ℕ) :=
  (inRange seen maxDistance).mergeSort fun a b => isAsNear a.1 b.1

theorem isNan_of_mem_inRange {item : Sighting × ℕ} (h : item ∈ inRange seen maxDistance) :
    item.1.distance.isNan = false :=
  (Binary64.isNan_of_le (mem_inRange.1 h).2).1

theorem mem_sorted {item : Sighting × ℕ} : item ∈ sorted seen maxDistance ↔
    seen[item.2]? = some item.1 ∧ item.1.distance.le maxDistance = true :=
  List.mem_mergeSort.trans mem_inRange

theorem map_sorted : (sorted seen maxDistance).map Prod.fst =
    (seen.filter (·.distance.le maxDistance)).mergeSort isAsNear := by
  rw [← map_inRange]
  exact List.map_mergeSort fun _ _ _ _ => rfl

theorem nodup_sorted : ((sorted seen maxDistance).map Prod.snd).Nodup := by
  have hperm := (List.mergeSort_perm (inRange seen maxDistance) fun a b =>
    isAsNear a.1 b.1).map Prod.snd
  refine hperm.nodup_iff.2 (List.pairwise_map.2 ?_)
  exact pairwise_inRange.imp Nat.ne_of_lt

/-- Within a distance, everything is at a distance, so the order of nearness is total there. -/
theorem pairwise_sorted : (sorted seen maxDistance).Pairwise (Ahead isAsNear) := by
  have hsame : ∀ a ∈ inRange seen maxDistance, ∀ b : Sighting × ℕ,
      isAsNear a.1 b.1 = isAsNearOrUnknown a.1 b.1 := by
    intro a hmem b
    rw [isAsNearOrUnknown, isNan_of_mem_inRange hmem, Bool.false_or]
  have hsorted : sorted seen maxDistance =
      (inRange seen maxDistance).mergeSort fun a b => isAsNearOrUnknown a.1 b.1 := by
    have hmap := List.map_mergeSort (f := id) (s := fun a b => isAsNearOrUnknown a.1 b.1)
      fun a hmem b _ => hsame a hmem b
    rwa [List.map_id, List.map_id] at hmap
  have hahead := pairwise_ahead isAsNearOrUnknown_trans isAsNearOrUnknown_total
    (@pairwise_inRange seen maxDistance)
  rw [← hsorted] at hahead
  refine hahead.imp_of_mem fun {a b} ha hb hab => ?_
  have hamem := List.mem_mergeSort.1 ha
  have hbmem := List.mem_mergeSort.1 hb
  unfold Ahead at hab ⊢
  rwa [← hsame a hamem b, ← hsame b hbmem a] at hab

theorem areNearest_take :
    AreNearest seen maxDistance limit ((sorted seen maxDistance).take limit) where
  seen_there item hmem := (mem_sorted.1 (List.mem_of_mem_take hmem)).1
  nodup_places := by
    rw [List.map_take]
    exact nodup_sorted.sublist (List.take_sublist _ _)
  in_range item hmem := (mem_sorted.1 (List.mem_of_mem_take hmem)).2
  length_eq := by
    rw [List.length_take, sorted, List.length_mergeSort, length_inRange]
  in_order := pairwise_sorted.sublist (List.take_sublist _ _)
  ahead_of_others other hthere hnear hmissing item hmem := by
    have hall : (sorted seen maxDistance).take limit ++ (sorted seen maxDistance).drop limit =
        sorted seen maxDistance := List.take_append_drop _ _
    have hother : other ∈ (sorted seen maxDistance).drop limit := by
      have hsorted := mem_sorted.2 ⟨hthere, hnear⟩
      rw [← hall, List.mem_append] at hsorted
      exact hsorted.resolve_left hmissing
    have hordered := @pairwise_sorted seen maxDistance
    rw [← hall] at hordered
    exact (List.pairwise_append.1 hordered).2.2 item hmem other hother

namespace AreNearest

variable {noted others : List (Sighting × ℕ)}

theorem nodup (h : AreNearest seen maxDistance limit noted) : noted.Nodup :=
  .of_map Prod.snd h.nodup_places

/-- If one selection has a being that the other has not, each is ahead of the other. -/
theorem subset_or_subset (h : AreNearest seen maxDistance limit noted)
    (hothers : AreNearest seen maxDistance limit others) : noted ⊆ others ∨ others ⊆ noted := by
  by_contra hneither
  obtain ⟨hfirst, hlast⟩ := not_or.1 hneither
  obtain ⟨item, hitem, hmissing⟩ : ∃ item ∈ noted, item ∉ others := by
    simpa [List.subset_def] using hfirst
  obtain ⟨other, hother, habsent⟩ : ∃ other ∈ others, other ∉ noted := by
    simpa [List.subset_def] using hlast
  have hahead := h.ahead_of_others other (hothers.seen_there other hother)
    (hothers.in_range other hother) habsent item hitem
  have hbehind := hothers.ahead_of_others item (h.seen_there item hitem) (h.in_range item hitem)
    hmissing other hother
  exact hahead.not_symm hbehind

theorem eq (h : AreNearest seen maxDistance limit noted)
    (hothers : AreNearest seen maxDistance limit others) : noted = others := by
  have hlength : noted.length = others.length := h.length_eq.trans hothers.length_eq.symm
  have hperm : noted.Perm others := by
    rcases h.subset_or_subset hothers with hsub | hsub
    · exact (List.subperm_of_subset h.nodup hsub).perm_of_length_le
        (Nat.le_of_eq hlength.symm)
    · exact ((List.subperm_of_subset hothers.nodup hsub).perm_of_length_le
        (Nat.le_of_eq hlength)).symm
  refine hperm.eq_of_pairwise (fun a b _ _ hab hba => ?_) h.in_order hothers.in_order
  exact absurd hba hab.not_symm

end AreNearest

/-- The sightings that are noted are the nearest, and nothing else is: each is what is seen of a
being of its own, at a distance that is a number. -/
theorem notes_nearest (origin : Position) (beings : List (String × Option String × Position))
    (maxDistance : Binary64) (limit : ℕ) :
    ∃ noted, AreNearest (seenFrom origin beings) maxDistance limit noted ∧
      nearest origin beings maxDistance limit = noted.map Prod.fst ∧
      (∀ sighting ∈ nearest origin beings maxDistance limit, sighting.distance.isNan = false) ∧
      ∀ others, AreNearest (seenFrom origin beings) maxDistance limit others → others = noted := by
  let seen := seenFrom origin beings
  have hnearest : nearest origin beings maxDistance limit =
      ((sorted seen maxDistance).take limit).map Prod.fst := by
    have hlimit : ¬ (limit : Int) < 0 := by omega
    rw [List.map_take, map_sorted]
    unfold nearest
    dsimp only
    rw [if_neg hlimit, Int.toNat_natCast]
    rfl
  refine ⟨(sorted seen maxDistance).take limit, areNearest_take, hnearest, ?_,
    fun others hothers => hothers.eq areNearest_take⟩
  rw [hnearest, List.forall_mem_map]
  exact fun item hmem => (Binary64.isNan_of_le (areNearest_take.in_range item hmem)).1

end Sighting

end Rulebound
