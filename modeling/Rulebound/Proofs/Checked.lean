import Mathlib.Data.List.Forall2
import Rulebound.Schema.Decode

/-!
# What checks let through

A check of several parts lets a value through exactly if each part lets its own through. A decoder
may let through the values that hold something, and nothing else; a field that it reads and that is
absent counts as if its usual value were written there.
-/

namespace Rulebound

namespace Checked

variable {α β : Type}

theorem map_eq_good {f : α → β} {checked : Checked α} {value : β} :
    f <$> checked = .good value ↔ ∃ given, checked = .good given ∧ f given = value := by
  cases checked with
  | good given =>
      have hmap : f <$> Checked.good given = .good (f given) := rfl
      simp [hmap]
  | bad issues =>
      have hmap : f <$> (Checked.bad issues : Checked α) = .bad issues := rfl
      simp [hmap]

theorem seq_eq_good {function : Checked (α → β)} {checked : Checked α} {value : β} :
    function <*> checked = .good value ↔
      ∃ f given, function = .good f ∧ checked = .good given ∧ f given = value := by
  have hseq : function <*> checked = function.apply checked := rfl
  rw [hseq]
  cases function <;> cases checked <;> simp [apply]

theorem under_eq_good {checked : Checked α} {step : Step} {value : α} :
    checked.under step = .good value ↔ checked = .good value := by
  cases checked <;> simp [under]

theorem andThen_eq_good {checked : Checked α} {next : α → Checked β} {value : β} :
    checked.andThen next = .good value ↔
      ∃ given, checked = .good given ∧ next given = .good value := by
  cases checked <;> simp [andThen]

theorem toExcept_eq_ok {checked : Checked α} {value : α} :
    checked.toExcept = .ok value ↔ checked = .good value := by
  cases checked <;> simp [toExcept]

theorem toExcept_cases (checked : Checked α) :
    (∃ value, checked = .good value) ∨
      ∃ fault, checked.toExcept = .error fault ∧ fault.kind = .validation := by
  cases checked with
  | good value => exact .inl ⟨value, rfl⟩
  | bad issues => exact .inr ⟨_, rfl, rfl⟩

end Checked

namespace Decode

variable {α : Type} {fields : Json.Fields} {name : String} {value : α} {decode : Json → Checked α}

theorem object_eq_good {decode : Json.Fields → Checked α} {given : Json} :
    object decode given = .good value ↔
      ∃ fields, given = .object fields ∧ decode fields = .good value := by
  cases given <;> simp [object, Checked.fail]

theorem atLeast_eq_good {holds : α → Bool} {checked : Checked α} :
    atLeast holds checked = .good value ↔ checked = .good value ∧ holds value = true := by
  unfold atLeast
  rw [Checked.andThen_eq_good]
  constructor
  · rintro ⟨given, hgiven, hbound⟩
    split at hbound
    · rename_i hholds
      rw [Checked.good.injEq] at hbound
      exact hbound ▸ ⟨hgiven, hholds⟩
    · exact nomatch hbound
  · rintro ⟨hgiven, hholds⟩
    exact ⟨value, hgiven, if_pos hholds⟩

/-- A decoder lets through the values that hold a thing, and nothing else. -/
def Reads (decode : Json → Checked α) (Holds : Json → α → Prop) : Prop :=
  ∀ given value, decode given = .good value ↔ Holds given value

def Shows (given : Json) (shown : String) : Prop :=
  ∃ code : CodeText, given = .string code ∧ code.shown = shown

theorem reads_text : Reads text Shows := by
  intro given value
  cases given <;> simp [text, Shows, Checked.fail]

/-- A value is a list whose items hold some things, one each. -/
def HoldsAll (Holds : Json → α → Prop) (given : Json) (values : List α) : Prop :=
  ∃ items, given = .array items ∧ List.Forall₂ Holds items values

section

variable {Holds : Json → α → Prop} (h : Reads decode Holds)

include h

theorem all_itemsFrom_eq_good (place : Nat) (items : List Json) (values : List α) :
    Checked.all (itemsFrom decode place items) = .good values ↔
      List.Forall₂ Holds items values := by
  induction items generalizing place values with
  | nil => cases values <;> simp [itemsFrom, Checked.all]
  | cons item rest ih =>
      have hcons : Checked.all (itemsFrom decode place (item :: rest)) =
          List.cons <$> (decode item).under (.index place) <*>
            Checked.all (itemsFrom decode (place + 1) rest) := rfl
      rw [hcons, Checked.seq_eq_good, List.forall₂_cons_left_iff]
      simp only [Checked.map_eq_good, Checked.under_eq_good, h item, ih]
      constructor
      · rintro ⟨_, others, ⟨first, hfirst, rfl⟩, hothers, rfl⟩
        exact ⟨first, others, hfirst, hothers, rfl⟩
      · rintro ⟨first, others, hfirst, hothers, rfl⟩
        exact ⟨_, others, ⟨first, hfirst, rfl⟩, hothers, rfl⟩

theorem Reads.list : Reads (list decode) (HoldsAll Holds) := by
  intro given values
  unfold HoldsAll
  cases given with
  | array items => simp [Decode.list, all_itemsFrom_eq_good h]
  | _ => simp [Decode.list, Checked.fail]

theorem Reads.withDefault {given : Json} {usual : α} (hgiven : decode given = .good usual) :
    withDefault fields name decode usual = .good value ↔
      Holds ((Json.lookup? fields name).getD given) value := by
  unfold Decode.withDefault
  cases Json.lookup? fields name with
  | some field =>
      dsimp only
      rw [Checked.under_eq_good, h, Option.getD_some]
  | none =>
      rw [Option.getD_none, ← h, hgiven]

end

end Decode

end Rulebound
