import Rulebound.Cycle.Record
import Rulebound.Proofs.Json.RoundTrip

/-!
# Records and their values

The value of a record is decoded as the record. The value of each part holds the fields that its
decoder names, in their order, and each field holds what is decoded as its own part. The texts of a
record are settled, so that its value is read back as it was written.
-/

namespace Rulebound

namespace Checked

variable {α β : Type}

theorem map_good {f : α → β} {checked : Checked α} {value : α} (h : checked = .good value) :
    f <$> checked = .good (f value) := by
  rw [h]
  rfl

theorem seq_good {function : Checked (α → β)} {checked : Checked α} {f : α → β} {value : α}
    (hf : function = .good f) (h : checked = .good value) :
    function <*> checked = .good (f value) := by
  rw [hf, h]
  rfl

end Checked

namespace Decode

variable {α : Type} {fields : Json.Fields} {name : String} {field : Json} {value : α}
  {decode : Json → Checked α}

theorem required_good (hfield : Json.lookup? fields name = some field)
    (h : decode field = .good value) : required fields name decode = .good value := by
  unfold required
  rw [hfield]
  dsimp only
  rw [h]
  rfl

theorem withDefault_good {usual : α} (hfield : Json.lookup? fields name = some field)
    (h : decode field = .good value) : withDefault fields name decode usual = .good value := by
  unfold withDefault
  rw [hfield]
  dsimp only
  rw [h]
  rfl

theorem only_good {names : List String} (hnames : fields.map (·.1) = names.map .plain)
    {checked : Checked α} (h : checked = .good value) :
    only names fields checked = .good value := by
  have hmem : ∀ field ∈ fields, ∃ name ∈ names, field.1 = .plain name := by
    intro field hfield
    have hname : field.1 ∈ names.map CodeText.plain := hnames ▸ List.mem_map_of_mem hfield
    obtain ⟨name, hname, heq⟩ := List.mem_map.1 hname
    exact ⟨name, hname, heq.symm⟩
  have hall : fields.any (!·.1.isPlain) = false := by
    rw [List.any_eq_false]
    intro field hfield
    obtain ⟨name, -, heq⟩ := hmem field hfield
    simp [heq, CodeText.isPlain]
  have hknown : fields.filterMap (extraIssue? names) = [] := by
    rw [List.filterMap_eq_nil_iff]
    intro field hfield
    obtain ⟨name, hname, heq⟩ := hmem field hfield
    have hcontains : names.contains field.1.shown = true := by
      rw [heq]
      exact List.contains_iff_mem.2 hname
    unfold extraIssue?
    rw [if_pos hcontains]
  unfold only
  rw [if_neg (by simp [hall]), hknown, h]
  rfl

theorem object_good {names : List String} {check : Json.Fields → Checked α}
    (hnames : fields.map (·.1) = names.map .plain) (h : check fields = .good value) :
    object (fun fields => only names fields (check fields)) (.object fields) = .good value :=
  only_good hnames h

theorem optional_text (text? : Option String) :
    optional text (.ofText? text?) = .good text? := by
  cases text? <;> rfl

theorem optional_getD {toJson : α → Json} (value? : Option α)
    (hnull : ∀ value, toJson value ≠ .null) (h : ∀ value, decode (toJson value) = .good value) :
    optional decode ((value?.map toJson).getD .null) = .good value? := by
  cases value? with
  | none => rfl
  | some value =>
      rw [Option.map_some, Option.getD_some]
      unfold optional
      split
      · rename_i heq
        exact absurd heq (hnull value)
      · rw [h]
        rfl

theorem all_itemsFrom (toJson : α → Json) (h : ∀ value, decode (toJson value) = .good value)
    (values : List α) (place : Nat) :
    Checked.all (itemsFrom decode place (values.map toJson)) = .good values := by
  induction values generalizing place with
  | nil => rfl
  | cons value values ih =>
      rw [List.map_cons, itemsFrom, h, Checked.under, Checked.all, ih]
      rfl

theorem list_good (toJson : α → Json) (h : ∀ value, decode (toJson value) = .good value)
    (values : List α) : list decode (.array (values.map toJson)) = .good values :=
  all_itemsFrom toJson h values 0

theorem list_texts (texts : List String) : list text (.ofTexts texts) = .good texts :=
  list_good (fun text => .string (.plain text)) (fun _ => rfl) texts

theorem tuple_texts (texts : List String) : tuple text (.ofTexts texts) = .good texts :=
  list_texts texts

end Decode

open Checked (map_good seq_good)
open Decode (required_good withDefault_good object_good optional_text optional_getD list_good
  list_texts tuple_texts)

theorem Position.decode_toJson (p : Position) : decode p.toJson = .good p := by
  obtain ⟨x, y, z⟩ := p
  refine object_good (by rfl) ?_
  refine seq_good (seq_good (map_good ?_) ?_) ?_
  · exact required_good rfl rfl
  · exact required_good rfl rfl
  · exact required_good rfl rfl

theorem Sighting.decode_toJson (s : Sighting) : decode s.toJson = .good s := by
  obtain ⟨type, name, distance⟩ := s
  refine object_good (by rfl) ?_
  refine seq_good (seq_good (map_good ?_) ?_) ?_
  · exact required_good rfl rfl
  · exact withDefault_good rfl (optional_text name)
  · exact required_good rfl rfl

theorem Item.decode_toJson (item : Item) : decode item.toJson = .good item := by
  obtain ⟨name, count⟩ := item
  refine object_good (by rfl) ?_
  refine seq_good (map_good ?_) ?_
  · exact required_good rfl rfl
  · exact required_good rfl rfl

theorem Observation.decode_toJson (o : Observation) : decode o.toJson = .good o := by
  obtain ⟨position, health, food, timeOfDay, weather, blocks, beings, inventory, biome⟩ := o
  refine object_good (by rfl) ?_
  refine seq_good (seq_good (seq_good (seq_good (seq_good (seq_good
    (seq_good (seq_good (map_good ?_) ?_) ?_) ?_) ?_) ?_) ?_) ?_) ?_
  · exact required_good rfl position.decode_toJson
  · exact required_good rfl rfl
  · exact required_good rfl rfl
  · exact required_good rfl rfl
  · exact required_good rfl rfl
  · exact withDefault_good rfl (list_texts blocks)
  · exact withDefault_good rfl (list_good Sighting.toJson Sighting.decode_toJson beings)
  · exact withDefault_good rfl (list_good Item.toJson Item.decode_toJson inventory)
  · exact withDefault_good rfl rfl

theorem Action.decode_toJson (action : Action) : decode action.toJson = .good action := by
  obtain ⟨verb, params, raw⟩ := action
  refine object_good (by rfl) ?_
  refine seq_good (seq_good (map_good ?_) ?_) ?_
  · exact required_good rfl rfl
  · cases params with
    | none => exact withDefault_good rfl rfl
    | some words =>
        exact withDefault_good rfl (congrArg (Checked.map some) (tuple_texts words))
  · exact withDefault_good rfl rfl

namespace Cycle

theorem Result.decode_toJson (result : Result) : decode result.toJson = .good result := by
  obtain ⟨success, message⟩ := result
  refine object_good (by rfl) ?_
  refine seq_good (map_good ?_) ?_
  · exact required_good rfl rfl
  · exact withDefault_good rfl (optional_text message)

/-- A record is decoded from its value, field for field. -/
theorem Record.decode_toJson (record : Record) : decode record.toJson = .good record := by
  obtain ⟨tick, timestamp, goal, observation, reasoning, action, result, violation⟩ := record
  refine object_good (by rfl) ?_
  refine seq_good (seq_good (seq_good (seq_good (seq_good (seq_good
    (seq_good (map_good ?_) ?_) ?_) ?_) ?_) ?_) ?_) ?_
  · exact required_good rfl rfl
  · exact required_good rfl rfl
  · exact required_good rfl rfl
  · exact withDefault_good rfl
      (optional_getD observation (fun _ => nofun) Observation.decode_toJson)
  · exact withDefault_good rfl (optional_text reasoning)
  · exact withDefault_good rfl (optional_getD action (fun _ => nofun) Action.decode_toJson)
  · exact required_good rfl result.decode_toJson
  · exact withDefault_good rfl (optional_text violation)

end Cycle

/-! ## What is read back -/

open Json (IsSettled HaveSettled)

theorem Position.isSettled (p : Position) : p.toJson.IsSettled := by
  simp [toJson, IsSettled, HaveSettled, CodeText.IsSettled]

theorem Sighting.isSettled (s : Sighting) : s.toJson.IsSettled := by
  simp [toJson, IsSettled, HaveSettled, CodeText.IsSettled]

theorem Item.isSettled (item : Item) : item.toJson.IsSettled := by
  simp [toJson, IsSettled, HaveSettled, CodeText.IsSettled]

theorem Observation.isSettled (o : Observation) : o.toJson.IsSettled := by
  have hbeings := Json.isSettled_list o.nearbyEntities Sighting.isSettled
  have hitems := Json.isSettled_list o.inventory Item.isSettled
  simp only [IsSettled] at hbeings hitems
  simp [toJson, IsSettled, HaveSettled, CodeText.IsSettled, hbeings, hitems, o.position.isSettled]

theorem Action.isSettled (action : Action) : action.toJson.IsSettled := by
  cases hparams : action.params <;>
    simp [toJson, IsSettled, HaveSettled, CodeText.IsSettled, hparams]

theorem Cycle.Result.isSettled (result : Cycle.Result) : result.toJson.IsSettled := by
  simp [toJson, IsSettled, HaveSettled, CodeText.IsSettled]

theorem Cycle.Record.isSettled (record : Cycle.Record) : record.toJson.IsSettled := by
  cases hseen : record.observation <;> cases haction : record.action <;>
    simp [toJson, IsSettled, HaveSettled, CodeText.IsSettled, hseen, haction,
      Observation.isSettled, Action.isSettled, Cycle.Result.isSettled]

end Rulebound
