import Rulebound.Proofs.Text.Lower
import Rulebound.Proofs.Text.Pieces
import Rulebound.Proofs.Text.Runs
import Rulebound.Rule

/-!
# What a rule names

A material is named by a whole run of letters and digits. So looking for one at every place of a
text, between places where no such run goes on, finds the first of the runs that is a material, and
it does not matter that one material ends in another.
-/

namespace Rulebound.Rule

variable {run rest text : List Char} {found : List (List Char)}

/-! ## Characters of names -/

theorem isNameChar_eq_isAlphanum {c : Char} (h : c.isUpper = false) :
    isNameChar c = c.isAlphanum := by
  have hkinds : c.isAlphanum = (c.isUpper || isNameChar c) := Bool.or_assoc ..
  rw [hkinds, h, Bool.false_or]

theorem materials_isNameChar :
    ∀ material ∈ materials, material.toList ≠ [] ∧ ∀ c ∈ material.toList, isNameChar c = true := by
  have hall : (materials.all fun material =>
      !material.toList.isEmpty && material.toList.all isNameChar) = true := by decide
  intro material hmem
  have hmaterial := List.all_eq_true.1 hall material hmem
  rw [Bool.and_eq_true, List.all_eq_true, Bool.not_eq_true', List.isEmpty_eq_false_iff] at hmaterial
  exact hmaterial

/-! ## Materials at the front -/

theorem ends_at_front_iff {name : List Char} : (Text.startsWith name text &&
    !((text.drop name.length).head?.map isNameChar).getD false) = true ↔
      ∃ later, name ++ later = text ∧ ∀ c ∈ later.head?, isNameChar c = false := by
  rw [Bool.and_eq_true, Text.startsWith_iff]
  constructor
  · rintro ⟨⟨later, rfl⟩, hends⟩
    rw [List.drop_left] at hends
    refine ⟨later, rfl, fun c hc => ?_⟩
    rw [Option.mem_def.1 hc] at hends
    simpa using hends
  · rintro ⟨later, rfl, hends⟩
    rw [List.drop_left]
    refine ⟨List.prefix_append .., ?_⟩
    cases hhead : later.head? with
    | none => rfl
    | some c => simp [hends c hhead]

theorem run_eq_of_append_eq {name later : List Char} (h : name ++ later = run ++ rest)
    (hname : ∀ c ∈ name, isNameChar c = true) (hlater : ∀ c ∈ later.head?, isNameChar c = false)
    (hrun : ∀ c ∈ run, isNameChar c = true) (hends : ∀ c ∈ rest.head?, isNameChar c = false) :
    name = run := by
  have hnil : ∀ {more back front : List Char}, (∀ c ∈ front ++ more, isNameChar c = true) →
      (∀ c ∈ (more ++ back).head?, isNameChar c = false) → more = [] := by
    intro more back front hall hnone
    cases more with
    | nil => rfl
    | cons c more =>
        have htrue := hall c (by simp)
        rw [hnone c rfl] at htrue
        exact nomatch htrue
  rcases List.append_eq_append_iff.1 h with ⟨more, rfl, rfl⟩ | ⟨more, rfl, rfl⟩
  · rw [hnil hrun hlater, List.append_nil]
  · rw [hnil hname hends, List.append_nil]

theorem materialAtFront?_run (hrun : ∀ c ∈ run, isNameChar c = true)
    (hends : ∀ c ∈ rest.head?, isNameChar c = false) :
    materialAtFront? (run ++ rest) =
      if String.ofList run ∈ materials then some (String.ofList run) else none := by
  cases hfront : materialAtFront? (run ++ rest) with
  | some material =>
      have hmem := List.mem_of_find?_eq_some hfront
      have hfits := List.find?_some hfront
      obtain ⟨later, hsplit, hlater⟩ := ends_at_front_iff.1 hfits
      have hwhole := run_eq_of_append_eq hsplit (materials_isNameChar material hmem).2 hlater
        hrun hends
      rw [← hwhole, String.ofList_toList, if_pos hmem]
  | none =>
      refine (if_neg fun hmem => ?_).symm
      have hsame : (String.ofList run).toList ++ rest = run ++ rest := by rw [String.toList_ofList]
      exact List.find?_eq_none.1 hfront _ hmem (ends_at_front_iff.2 ⟨rest, hsame, hends⟩)

/-- No material begins with a character of another kind. -/
theorem materialAtFront?_skip {c : Char} (hc : isNameChar c = false) :
    materialAtFront? (c :: rest) = none := by
  refine List.find?_eq_none.2 fun material hmem hfits => ?_
  obtain ⟨hne, hall⟩ := materials_isNameChar material hmem
  obtain ⟨later, hsplit, -⟩ := ends_at_front_iff.1 hfits
  obtain ⟨d, more, hcons⟩ := List.exists_cons_of_ne_nil hne
  rw [hcons, List.cons_append, List.cons.injEq] at hsplit
  rw [hcons] at hall
  have htrue := hall d List.mem_cons_self
  rw [hsplit.1, hc] at htrue
  exact nomatch htrue

/-! ## Materials in a text -/

theorem firstMaterial?_skip {within : Bool} {c : Char} (hc : isNameChar c = false) :
    firstMaterial? within (c :: rest) = firstMaterial? false rest := by
  cases within <;> simp [firstMaterial?, materialAtFront?_skip hc, hc]

theorem firstMaterial?_within (hrun : ∀ c ∈ run, isNameChar c = true)
    (hends : ∀ c ∈ rest.head?, isNameChar c = false) :
    firstMaterial? true (run ++ rest) = firstMaterial? false rest := by
  induction run with
  | nil =>
      cases rest with
      | nil => rfl
      | cons c rest =>
          have hc := hends c rfl
          rw [List.nil_append, firstMaterial?_skip hc, firstMaterial?_skip hc]
  | cons c run ih =>
      obtain ⟨hc, hrest⟩ := List.forall_mem_cons.1 hrun
      rw [List.cons_append, firstMaterial?, if_pos rfl, hc]
      exact ih hrest

/-- The first material that a text names is the first of its runs that is a material. -/
theorem firstMaterial?_of_hasRuns (h : Text.HasRuns isNameChar text found) :
    firstMaterial? false text = (found.map String.ofList).find? (· ∈ materials) := by
  induction h with
  | nil => rfl
  | skip hother _ ih => rw [firstMaterial?_skip hother, ih]
  | @run run rest found hne hall hends _ ih =>
      obtain ⟨c, more, rfl⟩ := List.exists_cons_of_ne_nil hne
      obtain ⟨hc, hmore⟩ := List.forall_mem_cons.1 hall
      rw [List.cons_append, firstMaterial?, if_neg Bool.false_ne_true, ← List.cons_append,
        materialAtFront?_run hall hends, List.map_cons, List.find?_cons]
      by_cases hmem : String.ofList (c :: more) ∈ materials
      · rw [if_pos hmem, decide_eq_true hmem]
      · rw [if_neg hmem, decide_eq_false hmem, hc]
        exact (firstMaterial?_within hmore hends).trans ih

/-! ## Scopes -/

/-- The first category of which a text holds a phrase. -/
theorem category?_eq (text : String) :
    category? text = (categories.find? fun category =>
      decide (∃ phrase ∈ category.2, phrase.toList <:+: text.toList)).map (·.1) := by
  unfold category? holdsAny
  congr 2
  funext category
  rw [Bool.eq_iff_iff, List.any_eq_true, decide_eq_true_iff]
  simp only [Text.contains_iff]

/-- The scope that a text names, read off its lower case: the action is the first verb, in the order
of the verbs, that stands anywhere in it; the target is the first of its maximal runs of ASCII
letters and digits that is a material, and, if none is, the first category of which a phrase stands
anywhere in it. -/
theorem scopeOf_by_runs (text : String) :
    Text.HasRuns Char.isAlphanum (Text.lower text).toList
        (Text.runs Char.isAlphanum (Text.lower text).toList) ∧
      (scopeOf text).target =
        (((Text.runs Char.isAlphanum (Text.lower text).toList).map String.ofList).find?
          (· ∈ materials)).or
          ((categories.find? fun category => decide
            (∃ phrase ∈ category.2, phrase.toList <:+: (Text.lower text).toList)).map (·.1)) ∧
      (scopeOf text).action =
        verbs.find? fun verb => decide (verb.toList <:+: (Text.lower text).toList) := by
  have hruns : Text.HasRuns Char.isAlphanum (Text.lower text).toList
      (Text.runs Char.isAlphanum (Text.lower text).toList) := Text.hasRuns_iff.2 rfl
  have hnames := hruns.congr fun c hc =>
    (isNameChar_eq_isAlphanum (Text.isUpper_of_mem_lower hc)).symm
  refine ⟨hruns, ?_, ?_⟩
  · rw [← firstMaterial?_of_hasRuns hnames, ← category?_eq]
    rfl
  · unfold scopeOf
    dsimp only
    congr 1
    funext verb
    rw [Bool.eq_iff_iff, Text.contains_iff, decide_eq_true_iff]

-- A material within a longer run is passed over, and so is a category that comes first.
example : scopeOf "Never mine SANDSTONE blocks: cobblestone_slab, stone" =
    ⟨some "mine", some "cobblestone"⟩ := by
  decide

end Rulebound.Rule
