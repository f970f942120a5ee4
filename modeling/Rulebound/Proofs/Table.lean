import Rulebound.Table

/-!
# Tables under change

What a table gives to each key after a change, and what a change does to a sum over all its
entries: it replaces the part of the key that is changed.
-/

namespace Rulebound.Table

variable {κ ν : Type} [DecidableEq κ]

/-! ## Entries and values -/

theorem lookup?_eq_none {entries : List (κ × ν)} {key : κ}
    (h : key ∉ entries.map Prod.fst) : lookup? entries key = none := by
  induction entries with
  | nil => rfl
  | cons entry rest ih =>
      simp only [List.map_cons, List.mem_cons, not_or] at h
      have hne : ¬ entry.1 = key := fun heq => h.1 heq.symm
      simp [lookup?, hne, ih h.2]

theorem lookup?_eq_some {entries : List (κ × ν)} (hnodup : (entries.map Prod.fst).Nodup) {key : κ}
    {value : ν} : lookup? entries key = some value ↔ (key, value) ∈ entries := by
  induction entries with
  | nil => simp [lookup?]
  | cons entry rest ih =>
      simp only [List.map_cons, List.nodup_cons] at hnodup
      by_cases hkey : entry.1 = key
      · subst hkey
        simp only [lookup?, ↓reduceIte, Option.some.injEq, List.mem_cons]
        constructor
        · rintro rfl
          exact .inl rfl
        · rintro (heq | hmem)
          · exact congrArg Prod.snd heq.symm
          · exact absurd (List.mem_map_of_mem hmem) hnodup.1
      · simp only [lookup?, hkey, ↓reduceIte, ih hnodup.2, List.mem_cons]
        refine ⟨.inr, fun hmem => hmem.resolve_left fun heq => hkey (congrArg Prod.fst heq).symm⟩

theorem get?_eq_some {table : Table κ ν} {key : κ} {value : ν} :
    table.get? key = some value ↔ (key, value) ∈ table.entries :=
  lookup?_eq_some table.nodup

theorem contains_eq_false {table : Table κ ν} {key : κ} :
    table.contains key = false ↔ table.get? key = none := by
  unfold contains
  cases table.get? key <;> simp

theorem lookup?_put (entries : List (κ × ν)) (key : κ) (value : ν) (other : κ) :
    lookup? (put entries key value) other =
      if key = other then some value else lookup? entries other := by
  induction entries with
  | nil => simp [put, lookup?]
  | cons entry rest ih =>
      by_cases hkey : entry.1 = key
      · subst hkey
        by_cases hother : entry.1 = other <;> simp [put, lookup?, hother]
      · by_cases hother : entry.1 = other
        · subst hother
          have hne : ¬ key = entry.1 := fun heq => hkey heq.symm
          simp [put, lookup?, hkey, hne]
        · simp [put, lookup?, hkey, hother, ih]

theorem put_put (entries : List (κ × ν)) (key : κ) (first last : ν) :
    put (put entries key first) key last = put entries key last := by
  induction entries with
  | nil => simp [put]
  | cons entry rest ih => by_cases hkey : entry.1 = key <;> simp [put, hkey, ih]

theorem dropKey_cons (entry : κ × ν) (rest : List (κ × ν)) (key : κ) :
    dropKey (entry :: rest) key =
      if entry.1 = key then dropKey rest key else entry :: dropKey rest key := by
  unfold dropKey
  by_cases hkey : entry.1 = key <;> simp [hkey]

theorem lookup?_dropKey (entries : List (κ × ν)) (key other : κ) :
    lookup? (dropKey entries key) other =
      if key = other then none else lookup? entries other := by
  induction entries with
  | nil => simp [dropKey, lookup?]
  | cons entry rest ih =>
      rw [dropKey_cons]
      by_cases hkey : entry.1 = key
      · subst hkey
        rw [if_pos rfl, ih]
        by_cases hother : entry.1 = other <;> simp [hother, lookup?]
      · by_cases hother : entry.1 = other
        · subst hother
          have hne : ¬ key = entry.1 := fun heq => hkey heq.symm
          simp [hkey, hne, lookup?]
        · simp [hkey, hother, ih, lookup?]

theorem get?_insert (table : Table κ ν) (key : κ) (value : ν) (other : κ) :
    (table.insert key value).get? other = if key = other then some value else table.get? other :=
  lookup?_put table.entries key value other

theorem insert_insert (table : Table κ ν) (key : κ) (first last : ν) :
    (table.insert key first).insert key last = table.insert key last := by
  simp only [insert, put_put]

theorem get?_erase (table : Table κ ν) (key other : κ) :
    (table.erase key).get? other = if key = other then none else table.get? other :=
  lookup?_dropKey table.entries key other

theorem dropKey_append_cons {before after : List (κ × ν)} {key : κ} {value : ν}
    (hnodup : ((before ++ (key, value) :: after).map Prod.fst).Nodup) :
    dropKey (before ++ (key, value) :: after) key = before ++ after := by
  rw [List.map_append, List.map_cons, List.nodup_append, List.nodup_cons] at hnodup
  obtain ⟨-, ⟨hafter, -⟩, hbefore⟩ := hnodup
  have hkeep : ∀ entry ∈ before ++ after, decide (entry.1 ≠ key) = true := by
    intro entry hmem
    refine decide_eq_true fun hkey => ?_
    rcases List.mem_append.1 hmem with hfirst | hlast
    · exact hbefore entry.1 (List.mem_map_of_mem hfirst) key List.mem_cons_self hkey
    · have hkept : entry.1 ∈ after.map Prod.fst := List.mem_map_of_mem hlast
      rw [hkey] at hkept
      exact hafter hkept
  rw [dropKey, List.filter_append, List.filter_cons_of_neg (by simp), ← List.filter_append,
    List.filter_eq_self.2 hkeep]

/-! ## Sums -/

section Sums

variable (f : κ → ν → Int)

def sumOf : List (κ × ν) → Int
  | [] => 0
  | entry :: rest => f entry.1 entry.2 + sumOf rest

def total (table : Table κ ν) : Int :=
  sumOf f table.entries

def share (table : Table κ ν) (key : κ) : Int :=
  (table.get? key).elim 0 (f key)

theorem sumOf_put (entries : List (κ × ν)) (key : κ) (value : ν) :
    sumOf f (put entries key value) =
      sumOf f entries - (lookup? entries key).elim 0 (f key) + f key value := by
  induction entries with
  | nil => simp [put, lookup?, sumOf]
  | cons entry rest ih =>
      by_cases hkey : entry.1 = key
      · subst hkey
        simp only [put, lookup?, ↓reduceIte, sumOf, Option.elim_some]
        omega
      · simp only [put, lookup?, hkey, ↓reduceIte, sumOf, ih]
        omega

theorem sumOf_dropKey {entries : List (κ × ν)} (hnodup : (entries.map Prod.fst).Nodup) (key : κ) :
    sumOf f (dropKey entries key) =
      sumOf f entries - (lookup? entries key).elim 0 (f key) := by
  induction entries with
  | nil => simp [dropKey, lookup?, sumOf]
  | cons entry rest ih =>
      simp only [List.map_cons, List.nodup_cons] at hnodup
      have hrest := ih hnodup.2
      rw [dropKey_cons]
      by_cases hkey : entry.1 = key
      · -- No other entry has this key, so what remains of the sum has no share of it.
        subst hkey
        rw [lookup?_eq_none hnodup.1] at hrest
        simp only [lookup?, ↓reduceIte, sumOf, Option.elim_some]
        simp only [Option.elim_none] at hrest
        omega
      · simp only [lookup?, hkey, ↓reduceIte, sumOf]
        omega

theorem total_insert (table : Table κ ν) (key : κ) (value : ν) :
    (table.insert key value).total f = table.total f - table.share f key + f key value :=
  sumOf_put f table.entries key value

theorem total_erase (table : Table κ ν) (key : κ) :
    (table.erase key).total f = table.total f - table.share f key :=
  sumOf_dropKey f table.nodup key

end Sums

end Rulebound.Table
