/-!
# Tables

Keys with values, in the order in which the keys were first given. A key has one value. Giving a
key a new value keeps its place; an erased key that is given again comes last.
-/

namespace Rulebound

/-- A table. No key occurs twice. -/
structure Table (κ ν : Type) [DecidableEq κ] where
  entries : List (κ × ν)
  nodup : (entries.map Prod.fst).Nodup

namespace Table

variable {κ ν : Type} [DecidableEq κ]

def lookup? (entries : List (κ × ν)) (key : κ) : Option ν :=
  match entries with
  | [] => none
  | entry :: rest => if entry.1 = key then some entry.2 else lookup? rest key

/-- Entries with a value for a key, in its old place or at the end. -/
def put (entries : List (κ × ν)) (key : κ) (value : ν) : List (κ × ν) :=
  match entries with
  | [] => [(key, value)]
  | entry :: rest =>
      if entry.1 = key then (key, value) :: rest else entry :: put rest key value

def dropKey (entries : List (κ × ν)) (key : κ) : List (κ × ν) :=
  entries.filter fun entry => decide (entry.1 ≠ key)

theorem mem_keys_put (entries : List (κ × ν)) (key : κ) (value : ν) (other : κ) :
    other ∈ (put entries key value).map Prod.fst ↔ other = key ∨ other ∈ entries.map Prod.fst := by
  induction entries with
  | nil => simp [put]
  | cons entry rest ih =>
      by_cases h : entry.1 = key
      · simp [put, h]
      · simp only [put, h, ↓reduceIte, List.map_cons, List.mem_cons, ih]
        grind

theorem nodup_keys_put {entries : List (κ × ν)} (h : (entries.map Prod.fst).Nodup) (key : κ)
    (value : ν) : ((put entries key value).map Prod.fst).Nodup := by
  induction entries with
  | nil => simp [put]
  | cons entry rest ih =>
      simp only [List.map_cons, List.nodup_cons] at h
      by_cases hk : entry.1 = key
      · simp only [put, hk, ↓reduceIte, List.map_cons, List.nodup_cons]
        exact hk ▸ h
      · simp only [put, hk, ↓reduceIte, List.map_cons, List.nodup_cons, mem_keys_put]
        exact ⟨by grind, ih h.2⟩

theorem nodup_keys_dropKey {entries : List (κ × ν)} (h : (entries.map Prod.fst).Nodup) (key : κ) :
    ((dropKey entries key).map Prod.fst).Nodup :=
  h.sublist (List.filter_sublist.map Prod.fst)

def empty : Table κ ν :=
  ⟨[], List.nodup_nil⟩

instance : Inhabited (Table κ ν) := ⟨empty⟩

def get? (table : Table κ ν) (key : κ) : Option ν :=
  lookup? table.entries key

def contains (table : Table κ ν) (key : κ) : Bool :=
  (table.get? key).isSome

def insert (table : Table κ ν) (key : κ) (value : ν) : Table κ ν :=
  ⟨put table.entries key value, nodup_keys_put table.nodup key value⟩

def erase (table : Table κ ν) (key : κ) : Table κ ν :=
  ⟨dropKey table.entries key, nodup_keys_dropKey table.nodup key⟩

def ofList (entries : List (κ × ν)) : Table κ ν :=
  entries.foldl (fun table entry => table.insert entry.1 entry.2) empty

def keys (table : Table κ ν) : List κ :=
  table.entries.map Prod.fst

def size (table : Table κ ν) : Nat :=
  table.entries.length

instance [DecidableEq ν] : DecidableEq (Table κ ν) := fun a b =>
  decidable_of_iff (a.entries = b.entries) <| by
    constructor
    · intro h
      cases a
      cases b
      cases h
      rfl
    · rintro rfl
      rfl

end Table

end Rulebound
