import Mathlib.Data.List.TakeWhile

/-!
# Runs of characters

The maximal runs of characters of a kind that a text holds, in their order: what is left of the
text when it is split at all other characters. What a maximal run is, is said apart from how the
runs are found.
-/

namespace Rulebound.Text

variable {p q : Char → Bool} {text run rest : List Char} {found : List (List Char)}

/-- A text holds some runs of characters of a kind and no others: every run is one piece, and no
character of the kind stands next to it. -/
inductive HasRuns (p : Char → Bool) : List Char → List (List Char) → Prop
  | nil : HasRuns p [] []
  | skip {c : Char} {rest : List Char} {found : List (List Char)} (other : p c = false)
      (later : HasRuns p rest found) : HasRuns p (c :: rest) found
  | run {run rest : List Char} {found : List (List Char)} (ne_nil : run ≠ [])
      (all : ∀ c ∈ run, p c = true) (ends : ∀ c ∈ rest.head?, p c = false)
      (later : HasRuns p rest found) : HasRuns p (run ++ rest) (run :: found)

/-- The maximal runs of a text. -/
def runs (p : Char → Bool) (text : List Char) : List (List Char) :=
  (text.splitOnP (!p ·)).filter (!·.isEmpty)

theorem runs_cons_of_not {c : Char} (hc : p c = false) : runs p (c :: rest) = runs p rest := by
  simp [runs, List.splitOnP_cons_eq_if_modifyHead, hc]

theorem runs_append (hne : run ≠ []) (hall : ∀ c ∈ run, p c = true)
    (hends : ∀ c ∈ rest.head?, p c = false) : runs p (run ++ rest) = run :: runs p rest := by
  have hnone : ∀ c ∈ run, (!p c) = false := fun c hc => by simp [hall c hc]
  cases rest with
  | nil =>
      rw [List.append_nil]
      simp [runs, List.splitOnP_eq_singleton hnone, hne]
  | cons c rest =>
      have hc : p c = false := hends c rfl
      rw [runs_cons_of_not hc]
      simp [runs, List.splitOnP_append_cons_of_forall_mem hnone c (by simp [hc]), hne]

theorem HasRuns.runs_eq (h : HasRuns p text found) : runs p text = found := by
  induction h with
  | nil => rfl
  | skip hother _ ih => rw [runs_cons_of_not hother, ih]
  | run hne hall hends _ ih => rw [runs_append hne hall hends, ih]

-- A run is taken off the text as a whole, so the induction is on the length.
theorem hasRuns_runs (text : List Char) : HasRuns p text (runs p text) := by
  induction hlength : text.length using Nat.strong_induction_on generalizing text with
  | _ length ih =>
      cases text with
      | nil => exact .nil
      | cons c rest =>
          subst hlength
          cases hc : p c with
          | false =>
              rw [runs_cons_of_not hc]
              exact .skip hc (ih rest.length (by simp) rest rfl)
          | true =>
              have hne : (c :: rest).takeWhile p ≠ [] := by simp [hc]
              have hall : ∀ d ∈ (c :: rest).takeWhile p, p d = true := fun d hd =>
                List.mem_takeWhile_imp hd
              have hends : ∀ d ∈ ((c :: rest).dropWhile p).head?, p d = false := by
                intro d hd
                have hhead := List.head?_dropWhile_not p (c :: rest)
                rw [Option.mem_def.1 hd] at hhead
                simpa using hhead
              have hshorter : ((c :: rest).dropWhile p).length < (c :: rest).length := by
                rw [List.dropWhile_cons_of_pos hc]
                exact Nat.lt_succ_of_le (List.length_dropWhile_le p rest)
              rw [← List.takeWhile_append_dropWhile (p := p) (l := c :: rest),
                runs_append hne hall hends]
              exact .run hne hall hends (ih _ hshorter _ rfl)

/-- Only its maximal runs are the runs that a text holds. -/
theorem hasRuns_iff : HasRuns p text found ↔ runs p text = found :=
  ⟨HasRuns.runs_eq, fun h => h ▸ hasRuns_runs text⟩

theorem HasRuns.congr (h : HasRuns p text found) (hsame : ∀ c ∈ text, p c = q c) :
    HasRuns q text found := by
  induction h with
  | nil => exact .nil
  | skip hother _ ih =>
      obtain ⟨hfirst, hrest⟩ := List.forall_mem_cons.1 hsame
      exact .skip (hfirst ▸ hother) (ih hrest)
  | run hne hall hends _ ih =>
      obtain ⟨hrun, hrest⟩ := List.forall_mem_append.1 hsame
      exact .run hne (fun c hc => hrun c hc ▸ hall c hc)
        (fun c hc => hrest c (List.mem_of_mem_head? hc) ▸ hends c hc) (ih hrest)

end Rulebound.Text
