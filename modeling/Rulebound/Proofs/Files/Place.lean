import Mathlib.Data.List.TakeWhile
import Rulebound.Proofs.Files

/-!
# Where paths lead

A path that leads anywhere leads to a place that is settled by the path alone, and on the way to it
there are folders only. What lies directly within a folder is listed there by its name.
-/

namespace Rulebound

/-- The place that a name leads to from another place. -/
def Place.step (place : Place) (name : String) : Place :=
  if name = ".." then place.parent else place.child name

theorem Place.child_of_name? {place folder : Place} {name : String}
    (hparent : place.parent = folder) (hdeep : place.depth ≠ 0)
    (hname : place.name? = some name) : folder.child name = place := by
  obtain ⟨depth, names, hdepth⟩ := place
  cases names with
  | nil => exact absurd hdepth hdeep
  | cons first rest =>
      obtain rfl := Option.some.inj hname
      subst hparent hdepth
      rfl

def PathStart.place (start : PathStart) : Place :=
  if start = .here then .top else Place.top.child start.text

def Path.place (path : Path) : Place :=
  path.parts.foldl Place.step path.start.place

namespace Text

theorem joinChars_concat {separator : List Char} {texts : List (List Char)} (h : texts ≠ [])
    (text : List Char) :
    joinChars separator (texts ++ [text]) = joinChars separator texts ++ separator ++ text := by
  induction texts with
  | nil => contradiction
  | cons first rest ih =>
      cases rest with
      | nil => simp [joinChars]
      | cons next rest =>
          have hlater := ih (List.cons_ne_nil next rest)
          simp only [List.cons_append, joinChars] at hlater ⊢
          rw [hlater]
          simp

theorem exists_join_concat (separator : String) (texts : List String) (text : String) :
    ∃ rest, join separator (texts ++ [text]) = join separator texts ++ rest := by
  cases texts with
  | nil => exact ⟨text, by simp [join, joinChars]⟩
  | cons first rest =>
      have hfirst : (first :: rest).map String.toList ≠ [] := by simp
      refine ⟨separator ++ text, ?_⟩
      rw [join, List.map_append, List.map_singleton, joinChars_concat hfirst]
      simp [join]

end Text

/-! ## Paths that can be followed -/

namespace Path

/-- The text of a path is good: its characters and its length allow it to be followed. -/
structure IsGood (path : Path) : Prop where
  noNul : path.parts.any (·.contains '\u0000') = false
  short : path.text.utf8ByteSize ≤ Files.longestPath

theorem text_concat (start : PathStart) (parts : List String) (name : String) :
    (⟨start, parts⟩ : Path).text = "." ∨
      ∃ rest, (⟨start, parts ++ [name]⟩ : Path).text = (⟨start, parts⟩ : Path).text ++ rest := by
  by_cases hempty : start.text ++ Text.join "/" parts = ""
  · exact .inl (by simp [text, hempty])
  · obtain ⟨rest, hjoin⟩ := Text.exists_join_concat "/" parts name
    have hlonger : start.text ++ Text.join "/" parts ++ rest ≠ "" := by
      simp only [ne_eq, String.append_eq_empty_iff, not_and]
      intro hfront
      exact absurd (String.append_eq_empty_iff.2 hfront) hempty
    refine .inr ⟨rest, ?_⟩
    simp only [text, hjoin, ← String.append_assoc, hempty, hlonger, if_false]

theorem IsGood.of_concat {start : PathStart} {parts : List String} {name : String}
    (h : (⟨start, parts ++ [name]⟩ : Path).IsGood) : (⟨start, parts⟩ : Path).IsGood := by
  have hparts : parts.any (·.contains '\u0000') = false := by
    have hall := h.noNul
    rw [List.any_append, Bool.or_eq_false_iff] at hall
    exact hall.1
  rcases text_concat start parts name with hdot | ⟨rest, htext⟩
  · have hsmall : (".".utf8ByteSize) ≤ Files.longestPath := by decide
    exact ⟨hparts, hdot ▸ hsmall⟩
  · constructor
    · exact hparts
    · have hshort := h.short
      rw [htext, String.utf8ByteSize_append] at hshort
      omega

end Path

namespace Files

variable {files : Files} {place next : Place} {path : Path} {name : String}

theorem startOf_eq_ok : startOf path = .ok place ↔ path.IsGood ∧ place = path.start.place := by
  have hplace : (if path.start = .here then Place.top else Place.top.child path.start.text) =
      path.start.place := rfl
  unfold startOf
  cases hnul : path.parts.any (·.contains '\u0000') with
  | true =>
      simp only [if_true, reduceCtorEq, false_iff]
      intro h
      rw [h.1.noNul] at hnul
      contradiction
  | false =>
      by_cases hlong : longestPath < path.text.utf8ByteSize
      · simp only [hlong, Bool.false_eq_true, if_false, if_true, reduceCtorEq, false_iff]
        intro h
        exact absurd h.1.short (by omega)
      · simp only [hlong, Bool.false_eq_true, if_false, hplace, Except.ok.injEq]
        constructor
        · intro h
          exact ⟨⟨hnul, by omega⟩, h.symm⟩
        · intro h
          exact h.2.symm

/-! ## Following names -/

theorem follow_eq_ok (h : files.follow place name = .ok next) :
    files.node? place = some .folder ∧ next = place.step name := by
  unfold follow at h
  cases hnode : files.node? place with
  | none => simp [hnode] at h
  | some node =>
      cases node with
      | file bytes => simp [hnode] at h
      | folder =>
          simp only [hnode] at h
          refine ⟨rfl, ?_⟩
          unfold Place.step
          by_cases hlong : longestName < name.utf8ByteSize
          · simp [hlong] at h
          · by_cases hback : name = ".."
            · subst hback
              rw [if_neg hlong, if_pos rfl] at h
              rw [if_pos rfl]
              exact (Except.ok.inj h).symm
            · rw [if_neg hlong, if_neg hback] at h
              rw [if_neg hback]
              exact (Except.ok.inj h).symm

theorem foldlM_follow_eq {names : List String} (h : names.foldlM files.follow place = .ok next) :
    next = names.foldl Place.step place := by
  induction names generalizing place with
  | nil => exact (Except.ok.inj h).symm
  | cons name names ih =>
      rw [List.foldlM_cons, bind_eq_ok] at h
      obtain ⟨through, hstep, hrest⟩ := h
      rw [List.foldl_cons, ← (follow_eq_ok hstep).2]
      exact ih hrest

/-- Where a path leads does not depend on the files. -/
theorem locate_eq_place (h : files.locate path = .ok place) : place = path.place := by
  unfold locate at h
  obtain ⟨start, hstart, hway⟩ := bind_eq_ok.1 h
  rw [Path.place, ← (startOf_eq_ok.1 hstart).2]
  exact foldlM_follow_eq hway

theorem find_eq_ok {node : Node} (hlocate : files.locate path = .ok place)
    (hnode : files.node? place = some node) : files.find path = .ok node := by
  unfold find
  rw [hlocate]
  simp only [bind, Except.bind, hnode]

theorem node?_of_find {node : Node} (h : files.find path = .ok node) :
    files.node? path.place = some node := by
  obtain ⟨place, hlocate, hnode⟩ := bind_eq_ok.1 h
  obtain rfl := locate_eq_place hlocate
  cases hhere : files.node? path.place with
  | none => simp [hhere] at hnode
  | some found => simpa [hhere] using hnode

theorem locate_concat {start : PathStart} {parts : List String}
    (h : files.locate ⟨start, parts ++ [name]⟩ = .ok place) :
    ∃ folder, files.locate ⟨start, parts⟩ = .ok folder ∧ files.node? folder = some .folder ∧
      place = folder.step name := by
  unfold locate at h ⊢
  obtain ⟨first, hstart, hway⟩ := bind_eq_ok.1 h
  obtain ⟨hgood, hfirst⟩ := startOf_eq_ok.1 hstart
  rw [List.foldlM_append, bind_eq_ok] at hway
  obtain ⟨folder, hfolder, hlast⟩ := hway
  simp only [List.foldlM_cons, List.foldlM_nil, bind_pure] at hlast
  obtain ⟨hnode, hplace⟩ := follow_eq_ok hlast
  exact ⟨folder, bind_eq_ok.2 ⟨first, startOf_eq_ok.2 ⟨hgood.of_concat, hfirst⟩, hfolder⟩, hnode,
    hplace⟩

theorem follow_of_folder (hnode : files.node? place = some .folder)
    (hshort : name.utf8ByteSize ≤ longestName) (hdots : name ≠ "..") :
    files.follow place name = .ok (place.child name) := by
  unfold follow
  rw [hnode]
  dsimp only
  rw [if_neg (by omega), if_neg hdots]

theorem locate_of_concat {start : PathStart} {parts : List String}
    (hgood : (⟨start, parts ++ [name]⟩ : Path).IsGood)
    (hlocate : files.locate ⟨start, parts⟩ = .ok place) (hnode : files.node? place = some .folder)
    (hshort : name.utf8ByteSize ≤ longestName) (hdots : name ≠ "..") :
    files.locate ⟨start, parts ++ [name]⟩ = .ok (place.child name) := by
  unfold locate at hlocate ⊢
  obtain ⟨first, hstart, hway⟩ := bind_eq_ok.1 hlocate
  have hfirst : startOf ⟨start, parts ++ [name]⟩ = .ok first :=
    startOf_eq_ok.2 ⟨hgood, (startOf_eq_ok.1 hstart).2⟩
  refine bind_eq_ok.2 ⟨first, hfirst, ?_⟩
  rw [List.foldlM_append]
  refine bind_eq_ok.2 ⟨place, hway, ?_⟩
  rw [List.foldlM_cons, follow_of_folder hnode hshort hdots]
  rfl

/-! ## Listing -/

theorem mem_namesIn : name ∈ files.namesIn place ↔ (files.node? (place.child name)).isSome := by
  have hget : files.node? (place.child name) = files.nodes.get? (place.child name) := rfl
  rw [hget]
  constructor
  · intro h
    obtain ⟨key, hkey, hname⟩ := List.mem_filterMap.1 h
    obtain ⟨hmem, hchild⟩ := List.mem_filter.1 hkey
    obtain ⟨hparent, hdeep⟩ := of_decide_eq_true hchild
    obtain rfl : place.child name = key := Place.child_of_name? hparent hdeep hname
    obtain ⟨entry, hentry, heq⟩ := List.mem_map.1 hmem
    have hsome : files.nodes.get? (place.child name) = some entry.2 :=
      Table.get?_eq_some.2 (heq ▸ hentry)
    rw [hsome]
    rfl
  · intro h
    obtain ⟨node, hnode⟩ := Option.isSome_iff_exists.1 h
    have hkey : place.child name ∈ files.nodes.keys :=
      List.mem_map_of_mem (Table.get?_eq_some.1 hnode)
    refine List.mem_filterMap.2 ⟨place.child name, List.mem_filter.2 ⟨hkey, ?_⟩, rfl⟩
    rw [isChild, Place.parent_child]
    exact decide_eq_true ⟨rfl, Nat.succ_ne_zero _⟩

end Files

end Rulebound
