import Mathlib.Data.List.Forall2
import Mathlib.Data.List.Infix
import Mathlib.Data.List.TakeWhile
import Rulebound.Proofs.Text.Words

/-!
# Where a reply proposes an action

A proposal is a marker, blanks and a word, and the first one in a reply is read. What stands before
it, where nothing proposes, is passed over. Whether a text begins with a proposal is settled by the
first character after the marker that is not blank.
-/

namespace Rulebound.Action

/-! ## Markers -/

/-- A way in which the marker can be written. -/
def IsMarker (letters : List Char) : Prop :=
  List.Forall₂ (fun letter c => standsFor letter c = true) marker letters

def HasMarker (text : List Char) : Prop :=
  ∃ letters, IsMarker letters ∧ letters <:+: text

section Marker

variable {pattern letters text after : List Char}

theorem afterMarker?_eq_some :
    afterMarker? pattern text = some after ↔
      ∃ letters, List.Forall₂ (fun letter c => standsFor letter c = true) pattern letters ∧
        text = letters ++ after := by
  induction pattern generalizing text with
  | nil => simp [afterMarker?]
  | cons letter pattern ih =>
      cases text with
      | nil => simp [afterMarker?, List.forall₂_cons_left_iff]
      | cons c text =>
          by_cases hc : standsFor letter c = true
          · simp only [afterMarker?, hc, if_true, ih]
            constructor
            · intro ⟨letters, hletters, htext⟩
              exact ⟨c :: letters, .cons hc hletters, by rw [htext, List.cons_append]⟩
            · intro ⟨letters, hletters, htext⟩
              cases hletters with
              | cons _ hrest => exact ⟨_, hrest, (List.cons.inj htext).2⟩
          · simp only [afterMarker?, hc, if_false, reduceCtorEq, false_iff]
            intro ⟨letters, hletters, htext⟩
            cases hletters with
            | cons hfirst _ => exact hc ((List.cons.inj htext).1 ▸ hfirst)

instance (letters : List Char) : Decidable (IsMarker letters) :=
  decidable_of_iff (afterMarker? marker letters = some []) <| by
    simp [afterMarker?_eq_some, IsMarker]

theorem IsMarker.length (h : IsMarker letters) : letters.length = 7 :=
  (List.Forall₂.length_eq h).symm

theorem IsMarker.not_mem_tail {c : Char} {rest : List Char} (h : IsMarker (c :: rest)) :
    'A' ∉ rest := by
  have hother : ∀ letter ∈ marker.tail, ¬ standsFor letter 'A' = true :=
    List.any_eq_false.1 (by decide)
  have hrest : List.Forall₂ (fun letter c => standsFor letter c = true) marker.tail rest :=
    List.forall₂_drop 1 h
  intro hmem
  obtain ⟨i, hi, hletter⟩ := List.mem_iff_getElem.1 hmem
  have hlength : i < marker.tail.length := hrest.length_eq ▸ hi
  have hstands : standsFor marker.tail[i] 'A' = true := hletter ▸ hrest.get hlength hi
  exact hother _ (List.getElem_mem hlength) hstands

instance (text : List Char) : Decidable (HasMarker text) :=
  decidable_of_iff (∃ back ∈ text.tails, (afterMarker? marker back).isSome) <| by
    simp only [List.mem_tails, Option.isSome_iff_exists, afterMarker?_eq_some]
    constructor
    · intro ⟨back, hback, after, letters, hletters, htext⟩
      exact ⟨letters, hletters, (htext ▸ List.prefix_append letters after).isInfix.trans
        hback.isInfix⟩
    · intro ⟨letters, hletters, front, after, htext⟩
      exact ⟨letters ++ after, ⟨front, by rw [← htext, List.append_assoc]⟩, after, letters,
        hletters, rfl⟩

end Marker

/-! ## Proposals -/

/-- Whether a text begins with a proposal: a marker, blanks and a character of a word. -/
def Opens (text : List Char) : Prop :=
  ∃ letters gap c rest, IsMarker letters ∧ (∀ b ∈ gap, Text.isBlank b = true) ∧
    Text.isWord c = true ∧ text = letters ++ (gap ++ c :: rest)

/-- A proposal in its parts: the marker, the blanks after it, the whole word that is the verb, and
all that follows. -/
structure Proposal where
  letters : List Char
  gap : List Char
  verb : List Char
  after : List Char
  isMarker : IsMarker letters
  isBlank_gap : ∀ c ∈ gap, Text.isBlank c = true
  verb_ne_nil : verb ≠ []
  isWord_verb : ∀ c ∈ verb, Text.isWord c = true
  verb_ends : ∀ c ∈ after.head?, Text.isWord c = false

namespace Proposal

/-- The proposal of a verb with one blank on either side of it. -/
def spaced (verb after : List Char) (hne : verb ≠ []) (hword : ∀ c ∈ verb, Text.isWord c = true) :
    Proposal where
  letters := marker
  gap := [' ']
  verb := verb
  after := ' ' :: after
  isMarker := by decide
  isBlank_gap := Text.isBlank_of_mem_space
  verb_ne_nil := hne
  isWord_verb := hword
  verb_ends := by
    intro c hc
    obtain rfl : ' ' = c := by simpa using hc
    decide +kernel

/-- What a proposal is, up to the end of its verb. -/
def head (p : Proposal) : List Char :=
  p.letters ++ (p.gap ++ p.verb)

def text (p : Proposal) : List Char :=
  p.head ++ p.after

def action (p : Proposal) : Action :=
  ofParts p.verb p.after

theorem text_eq (p : Proposal) : p.text = p.letters ++ (p.gap ++ (p.verb ++ p.after)) := by
  simp [text, head]

theorem exists_verb (p : Proposal) : ∃ c rest, Text.isWord c = true ∧ p.verb = c :: rest := by
  obtain ⟨c, rest, hverb⟩ := List.exists_cons_of_ne_nil p.verb_ne_nil
  exact ⟨c, rest, p.isWord_verb c (hverb ▸ List.mem_cons_self), hverb⟩

theorem opens (p : Proposal) : Opens p.text := by
  obtain ⟨c, rest, hc, hverb⟩ := p.exists_verb
  exact ⟨p.letters, p.gap, c, rest ++ p.after, p.isMarker, p.isBlank_gap, hc, by
    rw [text_eq, hverb, List.cons_append]⟩

theorem takeWhile_gap (p : Proposal) :
    (p.gap ++ (p.verb ++ p.after)).takeWhile Text.isBlank = p.gap := by
  obtain ⟨c, rest, hc, hverb⟩ := p.exists_verb
  rw [List.takeWhile_append_of_pos p.isBlank_gap, hverb]
  simp [Text.isBlank_of_isWord hc]

theorem takeWhile_verb (p : Proposal) : (p.verb ++ p.after).takeWhile Text.isWord = p.verb := by
  rw [List.takeWhile_append_of_pos p.isWord_verb]
  cases hafter : p.after with
  | nil => simp
  | cons c rest => simp [p.verb_ends c (by simp [hafter])]

theorem dropWhile_verb (p : Proposal) : (p.verb ++ p.after).dropWhile Text.isWord = p.after := by
  rw [List.dropWhile_append_of_pos p.isWord_verb]
  cases hafter : p.after with
  | nil => rfl
  | cons c rest => simp [p.verb_ends c (by simp [hafter])]

/-- The action of a proposal is read at its front. -/
theorem atFront?_text (p : Proposal) : atFront? p.text = some p.action := by
  obtain ⟨c, rest, hc, hverb⟩ := p.exists_verb
  have hmarker : afterMarker? marker p.text = some (p.gap ++ (p.verb ++ p.after)) :=
    afterMarker?_eq_some.2 ⟨p.letters, p.isMarker, p.text_eq⟩
  have htrim : Text.trimFront (p.gap ++ (p.verb ++ p.after)) = p.verb ++ p.after := by
    rw [Text.trimFront_of_blank p.isBlank_gap, hverb, List.cons_append,
      Text.trimFront_cons_of_not_isBlank (Text.isBlank_of_isWord hc)]
  have hverb_empty : p.verb.isEmpty = false := by simp [hverb]
  unfold atFront?
  simp only [hmarker, Option.bind_eq_bind, Option.bind_some, htrim, p.takeWhile_verb,
    p.dropWhile_verb, hverb_empty, Bool.false_eq_true, if_false]
  rfl

end Proposal

section Front

variable {text front rest : List Char} {action : Action}

theorem opens_of_atFront? (h : atFront? text = some action) : Opens text := by
  unfold atFront? at h
  cases hmarker : afterMarker? marker text with
  | none => simp [hmarker] at h
  | some after =>
      obtain ⟨letters, hletters, htext⟩ := afterMarker?_eq_some.1 hmarker
      have hsplit : text = letters ++ (after.takeWhile Text.isBlank ++ Text.trimFront after) := by
        rw [Text.trimFront, List.takeWhile_append_dropWhile, htext]
      simp only [hmarker, Option.bind_eq_bind, Option.bind_some] at h
      cases htrim : Text.trimFront after with
      | nil => simp [htrim] at h
      | cons c rest =>
          cases hc : Text.isWord c with
          | false => simp [htrim, hc] at h
          | true =>
              exact ⟨letters, _, c, rest, hletters, fun b hb => List.mem_takeWhile_imp hb, hc,
                htrim ▸ hsplit⟩

theorem opens_iff_proposal : Opens text ↔ ∃ p : Proposal, p.text = text := by
  constructor
  · intro ⟨letters, gap, c, rest, hletters, hgap, hc, htext⟩
    have hfirst : (c :: rest).takeWhile Text.isWord ≠ [] := by simp [hc]
    refine ⟨⟨letters, gap, (c :: rest).takeWhile Text.isWord, (c :: rest).dropWhile Text.isWord,
      hletters, hgap, hfirst, fun d hd => List.mem_takeWhile_imp hd, ?_⟩, ?_⟩
    · intro d hd
      have hhead := List.head?_dropWhile_not Text.isWord (c :: rest)
      rw [hd] at hhead
      simpa using hhead
    · rw [Proposal.text_eq, List.takeWhile_append_dropWhile, htext]
  · intro ⟨p, hp⟩
    exact hp ▸ p.opens

theorem atFront?_eq_some :
    atFront? text = some action ↔ ∃ p : Proposal, p.text = text ∧ p.action = action := by
  constructor
  · intro h
    obtain ⟨p, hp⟩ := opens_iff_proposal.1 (opens_of_atFront? h)
    rw [← hp, p.atFront?_text] at h
    exact ⟨p, hp, Option.some.inj h⟩
  · intro ⟨p, hp, haction⟩
    rw [← hp, p.atFront?_text, haction]

theorem atFront?_eq_none : atFront? text = none ↔ ¬ Opens text := by
  constructor
  · intro h hopens
    obtain ⟨p, hp⟩ := opens_iff_proposal.1 hopens
    rw [← hp, p.atFront?_text] at h
    contradiction
  · intro h
    cases hfront : atFront? text with
    | none => rfl
    | some action => exact absurd (opens_of_atFront? hfront) h

/-- Beyond the first character after the marker that is not blank, nothing matters. -/
theorem opens_append (h : ∃ c ∈ front.drop marker.length, Text.isBlank c = false)
    (rest : List Char) : Opens (front ++ rest) ↔ Opens front := by
  constructor
  · intro ⟨letters, gap, c, more, hletters, hgap, hc, htext⟩
    obtain ⟨d, hd, hfilled⟩ := h
    have hlength : letters.length = marker.length := hletters.length_eq.symm
    have hlong : letters.length ≤ front.length := by
      have hpos := List.length_pos_of_mem hd
      rw [List.length_drop] at hpos
      omega
    obtain ⟨inner, hfront⟩ : letters <+: front :=
      List.prefix_of_prefix_length_le ⟨_, htext.symm⟩ (List.prefix_append front rest) hlong
    have hinner : front.drop marker.length = inner := by
      rw [← hfront, ← hlength, List.drop_left]
    rw [hinner] at hd
    rw [← hfront, List.append_assoc, List.append_cancel_left_eq] at htext
    rcases List.append_eq_append_iff.1 htext with ⟨mid, hgap_eq, -⟩ | ⟨mid, hinner_eq, hmid⟩
    · have hblank := hgap d (hgap_eq ▸ List.mem_append_left mid hd)
      rw [hfilled] at hblank
      contradiction
    · cases mid with
      | nil =>
          rw [List.append_nil] at hinner_eq
          have hblank := hgap d (hinner_eq ▸ hd)
          rw [hfilled] at hblank
          contradiction
      | cons e mid =>
          obtain ⟨rfl, -⟩ := List.cons.inj hmid
          exact ⟨letters, gap, c, mid, hletters, hgap, hc, by rw [← hfront, hinner_eq]⟩
  · intro ⟨letters, gap, c, more, hletters, hgap, hc, hfront⟩
    exact ⟨letters, gap, c, more ++ rest, hletters, hgap, hc, by simp [hfront]⟩

end Front

/-! ## The first proposal -/

theorem find?_append {front rest : List Char}
    (h : ∀ back, back ≠ [] → back <:+ front → ¬ Opens (back ++ rest)) :
    find? (front ++ rest) = find? rest := by
  induction front with
  | nil => rfl
  | cons c front ih =>
      have hnone : atFront? (c :: front ++ rest) = none :=
        atFront?_eq_none.2 (h (c :: front) (List.cons_ne_nil c front) List.suffix_rfl)
      have hlater := ih fun back hne hback => h back hne (hback.trans (List.suffix_cons c front))
      rw [List.cons_append] at hnone ⊢
      rw [find?, hnone]
      exact hlater

/-- A proposal with a text before it in which none begins. -/
structure FirstProposal extends Proposal where
  before : List Char
  isFirst : ∀ back, back ≠ [] → back <:+ before → ¬ Opens (back ++ toProposal.text)

namespace FirstProposal

def front (p : FirstProposal) : List Char :=
  p.before ++ p.head

def reply (p : FirstProposal) : List Char :=
  p.front ++ p.after

theorem reply_eq (p : FirstProposal) : p.reply = p.before ++ p.text := by
  simp [reply, front, Proposal.text]

theorem find?_reply (p : FirstProposal) : find? p.reply = some p.action := by
  rw [p.reply_eq, find?_append p.isFirst]
  obtain ⟨c, rest, htext⟩ : ∃ c rest, p.text = c :: rest := by
    refine List.exists_cons_of_ne_nil fun hnil => ?_
    have hlength := congrArg List.length hnil
    rw [Proposal.text_eq, List.length_append, p.isMarker.length] at hlength
    simp at hlength
  have hfront := p.atFront?_text
  rw [htext] at hfront ⊢
  rw [find?, hfront]

/-- A proposal whose marker begins with its own letter is the first one behind a text without any
marker: none can begin in that text and end beyond it. -/
def afterUnmarked (p : Proposal) (hletters : p.letters.head? = some 'A') {before : List Char}
    (hbefore : ¬ HasMarker before) : FirstProposal where
  toProposal := p
  before := before
  isFirst := by
    intro back hne hback hopens
    obtain ⟨letters, gap, c, rest, hmarker, -, -, htext⟩ := hopens
    rcases List.append_eq_append_iff.1 htext with ⟨mid, hwithin, hrest⟩ | ⟨mid, hbeyond, -⟩
    · cases mid with
      | nil =>
          rw [List.append_nil] at hwithin
          exact hbefore ⟨letters, hmarker, hwithin ▸ hback.isInfix⟩
      | cons d mid =>
          obtain ⟨e, back, rfl⟩ := List.exists_cons_of_ne_nil hne
          obtain ⟨more, hmore⟩ := List.head?_eq_some_iff.1 hletters
          rw [Proposal.text_eq, hmore] at hrest
          obtain ⟨rfl, -⟩ := List.cons.inj hrest
          subst hwithin
          exact hmarker.not_mem_tail (by simp)
    · have hprefix : letters <:+: back := (hbeyond ▸ List.prefix_append letters mid).isInfix
      exact hbefore ⟨letters, hmarker, hprefix.trans hback.isInfix⟩

/-- Whatever follows a proposal, it is no part of what makes it the first. -/
theorem opens_before (p : FirstProposal) (back after : List Char) :
    Opens (back ++ (p.head ++ after)) ↔ Opens (back ++ p.head) := by
  rw [← List.append_assoc]
  obtain ⟨c, rest, hc, hverb⟩ := p.exists_verb
  refine opens_append ⟨c, ?_, Text.isBlank_of_isWord hc⟩ after
  have hdrop : (back ++ p.head).drop marker.length =
      (back ++ p.letters).drop marker.length ++ (p.gap ++ p.verb) := by
    rw [Proposal.head, ← List.append_assoc, List.drop_append_of_le_length]
    rw [List.length_append, p.isMarker.length]
    exact Nat.le_add_left _ _
  rw [hdrop, hverb]
  simp

def followedBy (p : FirstProposal) (after : List Char)
    (hafter : ∀ c ∈ after.head?, Text.isWord c = false) : FirstProposal where
  toProposal := { p.toProposal with after, verb_ends := hafter }
  before := p.before
  isFirst := by
    intro back hne hback hopens
    have hhead : Opens (back ++ p.head) := (p.opens_before back after).1 hopens
    exact p.isFirst back hne hback ((p.opens_before back p.after).2 hhead)

/-- Of two first proposals of one text, neither begins before the other. -/
theorem before_eq {p q : FirstProposal} (h : p.reply = q.reply) : p.before = q.before := by
  rw [p.reply_eq, q.reply_eq] at h
  rcases List.append_eq_append_iff.1 h with ⟨back, hq, hp⟩ | ⟨back, hp, hq⟩
  · by_cases hne : back = []
    · simp [hq, hne]
    · exact absurd (hp ▸ p.opens) (q.isFirst back hne ⟨p.before, hq.symm⟩)
  · by_cases hne : back = []
    · simp [hp, hne]
    · exact absurd (hq ▸ q.opens) (p.isFirst back hne ⟨q.before, hp.symm⟩)

/-- A text has one first proposal. -/
theorem parts_eq {p q : FirstProposal} (h : p.reply = q.reply) :
    p.front = q.front ∧ p.verb = q.verb ∧ p.after = q.after := by
  have hbefore := before_eq h
  rw [p.reply_eq, q.reply_eq, hbefore, List.append_cancel_left_eq, p.text_eq, q.text_eq] at h
  obtain ⟨hletters, hrest⟩ := List.append_inj h (p.isMarker.length.trans q.isMarker.length.symm)
  have hgap : p.gap = q.gap := by
    rw [← p.takeWhile_gap, hrest, q.takeWhile_gap]
  rw [hgap, List.append_cancel_left_eq] at hrest
  have hverb : p.verb = q.verb := by
    rw [← p.takeWhile_verb, hrest, q.takeWhile_verb]
  rw [hverb, List.append_cancel_left_eq] at hrest
  refine ⟨?_, hverb, hrest⟩
  rw [front, front, Proposal.head, Proposal.head, hbefore, hletters, hgap, hverb]

theorem find?_followedBy (p : FirstProposal) {after : List Char}
    (hafter : ∀ c ∈ after.head?, Text.isWord c = false) :
    find? (p.front ++ after) = some (ofParts p.verb after) :=
  (p.followedBy after hafter).find?_reply

end FirstProposal

/-- What is read in a text is its first proposal. -/
theorem exists_firstProposal {text : List Char} {action : Action} (h : find? text = some action) :
    ∃ p : FirstProposal, p.reply = text ∧ p.action = action := by
  induction text with
  | nil => contradiction
  | cons c rest ih =>
      rw [find?] at h
      cases hfront : atFront? (c :: rest) with
      | some first =>
          rw [hfront] at h
          obtain ⟨p, hp, haction⟩ := atFront?_eq_some.1 hfront
          obtain rfl := Option.some.inj h
          refine ⟨⟨p, [], ?_⟩, hp, haction⟩
          intro back hne hback
          exact absurd (List.suffix_nil.1 hback) hne
      | none =>
          rw [hfront] at h
          obtain ⟨p, hp, haction⟩ := ih h
          have htext : p.before ++ p.text = rest := p.reply_eq.symm.trans hp
          refine ⟨⟨p.toProposal, c :: p.before, ?_⟩, ?_, haction⟩
          · intro back hne hback
            rcases List.suffix_cons_iff.1 hback with rfl | hwithin
            · rw [List.cons_append, htext]
              exact atFront?_eq_none.1 hfront
            · exact p.isFirst back hne hwithin
          · exact congrArg (List.cons c) hp

end Rulebound.Action
