import Rulebound.Proofs.Action.Marker

/-!
# The line of a verb

The words of an action are those that follow its verb on the same line, if there are any: then
nothing matters that comes after the line. Behind a verb that ends its line the search for words
goes on, and what the next line says is taken for them.
-/

namespace Rulebound.Action

def EndsLine (rest : List Char) : Prop :=
  ∀ c ∈ rest.head?, c = '\n'

/-! ## What follows a verb -/

section Parts

variable {verb line rest : List Char}

theorem takeWhile_line (hline : '\n' ∉ line) (hrest : EndsLine rest) :
    (line ++ rest).takeWhile (· != '\n') = line := by
  have hkept : ∀ c ∈ line, (c != '\n') = true := by
    intro c hc
    simp only [bne_iff_ne, ne_eq]
    intro heq
    exact hline (heq ▸ hc)
  rw [List.takeWhile_append_of_pos hkept]
  cases rest with
  | nil => simp
  | cons c rest => simp [hrest c rfl]

theorem ofParts_filled (verb : List Char) (hline : '\n' ∉ line)
    (hfilled : ∃ c ∈ line, Text.isBlank c = false) (hrest : EndsLine rest) :
    ofParts verb (line ++ rest) =
      ⟨String.ofList (Text.lowerChars verb),
        some ((Text.words (Text.trim line)).map String.ofList),
        String.ofList (Text.trim line)⟩ := by
  have hinner : '\n' ∉ Text.trimFront line := fun hmem =>
    hline ((List.dropWhile_suffix _).subset hmem)
  have hkept : (Text.trimFront (line ++ rest)).takeWhile (· != '\n') = Text.trimFront line := by
    rw [Text.trimFront_append hfilled, takeWhile_line hinner hrest]
  have htrim : Text.trim (Text.trimFront line) = Text.trim line := by
    simp [Text.trim]
  have hwords : Text.words (Text.trim line) ≠ [] := Text.words_trim_ne_nil hfilled
  simp [ofParts, hkept, htrim, hwords]

theorem ofParts_blank (verb : List Char) (hline : ∀ c ∈ line, Text.isBlank c = true)
    (rest : List Char) : ofParts verb (line ++ rest) = ofParts verb rest := by
  simp only [ofParts, Text.trimFront_of_blank hline]

theorem ofParts_nil (verb : List Char) :
    ofParts verb [] = ⟨String.ofList (Text.lowerChars verb), none, ""⟩ :=
  rfl

end Parts

/-! ## Its own line and the next -/

def Proposal.line (p : Proposal) : List Char :=
  p.after.takeWhile (· != '\n')

theorem Proposal.newline_not_mem_line (p : Proposal) : '\n' ∉ p.line := by
  intro hmem
  simpa using List.mem_takeWhile_imp hmem

theorem Proposal.exists_after (p : Proposal) :
    ∃ rest, EndsLine rest ∧ p.after = p.line ++ rest := by
  refine ⟨p.after.dropWhile (· != '\n'), ?_, List.takeWhile_append_dropWhile.symm⟩
  intro c hc
  have hhead := List.head?_dropWhile_not (· != '\n') p.after
  rw [hc] at hhead
  simpa using hhead

/-- Nothing that begins a new line goes on with the verb. -/
theorem Proposal.line_ends (p : Proposal) {rest : List Char} (hrest : EndsLine rest) :
    ∀ c ∈ (p.line ++ rest).head?, Text.isWord c = false := by
  intro c hc
  cases hline : p.line with
  | nil =>
      rw [hline, List.nil_append] at hc
      rw [hrest c hc]
      refine Bool.eq_false_iff.2 fun hword => ?_
      exact absurd (Text.isBlank_of_isWord hword) (by decide)
  | cons d line =>
      obtain ⟨after, -, hafter⟩ := p.exists_after
      refine p.verb_ends c ?_
      rw [hline] at hc hafter
      rw [hafter]
      exact hc

/-- An action has its words from the line of its verb if anything stands there after the verb: then
any reply that is the same up to the end of this line proposes the same action. If the verb ends its
line, the words are taken from what follows, as if it stood on that line. -/
theorem words_on_own_line {reply : String} {action : Action} (h : read? reply = some action) :
    ∃ p : FirstProposal, p.reply = reply.toList ∧
      ((∃ c ∈ p.line, Text.isBlank c = false) →
        action = ⟨String.ofList (Text.lowerChars p.verb),
          some ((Text.words (Text.trim p.line)).map String.ofList),
          String.ofList (Text.trim p.line)⟩ ∧
        ∀ rest, EndsLine rest →
          read? (String.ofList (p.front ++ (p.line ++ rest))) = some action) ∧
      ((∀ c ∈ p.line, Text.isBlank c = true) →
        ∀ later, read? (String.ofList (p.front ++ (p.line ++ '\n' :: later))) =
          some (ofParts p.verb later)) := by
  obtain ⟨p, hreply, haction⟩ := exists_firstProposal h
  refine ⟨p, hreply, ?_, ?_⟩
  · intro hfilled
    have hread : ∀ rest, EndsLine rest → ofParts p.verb (p.line ++ rest) = _ := fun rest hrest =>
      ofParts_filled p.verb p.newline_not_mem_line hfilled hrest
    obtain ⟨rest, hrest, hafter⟩ := p.exists_after
    have hown := hread rest hrest
    rw [← hafter] at hown
    refine ⟨haction.symm.trans hown, ?_⟩
    intro other hother
    rw [read?, String.toList_ofList, p.find?_followedBy (p.line_ends hother), hread other hother,
      ← haction]
    exact congrArg some hown.symm
  · intro hblank later
    have hends : EndsLine ('\n' :: later) := by simp [EndsLine]
    have hgap : ∀ c ∈ p.line ++ ['\n'], Text.isBlank c = true := by
      have hnewline : Text.isBlank '\n' = true := by decide
      simpa [or_imp, forall_and, hnewline] using hblank
    have hskipped := ofParts_blank p.verb hgap later
    rw [List.append_assoc, List.singleton_append] at hskipped
    rw [read?, String.toList_ofList, p.find?_followedBy (p.line_ends hends), hskipped]

def greeting : FirstProposal :=
  .afterUnmarked
    (.spaced "chat".toList " Hello there! \nACTION: sleep".toList (by decide)
      (List.all_eq_true.1 (by decide)))
    rfl (show ¬ HasMarker "THINKING: someone came.\n".toList by decide)

theorem greeting_own_line :
    read? "THINKING: someone came.\nACTION: chat  Hello there! \nACTION: sleep" =
        some ⟨"chat", some ["Hello", "there!"], "Hello there!"⟩ ∧
      ∀ rest, EndsLine rest →
        read? (String.ofList
            ("THINKING: someone came.\nACTION: chat  Hello there! ".toList ++ rest)) =
          some ⟨"chat", some ["Hello", "there!"], "Hello there!"⟩ := by
  have hread : read? "THINKING: someone came.\nACTION: chat  Hello there! \nACTION: sleep" =
      some ⟨"chat", some ["Hello", "there!"], "Hello there!"⟩ := by
    decide +kernel
  refine ⟨hread, ?_⟩
  intro rest hrest
  obtain ⟨p, hreply, hfilled, -⟩ := words_on_own_line hread
  have hsame : p.reply = greeting.reply := hreply.trans (by decide)
  obtain ⟨hfront, -, hafter⟩ := FirstProposal.parts_eq hsame
  have hline : p.line = "  Hello there! ".toList := by
    rw [Proposal.line, hafter]
    decide
  have hown := (hfilled ⟨'H', by rw [hline]; decide, by decide⟩).2 rest hrest
  rw [hfront, hline, ← List.append_assoc] at hown
  exact hown

/-- The verb of this reply has a line of its own, and still the next line is taken for its words. -/
theorem next_line_taken :
    read? "ACTION: eat\nACTION: sleep" =
        some ⟨"eat", some ["ACTION:", "sleep"], "ACTION: sleep"⟩ ∧
      read? "ACTION: eat\n" = some ⟨"eat", none, ""⟩ := by
  decide +kernel

end Rulebound.Action
