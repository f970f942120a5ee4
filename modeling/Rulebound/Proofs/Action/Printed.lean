import Rulebound.Proofs.Action.Line

/-!
# Actions that are written and read

An action that is written as the marker, its verb and its words on a line of its own is read as it
is, whatever was said before it, as long as that holds no marker, and whatever the next lines say.
-/

namespace Rulebound.Action

structure IsVerb (verb : String) : Prop where
  ne_empty : verb ≠ ""
  isWord : ∀ c ∈ verb.toList, Text.isWord c = true
  lower_eq : Text.lower verb = verb

instance (verb : String) : Decidable (IsVerb verb) :=
  decidable_of_iff (verb ≠ "" ∧ verb.toList.all Text.isWord ∧ Text.lower verb = verb)
    ⟨fun h => ⟨h.1, List.all_eq_true.1 h.2.1, h.2.2⟩,
      fun h => ⟨h.ne_empty, List.all_eq_true.2 h.isWord, h.lower_eq⟩⟩

section Read

variable {before verb : String}

theorem read?_spaced (hbefore : ¬ HasMarker before.toList) (hverb : IsVerb verb)
    (after : String) :
    read? (before ++ "ACTION: " ++ verb ++ " " ++ after) =
      some (ofParts verb.toList (' ' :: after.toList)) := by
  have hne : verb.toList ≠ [] := fun hnil => hverb.ne_empty (String.toList_eq_nil_iff.1 hnil)
  let p := FirstProposal.afterUnmarked
    (.spaced verb.toList after.toList hne hverb.isWord) rfl hbefore
  have htext : (before ++ "ACTION: " ++ verb ++ " " ++ after).toList = p.reply := by
    have hmarker : "ACTION: ".toList = marker ++ [' '] := by decide
    have hblank : " ".toList = [' '] := by decide
    rw [FirstProposal.reply_eq, Proposal.text_eq]
    simp [p, FirstProposal.afterUnmarked, Proposal.spaced, hmarker, hblank]
  rw [read?, htext]
  exact p.find?_reply

theorem ofParts_joined {words : List String} (hwords : ∀ word ∈ words, Text.IsSolid word.toList)
    (hne : words ≠ []) (verb : List Char) {rest : List Char} (hrest : EndsLine rest) :
    ofParts verb (' ' :: (Text.join " " words).toList ++ rest) =
      ⟨String.ofList (Text.lowerChars verb), some words, Text.join " " words⟩ := by
  have hsolid : ∀ word ∈ words.map String.toList, Text.IsSolid word := by
    simpa using hwords
  have hjoined : (Text.join " " words).toList =
      Text.joinChars [' '] (words.map String.toList) := by
    simp [Text.join]
  have hline : '\n' ∉ ' ' :: (Text.join " " words).toList := by
    rw [hjoined]
    simpa using Text.newline_not_mem_joinChars hsolid
  have htrim : Text.trim (' ' :: (Text.join " " words).toList) =
      (Text.join " " words).toList := by
    have hblank : Text.trimFront (' ' :: (Text.join " " words).toList) =
        Text.trimFront (Text.join " " words).toList :=
      Text.trimFront_of_blank Text.isBlank_of_mem_space _
    rw [Text.trim, hblank, hjoined]
    exact Text.trim_joinChars hsolid
  have hfilled : ∃ c ∈ ' ' :: (Text.join " " words).toList, Text.isBlank c = false := by
    obtain ⟨word, hword⟩ := List.exists_mem_of_ne_nil words hne
    obtain ⟨c, hc⟩ := List.exists_mem_of_ne_nil word.toList (hwords word hword).1
    refine ⟨c, List.mem_cons_of_mem _ ?_, (hwords word hword).2 c hc⟩
    rw [hjoined]
    exact Text.mem_joinChars (List.mem_map_of_mem hword) hc
  have hfound : (Text.words (Text.join " " words).toList).map String.ofList = words := by
    rw [hjoined, Text.words_joinChars hsolid]
    simp
  rw [ofParts_filled verb hline hfilled hrest, htrim, hfound, String.ofList_toList]

end Read

/-- An action that is written on a line is read as it is: behind any text that holds no marker, and
before any other lines. So it is if it has no words. -/
theorem reads_written {before verb after : String} {words : List String}
    (hbefore : ¬ HasMarker before.toList) (hverb : IsVerb verb)
    (hwords : ∀ word ∈ words, Text.IsSolid word.toList) (hafter : EndsLine after.toList) :
    (words ≠ [] →
      read? (before ++ "ACTION: " ++ verb ++ " " ++ Text.join " " words ++ after) =
        some ⟨verb, some words, Text.join " " words⟩) ∧
    read? (before ++ "ACTION: " ++ verb ++ " ") = some ⟨verb, none, ""⟩ := by
  have hlower : String.ofList (Text.lowerChars verb.toList) = verb := hverb.lower_eq
  constructor
  · intro hne
    have hread := read?_spaced hbefore hverb (Text.join " " words ++ after)
    have hparts := ofParts_joined hwords hne verb.toList hafter
    rw [String.toList_append, ← List.cons_append, hparts, hlower, ← String.append_assoc] at hread
    exact hread
  · have hread := read?_spaced hbefore hverb ""
    have hnothing : ofParts verb.toList [' '] = ⟨verb, none, ""⟩ := by
      have hskipped := ofParts_blank verb.toList Text.isBlank_of_mem_space []
      rwa [List.append_nil, ofParts_nil, hlower] at hskipped
    rw [String.append_empty, String.toList_empty, hnothing] at hread
    exact hread

/-- Behind a thought that speaks of actions, the words of an action may look like another. -/
theorem message_written :
    read? ("THINKING: which ACTION?\nNo action yet.\n" ++ "ACTION: " ++ "chat" ++ " " ++
        Text.join " " ["Привет,", "ACTION:", "sleep\u200b"] ++ "\nACTION: eat") =
      some ⟨"chat", some ["Привет,", "ACTION:", "sleep\u200b"], "Привет, ACTION: sleep\u200b"⟩ ∧
    read? ("THINKING: which ACTION?\nNo action yet.\n" ++ "ACTION: " ++ "chat" ++ " ") =
      some ⟨"chat", none, ""⟩ := by
  have hbefore : ¬ HasMarker "THINKING: which ACTION?\nNo action yet.\n".toList := by
    decide
  have hverb : IsVerb "chat" := by decide
  have hwords : ∀ word ∈ ["Привет,", "ACTION:", "sleep\u200b"], Text.IsSolid word.toList := by
    decide
  have hafter : EndsLine "\nACTION: eat".toList := by simp [EndsLine]
  have hwritten := reads_written hbefore hverb hwords hafter
  exact ⟨hwritten.1 (List.cons_ne_nil _ _), hwritten.2⟩

end Rulebound.Action
