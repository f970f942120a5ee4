import Rulebound.Proofs.Checked
import Rulebound.Proofs.Files
import Rulebound.Session

/-!
# Which profile is loaded

What a file says of a profile, and what keeps a file from being looked at to its end. A file that
says one is loaded as it says. Of all others the default profile is taken and an error is noted,
except where reading ends in a fault that nothing makes up for: bytes that are no text, a text that
nests too deep or has too long an integer, or a path that can lead nowhere.
-/

namespace Rulebound

/-! ## Paths that lead nowhere -/

/-- The fault of a path that no files can be asked for. -/
def Path.fault? (path : Path) : Option Fault :=
  if path.parts.any (·.contains '\u0000') then some Files.nulInName else none

namespace Files

variable {files : Files} {path : Path} {fault : Fault}

theorem startOf_eq (path : Path) : startOf path =
    match path.fault? with
    | some fault => .error fault
    | none =>
        if longestPath < path.text.utf8ByteSize then .error nameTooLong
        else .ok (if path.start = .here then .top else Place.top.child path.start.text) := by
  unfold Path.fault? startOf
  by_cases hnul : path.parts.any (·.contains '\u0000') = true
  · simp only [if_pos hnul]
  · simp only [if_neg hnul]

theorem startOf_error (hnone : path.fault? = none) (h : startOf path = .error fault) :
    fault.kind.isSystem = true := by
  rw [startOf_eq, hnone] at h
  dsimp only at h
  split at h
  · exact Except.error.inj h ▸ rfl
  · exact nomatch h

theorem follow_error {place : Place} {name : String} (h : files.follow place name = .error fault) :
    fault.kind.isSystem = true := by
  unfold follow at h
  split at h
  · exact Except.error.inj h ▸ rfl
  · exact Except.error.inj h ▸ rfl
  · split at h
    · exact Except.error.inj h ▸ rfl
    · split at h <;> exact nomatch h

theorem foldlM_follow_error {names : List String} {place : Place}
    (h : names.foldlM files.follow place = .error fault) : fault.kind.isSystem = true := by
  induction names generalizing place with
  | nil => exact nomatch h
  | cons name names ih =>
      rw [List.foldlM_cons] at h
      cases hnext : files.follow place name with
      | error bad =>
          rw [hnext] at h
          exact Except.error.inj h ▸ follow_error hnext
      | ok next =>
          rw [hnext] at h
          exact ih h

/-- Files that can be asked for a path answer with the bytes of a file or a fault of the system. -/
theorem read_error (hnone : path.fault? = none) (h : files.read path = .error fault) :
    fault.kind.isSystem = true := by
  have hlocate : ∀ bad, files.locate path = .error bad → bad.kind.isSystem = true := by
    intro bad hbad
    unfold locate at hbad
    cases hstart : startOf path with
    | error first =>
        rw [hstart] at hbad
        exact Except.error.inj hbad ▸ startOf_error hnone hstart
    | ok start =>
        rw [hstart] at hbad
        exact foldlM_follow_error hbad
  unfold read find at h
  cases hplace : files.locate path with
  | error bad =>
      rw [hplace] at h
      exact Except.error.inj h ▸ hlocate bad hplace
  | ok place =>
      rw [hplace] at h
      simp only [bind, Except.bind] at h
      cases hnode : files.node? place with
      | none =>
          rw [hnode] at h
          exact Except.error.inj h ▸ rfl
      | some node =>
          rw [hnode] at h
          cases node with
          | folder => exact Except.error.inj h ▸ rfl
          | file bytes => exact nomatch h

theorem read_of_fault (h : path.fault? = some fault) : files.read path = .error fault := by
  unfold read find locate
  rw [startOf_eq, h]
  rfl

end Files

namespace Profile

variable {name : String} {profile : Profile}

/-! ## What an object says -/

/-- What the fields of an object say of a profile: each field that is there shows its part, an
absent name is the one that is given, and the other parts are the usual ones where they are
absent. -/
structure Says (fields : Json.Fields) (name : String) (profile : Profile) : Prop where
  name_eq : Decode.Shows ((Json.lookup? fields "name").getD (.string name)) profile.name
  goal_eq : Decode.Shows ((Json.lookup? fields "goal").getD (.string ({} : Profile).goal))
    profile.goal
  rules_eq : Decode.HoldsAll Decode.Shows
    ((Json.lookup? fields "rules").getD (.ofTexts ({} : Profile).rules)) profile.rules
  personality_eq : Decode.Shows
    ((Json.lookup? fields "personality").getD (.string ({} : Profile).personality))
    profile.personality

theorem shows_string {text : String} : Decode.Shows (.string text) profile.name ↔
    text = profile.name := by
  simp [Decode.Shows, CodeText.shown]

theorem decode_eq_good {value : Json} : decode value = .good profile ↔
    ∃ fields, value = .object fields ∧ Says fields ({} : Profile).name profile := by
  have htext (text : String) : Decode.text (.string text) = .good text := rfl
  have hrules : Decode.list Decode.text (.ofTexts ({} : Profile).rules) =
      .good ({} : Profile).rules := rfl
  unfold decode
  rw [Decode.object_eq_good]
  refine exists_congr fun fields => and_congr_right fun _ => ?_
  simp only [Checked.seq_eq_good, Checked.map_eq_good, Decode.reads_text.withDefault (htext _),
    Decode.reads_text.list.withDefault hrules]
  constructor
  · rintro ⟨_, personality, ⟨_, rules, ⟨_, goal, ⟨name, hname, rfl⟩, hgoal, rfl⟩, hrules, rfl⟩,
      hpersonality, rfl⟩
    exact ⟨hname, hgoal, hrules, hpersonality⟩
  · intro h
    exact ⟨_, _, ⟨_, _, ⟨_, _, ⟨_, h.name_eq, rfl⟩, h.goal_eq, rfl⟩, h.rules_eq, rfl⟩,
      h.personality_eq, rfl⟩

/-- The name is given where none is said, whatever would be usual. -/
theorem says_given {fields : Json.Fields} (usual : String) : Says fields name profile ↔
    ∃ read, Says fields usual read ∧
      (if (Json.lookup? fields "name").isSome then read else { read with name }) = profile := by
  cases hname : Json.lookup? fields "name" with
  | some field =>
      simp only [Option.isSome_some, if_true, exists_eq_right]
      have hsame : ∀ given : String, (Json.lookup? fields "name").getD (.string given) = field := by
        intro given
        rw [hname, Option.getD_some]
      constructor
      · intro h
        exact ⟨(hsame usual).symm ▸ hsame name ▸ h.name_eq, h.goal_eq, h.rules_eq,
          h.personality_eq⟩
      · intro h
        exact ⟨(hsame name).symm ▸ hsame usual ▸ h.name_eq, h.goal_eq, h.rules_eq,
          h.personality_eq⟩
  | none =>
      have hgiven : ∀ given : String,
          (Json.lookup? fields "name").getD (.string given) = .string given := by
        intro given
        rw [hname, Option.getD_none]
      simp only [Option.isSome_none, Bool.false_eq_true, if_false]
      constructor
      · intro h
        have hsaid : name = profile.name := shows_string.1 (hgiven name ▸ h.name_eq)
        refine ⟨{ profile with name := usual },
          ⟨(hgiven usual).symm ▸ shows_string.2 rfl, h.goal_eq, h.rules_eq, h.personality_eq⟩, ?_⟩
        rw [hsaid]
      · rintro ⟨read, h, rfl⟩
        exact ⟨(hgiven name).symm ▸ shows_string.2 rfl, h.goal_eq, h.rules_eq, h.personality_eq⟩

/-! ## What is made up for -/

theorem isCovered_fault (reason : Json.Unreadable) :
    isCovered reason.fault = decide (reason = .notJson) := by
  cases reason <;> rfl

theorem not_isCovered_of_nowhere {path : Path} {fault : Fault} (h : path.fault? = some fault) :
    isCovered fault = false := by
  unfold Path.fault? at h
  split at h
  · exact Option.some.inj h ▸ rfl
  · exact nomatch h

/-! ## What a text says -/

section Loading

variable [Json.Nesting]

theorem ofText_eq_ok {text : List Char} : ofText text name = .ok profile ↔
    ∃ fields, Json.parse text = .ok (.object fields) ∧ Says fields name profile := by
  unfold ofText
  cases hparse : Json.parse text with
  | error reason => cases reason <;> simp [bind, Except.bind]
  | ok value =>
      simp only [bind_eq_ok, Except.ok.injEq, exists_eq_left', Checked.toExcept_eq_ok,
        decode_eq_good]
      constructor
      · rintro ⟨read, ⟨fields, rfl, hsays⟩, hprofile⟩
        exact ⟨fields, rfl, (says_given _).2 ⟨read, hsays, Except.ok.inj hprofile⟩⟩
      · rintro ⟨fields, rfl, hsays⟩
        obtain ⟨read, hread, hprofile⟩ := (says_given ({} : Profile).name).1 hsays
        exact ⟨read, ⟨fields, rfl, hread⟩, congrArg Except.ok hprofile⟩

/-- A fault of a text is made up for, unless the text is not read to its end. -/
theorem ofText_error {text : List Char} {fault : Fault} (h : ofText text name = .error fault) :
    isCovered fault = true ∨
      ∃ reason, Json.parse text = .error reason ∧ reason ≠ .notJson ∧ reason.fault = fault := by
  unfold ofText at h
  cases hparse : Json.parse text with
  | error reason =>
      rw [hparse] at h
      cases reason with
      | notJson => exact .inl (Except.error.inj h ▸ rfl)
      | _ => exact .inr ⟨_, rfl, nofun, Except.error.inj h⟩
  | ok value =>
      rw [hparse] at h
      simp only [bind, Except.bind] at h
      rcases (decode value).toExcept_cases with ⟨read, hread⟩ | ⟨bad, hbad, hkind⟩
      · rw [hread] at h
        exact nomatch h
      · rw [hbad] at h
        obtain rfl := Except.error.inj h
        exact .inl (by simp [isCovered, hkind])

theorem ofText_of_stopped {text : List Char} {reason : Json.Unreadable}
    (h : Json.parse text = .error reason) (hother : reason ≠ .notJson) :
    ofText text name = .error reason.fault := by
  unfold ofText
  rw [h]
  cases reason with
  | notJson => exact absurd rfl hother
  | _ => rfl

/-! ## What becomes of a file -/

/-- What is at a path says a profile, under a name to take where it says none. -/
def Describes (files : Files) (path : Path) (name : String) (profile : Profile) : Prop :=
  ∃ bytes text fields, files.read path = .ok bytes ∧ Text.decode? bytes = some text ∧
    Json.parse text = .ok (.object fields) ∧ Says fields name profile

/-- What keeps a path from being looked at to its end, as the fault that it ends in. -/
inductive Breaks (files : Files) (path : Path) : Fault → Prop
  | nowhere {fault : Fault} (leads : path.fault? = some fault) : Breaks files path fault
  | noText {bytes : List UInt8} (found : files.read path = .ok bytes)
      (unreadable : Text.decode? bytes = none) : Breaks files path notUtf8
  | noEnd {bytes : List UInt8} {text : List Char} {reason : Json.Unreadable}
      (found : files.read path = .ok bytes) (readable : Text.decode? bytes = some text)
      (stopped : Json.parse text = .error reason) (other : reason ≠ .notJson) :
      Breaks files path reason.fault

variable {files : Files} {path : Path}

theorem load_of_breaks {fault : Fault} (h : Breaks files path fault) :
    load (.ofFile files (some path)) name = .error fault := by
  unfold load Source.ofFile
  cases h with
  | nowhere hleads =>
      simp only [Files.read_of_fault hleads, not_isCovered_of_nowhere hleads, Bool.false_eq_true,
        if_false]
  | noText hfound hunreadable => simp only [hfound, hunreadable]
  | @noEnd bytes text reason hfound hreadable hstopped hother =>
      have huncovered : isCovered reason.fault = false := by simp [isCovered_fault, hother]
      simp only [hfound, hreadable, ofText_of_stopped hstopped hother, huncovered,
        Bool.false_eq_true, if_false]

theorem load_of_describes (h : Describes files path name profile) :
    load (.ofFile files (some path)) name = .ok ⟨profile, []⟩ := by
  obtain ⟨bytes, text, fields, hfound, hreadable, hparse, hsays⟩ := h
  have htext : ofText text name = .ok profile := ofText_eq_ok.2 ⟨fields, hparse, hsays⟩
  unfold load Source.ofFile
  simp only [hfound, hreadable, htext]

/-- What is at a path ends the loading, or it says a profile, or there is a reason to take the
default one. -/
theorem load_cases (files : Files) (path : Path) (name : String) :
    (∃ fault, Breaks files path fault) ∨ (∃ profile, Describes files path name profile) ∨
      ∃ fault, load (.ofFile files (some path)) name = .ok (fallback path name fault) := by
  cases hnowhere : path.fault? with
  | some fault => exact .inl ⟨fault, .nowhere hnowhere⟩
  | none =>
      cases hfound : files.read path with
      | error fault =>
          have hcovered : isCovered fault = true := by
            simp [isCovered, Files.read_error hnowhere hfound]
          refine .inr (.inr ⟨fault, ?_⟩)
          unfold load Source.ofFile
          simp only [hfound, hcovered, if_true]
      | ok bytes =>
          cases hreadable : Text.decode? bytes with
          | none => exact .inl ⟨_, .noText hfound hreadable⟩
          | some text =>
              cases htext : ofText text name with
              | ok profile =>
                  obtain ⟨fields, hparse, hsays⟩ := ofText_eq_ok.1 htext
                  exact .inr (.inl ⟨profile, bytes, text, fields, hfound, hreadable, hparse, hsays⟩)
              | error fault =>
                  rcases ofText_error htext with hcovered | ⟨reason, hstopped, hother, -⟩
                  · refine .inr (.inr ⟨fault, ?_⟩)
                    unfold load Source.ofFile
                    simp only [hfound, hreadable, htext, hcovered, if_true]
                  · exact .inl ⟨_, .noEnd hfound hreadable hstopped hother⟩

/-- Without a path the default profile is loaded. From a path that ends in no fault, the profile is
loaded that is said there, and if none is said the default one, with an error that is noted. -/
theorem load_degrades (files : Files) (path? : Option Path) (name : String) :
    (∀ fault, load (.ofFile files path?) name = .error fault ↔
      ∃ path, path? = some path ∧ Breaks files path fault) ∧
    (path? = none → load (.ofFile files path?) name = .ok ⟨{ name }, []⟩) ∧
    ∀ path, path? = some path →
      (∀ profile, load (.ofFile files path?) name = .ok ⟨profile, []⟩ ↔
        Describes files path name profile) ∧
      ((¬ ∃ fault, Breaks files path fault) →
        (¬ ∃ profile, Describes files path name profile) →
          ∃ fault, load (.ofFile files path?) name = .ok (fallback path name fault)) := by
  cases path? with
  | none =>
      refine ⟨fun fault => ?_, fun _ => rfl, nofun⟩
      exact ⟨nofun, fun ⟨_, hpath, _⟩ => nomatch hpath⟩
  | some path =>
      refine ⟨fun fault => ?_, nofun, ?_⟩
      · constructor
        · intro h
          refine ⟨path, rfl, ?_⟩
          rcases load_cases files path name with ⟨bad, hbad⟩ | ⟨profile, hprofile⟩ | ⟨bad, hbad⟩
          · rw [load_of_breaks hbad] at h
            exact Except.error.inj h ▸ hbad
          · rw [load_of_describes hprofile] at h
            exact nomatch h
          · rw [hbad] at h
            exact nomatch h
        · rintro ⟨other, hother, hbreaks⟩
          exact Option.some.inj hother ▸ load_of_breaks hbreaks
      · intro other hother
        obtain rfl := Option.some.inj hother
        refine ⟨fun profile => ⟨fun h => ?_, load_of_describes⟩, fun hwhole hsilent => ?_⟩
        · rcases load_cases files path name with ⟨bad, hbad⟩ | ⟨said, hsaid⟩ | ⟨bad, hbad⟩
          · rw [load_of_breaks hbad] at h
            exact nomatch h
          · rw [load_of_describes hsaid, Except.ok.injEq, Loaded.mk.injEq] at h
            exact h.1 ▸ hsaid
          · rw [hbad, Except.ok.injEq, fallback, Loaded.mk.injEq] at h
            exact nomatch h.2
        · rcases load_cases files path name with hbreaks | hsaid | hdefault
          · exact absurd hbreaks hwhole
          · exact absurd hsaid hsilent
          · exact hdefault

end Loading

section Samples

attribute [local instance] Json.Nesting.usual

-- A file that says a goal and no name.
example : (load (.file (.ofText "agent.json")
    (Text.encode "\x7b\"goal\": \"Build\"\x7d".toList)) "Bob").toOption =
      some ⟨{ name := "Bob", goal := "Build" }, []⟩ := by
  decide +kernel

/-- Of a file whose one byte begins no character, no profile is loaded. -/
theorem noText_not_loaded :
    ¬ ∀ (path : Path) (bytes : List UInt8) (name : String),
      ∃ loaded, load (.file path bytes) name = .ok loaded := by
  intro h
  obtain ⟨loaded, hloaded⟩ := h (.ofText "agent.json") [0xFF] "Bob"
  have hunreadable : Text.decode? [0xFF] = none := by decide
  simp only [load, hunreadable, reduceCtorEq] at hloaded

end Samples

end Profile

end Rulebound
