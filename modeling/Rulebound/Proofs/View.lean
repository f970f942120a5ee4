import Rulebound.Proofs.Json.Fits
import Rulebound.Proofs.Number.Numeral
import Rulebound.Proofs.Text.Pieces
import Rulebound.View

/-!
# What a view shows of a record

No text of a record stands where a console looks for markup. Each stands in a text that is shown as
it is, whose style does not depend on it, and nothing of it is lost but what a console would act on.
Nothing keeps a record from being shown but a number that has too many digits.
-/

namespace Rulebound

/-! ## Numbers that are shown -/

section Texts

variable {limit : Nat} {mark : String} {items : List Item}

theorem Item.texts_of_short (h : ∀ item ∈ items.take limit, IsShort item.count) :
    Item.texts limit mark items =
      .ok ((items.take limit).map fun item => item.name ++ mark ++ intText item.count) := by
  unfold texts
  revert h
  induction items.take limit with
  | nil => exact fun _ => rfl
  | cons item rest ih =>
      intro h
      rw [List.forall_mem_cons] at h
      rw [List.mapM_cons, ih h.2, shownInt, if_pos h.1]
      rfl

theorem Item.texts_of_long (h : ¬ ∀ item ∈ items.take limit, IsShort item.count) :
    Item.texts limit mark items = .error .unshownInteger := by
  unfold texts
  revert h
  induction items.take limit with
  | nil => exact fun h => absurd (List.forall_mem_nil _) h
  | cons item rest ih =>
      intro h
      rw [List.mapM_cons, shownInt]
      by_cases hshort : IsShort item.count
      · rw [ih fun hrest => h (List.forall_mem_cons.2 ⟨hshort, hrest⟩), if_pos hshort]
        rfl
      · rw [if_neg hshort]
        rfl

end Texts

namespace View

variable {record : Cycle.Record} {seen : Observation}

/-- What a record says in numbers can be shown: its own number, and how many there are of the items
that are shown. -/
def IsShowable (record : Cycle.Record) : Prop :=
  IsShort record.tick ∧ ∀ seen, record.observation = some seen →
    ∀ item ∈ seen.inventory.take maxItems, IsShort item.count

instance (record : Cycle.Record) : Decidable (IsShowable record) :=
  inferInstanceAs (Decidable (_ ∧ ∀ seen ∈ record.observation,
    ∀ item ∈ seen.inventory.take maxItems, IsShort item.count))

def sight (seen : Observation) : View :=
  fieldTable "Observations" [
    (.markup "Position", ofPosition seen.position),
    (.markup "Health", .markup (seen.health.generalText ++ "/20")),
    (.markup "Hunger", .markup (seen.food.generalText ++ "/20")),
    (.markup "Time", literalCell seen.timeOfDay),
    (.markup "Weather", literalCell seen.weather),
    (.markup "Nearby Blocks", orWord (Text.join ", " (seen.nearbyBlocks.take maxBlocks)) "none"),
    (.markup "Nearby Entities", orWord (Text.join ", " (seen.nearbyEntities.map (·.type))) "none"),
    (.markup "Inventory", orWord (Text.join ", " ((seen.inventory.take maxItems).map
      fun item => item.name ++ "x" ++ intText item.count)) "empty")]

def whole (record : Cycle.Record) : View :=
  .panel "Thought Cycle" <| .group <|
    [literal ("Tick " ++ intText record.tick ++ "  " ++ record.timestamp) "bold"] ++
    record.observation.toList.map sight ++
    [.panel "Current Goal" (literal record.goal)] ++
    (whenPresent record.reasoning fun reasoning => .panel "Reasoning" (literal reasoning)) ++
    [ofAction record.action, ofResult record.result] ++
    (whenPresent record.violation fun violation =>
      .panel "Rule Violation" (literal ("Blocked: " ++ violation) "bold red"))

theorem ofObservation_of_short (h : ∀ item ∈ seen.inventory.take maxItems, IsShort item.count) :
    ofObservation seen = .ok (sight seen) := by
  unfold ofObservation
  rw [Item.texts_of_short h]
  rfl

theorem ofObservation_of_long
    (h : ¬ ∀ item ∈ seen.inventory.take maxItems, IsShort item.count) :
    ofObservation seen = .error .unshownInteger := by
  unfold ofObservation
  rw [Item.texts_of_long h]
  rfl

theorem ofRecord_of_isShowable (h : IsShowable record) : ofRecord record = .ok (whole record) := by
  obtain ⟨htick, hseen⟩ := h
  have hsights : record.observation.toList.mapM ofObservation =
      .ok (record.observation.toList.map sight) := by
    cases hobservation : record.observation with
    | none => rfl
    | some seen =>
        rw [Option.toList_some, List.mapM_cons, ofObservation_of_short (hseen seen hobservation)]
        rfl
  unfold ofRecord
  rw [shownInt, if_pos htick, hsights]
  rfl

theorem ofRecord_of_not_isShowable (h : ¬ IsShowable record) :
    ofRecord record = .error .unshownInteger := by
  unfold ofRecord shownInt
  by_cases htick : IsShort record.tick
  · have hsights : record.observation.toList.mapM ofObservation = .error .unshownInteger := by
      cases hobservation : record.observation with
      | none => exact absurd ⟨htick, by simp [hobservation]⟩ h
      | some seen =>
          have hlong : ¬ ∀ item ∈ seen.inventory.take maxItems, IsShort item.count :=
            fun hshort => h ⟨htick, fun other hother => by
              rw [hobservation, Option.some.injEq] at hother
              exact hother ▸ hshort⟩
          rw [Option.toList_some, List.mapM_cons, ofObservation_of_long hlong]
          rfl
    rw [if_pos htick, hsights]
    rfl
  · rw [if_neg htick]
    rfl

/-! ## The texts of a view -/

/-- Where a text stands in a view. -/
inductive Site where
  | panelTitle
  | tableTitle
  | column
  /-- The first cell of a row. -/
  | field
  /-- The second cell of a row, beside the name of a field. -/
  | value (field : String)
  /-- Within a panel. -/
  | within (title : String)
deriving DecidableEq

mutual

def textsAt (site : Site) : View → List (Site × Cell)
  | text content style => [(site, .plain content style)]
  | panel title body => (.panelTitle, .markup title) :: textsAt (.within title) body
  | table title columns rows =>
      (.tableTitle, .markup title) :: columns.map (fun words => (.column, .markup words)) ++
        rows.flatMap fun row => [(.field, row.1), (.value row.1.words, row.2)]
  | group parts => textsOfAll site parts

def textsOfAll (site : Site) : List View → List (Site × Cell)
  | [] => []
  | part :: rest => textsAt site part ++ textsOfAll site rest

end

def texts (view : View) : List (Site × Cell) :=
  textsAt (.within "") view

variable {site : Site} {text : Site × Cell}

theorem mem_textsOfAll {parts : List View} :
    text ∈ textsOfAll site parts ↔ ∃ part ∈ parts, text ∈ textsAt site part := by
  induction parts with
  | nil => simp [textsOfAll]
  | cons part rest ih => simp [textsOfAll, ih]

theorem mem_textsAt_group {parts : List View} :
    text ∈ textsAt site (.group parts) ↔ ∃ part ∈ parts, text ∈ textsAt site part :=
  mem_textsOfAll

theorem mem_textsAt_panel {title : String} {body : View} :
    text ∈ textsAt site (.panel title body) ↔
      text = (.panelTitle, .markup title) ∨ text ∈ textsAt (.within title) body :=
  List.mem_cons

theorem mem_textsAt_literal {content style : String} :
    text ∈ textsAt site (literal content style) ↔ text = (site, .plain (shown content) style) :=
  List.mem_singleton

theorem mem_textsAt_fieldTable {title : String} {rows : List (Cell × Cell)} :
    text ∈ textsAt site (fieldTable title rows) ↔
      text = (.tableTitle, .markup title) ∨ text = (.column, .markup "Field") ∨
        text = (.column, .markup "Value") ∨
          ∃ row ∈ rows, text = (.field, row.1) ∨ text = (.value row.1.words, row.2) := by
  simp [fieldTable, textsAt]

theorem mem_whenPresent {α : Type} {content : Option String} {make : String → α} {made : α} :
    made ∈ whenPresent content make ↔ ∃ words, content = some words ∧ words ≠ "" ∧
      make words = made := by
  simp [whenPresent, Option.filter_eq_some_iff, and_assoc]

/-- The parts of a record as they are shown. -/
inductive IsSection (record : Cycle.Record) : View → Prop where
  | head : IsSection record
      (literal ("Tick " ++ intText record.tick ++ "  " ++ record.timestamp) "bold")
  | seen {seen : Observation} (h : record.observation = some seen) :
      IsSection record (sight seen)
  | goal : IsSection record (.panel "Current Goal" (literal record.goal))
  | reasoning {reasoning : String} (h : record.reasoning = some reasoning) (hne : reasoning ≠ "") :
      IsSection record (.panel "Reasoning" (literal reasoning))
  | decision : IsSection record (ofAction record.action)
  | result : IsSection record (ofResult record.result)
  | violation {violation : String} (h : record.violation = some violation)
      (hne : violation ≠ "") : IsSection record
        (.panel "Rule Violation" (literal ("Blocked: " ++ violation) "bold red"))

theorem mem_texts_whole :
    text ∈ (whole record).texts ↔ text = (.panelTitle, .markup "Thought Cycle") ∨
      ∃ part, IsSection record part ∧ text ∈ textsAt (.within "Thought Cycle") part := by
  unfold texts whole
  rw [mem_textsAt_panel, mem_textsAt_group]
  refine or_congr_right (exists_congr fun part => and_congr_left fun _ => ?_)
  simp only [List.mem_append, List.mem_cons, List.not_mem_nil, or_false, List.mem_map,
    Option.mem_toList, mem_whenPresent]
  constructor
  · rintro (((((rfl | ⟨seen, h, rfl⟩) | rfl) | ⟨reasoning, h, hne, rfl⟩) | rfl | rfl) |
      ⟨violation, h, hne, rfl⟩)
    · exact .head
    · exact .seen h
    · exact .goal
    · exact .reasoning h hne
    · exact .decision
    · exact .result
    · exact .violation h hne
  · intro h
    cases h with
    | head => simp
    | seen h => simp [h]
    | goal => simp
    | reasoning h hne => simp [h, hne]
    | decision => simp
    | result => simp
    | violation h hne => simp [h, hne]

/-! ## Markup and styles -/

def captions : List String :=
  ["Thought Cycle", "Observations", "Current Goal", "Reasoning", "Decision", "Result",
    "Rule Violation", "Field", "Value", "Position", "Health", "Hunger", "Time", "Weather",
    "Nearby Blocks", "Nearby Entities", "Inventory", "Action", "None", "Parameters", "Success",
    "Message"]

/-- Words in which there are numbers and nothing else but marks around them. -/
def IsFigure (words : String) : Prop :=
  ∀ c ∈ words.toList, c ∈ numerals ∨ c ∈ ['(', ')', ',', ' ', '/']

instance (words : String) : Decidable (IsFigure words) :=
  List.decidableBAll (fun c => c ∈ numerals ∨ c ∈ ['(', ')', ',', ' ', '/']) words.toList

def styleAt (success : Bool) (site : Site) : String :=
  if site = .within "Thought Cycle" then "bold"
  else if site = .within "Rule Violation" then "bold red"
  else if site = .value "Success" then (if success then "green" else "red")
  else ""

/-- What is written as markup is a caption or a figure, and all else has the style of its site. -/
def IsPlainAt (success : Bool) : Site × Cell → Prop
  | (_, .markup words) => words ∈ captions ∨ IsFigure words
  | (site, .plain _ style) => style = styleAt success site

theorem IsFigure.not_mem_bracket {words : String} (h : IsFigure words) : '[' ∉ words.toList := by
  intro hmem
  have hclasses : ¬ ('[' ∈ numerals ∨ '[' ∈ ['(', ')', ',', ' ', '/']) := by decide
  exact hclasses (h _ hmem)

theorem not_mem_bracket_of_caption {words : String} (h : words ∈ captions) :
    '[' ∉ words.toList := by
  have hall : ∀ caption ∈ captions, '[' ∉ caption.toList := by decide
  exact hall words h

theorem isFigure_append {first last : String} :
    IsFigure (first ++ last) ↔ IsFigure first ∧ IsFigure last := by
  simp only [IsFigure, String.toList_append, List.forall_mem_append]

theorem isFigure_of_isNumeral {words : String} (h : IsNumeral words.toList) : IsFigure words :=
  fun c hc => .inl (h c hc)

section Rows

variable {success : Bool} {title field : String} {rows : List (Cell × Cell)}

/-- A row with a caption, and beside it a text that is plain there. -/
def IsPlainRow (success : Bool) (row : Cell × Cell) : Prop :=
  ∃ field ∈ captions, row.1 = .markup field ∧ IsPlainAt success (.value field, row.2)

theorem isPlainRow_of_figure {words : String} (hfield : field ∈ captions) (h : IsFigure words) :
    IsPlainRow success (.markup field, .markup words) :=
  ⟨field, hfield, rfl, .inr h⟩

theorem isPlainRow_of_literal (content : String) {style : String} (hfield : field ∈ captions)
    (hstyle : style = styleAt success (.value field)) :
    IsPlainRow success (.markup field, literalCell content style) :=
  ⟨field, hfield, rfl, hstyle⟩

theorem isPlainAt_of_mem_fieldTable (htitle : title ∈ captions)
    (hrows : ∀ row ∈ rows, IsPlainRow success row)
    (h : text ∈ textsAt site (fieldTable title rows)) : IsPlainAt success text := by
  rcases mem_textsAt_fieldTable.1 h with rfl | rfl | rfl | ⟨row, hrow, htext⟩
  · exact .inl htitle
  · exact .inl (by decide)
  · exact .inl (by decide)
  · obtain ⟨field, hfield, hfirst, hsecond⟩ := hrows row hrow
    rcases htext with rfl | rfl
    · rw [hfirst]
      exact .inl hfield
    · rw [hfirst]
      exact hsecond

theorem isFigure_position (p : Position) :
    IsFigure
      ("(" ++ p.x.tenthsText ++ ", " ++ p.y.tenthsText ++ ", " ++ p.z.tenthsText ++ ")") := by
  have hcoordinate : ∀ x : Binary64, IsFigure x.tenthsText :=
    fun x => isFigure_of_isNumeral x.isNumeral_tenthsText
  have hopen : IsFigure "(" := by decide
  have hcomma : IsFigure ", " := by decide
  have hclose : IsFigure ")" := by decide
  simp only [isFigure_append]
  exact ⟨⟨⟨⟨⟨⟨hopen, hcoordinate _⟩, hcomma⟩, hcoordinate _⟩, hcomma⟩, hcoordinate _⟩, hclose⟩

theorem isFigure_outOfTwenty (x : Binary64) : IsFigure (x.generalText ++ "/20") :=
  isFigure_append.2 ⟨isFigure_of_isNumeral x.isNumeral_generalText, by decide⟩

theorem isPlainAt_of_mem_sight (h : text ∈ textsAt site (sight seen)) :
    IsPlainAt success text := by
  refine isPlainAt_of_mem_fieldTable (by decide) ?_ h
  simp only [List.forall_mem_cons]
  refine ⟨?_, ?_, ?_, ?_, ?_, ?_, ?_, ?_, nofun⟩
  · exact isPlainRow_of_figure (by decide) (isFigure_position seen.position)
  · exact isPlainRow_of_figure (by decide) (isFigure_outOfTwenty seen.health)
  · exact isPlainRow_of_figure (by decide) (isFigure_outOfTwenty seen.food)
  all_goals exact isPlainRow_of_literal _ (by decide) rfl

theorem isPlainAt_of_mem_ofAction {action : Option Action}
    (h : text ∈ textsAt site (ofAction action)) : IsPlainAt success text := by
  cases action with
  | none =>
      refine isPlainAt_of_mem_fieldTable (by decide) ?_ h
      rw [List.forall_mem_singleton]
      exact ⟨"Action", by decide, rfl, .inl (by decide)⟩
  | some action =>
      refine isPlainAt_of_mem_fieldTable (by decide) ?_ h
      simp only [List.forall_mem_cons]
      refine ⟨?_, ?_, nofun⟩
      · exact isPlainRow_of_literal action.verb (by decide) rfl
      · exact isPlainRow_of_literal _ (by decide) rfl

theorem isPlainAt_of_mem_ofResult {result : Cycle.Result}
    (h : text ∈ textsAt site (ofResult result)) : IsPlainAt result.success text := by
  refine isPlainAt_of_mem_fieldTable (by decide) ?_ h
  intro row hrow
  rcases List.mem_cons.1 hrow with rfl | hmessage
  · cases hsuccess : result.success with
    | false => exact isPlainRow_of_literal "False" (by decide) rfl
    | true => exact isPlainRow_of_literal "True" (by decide) rfl
  · obtain ⟨message, -, -, rfl⟩ := mem_whenPresent.1 hmessage
    exact isPlainRow_of_literal message (by decide) rfl

end Rows

/-- A panel with a caption, within which a text has the style that it has there. -/
theorem isPlainAt_of_mem_panel {success : Bool} {title content style : String}
    (htitle : title ∈ captions) (hstyle : style = styleAt success (.within title))
    (h : text ∈ textsAt site (.panel title (literal content style))) : IsPlainAt success text := by
  rw [mem_textsAt_panel, mem_textsAt_literal] at h
  rcases h with rfl | rfl
  · exact .inl htitle
  · exact hstyle

theorem isPlainAt_of_mem_whole (h : text ∈ (whole record).texts) :
    IsPlainAt record.result.success text := by
  rcases mem_texts_whole.1 h with rfl | ⟨part, hpart, htext⟩
  · exact .inl (by decide)
  cases hpart with
  | head =>
      rw [mem_textsAt_literal.1 htext]
      rfl
  | seen hseen => exact isPlainAt_of_mem_sight htext
  | goal => exact isPlainAt_of_mem_panel (by decide) rfl htext
  | reasoning hreasoning hne => exact isPlainAt_of_mem_panel (by decide) rfl htext
  | decision => exact isPlainAt_of_mem_ofAction htext
  | result => exact isPlainAt_of_mem_ofResult htext
  | violation hviolation hne => exact isPlainAt_of_mem_panel (by decide) rfl htext

/-! ## Panels -/

theorem not_mem_panelTitle_fieldTable {title : String} {rows : List (Cell × Cell)} {cell : Cell} :
    (Site.panelTitle, cell) ∉ textsAt site (fieldTable title rows) := by
  simp [mem_textsAt_fieldTable]

/-- A record is shown in one panel with a panel for each text that is there. -/
theorem mem_panelTitle_whole {title : String} :
    (Site.panelTitle, Cell.markup title) ∈ (whole record).texts ↔
      title = "Thought Cycle" ∨ title = "Current Goal" ∨
      (title = "Reasoning" ∧ ∃ reasoning, record.reasoning = some reasoning ∧ reasoning ≠ "") ∨
      (title = "Rule Violation" ∧
        ∃ violation, record.violation = some violation ∧ violation ≠ "") := by
  have hpanel : ∀ name content style, (Site.panelTitle, Cell.markup title) ∈
      textsAt (.within "Thought Cycle") (.panel name (literal content style)) ↔ title = name := by
    intro name content style
    simp [mem_textsAt_panel, mem_textsAt_literal]
  rw [mem_texts_whole]
  constructor
  · rintro (heq | ⟨part, hpart, htext⟩)
    · exact .inl (by simpa using heq)
    cases hpart with
    | head => simp [mem_textsAt_literal] at htext
    | seen hseen => exact absurd htext not_mem_panelTitle_fieldTable
    | goal => exact .inr (.inl ((hpanel _ _ _).1 htext))
    | reasoning hreasoning hne =>
        exact .inr (.inr (.inl ⟨(hpanel _ _ _).1 htext, _, hreasoning, hne⟩))
    | decision =>
        -- With or without an action, what is shown of it is a table.
        cases haction : record.action <;> rw [haction] at htext <;>
          exact absurd htext not_mem_panelTitle_fieldTable
    | result => exact absurd htext not_mem_panelTitle_fieldTable
    | violation hviolation hne =>
        exact .inr (.inr (.inr ⟨(hpanel _ _ _).1 htext, _, hviolation, hne⟩))
  · rintro (rfl | rfl | ⟨rfl, reasoning, h, hne⟩ | ⟨rfl, violation, h, hne⟩)
    · exact .inl rfl
    · exact .inr ⟨_, .goal, (hpanel _ _ _).2 rfl⟩
    · exact .inr ⟨_, .reasoning h hne, (hpanel _ _ _).2 rfl⟩
    · exact .inr ⟨_, .violation h hne, (hpanel _ _ _).2 rfl⟩

/-! ## What is told of a record -/

theorem toList_shown (content : String) :
    (shown content).toList = content.toList.filter fun c => !isConsoleControl c := by
  rw [shown, String.toList_ofList]

/-- Only what a console acts on is not shown. -/
theorem shown_eq_self_iff {content : String} :
    shown content = content ↔ ∀ c ∈ content.toList, isConsoleControl c = false := by
  rw [← String.toList_inj, toList_shown, List.filter_eq_self]
  simp

/-- The texts of a record that are told, each with the site at which it is. The biome and the names
that beings have of their own are not among them. -/
inductive Tells (record : Cycle.Record) : Site → String → Prop where
  | timestamp : Tells record (.within "Thought Cycle") record.timestamp
  | goal : Tells record (.within "Current Goal") record.goal
  | reasoning {reasoning : String} (h : record.reasoning = some reasoning)
      (hne : reasoning ≠ "") : Tells record (.within "Reasoning") reasoning
  | verb {action : Action} (h : record.action = some action) :
      Tells record (.value "Action") action.verb
  | word {action : Action} {word : String} (h : record.action = some action)
      (hword : word ∈ action.words) : Tells record (.value "Parameters") word
  | message {message : String} (h : record.result.message = some message) (hne : message ≠ "") :
      Tells record (.value "Message") message
  | violation {violation : String} (h : record.violation = some violation)
      (hne : violation ≠ "") : Tells record (.within "Rule Violation") violation
  | time {seen : Observation} (h : record.observation = some seen) :
      Tells record (.value "Time") seen.timeOfDay
  | weather {seen : Observation} (h : record.observation = some seen) :
      Tells record (.value "Weather") seen.weather
  | block {seen : Observation} {block : String} (h : record.observation = some seen)
      (hblock : block ∈ seen.nearbyBlocks.take maxBlocks) :
      Tells record (.value "Nearby Blocks") block
  | being {seen : Observation} {being : Sighting} (h : record.observation = some seen)
      (hbeing : being ∈ seen.nearbyEntities) : Tells record (.value "Nearby Entities") being.type
  | item {seen : Observation} {item : Item} (h : record.observation = some seen)
      (hitem : item ∈ seen.inventory.take maxItems) :
      Tells record (.value "Inventory") item.name

/-- A cell that is shown as it is and holds a text. -/
def Holds (text : String) (cell : Cell) : Prop :=
  ∃ content style, cell = .plain content style ∧ (shown text).toList <:+: content.toList

theorem holds_literalCell {text whole : String} (h : text.toList <:+: whole.toList)
    (style : String) : Holds text (literalCell whole style) := by
  refine ⟨shown whole, style, rfl, ?_⟩
  rw [toList_shown, toList_shown]
  exact h.filter _

theorem holds_orWord {text whole : String} (h : text.toList <:+: whole.toList) (word : String) :
    Holds text (orWord whole word) := by
  unfold orWord
  by_cases hempty : whole = ""
  · subst hempty
    have htext : text.toList = [] := List.infix_nil.1 h
    refine holds_literalCell ?_ ""
    rw [htext]
    exact List.nil_infix
  · rw [if_neg hempty]
    exact holds_literalCell h ""

section Told

variable {words title : String}

theorem told_in_panel {content style : String}
    (hpart : IsSection record (.panel title (literal content style)))
    (h : words.toList <:+: content.toList) :
    ∃ cell, (.within title, cell) ∈ (whole record).texts ∧ Holds words cell := by
  refine ⟨literalCell content style, ?_, holds_literalCell h style⟩
  exact mem_texts_whole.2
    (.inr ⟨_, hpart, mem_textsAt_panel.2 (.inr (mem_textsAt_literal.2 rfl))⟩)

theorem told_in_row {field : String} {cell : Cell} {rows : List (Cell × Cell)}
    (hpart : IsSection record (fieldTable title rows)) (hrow : (.markup field, cell) ∈ rows)
    (h : Holds words cell) :
    ∃ cell, (.value field, cell) ∈ (whole record).texts ∧ Holds words cell :=
  ⟨cell, mem_texts_whole.2
    (.inr ⟨_, hpart, mem_textsAt_fieldTable.2 (.inr (.inr (.inr ⟨_, hrow, .inr rfl⟩)))⟩), h⟩

/-- What is told of a record is held by a text at its site. -/
theorem exists_holds_of_tells (h : Tells record site words) :
    ∃ cell, (site, cell) ∈ (whole record).texts ∧ Holds words cell := by
  have hdecision : ∀ {action : Action}, record.action = some action →
      IsSection record (ofAction (some action)) := fun haction => haction ▸ .decision
  cases h with
  | timestamp =>
      refine ⟨_, mem_texts_whole.2 (.inr ⟨_, .head, mem_textsAt_literal.2 rfl⟩),
        holds_literalCell ?_ "bold"⟩
      rw [String.toList_append]
      exact (List.suffix_append _ _).isInfix
  | goal => exact told_in_panel .goal (List.infix_refl _)
  | reasoning h hne => exact told_in_panel (.reasoning h hne) (List.infix_refl _)
  | verb h =>
      exact told_in_row (hdecision h) (.head _) (holds_literalCell (List.infix_refl _) "")
  | word h hword =>
      exact told_in_row (hdecision h) (.tail _ (.head _))
        (holds_orWord (Text.infix_join hword " ") "none")
  | message h hne =>
      refine told_in_row .result (.tail _ (mem_whenPresent.2 ⟨words, h, hne, rfl⟩)) ?_
      exact holds_literalCell (List.infix_refl _) ""
  | violation h hne =>
      refine told_in_panel (.violation h hne) ?_
      rw [String.toList_append]
      exact (List.suffix_append _ _).isInfix
  | time h =>
      exact told_in_row (.seen h) (by simp) (holds_literalCell (List.infix_refl _) "")
  | weather h =>
      exact told_in_row (.seen h) (by simp) (holds_literalCell (List.infix_refl _) "")
  | block h hblock =>
      exact told_in_row (.seen h) (by simp) (holds_orWord (Text.infix_join hblock ", ") "none")
  | being h hbeing =>
      exact told_in_row (.seen h) (by simp)
        (holds_orWord (Text.infix_join (List.mem_map_of_mem hbeing) ", ") "none")
  | @item seen item h hitem =>
      have hcounted : item.name.toList <:+: (item.name ++ "x" ++ intText item.count).toList := by
        rw [String.append_assoc, String.toList_append]
        exact (List.prefix_append _ _).isInfix
      have hmem := List.mem_map_of_mem (f := fun item : Item =>
        item.name ++ "x" ++ intText item.count) hitem
      exact told_in_row (.seen h) (by simp)
        (holds_orWord (hcounted.trans (Text.infix_join hmem ", ")) "empty")

end Told

/-- What it means that a view shows a record and takes none of its texts as markup. -/
structure Shows (record : Cycle.Record) (view : View) : Prop where
  markup : ∀ site words, (site, .markup words) ∈ view.texts →
    '[' ∉ words.toList ∧ (words ∈ captions ∨ IsFigure words)
  style : ∀ site content style, (site, .plain content style) ∈ view.texts →
    style = styleAt record.result.success site
  told : ∀ site words, Tells record site words →
    ∃ cell, (site, cell) ∈ view.texts ∧ Holds words cell
  reasoning : (.panelTitle, .markup "Reasoning") ∈ view.texts ↔
    ∃ reasoning, record.reasoning = some reasoning ∧ reasoning ≠ ""
  violation : (.panelTitle, .markup "Rule Violation") ∈ view.texts ↔
    ∃ violation, record.violation = some violation ∧ violation ≠ ""

theorem whole_shows (record : Cycle.Record) : Shows record (whole record) where
  markup site words h := by
    have hplain : words ∈ captions ∨ IsFigure words := isPlainAt_of_mem_whole h
    exact ⟨hplain.elim not_mem_bracket_of_caption IsFigure.not_mem_bracket, hplain⟩
  style site content style h := isPlainAt_of_mem_whole h
  told site words h := exists_holds_of_tells h
  reasoning := by simp [mem_panelTitle_whole]
  violation := by simp [mem_panelTitle_whole]

/-- A record is shown, and no text of it is taken as markup, unless its number or how many there are
of an item that is shown has too many digits. What is shown of a text is the text itself unless a
console would act on a character of it. -/
theorem ofRecord_shows (record : Cycle.Record) :
    (IsShowable record → ∃ view, ofRecord record = .ok view ∧ Shows record view) ∧
      (¬ IsShowable record → ofRecord record = .error .unshownInteger) ∧
      ∀ content, shown content = content ↔
        ∀ c ∈ content.toList, isConsoleControl c = false := by
  refine ⟨fun h => ?_, ofRecord_of_not_isShowable, fun content => shown_eq_self_iff⟩
  exact ⟨whole record, ofRecord_of_isShowable h, whole_shows record⟩

/-- A goal with a bell in it stands nowhere in what is shown, and with a number of too many digits
nothing is shown at all. -/
theorem bell_not_shown :
    let record : Cycle.Record :=
      { tick := 1, timestamp := "T", goal := "ring\x07", observation := none, reasoning := none,
        action := none, result := ⟨true, none⟩, violation := none }
    Tells record (.within "Current Goal") record.goal ∧
      (∃ view, ofRecord record = .ok view ∧
        ∀ text ∈ view.texts, ¬ record.goal.toList <:+: text.2.words.toList) ∧
      ofRecord { record with tick := pow10 longestInteger } = .error .unshownInteger := by
  intro record
  have hlong : ¬ IsShowable { record with tick := pow10 longestInteger } :=
    fun h => Json.not_isShort_pow10 h.1
  refine ⟨.goal, ⟨whole record, ofRecord_of_isShowable (by decide), by decide⟩, ?_⟩
  exact ofRecord_of_not_isShowable hlong

end View

end Rulebound
