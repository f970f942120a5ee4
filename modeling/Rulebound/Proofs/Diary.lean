import Rulebound.Diary.Folder
import Rulebound.Diary.Reader
import Rulebound.Proofs.Files
import Rulebound.Proofs.Json.Ascii
import Rulebound.Proofs.Record
import Rulebound.Proofs.Text.Lines

/-!
# Diaries that are read back

Entries that are added to a new diary one after another stand in it as one line each, and reading
the diary gives the records of turns among them in order, and the first header.
-/

namespace Rulebound.Diary

namespace Entry

/-- An entry that can be written: its value has no integer of too many digits and is not too
deep. -/
def IsWritable [Json.Nesting] (entry : Entry) : Prop :=
  Json.Fits Json.deepest entry.toJson

instance [Json.Nesting] (entry : Entry) : Decidable entry.IsWritable :=
  inferInstanceAs (Decidable (_ = none))

def record? : Entry → Option Cycle.Record
  | cycle record => some record
  | _ => none

def isHeader : Entry → Bool
  | header .. => true
  | _ => false

def lineChars (entry : Entry) : List Char :=
  Json.print entry.toJson ++ ['\n']

end Entry

/-! ## One entry -/

section Line

variable [Json.Nesting] {entry : Entry}

/-- An entry that was written is read again, at the end of its text or of its line. -/
theorem readAny_print_append (h : entry.IsWritable) {ending : List Char}
    (hends : Json.EndsNumber ending) (hblank : Json.skipSpace ending = []) :
    Json.readAny (Json.print entry.toJson ++ ending) = .ok (some (Json.reread entry.toJson)) := by
  unfold Json.readAny
  rw [Json.parse_print_of_fits h hends hblank]

theorem readAny_lineChars (h : entry.IsWritable) :
    Json.readAny entry.lineChars = .ok (some (Json.reread entry.toJson)) :=
  readAny_print_append h (Json.endsNumber_cons (by decide) []) rfl

end Line

theorem reread_ofType {type : String} {fields : Json.Fields} (names : List String)
    (hnames : fields.map (·.1) = names.map .plain)
    (hdistinct : ("type" :: "schema_version" :: names).Nodup) :
    Json.reread (Entry.ofType type fields) =
      Entry.ofType type (fields.map fun field => (field.1, Json.reread field.2)) := by
  have htype : Json.reread (.string (.plain type)) = .string (.plain type) :=
    Json.reread_eq _ trivial
  have hall : ((.plain "type", Json.string (.plain type)) ::
      (.plain "schema_version", .int Entry.schemaVersion) :: fields).map (·.1) =
      ("type" :: "schema_version" :: names).map CodeText.plain := by
    rw [List.map_cons, List.map_cons, hnames, List.map_cons, List.map_cons]
  rw [Entry.ofType, Json.reread_object hall hdistinct, List.map_cons, List.map_cons, htype]
  rfl

/-- An entry that was written and read again has the record that it had. -/
theorem recordOf_reread (entry : Entry) :
    recordOf (some (Json.reread entry.toJson)) = .ok entry.record? := by
  cases entry with
  | header =>
      rw [Entry.toJson, reread_ofType ["started_at", "config", "metadata"] rfl (by decide)]
      rfl
  | cycle record =>
      have hpayload : recordOf (some (Entry.cycle record).toJson) =
          some <$> (Cycle.Record.decode record.toJson).toExcept := rfl
      rw [Entry.toJson, reread_ofType ["payload"] rfl (by decide), List.map_singleton,
        Json.reread_eq _ record.isSettled, ← Entry.toJson, hpayload, Cycle.Record.decode_toJson]
      rfl
  | error =>
      rw [Entry.toJson, reread_ofType ["at", "message", "error", "traceback"] rfl (by decide)]
      rfl
  | event =>
      rw [Entry.toJson, reread_ofType ["at", "kind", "details"] rfl (by decide)]
      rfl

theorem fieldsOf_reread (entry : Entry) :
    ∃ fields, Json.reread entry.toJson = .object fields ∧
      fieldsOf (some (Json.reread entry.toJson)) = .ok fields ∧
      isOfType "header" fields = entry.isHeader := by
  cases entry with
  | header =>
      rw [Entry.toJson, reread_ofType ["started_at", "config", "metadata"] rfl (by decide)]
      exact ⟨_, rfl, rfl, rfl⟩
  | cycle =>
      rw [Entry.toJson, reread_ofType ["payload"] rfl (by decide)]
      exact ⟨_, rfl, rfl, rfl⟩
  | error =>
      rw [Entry.toJson, reread_ofType ["at", "message", "error", "traceback"] rfl (by decide)]
      exact ⟨_, rfl, rfl, rfl⟩
  | event =>
      rw [Entry.toJson, reread_ofType ["at", "kind", "details"] rfl (by decide)]
      exact ⟨_, rfl, rfl, rfl⟩

/-! ## All lines -/

section Lines

variable [Json.Nesting] {entries : List Entry}

theorem recordsIn_lineChars (h : ∀ entry ∈ entries, entry.IsWritable) :
    recordsIn (entries.map Entry.lineChars) = ⟨entries.filterMap Entry.record?, none⟩ := by
  induction entries with
  | nil => rfl
  | cons entry entries ih =>
      rw [List.forall_mem_cons] at h
      rw [List.map_cons, recordsIn, readAny_lineChars h.1]
      simp only [bind, Except.bind, recordOf_reread, ih h.2]
      cases hrecord : entry.record? with
      | none => rw [List.filterMap_cons_none hrecord]; rfl
      | some record => rw [List.filterMap_cons_some hrecord]; rfl

theorem headerIn_lineChars (h : ∀ entry ∈ entries, entry.IsWritable) :
    headerIn (entries.map Entry.lineChars) =
      .ok ((entries.find? Entry.isHeader).map fun entry => Json.reread entry.toJson) := by
  induction entries with
  | nil => rfl
  | cons entry entries ih =>
      rw [List.forall_mem_cons] at h
      obtain ⟨fields, hobject, hfields, htype⟩ := fieldsOf_reread entry
      rw [List.map_cons, headerIn, readAny_lineChars h.1]
      simp only [bind, Except.bind, hfields, htype]
      cases hheader : entry.isHeader with
      | true =>
          rw [List.find?_cons_of_pos hheader, Option.map_some, hobject]
          rfl
      | false =>
          rw [List.find?_cons_of_neg (by simp [hheader])]
          exact ih h.2

end Lines

theorem textOf_eq (entries : List Entry) :
    textOf entries = (entries.map fun entry => Json.print entry.toJson).flatMap (· ++ ['\n']) := by
  unfold textOf
  rw [List.flatMap_map]

theorem textOf_cons (entry : Entry) (entries : List Entry) :
    textOf (entry :: entries) = Json.print entry.toJson ++ '\n' :: textOf entries := by
  rw [textOf, List.flatMap_cons, List.append_assoc, List.singleton_append]
  rfl

theorem isRow_print (value : Json) : Text.IsRow (Json.print value) := by
  intro c hc
  have hprintable := Json.arePrintable_print value c hc
  constructor
  · rintro rfl
    exact absurd hprintable (by decide)
  · rintro rfl
    exact absurd hprintable (by decide)

theorem textOf_ascii (entries : List Entry) : ∀ c ∈ textOf entries, c.toNat < 0x80 := by
  intro c hc
  obtain ⟨entry, -, hmem⟩ := List.mem_flatMap.1 hc
  rcases List.mem_append.1 hmem with hinside | hend
  · have hprintable := Json.arePrintable_print entry.toJson c hinside
    have hhigh := hprintable.2
    omega
  · rw [List.mem_singleton.1 hend]
    decide

theorem linesOf_textOf (entries : List Entry) :
    linesOf (Text.encode (textOf entries)) = .ok (entries.map Entry.lineChars) := by
  have hrows : ∀ row ∈ entries.map fun entry => Json.print entry.toJson, Text.IsRow row := by
    intro row hrow
    obtain ⟨entry, -, rfl⟩ := List.mem_map.1 hrow
    exact isRow_print entry.toJson
  unfold linesOf
  rw [Text.decode?_encode (textOf_ascii entries)]
  dsimp only
  rw [textOf_eq, Text.lines_rows hrows, List.map_map]
  rfl

/-! ## Adding entries -/

variable {files : Files} {file : Path} {place : Place} {bytes : List UInt8}

theorem append_of_isWritable [Json.Nesting] {opened : Files} {entry : Entry} (h : entry.IsWritable)
    (hcreate : files.create file [] = .ok opened) (hopen : opened.IsOpen file place bytes) :
    ∃ after, append files file entry = .ok after ∧
      after.IsOpen file place (bytes ++ Text.encode entry.lineChars) := by
  obtain ⟨after, hafter, hgrown⟩ := hopen.appendTo (Text.encode entry.lineChars)
  have hwrite : Json.write entry.toJson = .ok (Json.print entry.toJson) := by
    unfold Json.write
    rw [h]
  refine ⟨after, ?_, hgrown⟩
  unfold append
  rw [hcreate]
  simp only [bind, Except.bind, hwrite]
  exact hafter

theorem foldlM_of_isWritable [Json.Nesting] {entries : List Entry}
    (h : ∀ entry ∈ entries, entry.IsWritable) (hopen : files.IsOpen file place bytes) :
    ∃ after, entries.foldlM (fun files entry => append files file entry) files = .ok after ∧
      after.IsOpen file place (bytes ++ Text.encode (textOf entries)) := by
  induction entries generalizing files bytes with
  | nil => exact ⟨files, rfl, (List.append_nil bytes).symm ▸ hopen⟩
  | cons entry entries ih =>
      obtain ⟨opened, hcreate, hopened⟩ := hopen.create
      obtain ⟨next, hnext, hgrown⟩ :=
        append_of_isWritable (h entry List.mem_cons_self) hcreate hopened
      obtain ⟨after, hafter, hlast⟩ :=
        ih (fun other hother => h other (List.mem_cons_of_mem _ hother)) hgrown
      refine ⟨after, ?_, ?_⟩
      · rw [List.foldlM_cons, hnext]
        exact hafter
      · have hbytes : bytes ++ Text.encode (textOf (entry :: entries)) =
            bytes ++ Text.encode entry.lineChars ++ Text.encode (textOf entries) := by
          rw [List.append_assoc, ← Text.encode_append]
          rfl
        rw [hbytes]
        exact hlast

def bytesOf (entries : List Entry) : List UInt8 :=
  Text.encode (textOf entries)

theorem read_of_isWritable [Json.Nesting] {entries : List Entry} {opened : Files}
    (hcreate : files.create file [] = .ok opened) (hnew : opened.read file = .ok [])
    (h : ∀ entry ∈ entries, entry.IsWritable) (hne : entries ≠ []) :
    ∃ after, entries.foldlM (fun files entry => append files file entry) files = .ok after ∧
      after.read file = .ok (bytesOf entries) := by
  obtain ⟨place, hopen⟩ := Files.isOpen_of_create hcreate hnew
  cases entries with
  | nil => exact absurd rfl hne
  | cons entry entries =>
      obtain ⟨next, hnext, hgrown⟩ :=
        append_of_isWritable (h entry List.mem_cons_self) hcreate hopen
      obtain ⟨after, hafter, hlast⟩ :=
        foldlM_of_isWritable (fun other hother => h other (List.mem_cons_of_mem _ hother)) hgrown
      have hbytes : [] ++ Text.encode entry.lineChars ++ Text.encode (textOf entries) =
          bytesOf (entry :: entries) := by
        rw [List.nil_append, ← Text.encode_append]
        rfl
      refine ⟨after, ?_, hbytes ▸ hlast.read⟩
      rw [List.foldlM_cons, hnext]
      exact hafter

/-- Whatever entries are added to a new diary, in whatever order, all of them are written: the diary
has one ended line of printable ASCII for each. Reading it gives the records of the turns in their
order, each equal to the one that was written, and the first header if there is one. The entries
have no integer of too many digits, and where they are written and where they are read there is room
for their levels; two halves of a pair that stand apart in what the header says are its only part
that is not read as it was. -/
theorem reads_back {files opened : Files} {file : Path} {entries : List Entry}
    (writing reading : Json.Nesting)
    (hcreate : files.create file [] = .ok opened) (hnew : opened.read file = .ok [])
    (hcountable : ∀ entry ∈ entries, entry.toJson.IsCountable)
    (hlevels : ∀ entry ∈ entries,
      entry.toJson.levels ≤ writing.deepest ∧ entry.toJson.levels ≤ reading.deepest) :
    ∃ after, entries.foldlM (fun files entry => @append writing files file entry) files =
        .ok after ∧
      (entries ≠ [] → after.read file = .ok (bytesOf entries)) ∧
      linesOf (bytesOf entries) = .ok (entries.map Entry.lineChars) ∧
      (∀ entry ∈ entries, Json.ArePrintable (Json.print entry.toJson)) ∧
      @readRecords reading (bytesOf entries) = ⟨entries.filterMap Entry.record?, none⟩ ∧
      ((∀ header ∈ entries.find? Entry.isHeader, header.toJson.IsSettled) →
        @readHeader reading (bytesOf entries) =
          .ok ((entries.find? Entry.isHeader).map Entry.toJson)) := by
  have hlines : linesOf (bytesOf entries) = .ok (entries.map Entry.lineChars) :=
    linesOf_textOf entries
  have hwritten : ∀ entry ∈ entries, @Entry.IsWritable writing entry := fun entry hentry =>
    Json.fits_of_isCountable _ _ (hcountable entry hentry) (hlevels entry hentry).1
  have hread : ∀ entry ∈ entries, @Entry.IsWritable reading entry := fun entry hentry =>
    Json.fits_of_isCountable _ _ (hcountable entry hentry) (hlevels entry hentry).2
  obtain ⟨after, hafter, hbytes⟩ : ∃ after,
      entries.foldlM (fun files entry => @append writing files file entry) files = .ok after ∧
        (entries ≠ [] → after.read file = .ok (bytesOf entries)) := by
    by_cases hne : entries = []
    · exact ⟨files, by rw [hne]; rfl, fun hsome => absurd hne hsome⟩
    · obtain ⟨after, hafter, hbytes⟩ :=
        @read_of_isWritable _ _ writing _ _ hcreate hnew hwritten hne
      exact ⟨after, hafter, fun _ => hbytes⟩
  refine ⟨after, hafter, hbytes, hlines, fun entry _ => Json.arePrintable_print entry.toJson, ?_,
    fun hsettled => ?_⟩
  · unfold readRecords
    rw [hlines]
    exact recordsIn_lineChars hread
  · unfold readHeader
    rw [hlines]
    simp only [bind, Except.bind, headerIn_lineChars hread]
    cases hheader : entries.find? Entry.isHeader with
    | none => rfl
    | some header =>
        rw [Option.map_some, Option.map_some, Json.reread_eq _ (hsettled header hheader)]

def sampleTime : Instant := ⟨2024, 2, 29, 23, 59, 59, 1⟩

/-- A record of a turn with characters of all planes and with numbers that are not finite. -/
def sampleRecord : Cycle.Record where
  tick := -(pow10 20 : Int)
  timestamp := ""
  goal := "\"a\\b\"\n\x7f\u2028\ue000é𝄞"
  observation := some {
    position := ⟨.infinite true, .nan, .infinite false⟩
    health := .nan
    food := .infinite true
    timeOfDay := "day"
    weather := "clear"
    nearbyBlocks := ["stone", ""]
    nearbyEntities := [⟨"zombie", none, .infinite false⟩, ⟨"player", some "\r\n", .nan⟩]
    inventory := [⟨"bread", 0⟩]
    biome := "unknown" }
  reasoning := some "\t"
  action := some ⟨"mine", some ["oak", "log"], "oak log"⟩
  result := ⟨false, some "no"⟩
  violation := none

def sampleEntries : List Entry := [
  .event sampleTime "start" (.object [("depth", .array [.array [.null, .bool true]])]),
  .header sampleTime {} .null,
  .error sampleTime "lost" ⟨.value, some "\u0085", "trace\n"⟩,
  .cycle sampleRecord,
  .header sampleTime { name := "other" } .null,
  .cycle { sampleRecord with tick := 2 }]

def sampleFile : Path := ⟨.here, ["diary.jsonl"]⟩

theorem create_sampleFile : Files.create {} sampleFile [] =
    .ok (Files.put {} (Place.top.child "diary.jsonl") (.file [])) := by
  cbv

theorem read_sampleFile :
    (Files.put {} (Place.top.child "diary.jsonl") (.file [])).read sampleFile = .ok [] := by
  cbv

section Sample

attribute [local instance] Json.Nesting.usual

theorem sample_reads_back :
    ∃ after, sampleEntries.foldlM
        (fun files entry => append files sampleFile entry) {} = .ok after ∧
      after.read sampleFile = .ok (bytesOf sampleEntries) ∧
      readRecords (bytesOf sampleEntries) =
        ⟨[sampleRecord, { sampleRecord with tick := 2 }], none⟩ ∧
      readHeader (bytesOf sampleEntries) =
        .ok (some (Entry.header sampleTime {} .null).toJson) := by
  have hcountable : ∀ entry ∈ sampleEntries, entry.toJson.IsCountable := by decide
  have hlevels : ∀ entry ∈ sampleEntries, entry.toJson.levels ≤ 990 ∧
      entry.toJson.levels ≤ 990 := by decide
  obtain ⟨after, hafter, hread, -, -, hrecords, hheader⟩ :=
    reads_back .usual .usual create_sampleFile read_sampleFile hcountable hlevels
  have hsettled : ∀ header ∈ sampleEntries.find? Entry.isHeader, header.toJson.IsSettled := by
    decide
  exact ⟨after, hafter, hread (List.cons_ne_nil _ _), hrecords, hheader hsettled⟩

end Sample

/-! ## Entries that are not written -/

theorem unwritable?_event (room : Nat) (time : Instant) (kind : String) (details : Json) :
    Json.unwritable? (room + 1) (Entry.event time kind details).toJson =
      Json.unwritable? room details := by
  have hversion : Json.unwritableInt? Entry.schemaVersion = none := by decide
  cases room <;>
    simp [Entry.toJson, Entry.ofType, Json.unwritable?, Json.unwritableField?, hversion]

theorem append_of_unwritable [Json.Nesting] {opened : Files} {entry : Entry}
    {reason : Json.Unwritable} (hcreate : files.create file [] = .ok opened)
    (h : Json.unwritable? Json.deepest entry.toJson = some reason) :
    append files file entry = .error reason.fault := by
  unfold append Json.write
  rw [hcreate, h]
  rfl

section Unwritten

attribute [local instance] Json.Nesting.usual

/-- Without bounds on entries they are not all written: values that are too deep are not, nor are
integers of too many digits. -/
theorem not_all_read_back :
    append {} sampleFile
        (.event sampleTime "deep" (.object [("d", Json.nest 990)])) =
      .error Json.Unwritable.tooDeep.fault ∧
    append {} sampleFile
        (.event sampleTime "long" (.object [("n", .int (pow10 longestInteger))])) =
      .error Json.Unwritable.longInteger.fault := by
  have hroom : Json.deepest = 989 + 1 := rfl
  refine ⟨append_of_unwritable create_sampleFile ?_,
    append_of_unwritable create_sampleFile ?_⟩ <;>
    rw [hroom, unwritable?_event]
  · rw [Json.unwritable?, Json.unwritableField?,
      Json.unwritable?_nest (by decide)]
    rfl
  · rw [Json.unwritable?, Json.unwritableField?, Json.unwritable?,
      Json.unwritableInt?_pow10]
    rfl

end Unwritten

end Rulebound.Diary
