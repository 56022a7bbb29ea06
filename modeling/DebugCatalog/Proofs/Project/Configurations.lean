import DebugCatalog.Project.Open
import DebugCatalog.Proofs.Json.Indented
import DebugCatalog.Proofs.Json.Readers

/-!
# Configurations and run records decoded

Both are written as objects, and each optional part is written in its own way: a description that
is not there is `null`, a message that is not there is left out, and so is an empty list of parsers.
Whoever reads them back takes a part that is missing for one that is not there.

* `Config.areSlots`, `RunRecord.areSlots`: a draft is filled field by field, in any order.
* `Config.takes_object`, `RunRecord.takes_object`: every text is decoded that has what is needed,
  whatever else it has.
* `Config.IsWithoutParsers.takes`: also if the names of the fields are not there.
* `decode_written`: so both are read back from the texts that are written, and without parsers in
  it a text gives an empty list.
-/

namespace DebugCatalog

open Json (Takes Fills FillsInOrder Awaits Slot AreSlots valuesOf)

/-- A string may be there, or be `null`, or be missing. -/
def IsOptional (vs : List Json) (s : Option String) : Prop :=
  vs = [.optional s] ∨ vs = [] ∧ s = none

theorem IsOptional.exists_awaits {vs : List Json} {s : Option String} (h : IsOptional vs s) :
    ∃ d : Option (Option String),
      Awaits (Json.readOptional Json.readString) vs none d ∧ d.getD none = s := by
  rcases h with rfl | ⟨rfl, rfl⟩
  · exact ⟨some s, .due (Json.takes_optional s), rfl⟩
  · exact ⟨none, .settled none, rfl⟩

theorem areWhole_strings (ss : List String) : Json.AreWhole (ss.map .string) := by
  induction ss with
  | nil => exact trivial
  | cons s ss ih => exact ⟨trivial, ih⟩

theorem itemsDepth_strings (ss : List String) : Json.itemsDepth (ss.map .string) = 0 := by
  induction ss with
  | nil => rfl
  | cons s ss ih => simp [Json.itemsDepth, Json.depth, ih]

/-! ### Configurations -/

namespace Config

def databaseSlots : List (Slot (Option String)) :=
  [{ name := "path", scan := Json.readString, get := id, put := fun s _ => some s }]

theorem areSlots_database : AreSlots databaseSlots where
  names := by decide
  get_put := by simp [databaseSlots]
  get_put_of_ne := by simp [databaseSlots]
  ext := by simp [databaseSlots]

/-- The parts of a draft of a configuration. -/
def slots : List (Slot Draft) :=
  [{ name := "name", scan := Json.readString, get := (·.name),
      put := fun s d => { d with name := some s } },
    { name := "description", scan := Json.readOptional Json.readString, get := (·.description),
      put := fun s d => { d with description := some s } },
    { name := "config_version", scan := Json.readString, get := (·.version),
      put := fun s d => { d with version := some s } },
    { name := "db", scan := readDatabase, get := (·.databasePath),
      put := fun s d => { d with databasePath := some s } },
    { name := "default_parsers", scan := Json.readList Json.readString, get := (·.defaultParsers),
      put := fun ps d => { d with defaultParsers := some ps }, mayEnd := true }]

theorem areSlots : AreSlots slots where
  names := by decide
  get_put := by simp [slots]
  get_put_of_ne := by simp [slots]
  ext := by
    rintro ⟨⟩ ⟨⟩ h
    simpa [slots] using h

/-- The record of a database with such a path, with the name of the path or without. -/
inductive IsDatabase (path : String) : Json → Prop
  | named {entries : List (String × Json)} (h : valuesOf "path" entries = [.string path]) :
      IsDatabase path (.object entries)
  | listed : IsDatabase path (.array [.string path])

theorem IsDatabase.takes {path : String} {v : Json} (h : IsDatabase path v) :
    Takes readDatabase v path := by
  cases h with
  | @named entries hpath =>
    have hfills : Fills databaseFields none entries (some path) := by
      refine areSlots_database.fills (List.forall_mem_singleton.2 ?_)
      rw [hpath]
      exact .due (Json.takes_string path)
    exact (Takes.record hfills "DbConfig").settle rfl
  | listed =>
    have hfills : FillsInOrder databaseFields none [.string path] (some path) :=
      .cons ((Json.takes_string path).field _ _ _ _) (.nil _ (List.forall_mem_nil _))
    exact (Takes.recordInOrder hfills "DbConfig").settle rfl

theorem takes_strings (ss : List String) :
    Takes (Json.readList Json.readString) (.array (ss.map .string)) ss :=
  .list (List.forall₂_map_left_iff.2 (List.forall₂_same.2 fun s _ => Json.takes_string s))

/-- Every text is decoded that has what a configuration needs, in whatever order and among whatever
other entries.  A description may be `null` or missing, and parsers may be missing. -/
theorem takes_object {entries : List (String × Json)} {database : Json} (c : Config)
    (hname : valuesOf "name" entries = [.string c.name])
    (hdescription : IsOptional (valuesOf "description" entries) c.description)
    (hversion : valuesOf "config_version" entries = [.string c.version])
    (hentry : valuesOf "db" entries = [database]) (hdatabase : IsDatabase c.databasePath database)
    (hparsers : valuesOf "default_parsers" entries = [.array (c.defaultParsers.map .string)] ∨
      valuesOf "default_parsers" entries = [] ∧ c.defaultParsers = []) :
    Takes read (.object entries) c := by
  obtain ⟨name, description, version, path, parsers⟩ := c
  obtain ⟨d, hd, rfl⟩ := hdescription.exists_awaits
  obtain ⟨ps, hps, rfl⟩ : ∃ ps : Option (List String), Awaits (Json.readList Json.readString)
      (valuesOf "default_parsers" entries) none ps ∧ ps.getD [] = parsers := by
    rcases hparsers with hparsers | ⟨hparsers, rfl⟩
    · exact ⟨some parsers, by rw [hparsers]; exact .due (takes_strings _), rfl⟩
    · exact ⟨none, by rw [hparsers]; exact .settled _, rfl⟩
  have hfills : Fills fields {} entries {
      name := some name, description := d, version := some version, databasePath := some path,
      defaultParsers := ps } := by
    refine areSlots.fills ?_
    simp only [slots, List.forall_mem_cons, hname, hversion, hentry]
    exact ⟨.due (Json.takes_string _), hd, .due (Json.takes_string _), .due hdatabase.takes, hps,
      nofun⟩
  exact (Takes.record hfills "ProjectConfig").settle rfl

/-- A value that has everything of a configuration but its parsers, with the names of the fields in
any order, or without names in the order of the fields. -/
inductive IsWithoutParsers (c : Config) : Json → Prop
  | named {entries : List (String × Json)} {database : Json}
      (hname : valuesOf "name" entries = [.string c.name])
      (hdescription : IsOptional (valuesOf "description" entries) c.description)
      (hversion : valuesOf "config_version" entries = [.string c.version])
      (hentry : valuesOf "db" entries = [database])
      (hdatabase : IsDatabase c.databasePath database)
      (hparsers : valuesOf "default_parsers" entries = []) : IsWithoutParsers c (.object entries)
  | listed {database : Json} (hdatabase : IsDatabase c.databasePath database) :
      IsWithoutParsers c
        (.array [.string c.name, .optional c.description, .string c.version, database])

theorem IsWithoutParsers.takes {c : Config} {v : Json} (h : c.IsWithoutParsers v) :
    Takes read v { c with defaultParsers := [] } := by
  cases h with
  | named hname hdescription hversion hentry hdatabase hparsers =>
    exact takes_object _ hname hdescription hversion hentry hdatabase (.inr ⟨hparsers, rfl⟩)
  | @listed database hdatabase =>
    have hfills : FillsInOrder fields {}
        [.string c.name, .optional c.description, .string c.version, database] {
          name := some c.name, description := some c.description, version := some c.version,
          databasePath := some c.databasePath } :=
      .cons ((Json.takes_string _).field _ _ _ _) <|
      .cons ((Json.takes_optional _).field _ _ _ _) <|
      .cons ((Json.takes_string _).field _ _ _ _) <|
      .cons (hdatabase.takes.field _ _ _ _) <|
      .nil _ (List.forall_mem_singleton.2 rfl)
    exact (Takes.recordInOrder hfills "ProjectConfig").settle rfl

theorem takes_toJson (c : Config) : Takes read c.toJson c := by
  obtain ⟨name, description, version, path, parsers⟩ := c
  cases parsers with
  | nil => exact takes_object _ rfl (.inl rfl) rfl rfl (.named rfl) (.inr ⟨rfl, rfl⟩)
  | cons parser parsers => exact takes_object _ rfl (.inl rfl) rfl rfl (.named rfl) (.inl rfl)

theorem isWhole_toJson (c : Config) : c.toJson.IsWhole := by
  obtain ⟨name, description, version, databasePath, parsers⟩ := c
  cases description <;> cases parsers <;>
    simp [toJson, Json.IsWhole, Json.EntriesWhole, Json.optional, Json.AreWhole, areWhole_strings]

theorem depth_toJson_le (c : Config) : c.toJson.depth ≤ 2 := by
  obtain ⟨name, description, version, databasePath, parsers⟩ := c
  cases description <;> cases parsers <;>
    simp [toJson, Json.depth, Json.entriesDepth, Json.optional, Json.itemsDepth,
      itemsDepth_strings]

theorem decode_fileText (c : Config) : decode c.fileText = .ok c :=
  c.takes_toJson.readAll (Json.parse_indented c.isWhole_toJson
    (Nat.le_trans c.depth_toJson_le (by decide)))

end Config

/-! ### Run records -/

theorem RunStatus.takes_toJson (s : RunStatus) : Takes read s.toJson s := by
  intro fuel room cs rest h steps hfuel _
  cases fuel with
  | zero => cases h
  | succ fuel =>
    have hreading := Json.reading_of_readValue h
    rw [RunStatus.toJson] at hreading
    have hnamed : named s.name = .ok s := by cases s <;> rfl
    unfold read
    generalize Json.skipSpace cs = start at hreading
    generalize s.name = name at hreading hnamed
    cases hreading with
    | string hstring =>
      have hscan := Json.scanString_mono hstring steps (by omega)
      simp only [Json.readText, Json.skipSpace_cons (by decide : Json.isSpace '"' = false), hscan,
        hnamed, bind, Except.bind]

namespace RunRecord

def slots : List (Slot Draft) :=
  [{ name := "binary", scan := Json.readString, get := (·.binary),
      put := fun s d => { d with binary := some s } },
    { name := "parser", scan := Json.readString, get := (·.parser),
      put := fun s d => { d with parser := some s } },
    { name := "status", scan := RunStatus.read, get := (·.status),
      put := fun s d => { d with status := some s } },
    { name := "types_added", scan := Json.readWord, get := (·.typesAdded),
      put := fun n d => { d with typesAdded := some n } },
    { name := "functions_added", scan := Json.readWord, get := (·.functionsAdded),
      put := fun n d => { d with functionsAdded := some n } },
    { name := "message", scan := Json.readOptional Json.readString, get := (·.message),
      put := fun s d => { d with message := some s }, mayEnd := true },
    { name := "started_at", scan := Json.readString, get := (·.startedAt),
      put := fun s d => { d with startedAt := some s } },
    { name := "finished_at", scan := Json.readString, get := (·.finishedAt),
      put := fun s d => { d with finishedAt := some s } }]

theorem areSlots : AreSlots slots where
  names := by decide
  get_put := by simp [slots]
  get_put_of_ne := by simp [slots]
  ext := by
    rintro ⟨⟩ ⟨⟩ h
    simpa [slots] using h

theorem takes_object {entries : List (String × Json)} {r : RunRecord}
    (hbinary : valuesOf "binary" entries = [.string r.binary])
    (hparser : valuesOf "parser" entries = [.string r.parser])
    (hstatus : valuesOf "status" entries = [r.status.toJson])
    (htypes : valuesOf "types_added" entries = [.natural r.typesAdded])
    (hfunctions : valuesOf "functions_added" entries = [.natural r.functionsAdded])
    (hmessage : IsOptional (valuesOf "message" entries) r.message)
    (hstarted : valuesOf "started_at" entries = [.string r.startedAt])
    (hfinished : valuesOf "finished_at" entries = [.string r.finishedAt]) :
    Takes read (.object entries) r := by
  obtain ⟨d, hd, hmessage⟩ := hmessage.exists_awaits
  have hfills : Fills fields {} entries {
      binary := some r.binary, parser := some r.parser, status := some r.status,
      typesAdded := some r.typesAdded, functionsAdded := some r.functionsAdded, message := d,
      startedAt := some r.startedAt, finishedAt := some r.finishedAt } := by
    refine areSlots.fills ?_
    simp only [slots, List.forall_mem_cons, hbinary, hparser, hstatus, htypes, hfunctions, hstarted,
      hfinished]
    exact ⟨.due (Json.takes_string _), .due (Json.takes_string _), .due r.status.takes_toJson,
      .due (Json.takes_word _), .due (Json.takes_word _), hd, .due (Json.takes_string _),
      .due (Json.takes_string _), nofun⟩
  have hfinish := congrArg (fun message => (Except.ok { r with message } : Except Json.Fault _))
    hmessage
  exact (Takes.record hfills "ParseRunRecord").settle hfinish

theorem takes_toJson (r : RunRecord) : Takes read r.toJson r := by
  obtain ⟨binary, parser, status, types, functions, message, started, finished⟩ := r
  cases message with
  | none => exact takes_object rfl rfl rfl rfl rfl (.inr ⟨rfl, rfl⟩) rfl rfl
  | some message => exact takes_object rfl rfl rfl rfl rfl (.inl rfl) rfl rfl

theorem isWhole_toJson (r : RunRecord) : r.toJson.IsWhole := by
  obtain ⟨binary, parser, status, types, functions, message, started, finished⟩ := r
  cases message <;>
    simp [toJson, Json.IsWhole, Json.EntriesWhole, Json.optionalEntry, RunStatus.toJson,
      Json.natural]

theorem depth_toJson_le (r : RunRecord) : r.toJson.depth ≤ 1 := by
  obtain ⟨binary, parser, status, types, functions, message, started, finished⟩ := r
  cases message <;>
    simp [toJson, Json.depth, Json.entriesDepth, Json.optionalEntry, RunStatus.toJson,
      Json.natural]

theorem decode_compact_toJson (r : RunRecord) : decode r.toJson.compact = .ok r :=
  r.takes_toJson.readAll (Json.parse_compact r.isWhole_toJson
    (Nat.le_trans r.depth_toJson_le (by decide)))

theorem decode_indented_toJson (r : RunRecord) : decode r.toJson.indented = .ok r :=
  r.takes_toJson.readAll (Json.parse_indented r.isWhole_toJson
    (Nat.le_trans r.depth_toJson_le (by decide)))

end RunRecord

/-! ### Texts -/

theorem Project.textOf_toUTF8 (text : String) : Project.textOf text.toUTF8 = .ok text := by
  have hvalid : text.toUTF8.IsValidUTF8 := text.isValidUTF8
  rw [Project.textOf, String.fromUTF8?, dif_pos hvalid]
  rfl

/-- **Configurations and run records are read back from their texts.**  The bytes of the file of a
configuration are a text, and it is decoded as that configuration.  So is any other text of the same
value.  A text that has everything else, with names or without, in whatever order and with whatever
else in it, but nothing under `default_parsers`, is decoded with an empty list.  A run record is
read back from both layouts. -/
theorem decode_written :
    (∀ c : Config, Project.textOf c.fileText.toUTF8 = .ok c.fileText ∧
      Config.decode c.fileText = .ok c ∧
      ∀ text, Json.parse text = .ok c.toJson → Config.decode text = .ok c) ∧
    (∀ (c : Config) (text : String) (v : Json), Json.parse text = .ok v → c.IsWithoutParsers v →
      Config.decode text = .ok { c with defaultParsers := [] }) ∧
    ∀ r : RunRecord, RunRecord.decode r.toJson.compact = .ok r ∧
      RunRecord.decode r.toJson.indented = .ok r ∧
      ∀ text, Json.parse text = .ok r.toJson → RunRecord.decode text = .ok r := by
  refine ⟨fun c => ⟨?_, c.decode_fileText, fun _ => c.takes_toJson.readAll⟩, ?_,
    fun r => ⟨r.decode_compact_toJson, r.decode_indented_toJson, fun _ => r.takes_toJson.readAll⟩⟩
  · exact Project.textOf_toUTF8 _
  · intro c text v hparse hv
    exact hv.takes.readAll hparse

/-- A text with its entries in another order, an escape, and an entry that nobody asks for. -/
def sparseText : String :=
  "\x7b\"db\" : \x7b\"path\":\"p.db\"\x7d,\n \"extra\":[\x7b\"default_parsers\":7\x7d]," ++
    " \"name\":\"\\u00e9\", \"config_version\":\"0.1.0\"\x7d"

def sparseEntries : List (String × Json) :=
  [("db", .object [("path", .string "p.db")]),
    ("extra", .array [.object [("default_parsers", .natural 7)]]),
    ("name", .string "é"), ("config_version", .string "0.1.0")]

/-- What stands deeper in a text is no field of the configuration. -/
theorem decode_written_sparseText :
    Json.parse sparseText = .ok (.object sparseEntries) ∧
      (Config.new "é" "p.db").IsWithoutParsers (.object sparseEntries) ∧
      Config.decode sparseText = .ok (Config.new "é" "p.db") := by
  have hparse : Json.parse sparseText = .ok (.object sparseEntries) := by
    -- A text is compared by its characters, which a literal does not show.
    unfold Json.parse Json.readAll sparseText
    simp only [String.toList_append, String.reduceToList]
    rfl
  have hlacks : (Config.new "é" "p.db").IsWithoutParsers (.object sparseEntries) :=
    .named rfl (.inr ⟨rfl, rfl⟩) rfl rfl (.named rfl) rfl
  exact ⟨hparse, hlacks, decode_written.2.1 _ _ _ hparse hlacks⟩

end DebugCatalog
