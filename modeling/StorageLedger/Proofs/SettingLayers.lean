import StorageLedger.Proofs.EnvLines
import StorageLedger.Proofs.Manifest
import StorageLedger.Settings.Basic

namespace StorageLedger.Settings
open StorageLedger.Text StorageLedger.Validation

abbrev Source := List (List Char × List Char)

/-- No two names of a source are equal up to letter case. The case of ASCII is enough, since the
names of the fields have no other spellings. -/
def Source.Distinct (source : Source) : Prop := (source.map fun b => b.1.map Char.toLower).Nodup

def Source.Binds (source : Source) (name text : String) : Prop :=
  ∃ b ∈ source, b.1.map Char.toLower = name.toList ∧ b.2 = text.toList

/-- The text that is used for a name: that of the environment, else that of the file. -/
inductive Chosen (environment file : Source) (name : String) : Option String → Prop where
  | environment {text : String} (h : environment.Binds name text) :
    Chosen environment file name (some text)
  | file {text : String} (hidden : ∀ text, ¬ environment.Binds name text)
    (h : file.Binds name text) : Chosen environment file name (some text)
  | default (hidden : ∀ text, ¬ environment.Binds name text)
    (h : ∀ text, ¬ file.Binds name text) : Chosen environment file name none

/-- The fields of the settings. -/
inductive Field where
  | databaseUrl
  | databaseEcho
  | databasePoolSize
  | logLevel
deriving DecidableEq, Repr

namespace Field

def all : List Field := [.databaseUrl, .databaseEcho, .databasePoolSize, .logLevel]

def name : Field → String
  | .databaseUrl => "database_url"
  | .databaseEcho => "database_echo"
  | .databasePoolSize => "database_pool_size"
  | .logLevel => "log_level"

def Kind : Field → Type
  | .databaseUrl => String
  | .databaseEcho => Bool
  | .databasePoolSize => Int
  | .logLevel => String

def get (settings : Settings) : (f : Field) → f.Kind
  | .databaseUrl => settings.databaseUrl
  | .databaseEcho => settings.databaseEcho
  | .databasePoolSize => settings.databasePoolSize
  | .logLevel => settings.logLevel

def read : (f : Field) → Value → Except Complaint f.Kind
  | .databaseUrl => text
  | .databaseEcho => boolean
  | .databasePoolSize => integer
  | .logLevel => text

/-- What a field is for the text that is used for it. -/
def reading (f : Field) : Option String → Except Complaint f.Kind
  | some s => f.read (.text s)
  | none => .ok (f.get {})

/-- What is wrong with the text that is used for a field. -/
def issue? (f : Field) : Option String → Option Issue
  | some s =>
    match f.read (.text s) with
    | .ok _ => none
    | .error complaint => some ⟨[.field f.name], complaint, .text s⟩
  | none => none

theorem mem_all (f : Field) : f ∈ all := by cases f <;> decide

theorem name_injective : Function.Injective name := by
  intro f g h
  cases f <;> cases g <;> first | rfl | exact absurd h (by decide)

theorem name_ascii (f : Field) : ∀ x ∈ f.name.toList, x.toNat < 0x80 ∧ x ≠ 'k' := by
  cases f <;> simp [name]

end Field

section Choice

variable {source environment file : Source} {f : Field} {name text text' : String}

theorem Source.Distinct.eq_of_binds (h : source.Distinct) (hb : source.Binds name text)
    (hb' : source.Binds name text') : text = text' := by
  obtain ⟨b, hmem, hname, htext⟩ := hb
  obtain ⟨b', hmem', hname', htext'⟩ := hb'
  obtain rfl := List.inj_on_of_nodup_map h hmem hmem' (hname.trans hname'.symm)
  exact String.toList_inj.1 (htext.symm.trans htext')

theorem Chosen.eq {chosen chosen' : Option String} (henvironment : environment.Distinct)
    (hfile : file.Distinct) (h : Chosen environment file name chosen)
    (h' : Chosen environment file name chosen') : chosen = chosen' := by
  cases h with
  | environment h =>
    cases h' with
    | environment h' => rw [henvironment.eq_of_binds h h']
    | file hidden _ => exact absurd h (hidden _)
    | default hidden _ => exact absurd h (hidden _)
  | file hidden h =>
    cases h' with
    | environment h' => exact absurd h' (hidden _)
    | file _ h' => rw [hfile.eq_of_binds h h']
    | default _ hnone => exact absurd h (hnone _)
  | default hidden hnone =>
    cases h' with
    | environment h' => exact absurd h' (hidden _)
    | file _ h' => exact absurd h' (hnone _)
    | default _ _ => rfl

def Source.bindings (source : Source) : List (List Char × Option (List Char)) :=
  source.map fun (name, value) => (name, some value)

theorem binds_of_textUnder? (h : textUnder? f.name source.bindings = some text) :
    source.Binds f.name text := by
  obtain ⟨cs, hcs, rfl⟩ := Option.map_eq_some_iff.1 h
  obtain ⟨b, hfind, hvalue⟩ := Option.bind_eq_some_iff.1 hcs
  have hspelled := List.find?_some hfind
  rw [beq_iff_eq, lower_eq_iff f.name_ascii] at hspelled
  obtain ⟨⟨name, value⟩, hmem, rfl⟩ :=
    List.mem_map.1 (List.mem_reverse.1 (List.mem_of_find?_eq_some hfind))
  obtain rfl := Option.some.inj hvalue
  exact ⟨(name, value), hmem, hspelled, String.toList_ofList.symm⟩

theorem not_binds_of_textUnder? (h : textUnder? f.name source.bindings = none) (text : String) :
    ¬ source.Binds f.name text := by
  rintro ⟨⟨name, value⟩, hmem, hname, -⟩
  have hspelled : (lower name == f.name.toList) = true :=
    beq_iff_eq.2 ((lower_eq_iff f.name_ascii).2 hname)
  have hsome : (source.bindings.reverse.find? fun b => lower b.1 == f.name.toList).isSome = true :=
    List.find?_isSome.2
      ⟨(name, some value), List.mem_reverse.2 (List.mem_map.2 ⟨_, hmem, rfl⟩), hspelled⟩
  obtain ⟨b, hfind⟩ := Option.isSome_iff_exists.1 hsome
  obtain ⟨b', -, rfl⟩ := List.mem_map.1 (List.mem_reverse.1 (List.mem_of_find?_eq_some hfind))
  rw [textUnder?, hfind] at h
  cases h

/-- The text that is used for a field. -/
def chosenText (environment file : Source) (f : Field) : Option String :=
  chosen? [environment.bindings, file.bindings] f.name

theorem chosen_chosenText (environment file : Source) (f : Field) :
    Chosen environment file f.name (chosenText environment file f) := by
  rw [chosenText, chosen?, List.findSome?_cons]
  cases henvironment : textUnder? f.name environment.bindings with
  | some text => exact .environment (binds_of_textUnder? henvironment)
  | none =>
    have hidden := not_binds_of_textUnder? henvironment
    rw [List.findSome?_cons]
    cases hfile : textUnder? f.name file.bindings with
    | some text => exact .file hidden (binds_of_textUnder? hfile)
    | none => exact .default hidden (not_binds_of_textUnder? hfile)

theorem chosen_iff (henvironment : environment.Distinct) (hfile : file.Distinct) (f : Field)
    (chosen : Option String) :
    Chosen environment file f.name chosen ↔ chosen = chosenText environment file f := by
  constructor
  · exact fun h => h.eq henvironment hfile (chosen_chosenText environment file f)
  · rintro rfl
    exact chosen_chosenText environment file f

end Choice

section Reading

variable {f : Field} {chosen : Field → Option String} {settings : Settings}

def chosenMembers (chosen : Field → Option String) : List (String × Value) :=
  Field.all.filterMap fun f => (chosen f).map fun s => (f.name, .text s)

theorem find?_members (chosen : Field → Option String) (f : Field) (fields : List Field) :
    (fields.filterMap fun g => (chosen g).map fun s => (g.name, Value.text s)).find?
      (fun m => m.1 == f.name) =
        if f ∈ fields then (chosen f).map fun s => (f.name, .text s) else none := by
  induction fields with
  | nil => rfl
  | cons g fields ih =>
    by_cases hg : g = f
    · subst hg
      rw [if_pos List.mem_cons_self]
      cases hchosen : chosen g with
      | none => simp [ih, hchosen]
      | some s => simp [hchosen]
    · have hname : (g.name == f.name) = false :=
        beq_eq_false_iff_ne.2 fun h => hg (Field.name_injective h)
      have hmem : f ∈ g :: fields ↔ f ∈ fields := by simp [Ne.symm hg]
      rw [if_congr hmem rfl rfl, ← ih, List.filterMap_cons]
      cases chosen g with
      | none => rfl
      | some s => exact List.find?_cons_of_neg (by simp [hname])

theorem member?_chosenMembers (chosen : Field → Option String) (f : Field) :
    Value.member? f.name (chosenMembers chosen) = (chosen f).map .text := by
  rw [Value.member?, chosenMembers, ← List.filterMap_reverse, find?_members,
    if_pos (List.mem_reverse.2 f.mem_all), Option.map_map]
  rfl

/-- A field read from the members, with its issue if it has one. -/
def Field.result (f : Field) (chosen : Option String) : Except (List Issue) f.Kind :=
  match chosen with
  | some s => (f.read (.text s)).mapError fun complaint => [⟨[.field f.name], complaint, .text s⟩]
  | none => .ok (f.get {})

theorem optional_chosenMembers (chosen : Field → Option String) (f : Field) :
    optional f.read (f.get {}) f.name (chosenMembers chosen) = f.result (chosen f) := by
  rw [Validation.optional, member?_chosenMembers]
  cases chosen f <;> rfl

theorem Field.result_eq_ok_iff {text : Option String} {v : f.Kind} :
    f.result text = .ok v ↔ f.reading text = .ok v := by
  cases text with
  | none => simp only [result, reading, Except.ok.injEq]
  | some s =>
    simp only [result, reading]
    cases f.read (.text s) <;> simp [Except.mapError]

theorem Field.issues_result (f : Field) (text : Option String) :
    issues (f.result text) = (f.issue? text).toList := by
  cases text with
  | none => rfl
  | some s =>
    simp only [result, issue?]
    cases f.read (.text s) <;> rfl

theorem Field.result_ne (f : Field) (text : Option String) : f.result text ≠ .error [] := by
  cases text with
  | none => exact nofun
  | some s =>
    simp only [result]
    cases f.read (.text s) <;> exact nofun

theorem mapError_eq_error_iff {result : Except (List Issue) α} (h : result ≠ .error [])
    {subject : Subject} {r : Rejection} :
    result.mapError (⟨subject, ·⟩) = .error r ↔ r = ⟨subject, issues result⟩ ∧ r.issues ≠ [] := by
  cases result with
  | ok a =>
    refine iff_of_false nofun ?_
    rintro ⟨rfl, hne⟩
    exact hne rfl
  | error is =>
    constructor
    · rintro ⟨⟩
      exact ⟨rfl, fun hnil => h (congrArg _ hnil)⟩
    · rintro ⟨rfl, -⟩
      rfl

theorem ofMembers_chosenMembers (chosen : Field → Option String) :
    ofMembers (chosenMembers chosen) =
      (both (Field.databaseUrl.result (chosen .databaseUrl)) <|
        both (Field.databaseEcho.result (chosen .databaseEcho)) <|
        both (Field.databasePoolSize.result (chosen .databasePoolSize))
          (Field.logLevel.result (chosen .logLevel))).map
            fun (url, echo, poolSize, logLevel) => ⟨url, echo, poolSize, logLevel⟩ := by
  rw [← optional_chosenMembers, ← optional_chosenMembers, ← optional_chosenMembers,
    ← optional_chosenMembers]
  rfl

theorem ofMembers_eq_ok_iff :
    ofMembers (chosenMembers chosen) = .ok settings ↔
      ∀ f : Field, f.reading (chosen f) = .ok (f.get settings) := by
  simp only [← Field.result_eq_ok_iff]
  rw [ofMembers_chosenMembers]
  constructor
  · intro h
    generalize hall : both _ _ = all at h
    cases all with
    | error issues => cases h
    | ok all =>
      obtain ⟨url, echo, poolSize, logLevel⟩ := all
      cases h
      obtain ⟨hurl, hrest⟩ := both_ok hall
      obtain ⟨hecho, hrest⟩ := both_ok hrest
      obtain ⟨hpoolSize, hlogLevel⟩ := both_ok hrest
      intro f
      cases f with
      | databaseUrl => exact hurl
      | databaseEcho => exact hecho
      | databasePoolSize => exact hpoolSize
      | logLevel => exact hlogLevel
  · intro h
    rw [h, h, h, h]
    rfl

theorem issues_ofMembers (chosen : Field → Option String) :
    issues (ofMembers (chosenMembers chosen)) =
      Field.all.filterMap fun f => f.issue? (chosen f) := by
  rw [ofMembers_chosenMembers, issues_map, issues_both, issues_both, issues_both,
    List.filterMap_eq_flatMap_toList]
  simp only [Field.issues_result, Field.all, List.flatMap_cons, List.flatMap_nil, List.append_nil]

theorem ofMembers_ne (chosen : Field → Option String) :
    ofMembers (chosenMembers chosen) ≠ .error [] := by
  rw [ofMembers_chosenMembers]
  have hboth := both_ne_error_nil (Field.databaseUrl.result_ne (chosen .databaseUrl)) <|
    both_ne_error_nil (Field.databaseEcho.result_ne (chosen .databaseEcho)) <|
    both_ne_error_nil (Field.databasePoolSize.result_ne (chosen .databasePoolSize))
      (Field.logLevel.result_ne (chosen .logLevel))
  generalize both _ _ = all at hboth
  cases all with
  | ok all => exact nofun
  | error issues => exact fun h => hboth (by simpa [Except.map] using h)

end Reading

/-- The lines of a file that may be missing. -/
inductive FileLines : Option (List Char) → List EnvFile.Line → Prop where
  | absent : FileLines none []
  | present {cs : List Char} {ls : List EnvFile.Line} (h : EnvFile.Written cs ls) :
    FileLines (some cs) ls

def Source.ofLines (ls : List EnvFile.Line) : Source := ls.map fun l => (l.name, l.value)

theorem Source.bindings_ofLines (ls : List EnvFile.Line) :
    (Source.ofLines ls).bindings = ls.map EnvFile.Line.binding := List.map_map

theorem Source.Distinct.nodup_names {ls : List EnvFile.Line} (h : (Source.ofLines ls).Distinct) :
    (ls.map EnvFile.Line.name).Nodup := by
  rw [Source.Distinct, Source.ofLines, List.map_map] at h
  refine List.Nodup.of_map (List.map Char.toLower) ?_
  rwa [List.map_map]

/-- Settings are read from the texts that are used for the fields. -/
theorem load_of_fileLines {environment : Source} {file : Option (List Char)}
    {ls : List EnvFile.Line} (h : FileLines file ls) (hdistinct : (Source.ofLines ls).Distinct) :
    load environment file =
      (ofMembers (chosenMembers (chosenText environment (.ofLines ls)))).mapError
        (⟨.settings, ·⟩) := by
  cases h with
  | absent => rfl
  | @present cs ls h =>
    have hvalues : EnvFile.values environment cs = (Source.ofLines ls).bindings := by
      rw [h.values_eq hdistinct.nodup_names, Source.bindings_ofLines]
    rw [load, hvalues]
    rfl

/-- An environment and a file of plain lines, with names of their own in each. -/
structure Sources where
  environment : Source
  file : Option (List Char)
  lines : List EnvFile.Line
  file_lines : FileLines file lines
  environment_distinct : environment.Distinct
  lines_distinct : (Source.ofLines lines).Distinct

namespace Sources

variable {s s' : Sources}

def load (s : Sources) : Except Rejection Settings := Settings.load s.environment s.file

def fileSource (s : Sources) : Source := .ofLines s.lines

/-- Two sources bind the fields alike where it matters: in the environment, and in the file unless
the environment hides it. -/
structure Agree (s s' : Sources) : Prop where
  environment (f : Field) (text : String) :
    s.environment.Binds f.name text ↔ s'.environment.Binds f.name text
  file (f : Field) (hidden : ∀ text, ¬ s.environment.Binds f.name text) (text : String) :
    s.fileSource.Binds f.name text ↔ s'.fileSource.Binds f.name text

theorem Agree.chosen (h : Agree s s') (f : Field) {chosen : Option String}
    (hchosen : Chosen s.environment s.fileSource f.name chosen) :
    Chosen s'.environment s'.fileSource f.name chosen := by
  cases hchosen with
  | environment hbinds => exact .environment ((h.environment f _).1 hbinds)
  | file hidden hbinds =>
    exact .file (fun text htext => hidden text ((h.environment f text).2 htext))
      ((h.file f hidden _).1 hbinds)
  | default hidden hnone =>
    exact .default (fun text htext => hidden text ((h.environment f text).2 htext))
      fun text htext => hnone text ((h.file f hidden text).2 htext)

theorem Agree.load_eq (h : Agree s s') : s'.load = s.load := by
  have hchosen :
      chosenText s'.environment s'.fileSource = chosenText s.environment s.fileSource := by
    funext f
    have hsame := h.chosen f (chosen_chosenText s.environment s.fileSource f)
    exact ((chosen_iff s'.environment_distinct s'.lines_distinct f _).1 hsame).symm
  rw [load, load, load_of_fileLines s'.file_lines s'.lines_distinct,
    load_of_fileLines s.file_lines s.lines_distinct]
  exact congrArg (fun chosen => (ofMembers (chosenMembers chosen)).mapError _) hchosen

end Sources

/-- Settings are layered field by field. For each field there is one text that is used, or none: the
text that the environment binds the field's name to in some letter case, else that of the file. The
settings are made exactly if the text of each field is valid for it, and then each field is what its
own text says; otherwise the rejection has one issue for each field whose text is not, in order.
Whatever else is bound, and whatever the environment hides in the file, changes nothing. -/
theorem Sources.load_layers_fields (s : Sources) :
    ∃ chosen : Field → Option String,
      (∀ f text, Chosen s.environment s.fileSource f.name text ↔ text = chosen f) ∧
      ((∃ settings, s.load = .ok settings) ↔ ∀ f : Field, ∃ v, f.reading (chosen f) = .ok v) ∧
      (∀ settings, s.load = .ok settings ↔
        ∀ f : Field, f.reading (chosen f) = .ok (f.get settings)) ∧
      (∀ r, s.load = .error r ↔
        r = ⟨.settings, Field.all.filterMap fun f => f.issue? (chosen f)⟩ ∧ r.issues ≠ []) ∧
      ∀ s', Agree s s' → s'.load = s.load := by
  let chosen := chosenText s.environment s.fileSource
  have hload : s.load = (ofMembers (chosenMembers chosen)).mapError (⟨.settings, ·⟩) :=
    load_of_fileLines s.file_lines s.lines_distinct
  have hok (settings : Settings) :
      s.load = .ok settings ↔ ∀ f : Field, f.reading (chosen f) = .ok (f.get settings) := by
    rw [hload, ← ofMembers_eq_ok_iff]
    cases ofMembers (chosenMembers chosen) <;> simp [Except.mapError]
  refine ⟨chosen, chosen_iff s.environment_distinct s.lines_distinct, ⟨?_, ?_⟩, hok, ?_,
    fun s' h => h.load_eq⟩
  · rintro ⟨settings, h⟩ f
    exact ⟨_, (hok settings).1 h f⟩
  · intro h
    choose v hv using h
    refine ⟨⟨v .databaseUrl, v .databaseEcho, v .databasePoolSize, v .logLevel⟩, ?_⟩
    rw [hok]
    intro f
    cases f <;> exact hv _
  · intro r
    rw [hload, mapError_eq_error_iff (ofMembers_ne chosen), issues_ofMembers]

section Hidden

variable {f : Field} {text : String}

def doubtfulEcho : Source := [("Database_Echo".toList, "maybe".toList)]

def echoOn : EnvFile.Line where
  name := "DATABASE_ECHO".toList
  value := ['o', 'n']
  name_ne_nil := by simp
  name_letters := by simp [EnvFile.IsNameLetter]
  value_plain := by simp [EnvFile.IsPlain]; decide

def Sources.hiddenEcho : Sources where
  environment := doubtfulEcho
  file := some echoOn.chars
  lines := [echoOn]
  file_lines := .present (.last echoOn)
  environment_distinct := List.nodup_singleton _
  lines_distinct := List.nodup_singleton _

def Sources.otherName : Sources where
  environment := ("PATH".toList, []) :: doubtfulEcho
  file := none
  lines := []
  file_lines := .absent
  environment_distinct := by simp [Source.Distinct, doubtfulEcho]
  lines_distinct := List.nodup_nil

theorem Source.Binds.eq_of_singleton {cs value : List Char} {g : Field}
    (h : Source.Binds [(cs, value)] f.name text) (hname : cs.map Char.toLower = g.name.toList) :
    f = g := by
  obtain ⟨b, hb, hspelled, -⟩ := h
  obtain rfl := List.mem_singleton.1 hb
  exact Field.name_injective (String.toList_inj.1 (hspelled.symm.trans hname))

theorem doubtfulEcho_name :
    "Database_Echo".toList.map Char.toLower = Field.databaseEcho.name.toList := by
  simp [Field.name]

theorem echoOn_name : echoOn.name.map Char.toLower = Field.databaseEcho.name.toList := by
  have hname : echoOn.name = "DATABASE_ECHO".toList := rfl
  rw [hname]
  simp [Field.name]

theorem binds_otherName_iff :
    Sources.otherName.environment.Binds f.name text ↔ doubtfulEcho.Binds f.name text := by
  constructor
  · rintro ⟨b, hb, hname, htext⟩
    rcases List.mem_cons.1 hb with rfl | hb
    · cases f <;> simp [Field.name] at hname
    · exact ⟨b, hb, hname, htext⟩
  · rintro ⟨b, hb, h⟩
    exact ⟨b, List.mem_cons_of_mem _ hb, h⟩

theorem Sources.hiddenEcho_load :
    hiddenEcho.load =
        .error ⟨.settings, [⟨[.field "database_echo"], .booleanText, .text "maybe"⟩]⟩ ∧
      otherName.load = hiddenEcho.load := by
  obtain ⟨chosen, hchosen, -, -, herror, hagree⟩ := hiddenEcho.load_layers_fields
  have hbinds : doubtfulEcho.Binds Field.databaseEcho.name "maybe" :=
    ⟨_, List.mem_singleton_self _, doubtfulEcho_name, rfl⟩
  have hfile (f : Field) (text : String) (h : hiddenEcho.fileSource.Binds f.name text) :
      f = .databaseEcho := h.eq_of_singleton echoOn_name
  have hecho : chosen .databaseEcho = some "maybe" :=
    ((hchosen .databaseEcho _).1 (.environment hbinds)).symm
  have hother (f : Field) (hf : f ≠ .databaseEcho) : chosen f = none :=
    ((hchosen f none).1 (.default (fun _ h => hf (h.eq_of_singleton doubtfulEcho_name))
      fun _ h => hf (hfile f _ h))).symm
  have hmaybe : boolean (.text "maybe") = .error .booleanText := by decide +kernel
  constructor
  · refine (herror _).2 ⟨?_, List.cons_ne_nil _ _⟩
    simp [Field.all, hecho, hother, Field.issue?, Field.read, hmaybe, Field.name]
  · refine hagree otherName ⟨fun f text => binds_otherName_iff.symm, fun f hidden text => ?_⟩
    have hf : f ≠ .databaseEcho := by
      rintro rfl
      exact hidden _ hbinds
    refine iff_of_false (fun h => hf (hfile f _ h)) ?_
    rintro ⟨b, hb, -⟩
    cases hb

end Hidden

end StorageLedger.Settings
