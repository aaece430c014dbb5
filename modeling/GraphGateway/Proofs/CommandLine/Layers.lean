/-
The configuration in layers.

Each layer gives some fields and leaves the others open: the command line, the environment, a file,
and what holds from the start. A field has the value of the first layer that gives it, whatever the
layers give for the other fields (`Layered`), because each layer is put over what those below it
come to (`Layer.over`). Only a file and the variable of the flag can be refused, and they are looked
at even if the command line gives what they would have given.
-/
import GraphGateway.CommandLine.Program
import GraphGateway.Proofs.CommandLine.Launch
import GraphGateway.Proofs.Config.Environment
import GraphGateway.Proofs.Json.Token

namespace GraphGateway

namespace Config

/-! ## Layers -/

/-- What a layer gives for each field, or nothing if it leaves the field open. -/
structure Layer where
  dbPath : Option Files.Path := none
  readOnly : Option Bool := none
  seedFile : Option Files.Path := none
  logLevel : Option String := none

/-- Each field has the value of the first layer that gives it. Only the script for seeding may be
left open by all. -/
structure Layered (layers : List Layer) (c : Config) : Prop where
  dbPath : layers.findSome? Layer.dbPath = some c.dbPath
  readOnly : layers.findSome? Layer.readOnly = some c.readOnly
  seedFile : layers.findSome? Layer.seedFile = c.seedFile
  logLevel : layers.findSome? Layer.logLevel = some c.logLevel

/-- A layer on top of what the layers below it come to. -/
def Layer.over (l : Layer) (c : Config) : Config :=
  ⟨l.dbPath.getD c.dbPath, l.readOnly.getD c.readOnly, l.seedFile.or c.seedFile,
    l.logLevel.getD c.logLevel⟩

theorem findSome?_over {α : Type} (field : Layer → Option α) (l : Layer) {layers : List Layer}
    {a : α} (h : layers.findSome? field = some a) :
    (l :: layers).findSome? field = some ((field l).getD a) := by
  rw [List.findSome?_cons]
  cases field l with
  | none => exact h
  | some b => rfl

theorem Layered.over {layers : List Layer} {c : Config} (h : Layered layers c) (l : Layer) :
    Layered (l :: layers) (l.over c) where
  dbPath := findSome?_over Layer.dbPath l h.dbPath
  readOnly := findSome?_over Layer.readOnly l h.readOnly
  seedFile := by
    rw [List.findSome?_cons, Layer.over, h.seedFile]
    cases l.seedFile <;> rfl
  logLevel := findSome?_over Layer.logLevel l h.logLevel

theorem Layered.unique {layers : List Layer} {c c' : Config} (h : Layered layers c)
    (h' : Layered layers c') : c = c' := by
  obtain ⟨dbPath, readOnly, seedFile, logLevel⟩ := c
  obtain ⟨dbPath', readOnly', seedFile', logLevel'⟩ := c'
  obtain rfl := Option.some.inj (h.dbPath.symm.trans h'.dbPath)
  obtain rfl := Option.some.inj (h.readOnly.symm.trans h'.readOnly)
  obtain rfl := h.seedFile.symm.trans h'.seedFile
  obtain rfl := Option.some.inj (h.logLevel.symm.trans h'.logLevel)
  rfl

/-- The lowest layer. -/
def initialLayer (dataDirectory : Option Files.Path) : Layer :=
  ⟨some (initialPath dataDirectory), some false, none, some "info"⟩

theorem layered_initial (dataDirectory : Option Files.Path) :
    Layered [initialLayer dataDirectory] (initial dataDirectory) := ⟨rfl, rfl, rfl, rfl⟩

/-! ## The layer of a file -/

/-- A text gives a layer: it is a TOML document, and each field that it sets is of its type. -/
inductive TextGives (text : String) : Layer → Prop where
  | mk {entries : Toml.Entries} {dbPath seedFile logLevel : Option String} {readOnly : Option Bool}
    (htext : Toml.ofText? text = some entries)
    (hdbPath : entries.lookup "db_path" = dbPath.map .string)
    (hreadOnly : entries.lookup "read_only" = readOnly.map .flag)
    (hseedFile : entries.lookup "seed_file" = seedFile.map .string)
    (hlogLevel : entries.lookup "log_level" = logLevel.map .string) :
    TextGives text ⟨dbPath.map Files.Path.ofString, readOnly, seedFile.map Files.Path.ofString,
      logLevel⟩

/-- A file that can be read and parsed gives a layer. -/
def FileGives (t : Files.Tree) (path : Files.Path) (l : Layer) : Prop :=
  ∃ text, t.readText path = .ok text ∧ TextGives text l

/-- A file cannot be read, or what it holds cannot be parsed. -/
def FileRefused (t : Files.Tree) (path : Files.Path) : Prop :=
  (∃ error, t.readText path = .error error) ∨
    ∃ text, t.readText path = .ok text ∧ ∀ l, ¬TextGives text l

theorem stringField_eq_ok_iff {entries : Toml.Entries} {name : String} {value : Option String} :
    stringField entries name = .ok value ↔ entries.lookup name = value.map .string := by
  unfold stringField
  split
  · next h => cases value <;> simp [h]
  · next s h => cases value <;> simp [h]
  · next v hv h =>
    cases value with
    | none => simp [h]
    | some s =>
      rw [h]
      exact ⟨(nomatch ·), fun heq => absurd (Option.some.inj heq) (hv s)⟩

theorem flagField_eq_ok_iff {entries : Toml.Entries} {name : String} {value : Option Bool} :
    flagField entries name = .ok value ↔ entries.lookup name = value.map .flag := by
  unfold flagField
  split
  · next h => cases value <;> simp [h]
  · next b h => cases value <;> simp [h]
  · next v hv h =>
    cases value with
    | none => simp [h]
    | some b =>
      rw [h]
      exact ⟨(nomatch ·), fun heq => absurd (Option.some.inj heq) (hv b)⟩

theorem ofEntries_eq_ok_iff {entries : Toml.Entries} {g : Given} :
    ofEntries entries = .ok g ↔
      entries.lookup "db_path" = g.dbPath.map .string ∧
      entries.lookup "read_only" = g.readOnly.map .flag ∧
      entries.lookup "seed_file" = g.seedFile.map .string ∧
      entries.lookup "log_level" = g.logLevel.map .string := by
  simp only [← stringField_eq_ok_iff, ← flagField_eq_ok_iff]
  constructor
  · intro h
    obtain ⟨dbPath, hdbPath, h⟩ := bind_eq_ok_iff.mp h
    obtain ⟨readOnly, hreadOnly, h⟩ := bind_eq_ok_iff.mp h
    obtain ⟨seedFile, hseedFile, h⟩ := bind_eq_ok_iff.mp h
    obtain ⟨logLevel, hlogLevel, h⟩ := bind_eq_ok_iff.mp h
    cases h
    exact ⟨hdbPath, hreadOnly, hseedFile, hlogLevel⟩
  · rintro ⟨hdbPath, hreadOnly, hseedFile, hlogLevel⟩
    simp only [ofEntries, hdbPath, hreadOnly, hseedFile, hlogLevel, bind, Except.bind]

theorem ofText_eq_ok_iff {c c' : Config} {text : String} :
    ofText c text = .ok c' ↔ ∃ l, TextGives text l ∧ c' = l.over c := by
  constructor
  · intro h
    unfold ofText at h
    split at h
    · cases h
    · next entries htext =>
      obtain ⟨g, hg, rfl⟩ := map_eq_ok_iff.mp h
      obtain ⟨hdbPath, hreadOnly, hseedFile, hlogLevel⟩ := ofEntries_eq_ok_iff.mp hg
      exact ⟨_, .mk htext hdbPath hreadOnly hseedFile hlogLevel, rfl⟩
  · rintro ⟨l, hl, rfl⟩
    cases hl with
    | @mk entries dbPath seedFile logLevel readOnly htext hdbPath hreadOnly hseedFile hlogLevel =>
      have hg : ofEntries entries = .ok ⟨dbPath, readOnly, seedFile, logLevel⟩ :=
        ofEntries_eq_ok_iff.mpr ⟨hdbPath, hreadOnly, hseedFile, hlogLevel⟩
      simp only [ofText, htext, hg, Except.map]
      rfl

theorem load_eq_ok_iff {c c' : Config} {t : Files.Tree} {path : Files.Path} :
    load c t path = .ok c' ↔ ∃ l, FileGives t path l ∧ c' = l.over c := by
  have hload : load c t path = .ok c' ↔
      ∃ text, t.readText path = .ok text ∧ ofText c text = .ok c' := by
    unfold load
    cases t.readText path with
    | error error => simp
    | ok text => cases htext : ofText c text <;> simp [htext]
  rw [hload]
  constructor
  · rintro ⟨text, hread, htext⟩
    obtain ⟨l, hl, rfl⟩ := ofText_eq_ok_iff.mp htext
    exact ⟨l, ⟨text, hread, hl⟩, rfl⟩
  · rintro ⟨l, ⟨text, hread, hl⟩, rfl⟩
    exact ⟨text, hread, ofText_eq_ok_iff.mpr ⟨l, hl, rfl⟩⟩

theorem fileRefused_iff {t : Files.Tree} {path : Files.Path} :
    FileRefused t path ↔ ∀ l, ¬FileGives t path l := by
  cases hread : t.readText path with
  | error error => simp [FileRefused, FileGives, hread]
  | ok text => simp [FileRefused, FileGives, hread]

theorem load_eq_error_iff {c : Config} {t : Files.Tree} {path : Files.Path} :
    (∃ f, load c t path = .error f) ↔ FileRefused t path := by
  have hok (c' : Config) : load c t path = .ok c' ↔ ∃ l, FileGives t path l ∧ c' = l.over c :=
    load_eq_ok_iff
  rw [fileRefused_iff]
  cases hload : load c t path with
  | error f =>
    refine iff_of_true ⟨f, rfl⟩ fun l hl => ?_
    cases hload.symm.trans ((hok _).mpr ⟨l, hl, rfl⟩)
  | ok c' =>
    obtain ⟨l, hl, -⟩ := (hok c').mp hload
    exact iff_of_false (nomatch ·) fun h => h l hl

/-! ## The layer of the environment -/

/-- The words for yes and for no. -/
def wordsFor : Bool → List String
  | true => ["1", "true", "yes", "on"]
  | false => ["0", "false", "no", "off"]

/-- A value is a word for yes or for no, in capitals or not, with blanks around it or without. -/
def Says (value : String) (b : Bool) : Prop := (Text.trim value).toLower ∈ wordsFor b

/-- What the variable of the flag gives. -/
def FlagGives (env : Environment) : Option Bool → Prop
  | none => env.text? readOnlyVariable = none
  | some b => ∃ value, env.text? readOnlyVariable = some value ∧ Says value b

/-- The variable of the flag is no word for yes or for no. -/
def FlagRefused (env : Environment) : Prop :=
  ∃ value, env.text? readOnlyVariable = some value ∧ ∀ b, ¬Says value b

/-- An environment gives a layer. Paths are taken as they are set, unless they are blank. -/
structure EnvironmentGives (env : Environment) (l : Layer) : Prop where
  dbPath : l.dbPath = (env.nonBlank? dbPathVariable).map Files.Path.ofString
  readOnly : FlagGives env l.readOnly
  seedFile : l.seedFile = (env.nonBlank? seedFileVariable).map Files.Path.ofString
  logLevel : l.logLevel = none

theorem not_mem_wordsFor_false {word : String} (h : word ∈ wordsFor true) :
    word ∉ wordsFor false := by
  simp only [wordsFor, List.mem_cons, List.not_mem_nil, or_false] at h
  rcases h with rfl | rfl | rfl | rfl <;> decide

theorem flagOf_eq_ok_iff {name value : String} (h : Text.isAllBlank value = false) {b : Bool} :
    flagOf name value = .ok b ↔ Says value b := by
  have hword : (Text.trim value).toLower ≠ "" := by
    intro hempty
    have hmap : (Text.trim value).map Char.toLower = "" := hempty
    have htrim : Text.trim value = "" := by simpa using hmap
    rw [Text.trim_eq_empty_iff, h] at htrim
    cases htrim
  unfold flagOf Says
  generalize (Text.trim value).toLower = word at hword
  have hyes : ["1", "true", "yes", "on"].contains word = true ↔ word ∈ wordsFor true := by
    simp [wordsFor]
  have hno : ["0", "false", "no", "off", ""].contains word = true ↔ word ∈ wordsFor false := by
    simp [wordsFor, hword]
  simp only [hyes, hno]
  split
  · next hmem =>
    have hother := not_mem_wordsFor_false hmem
    cases b <;> simp [hmem, hother]
  · next hyes =>
    split
    · next hmem => cases b <;> simp [hyes, hmem]
    · next hmem => cases b <;> simp [hyes, hmem]

section Override

variable {env : Environment} (hblank : env.isBlank readOnlyVariable = false)
include hblank

theorem override_eq_ok_iff {c c' : Config} :
    c.override env = (.ok (), c') ↔ ∃ l, EnvironmentGives env l ∧ c' = l.over c := by
  constructor
  · intro h
    unfold override at h
    dsimp only at h
    split at h
    · next hnone =>
      cases h
      exact ⟨⟨_, none, _, none⟩, ⟨rfl, hnone, rfl, rfl⟩, rfl⟩
    · next value hvalue =>
      split at h
      · next b hflag =>
        cases h
        have hsays := (flagOf_eq_ok_iff (by simpa [Environment.isBlank, hvalue] using hblank)).mp hflag
        exact ⟨⟨_, some b, _, none⟩, ⟨rfl, ⟨value, hvalue, hsays⟩, rfl, rfl⟩, rfl⟩
      · cases h
  · rintro ⟨⟨dbPath, readOnly, seedFile, logLevel⟩, ⟨rfl, hflag, rfl, rfl⟩, rfl⟩
    unfold override
    cases readOnly with
    | none =>
      have hnone : env.text? readOnlyVariable = none := hflag
      simp only [hnone]
      rfl
    | some b =>
      obtain ⟨value, hvalue, hsays⟩ := hflag
      have hok : flagOf readOnlyVariable value = .ok b :=
        (flagOf_eq_ok_iff (by simpa [Environment.isBlank, hvalue] using hblank)).mpr hsays
      simp only [hvalue, hok]
      rfl

theorem override_eq_error_iff {c : Config} :
    (∃ f, (c.override env).1 = .error f) ↔ FlagRefused env := by
  unfold override FlagRefused
  cases hvalue : env.text? readOnlyVariable with
  | none => simp
  | some value =>
    have hsaid (b : Bool) : flagOf readOnlyVariable value = .ok b ↔ Says value b :=
      flagOf_eq_ok_iff (by simpa [Environment.isBlank, hvalue] using hblank)
    cases hflag : flagOf readOnlyVariable value with
    | error f => simpa [hflag] using hsaid
    | ok b =>
      have hb := (hsaid b).mp hflag
      simp only [hflag]
      refine iff_of_false ?_ ?_
      · rintro ⟨f, h⟩
        cases h
      · rintro ⟨other, heq, hnone⟩
        obtain rfl := Option.some.inj heq
        exact hnone b hb

end Override

end Config

/-! ## The layers of a command line -/

namespace CommandLine

open Config (Layer Layered FileGives FileRefused EnvironmentGives FlagRefused)

namespace Options

/-- The highest layer. The flag can only be turned on. -/
def layer (o : Options) : Layer :=
  ⟨o.dbPath, if o.readOnly then some true else none, o.seedFile, o.logLevel⟩

theorem applyTo_eq_over (o : Options) (c : Config) : o.applyTo c = o.layer.over c := by
  cases h : o.readOnly <;> simp [applyTo, layer, Layer.over, h]

/-- The layer of the file that the command line names, or an open one if it names none. -/
inductive FileLayer (o : Options) (t : Files.Tree) : Layer → Prop where
  | absent (h : o.config = none) : FileLayer o t {}
  | given {path : Files.Path} {l : Layer} (h : o.config = some path) (hfile : FileGives t path l) :
    FileLayer o t l

/-- The command line names a file that cannot be read or parsed. -/
def NamesRefused (o : Options) (t : Files.Tree) : Prop :=
  ∃ path, o.config = some path ∧ FileRefused t path

/-- What the file comes to on top of the initial configuration. -/
def below (o : Options) (s : Surroundings) : Except Failure Config :=
  match o.config with
  | some path => Config.load (Config.initial s.dataDirectory) s.tree path
  | none => .ok (Config.initial s.dataDirectory)

variable {o : Options} {s : Surroundings} {c : Config}

theorem below_eq_ok_iff : o.below s = .ok c ↔
    ∃ l, o.FileLayer s.tree l ∧ c = l.over (Config.initial s.dataDirectory) := by
  unfold below
  cases hconfig : o.config with
  | none =>
    constructor
    · intro h
      cases h
      exact ⟨{}, .absent hconfig, rfl⟩
    · rintro ⟨l, hl, rfl⟩
      cases hl with
      | absent => rfl
      | given h => cases hconfig.symm.trans h
  | some path =>
    rw [Config.load_eq_ok_iff]
    constructor
    · rintro ⟨l, hfile, rfl⟩
      exact ⟨l, .given hconfig hfile, rfl⟩
    · rintro ⟨l, hl, rfl⟩
      cases hl with
      | absent h => cases hconfig.symm.trans h
      | given h hfile =>
        cases hconfig.symm.trans h
        exact ⟨l, hfile, rfl⟩

theorem below_eq_error_iff : (∃ f, o.below s = .error f) ↔ o.NamesRefused s.tree := by
  unfold below NamesRefused
  cases o.config with
  | none => simp
  | some path => simp [Config.load_eq_error_iff]

theorem resolve_eq (o : Options) (s : Surroundings) :
    o.resolve s = (do
      let c ← o.below s
      (c.override s.environment).1
      .ok (o.applyTo (c.override s.environment).2)) := by
  unfold resolve below
  cases o.config <;> rfl

theorem resolve_eq_ok_iff : o.resolve s = .ok c ↔ ∃ below overridden, o.below s = .ok below ∧
    below.override s.environment = (.ok (), overridden) ∧ c = o.applyTo overridden := by
  rw [resolve_eq]
  constructor
  · intro h
    obtain ⟨below, hbelow, h⟩ := bind_eq_ok_iff.mp h
    obtain ⟨⟨⟩, hoverride, h⟩ := bind_eq_ok_iff.mp h
    cases h
    exact ⟨below, _, hbelow, Prod.ext hoverride rfl, rfl⟩
  · rintro ⟨below, overridden, hbelow, hoverride, rfl⟩
    simp only [hbelow, hoverride, bind, Except.bind]

theorem resolve_fails_iff (hblank : s.environment.isBlank Config.readOnlyVariable = false) :
    (∃ f, o.resolve s = .error f) ↔ o.NamesRefused s.tree ∨ FlagRefused s.environment := by
  rw [resolve_eq, ← below_eq_error_iff]
  cases hbelow : o.below s with
  | error f => exact iff_of_true ⟨f, rfl⟩ (.inl ⟨f, rfl⟩)
  | ok c =>
    rw [← Config.override_eq_error_iff hblank (c := c)]
    cases hoverride : (c.override s.environment).1 with
    | error f => simp [bind, Except.bind, hoverride]
    | ok => simp [bind, Except.bind, hoverride]

/-- The layers of a command line, from the highest to the lowest. -/
def layers (o : Options) (s : Surroundings) (environment file : Layer) : List Layer :=
  [o.layer, environment, file, Config.initialLayer s.dataDirectory]

theorem resolve_layered (hblank : s.environment.isBlank Config.readOnlyVariable = false) :
    o.resolve s = .ok c ↔ ∃ environment file, EnvironmentGives s.environment environment ∧
      o.FileLayer s.tree file ∧ Layered (o.layers s environment file) c := by
  rw [resolve_eq_ok_iff]
  constructor
  · rintro ⟨below, overridden, hbelow, hoverride, rfl⟩
    obtain ⟨file, hfile, rfl⟩ := below_eq_ok_iff.mp hbelow
    obtain ⟨environment, henvironment, rfl⟩ := (Config.override_eq_ok_iff hblank).mp hoverride
    rw [applyTo_eq_over]
    exact ⟨environment, file, henvironment, hfile,
      (((Config.layered_initial s.dataDirectory).over file).over environment).over o.layer⟩
  · rintro ⟨environment, file, henvironment, hfile, hlayered⟩
    refine ⟨_, _, below_eq_ok_iff.mpr ⟨file, hfile, rfl⟩,
      (Config.override_eq_ok_iff hblank).mpr ⟨environment, henvironment, rfl⟩, ?_⟩
    rw [applyTo_eq_over]
    exact hlayered.unique
      ((((Config.layered_initial s.dataDirectory).over file).over environment).over o.layer)

end Options

/-- **Each field is given by the highest layer that has it.** Unless the variable of the flag is
blank: the configuration that a command line resolves to has in each field what the command line
gives, else the environment, else the file, else what holds from the start. Resolving fails exactly
if the named file cannot be read or parsed or the variable of the flag is no word for yes or for no,
and it is a failure of the configuration then. -/
theorem resolved_by_layers (o : Options) (s : Surroundings)
    (hblank : s.environment.isBlank Config.readOnlyVariable = false) :
    (∀ c, o.resolve s = .ok c ↔ ∃ environment file, EnvironmentGives s.environment environment ∧
      o.FileLayer s.tree file ∧ Layered (o.layers s environment file) c) ∧
    ((∃ f, o.resolve s = .error f) ↔ o.NamesRefused s.tree ∨ FlagRefused s.environment) ∧
    ∀ f, o.resolve s = .error f → ∃ message, f = .config message :=
  ⟨fun _ => Options.resolve_layered hblank, Options.resolve_fails_iff hblank,
    fun _ => Options.resolve_eq_error⟩

/-! ### A file that gives all fields, variables of which one is blank, and an option -/

def mixedOptions : Options := { config := some ⟨[0x63]⟩, logLevel := some "debug" }

def mixedFile : String :=
  "db_path = \"f\"\nread_only = true\nseed_file = \"s\"\nlog_level = \"warn\"\n"

def mixedVariables (flag : String) : Environment :=
  [(Config.dbPathVariable, [0x20]), (Config.seedFileVariable, [0x65]),
    (Config.readOnlyVariable, Text.Utf8.encode flag)]

def mixed (flag : String) : Surroundings :=
  ⟨mixedVariables flag, ⟨[], [([[0x63]], .file (Text.Utf8.encode mixedFile))]⟩, none, [],
    unreachable.opener, fun _ => ⟨0, 0⟩⟩

/-- Each layer gives a field. A variable that cannot be understood is refused even though the
command line turns the flag on. -/
theorem resolved_by_layers_mixed :
    (mixed " No").environment.isBlank Config.readOnlyVariable = false ∧
    mixedOptions.resolve (mixed " No") = .ok ⟨⟨[0x66]⟩, false, some ⟨[0x65]⟩, "debug"⟩ ∧
    (∃ environment file, EnvironmentGives (mixed " No").environment environment ∧
      mixedOptions.FileLayer (mixed " No").tree file ∧
      Layered (mixedOptions.layers (mixed " No") environment file)
        ⟨⟨[0x66]⟩, false, some ⟨[0x65]⟩, "debug"⟩) ∧
    FlagRefused (mixed "maybe").environment ∧
    ∃ f, ({ mixedOptions with readOnly := true } : Options).resolve (mixed "maybe") = .error f := by
  have hclear : (mixed " No").environment.isBlank Config.readOnlyVariable = false := by
    decide +kernel
  have hunclear : (mixed "maybe").environment.isBlank Config.readOnlyVariable = false := by
    decide +kernel
  have hresolve : mixedOptions.resolve (mixed " No") =
      .ok ⟨⟨[0x66]⟩, false, some ⟨[0x65]⟩, "debug"⟩ := by
    decide +kernel
  have hrefused : FlagRefused (mixed "maybe").environment := by
    refine ⟨"maybe", by decide +kernel, fun b => ?_⟩
    cases b <;> (unfold Config.Says; decide +kernel)
  exact ⟨hclear, hresolve, ((resolved_by_layers _ _ hclear).1 _).mp hresolve, hrefused,
    (resolved_by_layers _ _ hunclear).2.1.mpr (.inr hrefused)⟩

end CommandLine

end GraphGateway
