import Segmentation.Schema.Number
import Segmentation.Schema.Reading
import Segmentation.Settings.Dotenv
import Segmentation.Storage.Path
import Segmentation.Text.Case

/-!
# Settings

Settings say where files are and how much is logged. Each has a default. It can be set, with growing
priority, in a file of the project, in a file of the user, in the environment, and by an argument. Names in
files and in the environment have a common start and are read in any case.
-/

namespace Segmentation

/-- Where files are, and how log files are written. -/
structure Settings where
  configDir : Path
  segmentsFile : String
  catalogueFile : Option String
  contactsFile : String
  logLevel : String
  logDir : Path
  logRotationMegabytes : Nat
  logBackupCount : Nat

/-- Where settings come from. -/
structure Settings.Sources where
  home : Path
  arguments : List (String × Value)
  environment : List (String × String)
  userFile : Option String
  projectFile : Option String

namespace Settings

/-- The names of the settings. -/
def names : List String :=
  ["config_dir", "segments_file", "catalogue_file", "contacts_file", "log_level", "log_dir",
    "log_rotation_size_mb", "log_backup_count"]

/-- What the names of variables start with, in small letters. -/
def variableStart : String := "audience_builder_"

/-- The usual directory of the configuration. -/
def defaultDirectory (home : Path) : Path :=
  (home.child ".config").child "audience-builder"

/-- The file in which the user keeps settings. -/
def userFile (home : Path) : Path :=
  (defaultDirectory home).child ".env"

/-- The file in which a project keeps settings. -/
def projectFile : Path := .ofText ".env"

namespace Sources

/-- Variables under their names in small letters; of several with one name the last one counts. -/
def folded {α : Type} (assigned : List (String × α)) : List (String × α) :=
  assigned.foldl (fun done (name, value) => Dotenv.assign done (Text.lower name) value) []

/-- The variables of both files; those of the user count more. -/
def fileVariables (s : Sources) : List (String × Option String) :=
  let read (file : Option String) : List (String × Option String) :=
    match file with
    | some text => folded (Dotenv.values s.environment text)
    | none => []
  (read s.userFile).foldl (fun done (name, value) => Dotenv.assign done name value) (read s.projectFile)

/-- The settings among variables. -/
def settingsAmong (assigned : List (String × Option String)) : List (String × Value) :=
  names.filterMap fun name =>
    match assigned.lookup (variableStart ++ name) with
    | some (some text) => some (name, .text text)
    | _ => none

/-- The variables of the files that set no setting although they have a value. Names of settings without
the common start are passed over. -/
def strangers (assigned : List (String × Option String)) : List (String × Value) :=
  assigned.filterMap fun (name, value) =>
    match value with
    | some text =>
      if text = "" || names.contains name || names.any (variableStart ++ · = name) then none
      else some (name, .text text)
    | none => none

/-- All values that are given, each from the source that counts most. -/
def given (s : Sources) : List (String × Value) :=
  let fileVariables := s.fileVariables
  let environment := settingsAmong ((folded s.environment).map fun (name, text) => (name, some text))
  (environment ++ s.arguments).foldl (fun done (name, value) => Dotenv.assign done name value)
    (settingsAmong fileVariables ++ strangers fileVariables)

end Sources

/-- A path given as text. -/
def checkPath (v : Value) : Checked Path :=
  match Schema.text v with
  | .ok s => .ok (.ofText s)
  | .error _ => .misfit .notAPath

/-- What is given under a name that no setting has. -/
def checkNames (given : List (String × Value)) : Checked Unit :=
  match (given.map (·.1)).filter (!names.contains ·) with
  | [] => .ok ()
  | unknown => .error (unknown.map fun name => ⟨[name], .notExpected⟩)

/-- The settings that the sources give. -/
def check (s : Sources) : Checked Settings := do
  let given := s.given
  let es : List (Value × Value) := given.map fun (name, v) => (.text name, v)
  let directory := defaultDirectory s.home
  let (configDir, segmentsFile, catalogueFile, contactsFile, logLevel, logDir, rotation, backups, _) ←
    Checked.both (Schema.withDefault es "config_dir" directory checkPath) <|
    Checked.both (Schema.withDefault es "segments_file" "segments.yaml" Schema.text) <|
    Checked.both (Schema.withDefault es "catalogue_file" none (Schema.optional Schema.text)) <|
    Checked.both (Schema.withDefault es "contacts_file" "contacts.json" Schema.text) <|
    Checked.both (Schema.withDefault es "log_level" "INFO" Schema.text) <|
    Checked.both (Schema.withDefault es "log_dir" (directory.child "logs") checkPath) <|
    Checked.both (Schema.withDefault es "log_rotation_size_mb" 5 (Schema.atLeast 1)) <|
    Checked.both (Schema.withDefault es "log_backup_count" 3 (Schema.atLeast 0))
      (checkNames given)
  return ⟨configDir, segmentsFile, catalogueFile, contactsFile, logLevel, logDir, rotation, backups⟩

/-- The file of segments. -/
def segmentsPath (s : Settings) : Path :=
  s.configDir.child s.segmentsFile

/-- The file of the catalogue, if one is configured. -/
def cataloguePath? (s : Settings) : Option Path :=
  match s.catalogueFile with
  | none => none
  | some name => if name = "" then none else some (s.configDir.child name)

/-- The file of contacts that is used unless another one is named. -/
def contactsPath (s : Settings) : Path :=
  s.configDir.child s.contactsFile

end Settings

end Segmentation
