import RpgLint.Config.Basic
import RpgLint.Machine.Host
import RpgLint.Toml.Reader

/-!
# Settings in TOML

A record is written as a table; keys that it does not know are skipped.  An array stands for a
record by position, and fields at its end may be missing.  A time is a record without known keys.

Settings are read from the first settings file there is: the one in the working directory, or else
the one in the directory of the user's settings.  Without any, the defaults hold.

## Main definitions

* `Settings.ofToml?` — the settings that a table describes.
* `Settings.read` — the settings that a document describes, if its version is supported.
* `settingsPlaces` — where settings files are looked for.
* `readSettings`, `findSettings` — the settings of a file, and of the first of several files that
  exists.
-/

namespace RpgLint

namespace Toml

/-- What is written for each of the named fields of a record. -/
def slots? (names : List String) : Toml → Option (List (Option Toml))
  | table fields => some (names.map fun name => (fields.find? (·.1 == name)).map Prod.snd)
  | array items => some ((items.map some ++ List.replicate names.length none).take names.length)
  | datetime => some (names.map fun _ => none)
  | _ => none

/-- A text. -/
def text? : Toml → Option String
  | string text => some text
  | _ => none

/-- A truth value. -/
def bool? : Toml → Option Bool
  | boolean value => some value
  | _ => none

/-- A natural number that fits into 64 bits. -/
def nat64? : Toml → Option Nat
  | integer (.ofNat value) => if value < 0x10000000000000000 then some value else none
  | _ => none

/-- A list of texts. -/
def texts? : Toml → Option (List String)
  | array items => items.mapM text?
  | _ => none

/-- A name from a fixed list: a text, or a table with that name and nothing under it. -/
def word? {α : Type} (ofName? : String → Option α) : Toml → Option α
  | string name => ofName? name
  | table [(name, table [])] => ofName? name
  | table [(name, array [])] => ofName? name
  | _ => none

/-- The value of a field that has a default. -/
def orDefault? {α : Type} (decode : Toml → Option α) (default : α) : Option Toml → Option α
  | none => some default
  | some value => decode value

end Toml

namespace CheckSettings

/-- The settings of the checks that a record describes. -/
def ofToml? (value : Toml) : Option CheckSettings :=
  match value.slots? ["level", "consider_dbcs", "max_line_length", "disabled_rules",
      "custom_rules"] with
  | some [level, doubleByte, length, disabled, rules] => do
    return {
      level := ← Toml.orDefault? (Toml.word? Level.ofName?) .standard level
      considerDoubleByte := ← Toml.orDefault? Toml.bool? false doubleByte
      maxLineLength := ← Toml.orDefault? Toml.nat64? 100 length
      disabledRules := ← Toml.orDefault? Toml.texts? [] disabled
      customRules := ← Toml.orDefault? (fun value => value.text?.map some) none rules }
  | _ => none

end CheckSettings

namespace ScannerSettings

/-- The settings of the search that a record describes. -/
def ofToml? (value : Toml) : Option ScannerSettings :=
  match value.slots? ["extensions", "exclude", "recursive"] with
  | some [extensions, exclude, recursive] => do
    let standard : ScannerSettings := {}
    return {
      extensions := ← Toml.orDefault? Toml.texts? standard.extensions extensions
      exclude := ← Toml.orDefault? Toml.texts? [] exclude
      recursive := ← Toml.orDefault? Toml.bool? true recursive }
  | _ => none

end ScannerSettings

namespace Settings

/-- The settings that a record describes. -/
def ofToml? (value : Toml) : Option Settings :=
  match value.slots? ["version", "check", "scanner"] with
  | some [version, check, scanner] => do
    return {
      version := ← Toml.orDefault? (fun value => value.text?.map some) none version
      check := ← Toml.orDefault? CheckSettings.ofToml? {} check
      scanner := ← Toml.orDefault? ScannerSettings.ofToml? {} scanner }
  | _ => none

/-- The version of the format that is supported. -/
def supportedVersion : String := "1"

/-- The settings that a document describes, if its version is supported. -/
def read (document : String) : Except Failure Settings :=
  match (Toml.read? document).bind fun fields => ofToml? (.table fields) with
  | none => .error .settingsSyntax
  | some settings =>
    match settings.version with
    | some version =>
      if version = supportedVersion then .ok settings else .error (.unsupportedVersion version)
    | none => .ok settings

end Settings

/-! ### Where settings come from -/

section

variable {m : Type → Type} [Monad m] [FileReader m]

/-- Where settings files are looked for, in order. -/
def settingsPlaces (workingDirectory settingsDirectory : Option String) : List String :=
  (workingDirectory.map (Path.join · localSettingsName)).toList ++
    (settingsDirectory.map (Path.join · userSettingsName)).toList

/-- The settings of a file. -/
def readSettings (path : String) : ExceptT Failure m Settings := do
  match Settings.read (← readText path) with
  | .ok settings => return settings
  | .error failure => throw failure

/-- The settings of the first file that exists, or the defaults. -/
def findSettings : List String → ExceptT Failure m Settings
  | [] => return {}
  | place :: places => do
    if ← (FileReader.pathExists place : m Bool) then readSettings place else findSettings places

end

end RpgLint
