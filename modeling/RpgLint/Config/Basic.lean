import RpgLint.Check.Length
import RpgLint.Check.Level

/-!
# Settings

## Main definitions

* `Settings` — what a settings file may set, with the defaults.
* `settingsTemplate` — a settings file to start from, that says what the defaults are.
-/

namespace RpgLint

/-- Settings of the checks. -/
structure CheckSettings where
  /-- How many rules run. -/
  level : Level := .standard
  /-- Line length is measured in bytes. -/
  considerDoubleByte : Bool := false
  /-- How long a line may be. -/
  maxLineLength : Nat := 100
  /-- Names of rules whose findings are dropped. -/
  disabledRules : List String := []
  /-- Path of the file with the user's own rules. -/
  customRules : Option String := none
  deriving DecidableEq, Repr

/-- Settings of the search for sources. -/
structure ScannerSettings where
  /-- Extensions of sources. -/
  extensions : List String := ["rpgle", "rpg", "sqlrpgle"]
  /-- Globs of paths to leave out. -/
  exclude : List String := []
  /-- Directories are searched below the first level. -/
  recursive : Bool := true
  deriving DecidableEq, Repr

/-- What a settings file may set. -/
structure Settings where
  /-- Version of the file's format. -/
  version : Option String := none
  /-- Settings of the checks. -/
  check : CheckSettings := {}
  /-- Settings of the search for sources. -/
  scanner : ScannerSettings := {}
  deriving DecidableEq, Repr

/-- Name of the settings file in the working directory. -/
def localSettingsName : String := ".rpgle-guard.toml"

/-- Name of the settings file in the user's directory for settings. -/
def userSettingsName : String := "config.toml"

/-- Name of the file with the user's own rules, unless the settings name another. -/
def defaultRulesName : String := "rpg-custom-rules.json"

/-- A settings file that sets the defaults and explains them. -/
def settingsTemplate : String :=
  unlines
    ["# rpgle-guard configuration file",
      "version = \"1\"",
      "",
      "[check]",
      "# basic: column shifts, order and hard errors",
      "# standard: adds naming, indicators and GOTO (default)",
      "# strict: adds modernization hints",
      "level = \"standard\"",
      "",
      "# Measure line length in bytes, counting DBCS characters twice plus",
      "# shift-out/shift-in framing",
      "consider_dbcs = false",
      "",
      "# Maximum line length in columns",
      "max_line_length = 100",
      "",
      "# Rule ids to suppress, e.g. [\"INDICATOR_USAGE\", \"RECOMMEND_FULLY_FREE\"]",
      "disabled_rules = []",
      "",
      "# Custom pattern rules managed by `rpgle-guard rules`",
      "# custom_rules = \"rpg-custom-rules.json\"",
      "",
      "[scanner]",
      "# File extensions treated as RPG source",
      "extensions = [\"rpgle\", \"rpg\", \"sqlrpgle\"]",
      "",
      "# Exclude patterns (glob syntax)",
      "exclude = [",
      "    \"**/.git/**\",",
      "    \"**/backup/**\",",
      "]",
      "",
      "# Descend into subdirectories",
      "recursive = true"]

end RpgLint
