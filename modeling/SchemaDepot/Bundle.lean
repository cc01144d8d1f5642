/-
# Bundled schemas

The schemas that come with the depot: a manifest, a file for each fixed database
and one for each template.

Key definitions: `Bundle.manifest`, `Bundle.fileText`, `Bundle.files`, `Bundle.install`.
-/
import SchemaDepot.Bundle.Dynamic
import SchemaDepot.Bundle.Fixed
import SchemaDepot.Settings

namespace SchemaDepot.Bundle

/-- The lines of the manifest. -/
def manifest : List String := [
    "# Closed catalogue of test databases for the REST API server tests.",
    "# Paths are relative to this file.",
    "",
    "sentinel: sentinel",
    "",
    "fixed:",
    "  hopsworks: fixed/hopsworks.sql",
    "  db000: fixed/DB000.sql",
    "  db001: fixed/DB001.sql",
    "  db002: fixed/DB002.sql",
    "  db003: fixed/DB003.sql",
    "  db004: fixed/DB004.sql",
    "  db005: fixed/DB005.sql",
    "  db006: fixed/DB006.sql",
    "  db007: fixed/DB007.sql",
    "  db008: fixed/DB008.sql",
    "  db009: fixed/DB009.sql",
    "  db010: fixed/DB010.sql",
    "  db011: fixed/DB011.sql",
    "  db013: fixed/DB013.sql",
    "  db019: fixed/DB019.sql",
    "  db020: fixed/DB020.sql",
    "  db021: fixed/DB021.sql",
    "  db022: fixed/DB022.sql",
    "  db023: fixed/DB023.sql",
    "  db024: fixed/DB024.sql",
    "  sentinel: fixed/sentinel.sql",
    "",
    "dynamic:",
    "  benchmark:",
    "    path: dynamic/benchmark.sql",
    "    tokens: [COLUMN_LENGTH]",
    "  benchmark_add_row:",
    "    path: dynamic/benchmark_add_row.sql",
    "    tokens: [VALUE_COLUMN_1, VALUE_COLUMN_2]",
    "  hopsworks_add_project:",
    "    path: dynamic/hopsworks_add_project.sql",
    "    tokens: [PROJECT_NAME, PROJECT_NUMBER]",
    "  textual_columns:",
    "    path: dynamic/textual_columns.sql",
    "    tokens: [DATABASE_NAME, COLUMN_TYPE, COLUMN_LENGTH]",
    "",
    "# Databases generated from the textual columns template.",
    "textual_columns:",
    "  template: textual_columns",
    "  databases:",
    "    db012: \x7bcolumn_type: VARCHAR, column_length: 50\x7d",
    "    db014: \x7bcolumn_type: CHAR, column_length: 100\x7d",
    "    db015: \x7bcolumn_type: VARCHAR, column_length: 256\x7d",
    "    db016: \x7bcolumn_type: BINARY, column_length: 100\x7d",
    "    db017: \x7bcolumn_type: VARBINARY, column_length: 100\x7d",
    "    db018: \x7bcolumn_type: VARBINARY, column_length: 255\x7d"]

/-- The text of a file of lines, each with a line feed after it. -/
def fileText (lines : List String) : String := String.join (lines.map fun l => l ++ "\n")

/-- The files by their places below the resource folder. -/
def files : List (List String × String) :=
  ([Settings.manifestName], fileText manifest) ::
    (fixedFiles.map fun f => (["fixed", f.1], fileText f.2)) ++
    (dynamicFiles.map fun f => (["dynamic", f.1], fileText f.2))

/-- The tree with the files below a folder. -/
def install (t : Tree) (folder : List String) : Tree :=
  files.foldl (fun t f => t.write (folder ++ f.1) f.2.toUTF8) t

end SchemaDepot.Bundle
