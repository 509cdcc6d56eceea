-- SUMMARY: Settings as a TOML document.
import HistorySearch.Settings.Config
import HistorySearch.Toml.Document

/-!
# Settings as TOML

There are two tables with the settings under their names. What is missing has its default and
what is unknown is ignored. An array may stand for a table: its items are the settings in order.
-/

namespace HistorySearch

namespace TomlValue

def text? : TomlValue → Option String
  | text s => some s
  | _ => none

def bool? : TomlValue → Option Bool
  | bool b => some b
  | _ => none

def port? : TomlValue → Option UInt16
  | integer i => if 0 ≤ i ∧ i < 65536 then some (UInt16.ofNat i.toNat) else none
  | _ => none

/-- The values under the names of a table. A moment holds nothing under any name. -/
def values? (names : List String) : TomlValue → Option TomlTable
  | table _ entries => some entries
  | moment => some []
  | array items => some (names.zip items)
  | tables each => some (names.zip (each.map (table .header)))
  | _ => none

end TomlValue

namespace Config

/-- The name of the first table and of its settings. -/
def generalNames : List String :=
  ["log_level"]

def serverNames : List String :=
  ["enabled", "bind_address", "port", "public_url", "base_path"]

/-! ## Reading -/

/-- The table under a name, which may be missing. -/
def tableOf (names : List String) (root : TomlTable) (name : String) : Option TomlTable :=
  match root.lookup name with
  | none => some []
  | some v => v.values? names

/-- A setting, which may be missing. -/
def setting {α : Type} (read : TomlValue → Option α) (default : α) (t : TomlTable) (name : String) :
    Option α :=
  match t.lookup name with
  | none => some default
  | some v => read v

/-- The settings of a document; `none` if one is of the wrong kind. -/
def ofTable? (root : TomlTable) : Option Config := do
  let general ← tableOf generalNames root "general"
  let server ← tableOf serverNames root "server"
  let logLevel ← setting TomlValue.text? defaults.logLevel general "log_level"
  let enabled ← setting TomlValue.bool? defaults.enabled server "enabled"
  let bindAddress ← setting TomlValue.text? defaults.bindAddress server "bind_address"
  let port ← setting TomlValue.port? defaults.port server "port"
  let publicUrl ← setting TomlValue.text? defaults.publicUrl server "public_url"
  let basePath ← setting TomlValue.text? defaults.basePath server "base_path"
  some ⟨logLevel, enabled, bindAddress, port, publicUrl, basePath⟩

def ofText? (s : String) : Option Config :=
  (Toml.read s).bind ofTable?

/-! ## Writing -/

def line (name : String) (value : List Char) : List Char :=
  name.toList ++ [' ', '=', ' '] ++ value ++ ['\n']

/-- A truth value as a word. -/
def word (b : Bool) : List Char :=
  if b then "true".toList else "false".toList

def toChars (c : Config) : List Char :=
  "[general]\n".toList ++ line "log_level" (Toml.writeText c.logLevel.toList) ++
    "\n[server]\n".toList ++ line "enabled" (word c.enabled) ++
    line "bind_address" (Toml.writeText c.bindAddress.toList) ++
    line "port" (Decimal.digits c.port.toNat) ++
    line "public_url" (Toml.writeText c.publicUrl.toList) ++
    line "base_path" (Toml.writeText c.basePath.toList)

/-- The settings as a document, in which each is given. -/
def toText (c : Config) : String :=
  String.ofList c.toChars

end Config

end HistorySearch
