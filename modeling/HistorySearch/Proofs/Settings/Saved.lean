-- SUMMARY: Settings that are saved are loaded again as they were.
import HistorySearch.Proofs.Settings.Files
import HistorySearch.Proofs.Toml.Lines
import HistorySearch.Settings.Lookup

/-!
# Saved settings

The document of settings gives each of them, so that nothing is taken from the defaults. It is read
as the same settings whatever their texts hold.
-/

namespace HistorySearch

namespace Config

open Toml

def lines (c : Config) : List Line :=
  [.header [] "general", .entry [] "log_level" (.text c.logLevel),
   .header [] "server", .entry [] "enabled" (.bool c.enabled),
   .entry [] "bind_address" (.text c.bindAddress), .entry [] "port" (.integer c.port.toNat),
   .entry [] "public_url" (.text c.publicUrl), .entry [] "base_path" (.text c.basePath)]

def serverEntries (c : Config) : TomlTable :=
  [("enabled", .bool c.enabled), ("bind_address", .text c.bindAddress),
   ("port", .integer c.port.toNat), ("public_url", .text c.publicUrl),
   ("base_path", .text c.basePath)]

/-- The table that the lines make. -/
def root (c : Config) : TomlTable :=
  [("general", .table .header [("log_level", .text c.logLevel)]),
   ("server", .table .header c.serverEntries)]

/-- The line of a setting is read as its entry. -/
theorem readLines_line {name : String} {value : List Char} {v : TomlValue}
    (h : IsBareKey name.toList) (hvalue : IsWritten value v) (rest : List Char) :
    readLines (line name value ++ rest) = (readLines rest).map (.entry [] name v :: ·) := by
  have hentry := readLines_entry h hvalue rest
  rw [String.ofList_toList] at hentry
  rw [← hentry]
  simp [line]

theorem isWritten_setting (s : String) : IsWritten (writeText s.toList) (.text s) := by
  have hwritten := isWritten_text s.toList
  rwa [String.ofList_toList] at hwritten

theorem isWritten_port (port : UInt16) :
    IsWritten (Decimal.digits port.toNat) (.integer port.toNat) :=
  isWritten_digits (Nat.lt_trans port.toNat_lt (by decide))

/-- The document of settings is read as its lines. -/
theorem readLines_toChars (c : Config) : readLines c.toChars = some c.lines := by
  have hkeys : IsBareKey "general".toList ∧ IsBareKey "server".toList := by decide
  have hgeneral : ∀ rest, readLines ("[general]\n".toList ++ rest) =
      (readLines rest).map (.header [] "general" :: ·) :=
    readLines_header hkeys.1
  have hserver : ∀ rest, readLines ("\n[server]\n".toList ++ rest) =
      (readLines rest).map (.header [] "server" :: ·) :=
    fun rest => (readLines_break _).trans (readLines_header hkeys.2 rest)
  have henabled : IsWritten (word c.enabled) (.bool c.enabled) := isWritten_bool c.enabled
  have hlast : readLines (line "base_path" (writeText c.basePath.toList) ++ []) =
      (readLines []).map (.entry [] "base_path" (.text c.basePath) :: ·) :=
    readLines_line (by decide) (isWritten_setting c.basePath) []
  rw [List.append_nil, readLines_nil] at hlast
  -- The equation of the definition would be made by evaluating its texts.
  unfold toChars
  simp only [List.append_assoc]
  rw [hgeneral, readLines_line (by decide) (isWritten_setting c.logLevel), hserver,
    readLines_line (by decide) henabled,
    readLines_line (by decide) (isWritten_setting c.bindAddress),
    readLines_line (by decide) (isWritten_port c.port),
    readLines_line (by decide) (isWritten_setting c.publicUrl), hlast]
  rfl

theorem build_lines (c : Config) : build c.lines = some c.root :=
  rfl

theorem port?_integer (port : UInt16) : TomlValue.port? (.integer port.toNat) = some port := by
  have hlt := port.toNat_lt
  rw [TomlValue.port?, if_pos (by omega)]
  simp

/-- Every setting is found in the tables. -/
theorem ofTable?_root (c : Config) : ofTable? c.root = some c := by
  have hgeneral : tableOf generalNames c.root "general" =
      some [("log_level", .text c.logLevel)] := rfl
  have hserver : tableOf serverNames c.root "server" = some c.serverEntries := rfl
  have hlevel : setting TomlValue.text? defaults.logLevel [("log_level", .text c.logLevel)]
      "log_level" = some c.logLevel := rfl
  have henabled : setting TomlValue.bool? defaults.enabled c.serverEntries "enabled" =
      some c.enabled := rfl
  have haddress : setting TomlValue.text? defaults.bindAddress c.serverEntries "bind_address" =
      some c.bindAddress := rfl
  have hport : setting TomlValue.port? defaults.port c.serverEntries "port" = some c.port :=
    port?_integer c.port
  have hurl : setting TomlValue.text? defaults.publicUrl c.serverEntries "public_url" =
      some c.publicUrl := rfl
  have hpath : setting TomlValue.text? defaults.basePath c.serverEntries "base_path" =
      some c.basePath := rfl
  simp only [ofTable?, hgeneral, hserver, hlevel, henabled, haddress, hport, hurl, hpath,
    Option.bind_eq_bind, Option.bind_some]

/-- The document of settings gives the settings. -/
theorem ofText?_toText (c : Config) : ofText? c.toText = some c := by
  have hmark : skipMark c.toChars = c.toChars := rfl
  rw [ofText?, Toml.read, toText, String.toList_ofList, hmark, readLines_toChars, Option.bind_some,
    build_lines, Option.bind_some, ofTable?_root]

/-! ## Files of settings -/

/-- Settings that are saved in a file are loaded from it, whatever was there before. -/
theorem loaded_as_saved {c : Config} {t t' : FileTree} {path : String}
    (h : c.saveTo t path = .ok t') : loadFrom t' path = .ok c := by
  have hsave : t.save path c.toText = .ok t' := ok_of_mapError h
  obtain ⟨ready, _, hwrite⟩ := ok_of_bind hsave
  rw [loadFrom, FileTree.read_of_write hwrite]
  dsimp only
  rw [ofText?_toText]

/-- Texts with quotes of both kinds, line breaks, backslashes and control characters, which are
written in different ways, replace a file. -/
theorem loaded_as_saved_quoted :
    ∃ t', saveTo ⟨"\"\"\"\n'''", false, "\r\n\\", 0, "a\\'", "\x00\x7f"⟩
          ⟨[(["config.toml"], "[general]")], []⟩ "config.toml" = .ok t' ∧
      loadFrom t' "config.toml" =
        .ok ⟨"\"\"\"\n'''", false, "\r\n\\", 0, "a\\'", "\x00\x7f"⟩ := by
  have hsteps : (FileTree.steps "config.toml").dropLast = [] := by decide
  have hready : ∀ t : FileTree, t.ensureDirectories [] = .ok t := by
    intro t
    rw [FileTree.ensureDirectories]
    rfl
  have hsave : ∀ c : Config, c.saveTo ⟨[(["config.toml"], "[general]")], []⟩ "config.toml" =
      .ok ⟨[(["config.toml"], c.toText)], []⟩ := by
    intro c
    have hslash : "config.toml".endsWith "/" = false := by decide +kernel
    rw [saveTo, FileTree.save, hsteps, hready]
    simp only [bind, Except.bind, FileTree.write, hslash]
    rfl
  exact ⟨_, hsave _, loaded_as_saved (hsave _)⟩

end Config

end HistorySearch
