-- SUMMARY: Which file settings are looked up in, and when there is one in the working directory.
import HistorySearch.Proofs.Settings.Saved
import HistorySearch.Settings.Lookup

/-!
# Settings that are found

Settings are those of the first file that exists, or the defaults. The file in the working directory
is the first of them: it is missing if nothing is at its place, and is created there.
-/

namespace HistorySearch

namespace Config

open FileTree (join)

variable {t t' : FileTree} {dirs : UserDirectories} {path : String}
  {result : Except SettingsError Config}

-- ---------------------------------------------------------------------------
-- Looking up
-- ---------------------------------------------------------------------------

/-- What reading settings from a file gives: the settings in it, or what is wrong with it. -/
inductive IsReading (t : FileTree) (path : String) : Except SettingsError Config → Prop
  | settings {content : String} {c : Config} (hread : t.read path = .ok content)
    (hsettings : ofText? content = some c) : IsReading t path (.ok c)
  | malformed {content : String} (hread : t.read path = .ok content)
    (hnone : ofText? content = none) : IsReading t path (.error (.malformed path))
  | unreadable {e : FileError} (hread : t.read path = .error e) :
    IsReading t path (.error (.unreadable path e))

/-- The first file of settings that exists: the one in the working directory, the one in the user's
directory of settings if that is known, or the one in the home directory if that is known. -/
inductive IsFirst (t : FileTree) (dirs : UserDirectories) : Option String → Prop
  | working (hworking : t.pathExists "config.toml") : IsFirst t dirs (some "config.toml")
  | user {directory : String} (hworking : t.pathExists "config.toml" = false)
    (hdirectory : dirs.config = some directory)
    (huser : t.pathExists (join directory "token-history/config.toml")) :
    IsFirst t dirs (some (join directory "token-history/config.toml"))
  | home {directory : String} (hworking : t.pathExists "config.toml" = false)
    (huser : ∀ user ∈ dirs.config, t.pathExists (join user "token-history/config.toml") = false)
    (hdirectory : dirs.home = some directory)
    (hhome : t.pathExists (join directory ".token-history/config.toml")) :
    IsFirst t dirs (some (join directory ".token-history/config.toml"))
  | missing (hworking : t.pathExists "config.toml" = false)
    (huser : ∀ user ∈ dirs.config, t.pathExists (join user "token-history/config.toml") = false)
    (hhome : ∀ home ∈ dirs.home, t.pathExists (join home ".token-history/config.toml") = false) :
    IsFirst t dirs none

/-- What looking up settings gives: what reading the first file that exists gives, whether or not
it has settings, and the defaults if none exists. -/
inductive IsLookup (t : FileTree) (dirs : UserDirectories) : Except SettingsError Config → Prop
  | found {path : String} {result : Except SettingsError Config}
    (hfirst : IsFirst t dirs (some path)) (hread : IsReading t path result) :
    IsLookup t dirs result
  | defaults (hmissing : IsFirst t dirs none) : IsLookup t dirs (.ok defaults)

theorem loadFrom_eq_iff : loadFrom t path = result ↔ IsReading t path result := by
  constructor
  · rintro rfl
    unfold loadFrom
    split
    · rename_i hread
      exact .unreadable hread
    · rename_i hread
      split
      · rename_i hsettings
        exact .settings hread hsettings
      · rename_i hnone
        exact .malformed hread hnone
  · intro h
    cases h with
    | settings hread hsettings => simp only [loadFrom, hread, hsettings]
    | malformed hread hnone => simp only [loadFrom, hread, hnone]
    | unreadable hread => simp only [loadFrom, hread]

theorem found?_eq (t : FileTree) (dirs : UserDirectories) :
    found? t dirs =
      if t.pathExists localPath then some localPath
      else ((dirs.config.map userPath).filter t.pathExists).or
        ((dirs.home.map homePath).filter t.pathExists) := by
  have hfind : ∀ o : Option String, o.toList.find? t.pathExists = o.filter t.pathExists := by
    rintro (_ | path)
    · rfl
    · simp [Option.filter]
  rw [found?, paths, List.cons_append, List.find?_cons, List.find?_append, hfind, hfind]
  cases t.pathExists localPath <;> rfl

/-- A file below a directory is there, or nothing is there, perhaps for want of the directory. -/
theorem filter_below_cases (directory? : Option String) (below : String → String)
    (isThere : String → Bool) :
    (∃ directory, directory? = some directory ∧ isThere (below directory) ∧
      (directory?.map below).filter isThere = some (below directory)) ∨
    (∀ directory ∈ directory?, isThere (below directory) = false) ∧
      (directory?.map below).filter isThere = none := by
  cases directory? with
  | none => exact .inr ⟨nofun, rfl⟩
  | some directory =>
    cases hthere : isThere (below directory) with
    | true => exact .inl ⟨directory, rfl, hthere, Option.filter_some_pos hthere⟩
    | false =>
      refine .inr ⟨?_, Option.filter_some_neg hthere⟩
      rintro _ ⟨rfl⟩
      exact hthere

theorem isFirst_found? (t : FileTree) (dirs : UserDirectories) :
    IsFirst t dirs (found? t dirs) := by
  rw [found?_eq]
  cases hworking : t.pathExists localPath with
  | true => exact .working hworking
  | false =>
    rw [if_neg Bool.false_ne_true]
    obtain ⟨directory, hdirectory, hthere, hfile⟩ | ⟨huser, hnone⟩ :=
      filter_below_cases dirs.config userPath t.pathExists
    · rw [hfile]
      exact .user hworking hdirectory hthere
    rw [hnone, Option.none_or]
    obtain ⟨directory, hdirectory, hthere, hfile⟩ | ⟨hhome, hnone⟩ :=
      filter_below_cases dirs.home homePath t.pathExists
    · rw [hfile]
      exact .home hworking huser hdirectory hthere
    · rw [hnone]
      exact .missing hworking huser hhome

/-- There is one first file, or none. -/
theorem IsFirst.unique {first first' : Option String} (h : IsFirst t dirs first)
    (h' : IsFirst t dirs first') : first = first' := by
  -- Of two different places the earlier one is missing for the later one.
  cases h with
  | _ => cases h' <;> simp_all

theorem found?_eq_iff {first : Option String} : found? t dirs = first ↔ IsFirst t dirs first := by
  constructor
  · rintro rfl
    exact isFirst_found? t dirs
  · exact (isFirst_found? t dirs).unique

theorem load_eq_iff : load t dirs = result ↔ IsLookup t dirs result := by
  constructor
  · rintro rfl
    rw [load]
    cases hfound : found? t dirs with
    | some path => exact .found (found?_eq_iff.mp hfound) (loadFrom_eq_iff.mp rfl)
    | none => exact .defaults (found?_eq_iff.mp hfound)
  · intro h
    cases h with
    | found hfirst hread =>
      rw [load, found?_eq_iff.mpr hfirst]
      exact loadFrom_eq_iff.mpr hread
    | defaults hmissing => rw [load, found?_eq_iff.mpr hmissing]

-- ---------------------------------------------------------------------------
-- The file in the working directory
-- ---------------------------------------------------------------------------

theorem checkPath_localPath : FileTree.checkPath localPath = .ok () := by decide

theorem names_localPath : FileTree.names localPath = [localPath] := by decide

theorem enter_localPath (h : t.file? [] = none) : t.enter [] localPath = .ok [localPath] := by
  have hfree : ¬(t.file? []).isSome := by simp [h]
  rw [FileTree.enter, if_neg hfree]
  rfl

/-- The file exists if something is at its place in a working directory. -/
theorem pathExists_localPath (h : t.file? [] = none) :
    t.pathExists localPath = t.isThere [localPath] := by
  have hlocate : t.locate localPath = t.follow [] localPath := by
    rw [FileTree.locate, checkPath_localPath, names_localPath]
    change List.foldlM _ _ _ = _
    rw [List.foldlM_cons]
    exact bind_pure (t.follow [] localPath)
  rw [FileTree.pathExists, hlocate, FileTree.follow]
  simp only [enter_localPath h]
  cases hthere : t.isThere [localPath] with
  | true => simp
  | false => simp

/-- What is saved in the working directory is put at the place of the file and read from there. -/
theorem save_localPath {content : String} (h : t.save localPath content = .ok t') :
    t.file? [] = none ∧ t' = t.put [localPath] content ∧ t'.read localPath = .ok content := by
  have hnames : FileTree.namesToLast localPath = [localPath] := by decide
  have hready : t.ensureDirectories (FileTree.steps localPath).dropLast = .ok t := by
    have hsteps : (FileTree.steps localPath).dropLast = [] := by decide
    rw [hsteps, FileTree.ensureDirectories, if_pos (.inl rfl)]
  obtain ⟨ready, hensure, hwrite⟩ := ok_of_bind h
  obtain rfl := Except.ok.inj (hready.symm.trans hensure)
  obtain ⟨above, place, name, hcan, rfl⟩ := FileTree.canWrite_of_write hwrite
  have habove := hcan.directory
  rw [hnames] at habove
  obtain rfl : [] = above := Except.ok.inj habove
  have hname := hcan.last
  rw [hnames] at hname
  obtain rfl : localPath = name := hname
  obtain rfl := Except.ok.inj ((enter_localPath hcan.free).symm.trans hcan.enter)
  exact ⟨hcan.free, rfl, FileTree.read_of_write hwrite⟩

/-- The file is created only where nothing was, and holds the defaults. -/
theorem of_createDefault (h : createDefault t = .ok (some t')) :
    t.pathExists localPath = false ∧ t.isThere [localPath] = false ∧
      t' = t.put [localPath] defaults.toText ∧ t'.read localPath = .ok defaults.toText := by
  rw [createDefault] at h
  split_ifs at h with hmissing
  · cases h
  have hmissing : t.pathExists localPath = false := Bool.eq_false_iff.mpr hmissing
  obtain ⟨after, hsave, hafter⟩ := ok_of_map h
  obtain rfl := Option.some.inj hafter
  replace hsave : t.save localPath defaults.toText = .ok after := ok_of_mapError hsave
  obtain ⟨hfree, hput, hread⟩ := save_localPath hsave
  exact ⟨hmissing, pathExists_localPath hfree ▸ hmissing, hput, hread⟩

theorem pathExists_of_createDefault (h : createDefault t = .ok none) : t.pathExists localPath := by
  rw [createDefault] at h
  split_ifs at h with hfound
  · exact hfound
  · cases hsave : defaults.saveTo t localPath with
    | error e =>
      rw [hsave] at h
      cases h
    | ok after =>
      rw [hsave] at h
      cases h

/-- The settings are created: a file that was missing holds the defaults, and nothing else has
changed. -/
structure IsCreated (t t' : FileTree) : Prop where
  missing : t.pathExists localPath = false
  content : t'.read localPath = .ok defaults.toText
  others : ∀ place, place ≠ [localPath] → t'.file? place = t.file? place
  made : t'.made = t.made
  kept : ∀ path content, t.read path = .ok content → t'.read path = .ok content

theorem isCreated_of_createDefault (h : createDefault t = .ok (some t')) : IsCreated t t' := by
  obtain ⟨hmissing, hthere, rfl, hread⟩ := of_createDefault h
  constructor
  case missing => exact hmissing
  case content => exact hread
  case others => exact fun place hne => FileTree.file?_put_of_ne hne
  case made => rfl
  case kept => exact fun path content hread => FileTree.read_put hthere hread

namespace IsCreated

theorem found (h : IsCreated t t') : t'.pathExists localPath :=
  FileTree.pathExists_of_read h.content

/-- The settings that are found then are the defaults. -/
theorem load (h : IsCreated t t') (dirs : UserDirectories) :
    Config.load t' dirs = .ok defaults := by
  have hreading : IsReading t' localPath (.ok defaults) :=
    .settings h.content (ofText?_toText defaults)
  exact load_eq_iff.mpr (.found (.working h.found) hreading)

/-- Settings that were read from a file are read from it as before. -/
theorem loadFrom (h : IsCreated t t') {path : String} {c : Config}
    (hload : Config.loadFrom t path = .ok c) : Config.loadFrom t' path = .ok c := by
  cases loadFrom_eq_iff.mp hload with
  | settings hread hsettings =>
    exact loadFrom_eq_iff.mpr (.settings (h.kept path _ hread) hsettings)

/-- Settings that were chosen and accepted are so again. -/
theorem choose (h : IsCreated t t') {config : Option String} {c : Config}
    (hchoose : Config.choose t dirs config = .ok c) (haccepted : c.problem? = none) :
    ∃ c', Config.choose t' dirs config = .ok c' ∧ c'.problem? = none := by
  cases config with
  | none => exact ⟨defaults, h.load dirs, by decide +kernel⟩
  | some path => exact ⟨c, h.loadFrom hchoose, haccepted⟩

end IsCreated

end Config

end HistorySearch
