-- SUMMARY: No run overwrites the file of settings, and only the first `init` creates it.
import HistorySearch.Command.Run
import HistorySearch.Proofs.Settings.Found

/-!
# Runs and the file of settings

Before a command runs, the command line is read and settings are chosen and checked. A run that ends
before its command leaves all files, and of the commands only `init` changes one: where the file of
settings was missing, it has the defaults after a run that succeeds. From then on they are found, and
another `init` has nothing to do.
-/

namespace HistorySearch

open Config

namespace CommandRun

variable {t : FileTree} {dirs : UserDirectories} {line : CommandLine} {words : List String}

-- ---------------------------------------------------------------------------
-- What a run does
-- ---------------------------------------------------------------------------

/-- A run without settings ends with what is wrong with them. -/
theorem ofLine_of_error {e : SettingsError} (h : choose t dirs line.config = .error e) :
    ofLine t dirs line =
      ⟨.failed (.settings e), "", t, chooseEvents t dirs line.config⟩ := by
  simp only [ofLine, h]

/-- A file that cannot be read is there, so that `init` fails and leaves it. -/
example :
    ofLine (.ofEntries [("config.toml", none)]) "/h" ⟨none, .init⟩ =
      ⟨.failed (.settings (.unreadable "config.toml" .isDirectory)), "",
        .ofEntries [("config.toml", none)], [Event.info "Loading config from: config.toml"]⟩ := by
  decide +kernel

/-- A run with settings that are refused ends with why they are. -/
theorem ofLine_of_problem {c : Config} {p : ConfigProblem}
    (h : choose t dirs line.config = .ok c) (hproblem : c.problem? = some p) :
    ofLine t dirs line =
      ⟨.failed (.badSettings p), "", t, chooseEvents t dirs line.config⟩ := by
  simp only [ofLine, h, hproblem]

/-- With settings that are accepted the command runs. -/
theorem ofLine_of_accepted {c : Config} (h : choose t dirs line.config = .ok c)
    (haccepted : c.problem? = none) :
    (ofLine t dirs line).result = (ofCommand t c line.command).result ∧
      (ofLine t dirs line).files = (ofCommand t c line.command).files := by
  simp only [ofLine, h, haccepted, and_self]

/-- What `init` does: it fails, finds the file, or creates it. -/
theorem init_cases (t : FileTree) :
    (∃ e, (init t).result = .failed e ∧ (init t).files = t) ∨
      (t.pathExists localPath ∧ (init t).result = .done ∧ (init t).files = t) ∨
        (init t).result = .done ∧ IsCreated t (init t).files := by
  unfold init
  split
  · exact .inl ⟨_, rfl, rfl⟩
  · rename_i hcreate
    exact .inr (.inl ⟨pathExists_of_createDefault hcreate, rfl, rfl⟩)
  · rename_i hcreate
    exact .inr (.inr ⟨rfl, isCreated_of_createDefault hcreate⟩)

/-- The other commands change no files. -/
theorem files_ofCommand (t : FileTree) (c : Config) {command : Command} (h : command ≠ .init) :
    (ofCommand t c command).files = t := by
  cases command with
  | serve =>
    rw [ofCommand, serve]
    split_ifs
    · rfl
    · rfl
  | init => contradiction
  | predicate o =>
    rw [ofCommand, predicate]
    split
    · rfl
    split
    · rfl
    · rfl

/-- A run leaves all files, unless it is one of `init` that creates the file of settings. -/
theorem files_ofLine_cases (t : FileTree) (dirs : UserDirectories) (line : CommandLine) :
    (ofLine t dirs line).files = t ∨
      line.command = .init ∧ (ofLine t dirs line).result = .done ∧
        IsCreated t (ofLine t dirs line).files := by
  cases hchoose : choose t dirs line.config with
  | error e => exact .inl (by rw [ofLine_of_error hchoose])
  | ok c =>
    cases hproblem : c.problem? with
    | some p => exact .inl (by rw [ofLine_of_problem hchoose hproblem])
    | none =>
      obtain ⟨hresult, hfiles⟩ := ofLine_of_accepted hchoose hproblem
      by_cases hinit : line.command = .init
      · rw [hinit, ofCommand] at hresult hfiles
        rw [hfiles, hresult]
        obtain ⟨_, _, hsame⟩ | ⟨_, _, hsame⟩ | hcreated := init_cases t
        · exact .inl hsame
        · exact .inl hsame
        · exact .inr ⟨hinit, hcreated⟩
      · exact .inl (hfiles.trans (files_ofCommand t c hinit))

-- ---------------------------------------------------------------------------
-- Runs of `init`
-- ---------------------------------------------------------------------------

/-- A command line asks for `init`, and its run succeeds. -/
structure Initializes (t : FileTree) (dirs : UserDirectories) (line : CommandLine) : Prop where
  command : line.command = .init
  done : (ofLine t dirs line).result = .done

/-- Of a run that initializes, settings were chosen and accepted, and its command did all else. -/
theorem initializes_iff :
    Initializes t dirs line ↔ line.command = .init ∧
      (∃ c, choose t dirs line.config = .ok c ∧ c.problem? = none) ∧ (init t).result = .done := by
  constructor
  · rintro ⟨hcommand, hdone⟩
    refine ⟨hcommand, ?_⟩
    cases hchoose : choose t dirs line.config with
    | error e =>
      rw [ofLine_of_error hchoose] at hdone
      contradiction
    | ok c =>
      cases hproblem : c.problem? with
      | some p =>
        rw [ofLine_of_problem hchoose hproblem] at hdone
        contradiction
      | none =>
        obtain ⟨hresult, -⟩ := ofLine_of_accepted hchoose hproblem
        rw [hcommand] at hresult
        exact ⟨⟨c, rfl, hproblem⟩, hresult.symm.trans hdone⟩
  · rintro ⟨hcommand, ⟨c, hchoose, haccepted⟩, hdone⟩
    obtain ⟨hresult, -⟩ := ofLine_of_accepted hchoose haccepted
    rw [hcommand] at hresult
    exact ⟨hcommand, hresult.trans hdone⟩

theorem Initializes.files (h : Initializes t dirs line) :
    (ofLine t dirs line).files = (init t).files := by
  obtain ⟨hcommand, ⟨c, hchoose, haccepted⟩, _⟩ := initializes_iff.mp h
  obtain ⟨-, hfiles⟩ := ofLine_of_accepted hchoose haccepted
  rwa [hcommand] at hfiles

/-- A run initializes and leaves all files. -/
structure FindsFile (t : FileTree) (dirs : UserDirectories) (line : CommandLine) : Prop where
  initializes : Initializes t dirs line
  files : (ofLine t dirs line).files = t

theorem Initializes.findsFile (h : Initializes t dirs line) (hfound : t.pathExists localPath) :
    FindsFile t dirs line := by
  refine ⟨h, h.files.trans ?_⟩
  obtain ⟨_, _, hsame⟩ | ⟨_, _, hsame⟩ | ⟨_, hcreated⟩ := init_cases t
  · exact hsame
  · exact hsame
  · have hmissing := hcreated.missing
    rw [hfound] at hmissing
    contradiction

theorem Initializes.isCreated (h : Initializes t dirs line)
    (hmissing : t.pathExists localPath = false) : IsCreated t (ofLine t dirs line).files := by
  obtain ⟨-, -, hdone⟩ := initializes_iff.mp h
  rw [h.files]
  obtain ⟨e, hfailed, _⟩ | ⟨hfound, _, _⟩ | ⟨_, hcreated⟩ := init_cases t
  · rw [hfailed] at hdone
    contradiction
  · rw [hmissing] at hfound
    contradiction
  · exact hcreated

theorem init_of_found (h : t.pathExists localPath) : (init t).result = .done := by
  have hnone : createDefault t = .ok none := if_pos h
  simp only [init, hnone]

/-- After the file was created, another run of `init` with settings that were accepted finds it. -/
theorem findsFile_of_isCreated {t' : FileTree} (h : IsCreated t t') (hcommand : line.command = .init)
    (haccepted : ∃ c, choose t' dirs line.config = .ok c ∧ c.problem? = none) :
    FindsFile t' dirs line :=
  (initializes_iff.mpr ⟨hcommand, haccepted, init_of_found h.found⟩).findsFile h.found

/-- Running `init` again succeeds and changes nothing. -/
theorem Initializes.again (h : Initializes t dirs line) :
    FindsFile (ofLine t dirs line).files dirs line := by
  cases hexists : t.pathExists localPath with
  | true =>
    have hfinds := h.findsFile hexists
    rw [hfinds.files]
    exact hfinds
  | false =>
    obtain ⟨hcommand, ⟨c, hchoose, haccepted⟩, _⟩ := initializes_iff.mp h
    have hcreated := h.isCreated hexists
    exact findsFile_of_isCreated hcreated hcommand (hcreated.choose hchoose haccepted)

-- ---------------------------------------------------------------------------
-- Runs of the program
-- ---------------------------------------------------------------------------

/-- The files after the program was run with some words. Words that are no command line change
nothing. -/
def filesAfter (t : FileTree) (dirs : UserDirectories) (words : List String) : FileTree :=
  match CommandLine.read words with
  | .ok line => (ofLine t dirs line).files
  | .error _ => t

/-- The words are a command line for `init`, and its run succeeds. -/
def InitializesWith (t : FileTree) (dirs : UserDirectories) (words : List String) : Prop :=
  ∃ line, CommandLine.read words = .ok line ∧ Initializes t dirs line

/-- Running `init` with some words succeeds and changes nothing. -/
def FindsFileWith (t : FileTree) (dirs : UserDirectories) (words : List String) : Prop :=
  InitializesWith t dirs words ∧ filesAfter t dirs words = t

theorem filesAfter_of_read (h : CommandLine.read words = .ok line) :
    filesAfter t dirs words = (ofLine t dirs line).files := by
  simp only [filesAfter, h]

theorem FindsFile.of_read (h : FindsFile t dirs line) (hread : CommandLine.read words = .ok line) :
    FindsFileWith t dirs words :=
  ⟨⟨line, hread, h.initializes⟩, (filesAfter_of_read hread).trans h.files⟩

theorem findsFileWith_init {t' : FileTree} (h : IsCreated t t') (dirs : UserDirectories) :
    FindsFileWith t' dirs ["init"] := by
  have hread : CommandLine.read ["init"] = .ok ⟨none, .init⟩ := by decide +kernel
  have haccepted : defaults.problem? = none := by decide +kernel
  have hfinds : FindsFile t' dirs ⟨none, .init⟩ :=
    findsFile_of_isCreated h rfl ⟨defaults, h.load dirs, haccepted⟩
  exact hfinds.of_read hread

/-- Whatever the files and the words: files only change where the file of settings was missing and
`init` succeeds, which creates it; after that, and whenever `init` succeeds, running it again changes
nothing. Settings are looked up in the first file that exists, and a run without accepted settings
ends before its command. -/
theorem settings_never_overwritten (t : FileTree) (dirs : UserDirectories) :
    (∀ words, ¬(t.pathExists localPath = false ∧ InitializesWith t dirs words) →
      filesAfter t dirs words = t) ∧
    (∀ words, t.pathExists localPath = false → InitializesWith t dirs words →
      IsCreated t (filesAfter t dirs words) ∧
        FindsFileWith (filesAfter t dirs words) dirs ["init"]) ∧
    (∀ words, InitializesWith t dirs words →
      FindsFileWith (filesAfter t dirs words) dirs words) ∧
    (∀ result, load t dirs = result ↔ IsLookup t dirs result) ∧
    (∀ line e, choose t dirs line.config = .error e →
      ofLine t dirs line = ⟨.failed (.settings e), "", t, chooseEvents t dirs line.config⟩) ∧
    ∀ line c p, choose t dirs line.config = .ok c → c.problem? = some p →
      ofLine t dirs line = ⟨.failed (.badSettings p), "", t, chooseEvents t dirs line.config⟩ := by
  refine ⟨?_, ?_, ?_, fun result => load_eq_iff, fun line e => ofLine_of_error,
    fun line c p => ofLine_of_problem⟩
  · intro words hother
    cases hread : CommandLine.read words with
    | error stop => simp only [filesAfter, hread]
    | ok line =>
      rw [filesAfter_of_read hread]
      obtain hsame | ⟨hcommand, hdone, hcreated⟩ := files_ofLine_cases t dirs line
      · exact hsame
      · exact absurd ⟨hcreated.missing, line, hread, hcommand, hdone⟩ hother
  · rintro words hmissing ⟨line, hread, h⟩
    rw [filesAfter_of_read hread]
    have hcreated := h.isCreated hmissing
    exact ⟨hcreated, findsFileWith_init hcreated dirs⟩
  · rintro words ⟨line, hread, h⟩
    rw [filesAfter_of_read hread]
    exact h.again.of_read hread

/-- Settings in the home directory are found by the first `init`, which creates the file. -/
theorem settings_never_overwritten_home :
    ∃ t, t.read "/h/.token-history/config.toml" = .ok "[server]\nport = 81\n" ∧
      IsCreated t (filesAfter t "/h" ["init"]) ∧
        FindsFileWith (filesAfter t "/h" ["init"]) "/h" ["init"] := by
  let t : FileTree :=
    FileTree.ofList [("/h/.token-history/config.toml", "[server]\nport = 81\n")]
  obtain ⟨-, hcreates, -⟩ := settings_never_overwritten t "/h"
  refine ⟨t, by decide +kernel, hcreates ["init"] (by decide +kernel) ?_⟩
  exact ⟨⟨none, .init⟩, by decide +kernel, rfl, by decide +kernel⟩

end CommandRun

end HistorySearch
