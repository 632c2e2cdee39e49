import SatClient.Program.Setup
import SatClient.Proofs.Files.Joining
import SatClient.Proofs.Files.Keeping
import SatClient.Proofs.Settings.RoundTrip

/-! Preparing a directory destroys nothing. Whatever stands in the tree, and wherever the command
fails, all files stay as they were; only the file with settings is replaced, and only where that is
asked for. What was prepared once is left as it is the next time.
-/

namespace SatClient

open Files (Path Location Entry Attempt)
open Files.Tree (Keeps KeepsDirectories Rewrites)

variable {tree before after : Files.Tree} {directory path : Path} {root location : Location}

-----------------------------------------------------------------------------------------
-- Writing settings
-----------------------------------------------------------------------------------------

namespace Settings

theorem andThen_write_cases {attempt : Attempt SettingsFault} (keeps : Keeps tree attempt.tree)
    (content : Utf8.Bytes)
    : let written := attempt.andThen fun tree =>
        .ofStep tree ((tree.write path content).mapError (.unwritable path))
      Keeps tree written.tree ∨ ∃ location, Rewrites tree written.tree path location := by
  unfold Attempt.andThen
  dsimp only
  split
  · cases wrote : attempt.tree.write path content with
    | error fault => exact .inl keeps
    | ok after =>
        obtain ⟨location, rewrites⟩ := Files.Tree.rewrites_of_write wrote
        exact .inr ⟨location, keeps.rewrites rewrites⟩
  · exact .inl keeps

/-- Writing settings leaves everything as it was, or has one file written. -/
theorem write_cases (settings : Settings) (tree : Files.Tree) (path : Path)
    : Keeps tree (settings.write tree path).tree
      ∨ ∃ location, Rewrites tree (settings.write tree path).tree path location := by
  unfold write
  split
  · exact andThen_write_cases (.refl tree) _
  next parent _ =>
    refine andThen_write_cases ?_ _
    rw [Attempt.tree_mapFault]
    exact Files.Tree.keeps_makeDirectories tree parent

/-- The standard settings can be used. -/
theorem validate_standard : standard.validate = .ok () := by
  with_unfolding_all rfl

end Settings

-----------------------------------------------------------------------------------------
-- The places
-----------------------------------------------------------------------------------------

namespace Program

/-- A directory, and below it what is to be prepared. -/
structure HasPlaces (tree : Files.Tree) (directory : Path) : Prop where
  config : tree.isDirectory (configDirectory directory) = true
  reports : tree.isDirectory (reportDirectory directory) = true

def IsConfigPlace (tree : Files.Tree) (directory : Path) (location : Location) : Prop :=
  ∃ root, tree.LeadsTo directory root ∧ location = root ++ ["config", "default.yaml"]

def IsReportPlace (tree : Files.Tree) (directory : Path) (location : Location) : Prop :=
  ∃ root, tree.LeadsTo directory root ∧ location = root ++ ["output", "reports"]

theorem isConfigPlace_of_leadsTo (leads : tree.LeadsTo (configFile directory) location)
    : IsConfigPlace tree directory location := by
  obtain ⟨below, there, rfl⟩ := Path.exists_root_of_join leads (by decide) (by decide)
  obtain ⟨root, here, rfl⟩ := Path.exists_root_of_join there (by decide) (by decide)
  exact ⟨root, here, List.append_assoc _ _ _⟩

theorem isReportPlace_of_leadsTo (leads : tree.LeadsTo (reportDirectory directory) location)
    : IsReportPlace tree directory location := by
  obtain ⟨root, here, rfl⟩ := Path.exists_root_of_join leads (by decide) (by decide)
  exact ⟨root, here, rfl⟩

theorem parent?_configDirectory (directory : Path)
    : (configDirectory directory).parent? ≠ none := by
  obtain ⟨before, isPieces, -⟩ := Path.pieces_join directory ⟨"config"⟩ (by decide)
  exact Path.parent?_ne_none isPieces (by decide) (by decide)

theorem parent?_reportDirectory (directory : Path)
    : (reportDirectory directory).parent? ≠ none := by
  obtain ⟨before, isPieces, -⟩ := Path.pieces_join directory ⟨"output/reports"⟩ (by decide)
  have isPieces
      : (reportDirectory directory).pieces = (before ++ ["output"]) ++ ["reports"] := by
    rw [List.append_assoc]
    exact isPieces
  exact Path.parent?_ne_none isPieces (by decide) (by decide)

-----------------------------------------------------------------------------------------
-- Making the places
-----------------------------------------------------------------------------------------

theorem HasPlaces.mono (places : HasPlaces before directory)
    (keeps : KeepsDirectories before after)
    : HasPlaces after directory :=
  ⟨keeps.isDirectory places.config, keeps.isDirectory places.reports⟩

theorem keeps_need (tree : Files.Tree) (path : Path) : Keeps tree (need tree path).tree := by
  rw [need, Attempt.tree_mapFault]
  exact Files.Tree.keeps_makeDirectories tree path

theorem isDirectory_of_need (named : path.parent? ≠ none) (done : (need tree path).fault = none)
    : (need tree path).tree.isDirectory path = true := by
  rw [need, Attempt.fault_mapFault] at done
  rw [need, Attempt.tree_mapFault]
  exact Files.Tree.isDirectory_of_makeDirectories named done

theorem keeps_makePlaces (tree : Files.Tree) (directory : Path)
    : Keeps tree (makePlaces tree directory).tree :=
  Keeps.andThen (keeps_need tree _) fun middle => keeps_need middle _

theorem hasPlaces_makePlaces (done : (makePlaces tree directory).fault = none)
    : HasPlaces (makePlaces tree directory).tree directory := by
  unfold makePlaces at done ⊢
  obtain ⟨ready, same⟩ := Attempt.of_andThen done
  rw [same] at done ⊢
  have config := isDirectory_of_need (parent?_configDirectory directory) ready
  have keeps := keeps_need (need tree (configDirectory directory)).tree (reportDirectory directory)
  exact
    ⟨keeps.keepsDirectories.isDirectory config,
      isDirectory_of_need (parent?_reportDirectory directory) done⟩

/-- Places that are there are not made again. -/
theorem HasPlaces.makePlaces_eq (places : HasPlaces tree directory)
    : makePlaces tree directory = ⟨tree, none⟩ := by
  have again {path : Path} (isThere : tree.isDirectory path = true)
      : need tree path = ⟨tree, none⟩ := by
    rw [need, Files.Tree.makeDirectories_of_isDirectory isThere]
    rfl
  rw [makePlaces, again places.config]
  exact again places.reports

-----------------------------------------------------------------------------------------
-- Writing the file
-----------------------------------------------------------------------------------------

/-- Where something else than a directory stands at the place of the file with settings, the file
is found.
-/
theorem HasPlaces.holds (places : HasPlaces before directory)
    (rewrites : Rewrites before after (configFile directory) location) {entry : Entry}
    (stands : before.entry? location = some entry)
    : before.holds (configFile directory) = true := by
  obtain ⟨config, found⟩ := Files.Tree.isDirectory_iff.mp places.config
  obtain ⟨-, leads, isDirectory⟩ := Files.Tree.of_find found
  have plain : Files.Tree.IsPlainName "default.yaml" := by decide
  have leads : before.LeadsTo (configFile directory) (config ++ ["default.yaml"]) :=
    (Path.leadsTo_join_iff (by decide)).mpr
      ⟨config, leads, (Files.Tree.walk_singleton_iff plain).mpr ⟨isDirectory, by decide, rfl⟩⟩
  obtain rfl := rewrites.leads.unique (rewrites.keepsDirectories.leadsTo leads)
  have isThere :=
    Files.Tree.find_of_leadsTo rewrites.isName leads stands (by simp [rewrites.noSlash])
  rw [Files.Tree.holds, isThere]
  rfl

theorem tree_writeStandard (tree : Files.Tree) (directory : Path)
    : (writeStandard tree directory).tree
      = (Settings.standard.write tree (configFile directory)).tree := by
  rw [writeStandard, Attempt.tree_mapFault]

/-- Writing the file with settings replaces nothing but that file. -/
theorem HasPlaces.writeStandard_cases (places : HasPlaces tree directory)
    {entry : Entry} (stands : tree.entry? location = some entry)
    : (writeStandard tree directory).tree.entry? location = some entry
      ∨ entry ≠ .directory
        ∧ IsConfigPlace (writeStandard tree directory).tree directory location
        ∧ tree.holds (configFile directory) = true := by
  rw [tree_writeStandard]
  rcases Settings.standard.write_cases tree (configFile directory) with
    keeps | ⟨place, rewrites⟩
  · exact .inl (keeps.entries stands)
  · by_cases different : location = place
    · subst different
      refine .inr ⟨?_, isConfigPlace_of_leadsTo rewrites.leads, places.holds rewrites stands⟩
      rintro rfl
      exact rewrites.noDirectory stands
    · exact .inl (rewrites.others different stands)

theorem keepsDirectories_writeStandard (tree : Files.Tree) (directory : Path)
    : KeepsDirectories tree (writeStandard tree directory).tree := by
  rw [tree_writeStandard]
  rcases Settings.standard.write_cases tree (configFile directory) with keeps | ⟨_, rewrites⟩
  · exact keeps.keepsDirectories
  · exact rewrites.keepsDirectories

/-- The file that is written holds the standard settings. -/
theorem read_writeStandard (done : (writeStandard tree directory).fault = none)
    : Settings.read (writeStandard tree directory).tree (configFile directory)
      = .ok Settings.standard := by
  rw [writeStandard, Attempt.fault_mapFault] at done
  rw [tree_writeStandard]
  exact
    Settings.read_eq_ok_iff.mpr
      ⟨_, Settings.readText_write done, Settings.standard.ofYaml_toYaml,
        Settings.validate_standard⟩

theorem holds_of_read {settings : Settings} (read : Settings.read tree path = .ok settings)
    : tree.holds path = true := by
  obtain ⟨text, isText, -⟩ := Settings.read_eq_ok_iff.mp read
  obtain ⟨bytes, isRead, -⟩ := exists_of_bind_eq_ok isText
  obtain ⟨found, isFound, -⟩ := exists_of_bind_eq_ok isRead
  rw [Files.Tree.holds, isFound]
  rfl

-----------------------------------------------------------------------------------------
-- The command
-----------------------------------------------------------------------------------------

variable {around : Surroundings} {isForced : Bool}

theorem files_concludeSetup (course : Course) (paint : Paint) (directory : Path) (line : String)
    (attempt : Attempt Explanation)
    : (concludeSetup course paint directory line attempt).files = attempt.tree := by
  unfold concludeSetup
  dsimp only
  split <;> rfl

theorem exit_concludeSetup_eq_zero_iff {course : Course} (fine : course.exit = 0) (paint : Paint)
    (directory : Path) (line : String) (attempt : Attempt Explanation)
    : (concludeSetup course paint directory line attempt).exit = 0 ↔ attempt.fault = none := by
  unfold concludeSetup
  dsimp only
  split
  next explanation failed => simp [Course.fail, failed]
  next done => simpa [Course.printIf, adviceLines, Course.print, Course.keep, done] using fine

/-- How the command can end: the places are not made; they are, and there is a file with settings,
which stays; or the file is written, as far as that is possible.
-/
theorem setup_cases (around : Surroundings) (directory : Path) (isForced : Bool)
    : let places := makePlaces around.files directory
      let course := setup around directory isForced
      (places.fault ≠ none ∧ course.files = places.tree ∧ course.exit = 1)
      ∨ places.fault = none
        ∧ ((places.tree.holds (configFile directory) = true ∧ isForced = false
              ∧ course.files = places.tree ∧ course.exit = 0)
            ∨ ((places.tree.holds (configFile directory) = false ∨ isForced = true)
              ∧ course.files = (writeStandard places.tree directory).tree
              ∧ (course.exit = 0 ↔ (writeStandard places.tree directory).fault = none))) := by
  dsimp only
  unfold setup
  dsimp only
  generalize makePlaces around.files directory = places
  cases made : places.fault with
  | some explanation => exact .inl ⟨nofun, rfl, rfl⟩
  | none =>
      refine .inr ⟨rfl, ?_⟩
      dsimp only
      split
      next stays =>
        rw [Bool.and_eq_true, Bool.not_eq_true'] at stays
        refine .inl ⟨stays.1, stays.2, files_concludeSetup .., ?_⟩
        exact (exit_concludeSetup_eq_zero_iff rfl ..).mpr rfl
      next replaced =>
        rw [Bool.and_eq_true, Bool.not_eq_true', not_and_or, Bool.not_eq_true,
          Bool.not_eq_false] at replaced
        exact .inr ⟨replaced, files_concludeSetup .., exit_concludeSetup_eq_zero_iff rfl ..⟩

/-- What stands in a directory that has been prepared. -/
structure IsPrepared (tree : Files.Tree) (directory : Path) : Prop where
  config
    : ∃ location,
        IsConfigPlace tree directory location ∧ (tree.entry? location).isSome = true
  reports
    : ∃ location,
        IsReportPlace tree directory location ∧ tree.entry? location = some .directory

theorem HasPlaces.isPrepared (places : HasPlaces tree directory)
    (config : tree.holds (configFile directory) = true)
    : IsPrepared tree directory where
  config := by
    cases found : tree.find (configFile directory) with
    | error fault =>
        rw [Files.Tree.holds, found] at config
        cases config
    | ok standing =>
        obtain ⟨location, entry⟩ := standing
        obtain ⟨-, leads, stands⟩ := Files.Tree.of_find found
        exact ⟨location, isConfigPlace_of_leadsTo leads, by rw [stands]; rfl⟩
  reports := by
    obtain ⟨location, found⟩ := Files.Tree.isDirectory_iff.mp places.reports
    obtain ⟨-, leads, stands⟩ := Files.Tree.of_find found
    exact ⟨location, isReportPlace_of_leadsTo leads, stands⟩

/-- After a run that succeeds the places are there and so is the file with settings, which holds
the standard ones if it was written.
-/
theorem places_of_setup (done : (setup around directory isForced).exit = 0)
    : HasPlaces (setup around directory isForced).files directory
      ∧ (setup around directory isForced).files.holds (configFile directory) = true
      ∧ (Keeps around.files (setup around directory isForced).files ∧ isForced = false
          ∨ Settings.read (setup around directory isForced).files (configFile directory)
            = .ok Settings.standard) := by
  rcases setup_cases around directory isForced with
    ⟨-, -, failed⟩ | ⟨made, ⟨isThere, unforced, same, -⟩ | ⟨-, same, succeeds⟩⟩
  · rw [failed] at done
    cases done
  · rw [same]
    exact
      ⟨hasPlaces_makePlaces made, isThere, .inl ⟨keeps_makePlaces around.files directory, unforced⟩⟩
  · have read := read_writeStandard (succeeds.mp done)
    rw [same]
    exact
      ⟨(hasPlaces_makePlaces made).mono (keepsDirectories_writeStandard _ directory),
        holds_of_read read, .inr read⟩

/-- What stood before stands after, except for the file with settings where it is to be written
anyway.
-/
theorem setup_frame (isForced : Bool) {entry : Entry}
    (stands : around.files.entry? location = some entry)
    : (setup around directory isForced).files.entry? location = some entry
      ∨ isForced = true ∧ entry ≠ .directory
        ∧ IsConfigPlace (setup around directory isForced).files directory location := by
  have stays := (keeps_makePlaces around.files directory).entries stands
  rcases setup_cases around directory isForced with
    ⟨-, same, -⟩ | ⟨made, ⟨-, -, same, -⟩ | ⟨written, same, -⟩⟩
  · exact .inl (same ▸ stays)
  · exact .inl (same ▸ stays)
  · rw [same]
    rcases (hasPlaces_makePlaces made).writeStandard_cases stays with
      stays | ⟨noDirectory, isPlace, isThere⟩
    · exact .inl stays
    · rcases written with missing | forced
      · rw [isThere] at missing
        cases missing
      · exact .inr ⟨forced, noDirectory, isPlace⟩

/-- Where everything is prepared nothing is done, whatever else is different. -/
theorem HasPlaces.setup_again (places : HasPlaces around.files directory)
    (config : around.files.holds (configFile directory) = true)
    : (setup around directory false).exit = 0
      ∧ (setup around directory false).files = around.files := by
  have again := places.makePlaces_eq
  rcases setup_cases around directory false with
    ⟨failed, -, -⟩ | ⟨-, ⟨-, -, same, done⟩ | ⟨written, -, -⟩⟩
  · rw [again] at failed
    exact absurd rfl failed
  · rw [again] at same
    exact ⟨done, same⟩
  · rw [again, config] at written
    simp at written

/-- What holds of a run that prepares a directory in a tree. -/
structure DestroysNothing (before : Files.Tree) (directory : Path) (isForced : Bool)
    (course : Course) : Prop where
  /-- Everything stays, except for the file with settings where it is to be written anyway. -/
  frame
    : ∀ location entry,
        before.entry? location = some entry
        → course.files.entry? location = some entry
          ∨ isForced = true ∧ entry ≠ .directory
            ∧ IsConfigPlace course.files directory location
  prepared : course.exit = 0 → IsPrepared course.files directory
  /-- Another run, whatever else is different then, succeeds and leaves the tree as it is. -/
  settled
    : course.exit = 0
      → ∀ later : Surroundings,
          later.files = course.files
          → (setup later directory false).exit = 0
            ∧ (setup later directory false).files = course.files
  /-- The file with settings was written if that was asked for, or if it was not there before. -/
  standard
    : course.exit = 0
      → (isForced = true
          ∨ ∃ location content,
              IsConfigPlace course.files directory location
              ∧ course.files.entry? location = some (.file content)
              ∧ before.entry? location ≠ some (.file content))
      → Settings.read course.files (configFile directory) = .ok Settings.standard

/-- Preparing a directory leaves everything as it was, whether it succeeds or fails; only the file
with settings is written anew, and only where that is asked for. Once it has succeeded, the file
and the directory for reports are there, another run changes nothing, and a file that it wrote is
read as the standard settings.
-/
theorem setup_destroysNothing (around : Surroundings) (directory : Path) (isForced : Bool)
    : DestroysNothing around.files directory isForced (setup around directory isForced) where
  frame _ _ stands := setup_frame isForced stands
  prepared := by
    intro done
    obtain ⟨places, config, -⟩ := places_of_setup done
    exact places.isPrepared config
  settled := by
    intro done later same
    obtain ⟨places, config, -⟩ := places_of_setup done
    rw [← same] at places config ⊢
    exact places.setup_again config
  standard := by
    intro done wrote
    obtain ⟨-, -, ⟨keeps, unforced⟩ | read⟩ := places_of_setup done
    · rcases wrote with forced | ⟨location, content, -, isThere, isNew⟩
      · rw [unforced] at forced
        cases forced
      · exact absurd (keeps.files isThere) isNew
    · exact read

/-- A working directory with a note, and a project in it that has a file with settings. -/
def desk : Surroundings where
  env := ⟨[]⟩
  files :=
    ⟨[(["home"], .directory), (["home", "note"], .file [111, 107]), (["home", "p"], .directory),
        (["home", "p", "config"], .directory),
        (["home", "p", "config", "default.yaml"], .file [111, 108, 100])],
      ["home"]⟩
  link := .down
  solver := .unreachable
  time := ⟨0⟩
  delay := 0

/-- The file with settings stays as it is. Where it is to be written anyway, that succeeds, the file
is read as the standard settings, and another run changes nothing.
-/
theorem setup_destroysNothing_project
    : (setup desk ⟨"p"⟩ false).files.entry? ["home", "p", "config", "default.yaml"]
        = some (.file [111, 108, 100])
      ∧ (setup desk ⟨"p"⟩ true).exit = 0
      ∧ Settings.read (setup desk ⟨"p"⟩ true).files ⟨"p/config/default.yaml"⟩
        = .ok Settings.standard
      ∧ let later := { desk with files := (setup desk ⟨"p"⟩ true).files }
        (setup later ⟨"p"⟩ false).exit = 0 ∧ (setup later ⟨"p"⟩ false).files = later.files := by
  have stands
      : desk.files.entry? ["home", "p", "config", "default.yaml"]
        = some (.file [111, 108, 100]) := by
    decide
  have done : (setup desk ⟨"p"⟩ true).exit = 0 := by decide +kernel
  have forced := setup_destroysNothing desk ⟨"p"⟩ true
  refine ⟨?_, done, forced.standard done (.inl rfl), forced.settled done _ rfl⟩
  rcases (setup_destroysNothing desk ⟨"p"⟩ false).frame _ _ stands with stays | ⟨forced, -⟩
  · exact stays
  · cases forced

end Program

end SatClient
