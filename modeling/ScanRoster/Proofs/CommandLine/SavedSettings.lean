import ScanRoster.CommandLine.Run
import ScanRoster.Proofs.CommandLine.FileTree
import ScanRoster.Proofs.Settings.Saving

/-!
# Saved and shown settings

Commands load the settings from a file.  If settings were saved there, these are loaded; and what the
command that shows settings prints is the settings file for what it has loaded.
-/

namespace ScanRoster.CommandLine.Invocation

open Settings Settings.Variable

/-! ## Commands on a tree of files -/

variable {d : Desk}

theorem run_bind_desk {α β : Type} (x : Doing (StateM Desk) α) (f : α → Doing (StateM Desk) β)
    (d : Desk) : (x >>= f).run d =
      match x.run d with
      | (.ok a, d') => (f a).run d'
      | (.error e, d') => (.error e, d') := by
  have hbind : ∀ g : Except Failure α → StateM Desk (Except Failure β),
      (x.run >>= g) d = g (x.run d).1 (x.run d).2 := fun _ => rfl
  rw [ExceptT.run_bind, hbind]
  rcases x.run d with ⟨_ | _, d'⟩ <;> rfl

theorem run_orElse {ε α : Type} (wrap : ε → Failure) (r : Except ε α) (d : Desk) :
    (orElse (m := StateM Desk) wrap r).run d = (r.mapError wrap, d) := by
  cases r <;> rfl

section

variable (i : Invocation) (around : Surroundings)

/-- What stands in the place of the settings file. -/
def settingsFile (d : Desk) : FileText :=
  settingsText (d.files.read (i.settingsPath around))

/-- Loading gives what file and environment say, and leaves everything as it is. -/
theorem run_loadSettings (d : Desk) : (i.loadSettings Desk.host around).run d =
    ((load (i.settingsFile around d) around.environment).mapError (.settings ∘ .notLoaded), d) := by
  have hread : (liftM (Desk.host.read (i.settingsPath around)) : Doing (StateM Desk) _).run d =
      (.ok (d.files.read (i.settingsPath around)), d) := rfl
  rw [loadSettings, run_bind_desk, hread, ← run_orElse, settingsFile]

/-- Where a text was saved, it is the settings file. -/
theorem settingsFile_of_write {files : FileTree} {text : String}
    (h : d.files.write (i.settingsPath around) text = .ok files) :
    i.settingsFile around { d with files } = .text text := by
  rw [settingsFile, FileTree.read_of_write h, settingsText]

/-- What is shown is the settings file for the settings that are loaded. -/
theorem run_showSettings (d : Desk) : (i.showSettings Desk.host around).run d =
    match load (i.settingsFile around d) around.environment with
    | .error e => (.error (.settings (.notLoaded e)), d)
    | .ok settings =>
      match settings.trackerConfig with
      | .error e => (.error (.settings (.invalid e)), d)
      | .ok _ =>
        (.ok (), if i.quiet then d else { d with printed := d.printed ++ settings.toToml }) := by
  rw [showSettings, run_bind_desk, run_loadSettings]
  cases load (i.settingsFile around d) around.environment with
  | error e => rfl
  | ok settings =>
      change (orElse _ settings.trackerConfig >>= _ : Doing (StateM Desk) _).run d = _
      rw [run_bind_desk, run_orElse]
      dsimp only
      cases settings.trackerConfig with
      | error e => rfl
      | ok config =>
          change (i.print Desk.host _).run d = _
          obtain ⟨text, htrim, hne, htext⟩ := settings.trimEnd_toToml
          have hisEmpty : (String.ofList text).isEmpty = false := by
            rw [Bool.eq_false_iff]
            exact fun hempty => hne (by simpa using hempty)
          have hline : String.ofList text ++ "\n" = settings.toToml :=
            String.toList_inj.mp (by simp [htext])
          rw [htrim, print, hisEmpty, hline, Bool.or_false]
          split <;> rfl

theorem printed_of_showSettings {d' : Desk} (hquiet : i.quiet = false)
    (h : (i.showSettings Desk.host around).run d = (.ok (), d')) :
    ∃ settings : Settings, (i.loadSettings Desk.host around).run d = (.ok settings, d) ∧
      d' = { d with printed := d.printed ++ settings.toToml } := by
  rw [run_showSettings, hquiet] at h
  rw [run_loadSettings]
  split at h
  · exact absurd h nofun
  · next settings hload =>
      refine ⟨settings, by rw [hload]; rfl, ?_⟩
      split at h
      · exact absurd h nofun
      · exact (Prod.mk.inj h).2.symm

end

/-- Where no variable is set, saved settings are loaded as they are, whatever their texts and their
flag.  This is so for the text of the file and for a file that it was written to; and what is printed
when settings are shown is a text from which the settings that are in effect are loaded again. -/
theorem saved_settings_load_back :
    (∀ (settings : Settings) (env : List (String × String)), NoVariables env →
      load (.text settings.toToml) env = .ok settings) ∧
    (∀ (settings : Settings) (i : Invocation) (around : Surroundings) (d : Desk) (files : FileTree),
      NoVariables around.environment →
      d.files.write (i.settingsPath around) settings.toToml = .ok files →
      (i.loadSettings Desk.host around).run { d with files } = (.ok settings, { d with files })) ∧
    (∀ (i : Invocation) (around : Surroundings) (d d' : Desk), i.quiet = false →
      (i.showSettings Desk.host around).run d = (.ok (), d') →
      ∃ (settings : Settings) (text : String),
        (i.loadSettings Desk.host around).run d = (.ok settings, d) ∧
        d' = { d with printed := d.printed ++ text } ∧
        ∀ env, NoVariables env → load (.text text) env = .ok settings) := by
  refine ⟨fun settings env henv => load_toToml settings henv, ?_, ?_⟩
  · intro settings i around d files henv hwrite
    rw [run_loadSettings, settingsFile_of_write i around hwrite, load_toToml settings henv]
    rfl
  · intro i around d d' hquiet hrun
    obtain ⟨settings, hload, hprinted⟩ := i.printed_of_showSettings around hquiet hrun
    exact ⟨settings, settings.toToml, hload, hprinted, fun env henv => load_toToml settings henv⟩

/-- Marks, escapes and line ends in texts, a text like a table, and a duration between blanks. -/
theorem saved_settings_load_back_marks :
    let settings : Settings :=
      ⟨⟨"a\"\"\"b\\\n\x01'''\"", "[tracker]\ncolor = 1"⟩, ⟨"\t15s\n", "1m", false⟩⟩
    let i : Invocation := ⟨none, none, false, some "/home/c.toml", .configShow⟩
    let around : Surroundings := ⟨[("HOME", "/home")], false⟩
    let d : Desk := ⟨.empty ["home"], ""⟩
    load (.text settings.toToml) around.environment = .ok settings ∧
    ∃ files, d.files.write "/home/c.toml" settings.toToml = .ok files ∧
      (i.loadSettings Desk.host around).run { d with files } = (.ok settings, { d with files }) ∧
      ∃ (shown : Settings) (text : String),
        (i.showSettings Desk.host around).run { d with files } =
          (.ok (), ⟨files, settings.toToml⟩) ∧
        (i.loadSettings Desk.host around).run { d with files } = (.ok shown, { d with files }) ∧
        load (.text text) [] = .ok shown := by
  intro settings i around d
  have hnone : NoVariables around.environment := by
    intro v hv
    obtain rfl := List.mem_singleton.mp hv
    decide
  obtain ⟨files, hwrite⟩ : ∃ files, d.files.write "/home/c.toml" settings.toToml = .ok files :=
    ⟨_, rfl⟩
  have hconfig : settings.trackerConfig = .ok ⟨.ofSeconds 15, .ofSeconds 60, false⟩ := by
    decide +kernel
  have hshow : (i.showSettings Desk.host around).run { d with files } =
      (.ok (), ⟨files, settings.toToml⟩) := by
    rw [run_showSettings, settingsFile_of_write i around hwrite, load_toToml settings hnone]
    simp [hconfig, i, d]
  obtain ⟨shown, text, hshown, -, hback⟩ := saved_settings_load_back.2.2 i around _ _ rfl hshow
  exact ⟨saved_settings_load_back.1 settings _ hnone, files, hwrite,
    saved_settings_load_back.2.1 settings i around d files hnone hwrite,
    shown, text, hshow, hshown, hback [] nofun⟩

end ScanRoster.CommandLine.Invocation
