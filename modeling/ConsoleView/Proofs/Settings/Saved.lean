/-
# ConsoleView.Proofs.Settings.Saved -- settings that were saved are loaded

What is loaded is what the file in the directory stands for, if the way to it is
there (`loadSettings_eq`).  Saving has three steps.  Making the directory adds
directories, writing the draft changes a file beside the settings, and only
putting the draft in place changes the settings: a save that fails has not
(`Spared`), and after one that succeeds the settings are those that were saved
(`saveSettings_cases`), because a file of settings reads back as the settings
(`Settings.ofText_text`).
-/
import ConsoleView.Proofs.Disk.Honest
import ConsoleView.Proofs.Settings.Text
import ConsoleView.Settings.File

namespace ConsoleView

set_option autoImplicit false

theorem isFileName_settingsFile : IsFileName settingsFile where
  unparted := by decide
  moves := by decide
  onward := by decide
  short := by decide

theorem isFileName_settingsDraft : IsFileName settingsDraft where
  unparted := by decide
  moves := by decide
  onward := by decide
  short := by decide

theorem fromUTF8?_toUTF8 (text : String) : String.fromUTF8? text.toUTF8 = some text := by
  have valid : text.toUTF8.IsValidUTF8 := text.isValidUTF8
  rw [String.fromUTF8?, dif_pos valid]
  rfl

/-! ## Loading -/

namespace FileTree

variable {t : FileTree} {cwd : Place} {dir : String}

def settingsPlace (cwd : Place) (dir : String) : Place := home cwd dir ++ [settingsFile]

/-- The settings that are held at their place, whether or not the way to it is there. -/
def held (t : FileTree) (cwd : Place) (dir : String) : Settings :=
  (((t.file? (settingsPlace cwd dir)).bind String.fromUTF8?).bind Settings.ofText).getD {}

def loaded (t : FileTree) (cwd : Place) (dir : String) : Settings :=
  if (checkPath (joinPath dir settingsFile)).isOk && t.opens cwd dir then t.held cwd dir else {}

/-- A file of settings stands for the settings it was written for. -/
theorem held_of_file {settings : Settings}
    (file : t.file? (settingsPlace cwd dir) = some settings.text.toUTF8) :
    t.held cwd dir = settings := by
  rw [held, file, Option.bind_some, fromUTF8?_toUTF8, Option.bind_some, settings.ofText_text,
    Option.getD_some]

theorem loaded_eq (t : FileTree) (cwd : Place) (dir : String) :
    t.loaded cwd dir =
      ((t.readText cwd (joinPath dir settingsFile)).toOption.bind Settings.ofText).getD {} := by
  rw [toOption_readText isFileName_settingsFile, loaded, held, settingsPlace]
  split <;> rfl

theorem loaded_of_closed (closed : t.opens cwd dir = false) : t.loaded cwd dir = {} := by
  rw [loaded, closed, Bool.and_false]
  rfl

theorem loaded_of_missing
    (missing : (t.find cwd (joinPath dir settingsFile)).isOk = false) : t.loaded cwd dir = {} := by
  cases found : t.find cwd (joinPath dir settingsFile) with
  | ok place =>
      rw [found] at missing
      cases missing
  | error fault =>
      rw [loaded_eq, readText, readBytes, found]
      rfl

end FileTree

section Honest

variable {σ : Type} {disk : Disk (StateM σ)} {cwd : Place} {tree : σ → FileTree} {dir : String}
  {s s' : σ} {settings : Settings}

open FileTree

/-- **Loading gives what the file stands for.** -/
theorem loadSettings_eq (honest : disk.Honest cwd tree) (dir : String) (s : σ) :
    loadSettings disk dir s = ((tree s).loaded cwd dir, s) := by
  have present := honest.isPresent (joinPath dir settingsFile) s
  have read := honest.readText (joinPath dir settingsFile) s
  simp only [loadSettings, bind, StateT.bind, present]
  cases found : ((tree s).find cwd (joinPath dir settingsFile)).isOk with
  | false =>
      rw [loaded_of_missing found]
      rfl
  | true =>
      rw [loaded_eq]
      simp only [Bool.not_true, Bool.false_eq_true, if_false, StateT.bind, read]
      cases (tree s).readText cwd (joinPath dir settingsFile) with
      | error fault => rfl
      | ok text => rfl

/-! ## Saving -/

/-- The settings are in their file, and the way to it is there. -/
structure Stored (cwd : Place) (dir : String) (settings : Settings) (t : FileTree) : Prop where
  checked : checkPath (joinPath dir settingsFile) = .ok ()
  opens : t.opens cwd dir = true
  held : t.held cwd dir = settings

theorem Stored.loaded {t : FileTree} (stored : Stored cwd dir settings t) :
    t.loaded cwd dir = settings := by
  rw [FileTree.loaded, stored.checked, stored.opens, stored.held]
  rfl

theorem loadSettings_of_stored (honest : disk.Honest cwd tree)
    (stored : Stored cwd dir settings (tree s)) : loadSettings disk dir s = (settings, s) := by
  rw [loadSettings_eq honest, stored.loaded]

/-- What a step has left as it was: the file of the settings, and the way to it if it was there. -/
structure Spared (cwd : Place) (dir : String) (t t' : FileTree) : Prop where
  opens : t.opens cwd dir = true → t'.opens cwd dir = true
  file : t'.file? (settingsPlace cwd dir) = t.file? (settingsPlace cwd dir)

namespace Spared

variable {t t' t'' : FileTree}

theorem refl (cwd : Place) (dir : String) (t : FileTree) : Spared cwd dir t t := ⟨id, rfl⟩

theorem trans (first : Spared cwd dir t t') (second : Spared cwd dir t' t'') :
    Spared cwd dir t t'' :=
  ⟨fun opened => second.opens (first.opens opened), second.file.trans first.file⟩

theorem held (spared : Spared cwd dir t t') : t'.held cwd dir = t.held cwd dir := by
  rw [FileTree.held, FileTree.held, spared.file]

theorem loaded (spared : Spared cwd dir t t') (opened : t.opens cwd dir = true) :
    t'.loaded cwd dir = t.loaded cwd dir := by
  rw [FileTree.loaded, FileTree.loaded, spared.opens opened, opened, spared.held]

theorem of_grown (grown : t.Grown t') : Spared cwd dir t t' := by
  constructor
  · intro opened
    exact opens_of_keeps grown.directory opened
  · exact grown.file _

/-- The draft is beside the settings. -/
theorem of_writeBytes {bytes : ByteArray}
    (written : t.writeBytes cwd (joinPath dir settingsDraft) bytes = .ok t') :
    Spared cwd dir t t' := by
  constructor
  · intro opened
    exact opens_of_keeps (fun p => directory_writeBytes isFileName_settingsDraft written) opened
  · have beside : settingsPlace cwd dir ≠ home cwd dir ++ [settingsDraft] := by
      simp [settingsPlace, settingsFile, settingsDraft]
    rw [file?_writeBytes isFileName_settingsDraft written, if_neg beside]

end Spared

theorem grows_prepareDirectory (honest : disk.Honest cwd tree) (dir : String) :
    Grows tree (prepareDirectory disk dir) := by
  unfold prepareDirectory
  apply (honest.grows_isPresent dir).bind
  intro present
  split
  · exact .pure _
  · exact honest.grows_ensureNested _

/-- Putting the draft in place makes its text the text of the settings. -/
theorem Stored.of_renamed {t t' t'' : FileTree}
    (written : t.writeBytes cwd (joinPath dir settingsDraft) settings.text.toUTF8 = .ok t')
    (renamed : t'.renameFile cwd (joinPath dir settingsDraft) (joinPath dir settingsFile) =
      .ok t'') : Stored cwd dir settings t'' := by
  obtain ⟨checked, -⟩ := renameFile_eq_ok isFileName_settingsDraft isFileName_settingsFile renamed
  obtain ⟨opened, placed⟩ :=
    of_renameFile_eq_ok isFileName_settingsDraft isFileName_settingsFile renamed
  rw [file?_writeBytes isFileName_settingsDraft written, if_pos rfl] at placed
  exact ⟨checked, opened, held_of_file placed⟩

/-- **What a save does**: it has saved, or it has spared what was there. -/
theorem saveSettings_cases (honest : disk.Honest cwd tree) {result : Except ViewError Unit}
    (ran : saveSettings disk dir settings s = (result, s')) :
    (result = .ok () ∧ Stored cwd dir settings (tree s')) ∨
      ((∃ e, result = .error e) ∧ Spared cwd dir (tree s) (tree s')) := by
  have grown := grows_prepareDirectory honest dir s
  obtain ⟨⟨prepared, s₁⟩, first⟩ : ∃ outcome, prepareDirectory disk dir s = outcome := ⟨_, rfl⟩
  rw [first] at grown
  have spared : Spared cwd dir (tree s) (tree s₁) := .of_grown grown
  simp only [saveSettings, bind, StateT.bind, first] at ran
  cases prepared with
  | error fault =>
      cases ran
      exact Or.inr ⟨⟨_, rfl⟩, spared⟩
  | ok _ =>
      obtain ⟨⟨wrote, s₂⟩, second⟩ :
        ∃ outcome, disk.writeText (joinPath dir settingsDraft) settings.text s₁ = outcome :=
          ⟨_, rfl⟩
      simp only [StateT.bind, second] at ran
      cases wrote with
      | error fault =>
          cases ran
          refine Or.inr ⟨⟨_, rfl⟩, spared.trans ?_⟩
          rcases honest.notWritten second with same | ⟨bytes, written⟩
          · rw [same]
            exact .refl _ _ _
          · exact .of_writeBytes written
      | ok _ =>
          have written := honest.written second
          have spared' := spared.trans (.of_writeBytes written)
          obtain ⟨⟨put, s₃⟩, third⟩ :
            ∃ outcome, disk.renameFile (joinPath dir settingsDraft) (joinPath dir settingsFile) s₂ =
              outcome := ⟨_, rfl⟩
          change StateT.bind _ _ _ = _ at ran
          simp only [StateT.bind, third] at ran
          cases put with
          | error fault =>
              cases ran
              refine Or.inr ⟨⟨_, rfl⟩, ?_⟩
              rw [honest.notRenamed third]
              exact spared'
          | ok _ =>
              cases ran
              exact Or.inl ⟨rfl, .of_renamed written (honest.renamed third)⟩

/-- **Settings that were saved are loaded**, whatever the file held before and whatever texts they
consist of. -/
theorem settings_survive (honest : disk.Honest cwd tree)
    (saved : saveSettings disk dir settings s = (.ok (), s')) :
    loadSettings disk dir s' = (settings, s') := by
  rcases saveSettings_cases honest saved with ⟨-, stored⟩ | ⟨⟨e, failed⟩, -⟩
  · exact loadSettings_of_stored honest stored
  · cases failed

end Honest

/-- Texts with quotes, backslashes, comment signs and control characters come back, in the place of
a file that is no configuration. -/
theorem settings_survive_odd_texts :
    let broken : FileTree := ⟨[(["conf"], .directory), (["conf", settingsFile], .file ⟨#[0xff]⟩)]⟩
    let odd : Settings :=
      { links := { schedulerRoot := "say \"hi\" # \\", taskRoot := "\'\'\'\n\u0000\r" }
        templates := { root := "", cache := false } }
    ∃ t', saveSettings (FileTree.disk []) "conf" odd broken = (.ok (), t') ∧
      loadSettings (FileTree.disk []) "conf" t' = (odd, t') := by
  intro broken odd
  have saved : (saveSettings (FileTree.disk []) "conf" odd broken).1 = .ok () := rfl
  have ran : saveSettings (FileTree.disk []) "conf" odd broken =
      (.ok (), (saveSettings (FileTree.disk []) "conf" odd broken).2) := Prod.ext saved rfl
  exact ⟨_, ran, settings_survive (FileTree.honest_disk []) ran⟩

end ConsoleView
