/-
# ConsoleView.Proofs.Settings.Calls -- saving and initializing again and again

A sequence of calls on one directory, any of which may fail at any of its steps,
loses no settings: what is loaded afterwards is what the last successful save has
saved, or what was loaded before.

This is so if the way to the files does not change its meaning
(`performAll_loaded`).  It does for a path such as `new/..`: as long as `new` is
missing nothing is found there, and making it leads to a directory that may have
a configuration file all along.  A call that fails then uncovers the settings of
that file, and initializing writes over them (`way_back_loses_settings`).
-/
import ConsoleView.Proofs.Settings.Saved

namespace ConsoleView

set_option autoImplicit false

/-- A call that may write the settings of a directory. -/
inductive SettingsCall where
  | save (settings : Settings)
  | init

section Perform

variable {m : Type → Type} [Monad m]

def SettingsCall.perform (disk : Disk m) (dir : String) : SettingsCall → m (Except ViewError Unit)
  | .save settings => saveSettings disk dir settings
  | .init => initSettings disk dir

/-- Perform calls one after another, whether they fail or not, and note their results. -/
def performAll (disk : Disk m) (dir : String) :
    List SettingsCall → m (List (SettingsCall × Except ViewError Unit))
  | [] => return []
  | call :: calls => do
      let result ← call.perform disk dir
      let history ← performAll disk dir calls
      return (call, result) :: history

end Perform

def saved? : SettingsCall × Except ViewError Unit → Option Settings
  | (.save settings, .ok ()) => some settings
  | _ => none

theorem saved?_error (call : SettingsCall) (e : ViewError) : saved? (call, .error e) = none := by
  cases call <;> rfl

def lastSaved (history : List (SettingsCall × Except ViewError Unit)) : Option Settings :=
  history.reverse.findSome? saved?

theorem lastSaved_cons (entry : SettingsCall × Except ViewError Unit)
    (history : List (SettingsCall × Except ViewError Unit)) :
    lastSaved (entry :: history) = (lastSaved history).or (saved? entry) := by
  rw [lastSaved, lastSaved, List.reverse_cons, List.findSome?_append, List.findSome?_singleton]

section Honest

variable {σ : Type} {disk : Disk (StateM σ)} {cwd : Place} {tree : σ → FileTree} {dir : String}
  {s s' : σ} {settings : Settings} {calls : List SettingsCall}
  {history : List (SettingsCall × Except ViewError Unit)} {t t' t'' : FileTree}
  {call : SettingsCall} {result : Except ViewError Unit} {last : Option Settings}

open FileTree

/-! ## One call -/

/-- All that a call can do, by its result. -/
inductive Effect (cwd : Place) (dir : String) (t t' : FileTree) :
    SettingsCall → Except ViewError Unit → Prop
  | saved {settings : Settings} (stored : Stored cwd dir settings t') :
      Effect cwd dir t t' (.save settings) (.ok ())
  | initialized (missing : (t.find cwd (joinPath dir settingsFile)).isOk = false)
      (stored : Stored cwd dir {} t') : Effect cwd dir t t' .init (.ok ())
  | present (same : t' = t) : Effect cwd dir t t' .init (.ok ())
  | failed {call : SettingsCall} {e : ViewError} (spared : Spared cwd dir t t') :
      Effect cwd dir t t' call (.error e)

/-- Initializing does nothing if there is a configuration file, whatever it holds. -/
theorem initSettings_of_found (honest : disk.Honest cwd tree)
    (found : ((tree s).find cwd (joinPath dir settingsFile)).isOk = true) :
    initSettings disk dir s = (.ok (), s) := by
  have present := honest.isPresent (joinPath dir settingsFile) s
  rw [found] at present
  simp only [initSettings, bind, StateT.bind, present]
  rfl

theorem initSettings_of_missing (honest : disk.Honest cwd tree)
    (missing : ((tree s).find cwd (joinPath dir settingsFile)).isOk = false) :
    initSettings disk dir s = saveSettings disk dir {} s := by
  have present := honest.isPresent (joinPath dir settingsFile) s
  rw [missing] at present
  simp only [initSettings, bind, StateT.bind, present]
  rfl

theorem SettingsCall.effect (honest : disk.Honest cwd tree)
    (ran : call.perform disk dir s = (result, s')) :
    Effect cwd dir (tree s) (tree s') call result := by
  cases call with
  | save settings =>
      rcases saveSettings_cases honest ran with ⟨rfl, stored⟩ | ⟨⟨e, rfl⟩, spared⟩
      · exact .saved stored
      · exact .failed spared
  | init =>
      rw [perform] at ran
      cases found : ((tree s).find cwd (joinPath dir settingsFile)).isOk with
      | true =>
          rw [initSettings_of_found honest found] at ran
          cases ran
          exact .present rfl
      | false =>
          rw [initSettings_of_missing honest found] at ran
          rcases saveSettings_cases honest ran with ⟨rfl, stored⟩ | ⟨⟨e, rfl⟩, spared⟩
          · exact .initialized found stored
          · exact .failed spared

/-! ## Many calls -/

/-- A directory that was out of reach has come into reach, with the settings it held all along. -/
structure Uncovered (cwd : Place) (dir : String) (t t' : FileTree) : Prop where
  before : t.opens cwd dir = false
  after : t'.opens cwd dir = true
  loaded : t'.loaded cwd dir = t.held cwd dir

/-- What calls have kept, the last successful save of which was of the settings `last`. -/
structure Kept (cwd : Place) (dir : String) (t : FileTree) (last : Option Settings)
    (t' : FileTree) : Prop where
  loaded : t'.loaded cwd dir = last.getD (t.loaded cwd dir) ∨
    last = none ∧ Uncovered cwd dir t t'
  opens : t.opens cwd dir = true → t'.opens cwd dir = true
  closed : t'.opens cwd dir = false →
    last = none ∧ t'.file? (settingsPlace cwd dir) = t.file? (settingsPlace cwd dir)

namespace Kept

theorem refl (cwd : Place) (dir : String) (t : FileTree) : Kept cwd dir t none t :=
  ⟨.inl rfl, id, fun _ => ⟨rfl, rfl⟩⟩

/-- What is open stays open. -/
theorem closed_before (kept : Kept cwd dir t last t') (closed : t'.opens cwd dir = false) :
    t.opens cwd dir = false := by
  rw [← Bool.not_eq_true]
  intro opened
  rw [kept.opens opened] at closed
  cases closed

/-- A step that leaves the directory open and what is loaded as it was. -/
theorem of_open (kept : Kept cwd dir t last t') (opened : t''.opens cwd dir = true)
    (same : t''.loaded cwd dir = t'.loaded cwd dir) : Kept cwd dir t last t'' := by
  refine ⟨?_, fun _ => opened, fun closed => ?_⟩
  · rw [same]
    rcases kept.loaded with as | ⟨unsaved, uncovered⟩
    · exact .inl as
    · exact .inr ⟨unsaved, uncovered.before, opened, same.trans uncovered.loaded⟩
  · rw [opened] at closed
    cases closed

/-- A step that spares the settings keeps them. -/
theorem of_spared (kept : Kept cwd dir t last t') (spared : Spared cwd dir t' t'') :
    Kept cwd dir t last t'' := by
  cases opened : t'.opens cwd dir with
  | true => exact kept.of_open (spared.opens opened) (spared.loaded opened)
  | false =>
      obtain ⟨rfl, file⟩ := kept.closed opened
      have before := kept.closed_before opened
      have file' := spared.file.trans file
      refine ⟨?_, fun wasOpen => ?_, fun _ => ⟨rfl, file'⟩⟩
      · rw [loaded_of_closed before]
        cases after : t''.opens cwd dir with
        | false => exact .inl (loaded_of_closed after)
        | true =>
            have held : t''.held cwd dir = t.held cwd dir := by
              rw [held, held, file']
            cases checked : (checkPath (joinPath dir settingsFile)).isOk with
            | false =>
                rw [FileTree.loaded, checked]
                exact .inl rfl
            | true =>
                refine .inr ⟨rfl, before, after, ?_⟩
                rw [FileTree.loaded, checked, after, ← held]
                rfl
      · rw [before] at wasOpen
        cases wasOpen

theorem effect (kept : Kept cwd dir t last t') (effect : Effect cwd dir t' t'' call result) :
    Kept cwd dir t ((saved? (call, result)).or last) t'' := by
  cases effect with
  | saved stored =>
      refine ⟨.inl stored.loaded, fun _ => stored.opens, fun closed => ?_⟩
      rw [stored.opens] at closed
      cases closed
  | initialized missing stored =>
      apply kept.of_open stored.opens
      rw [stored.loaded, loaded_of_missing missing]
  | present same =>
      rw [same]
      exact kept
  | failed spared =>
      rw [saved?_error]
      exact kept.of_spared spared

end Kept

theorem performAll_kept (honest : disk.Honest cwd tree) (kept : Kept cwd dir t last (tree s))
    (ran : performAll disk dir calls s = (history, s')) :
    Kept cwd dir t ((lastSaved history).or last) (tree s') := by
  induction calls generalizing s last history with
  | nil =>
      cases ran
      exact kept
  | cons call calls ih =>
      obtain ⟨⟨result, s₁⟩, first⟩ : ∃ outcome, call.perform disk dir s = outcome := ⟨_, rfl⟩
      obtain ⟨⟨history', s₂⟩, more⟩ : ∃ outcome, performAll disk dir calls s₁ = outcome := ⟨_, rfl⟩
      simp only [performAll, bind, StateT.bind, first, more] at ran
      cases ran
      rw [lastSaved_cons, Option.or_assoc]
      exact ih (kept.effect (call.effect honest first)) more

/-! ## Ways that do not go back -/

/-- The way to the files of a directory is there, or it never goes back, so that making what is
missing on it cannot lead to files that are there already. -/
def Direct (cwd : Place) (dir : String) (t : FileTree) : Prop :=
  t.opens cwd dir = true ∨ t.Nested ∧ ".." ∉ pathParts dir

/-- Behind a direct way that is not there, no file comes into reach. -/
theorem Direct.file?_eq_none (direct : Direct cwd dir t) (before : t.opens cwd dir = false)
    (after : t'.opens cwd dir = true) : t.file? (settingsPlace cwd dir) = none := by
  rcases direct with opened | ⟨nested, forward⟩
  · rw [before] at opened
    cases opened
  · cases file : t.file? (settingsPlace cwd dir) with
    | none => rfl
    | some bytes =>
        rw [opens_of_file nested forward after file] at before
        cases before

namespace Kept

theorem loaded_of_direct (kept : Kept cwd dir t last t') (direct : Direct cwd dir t) :
    t'.loaded cwd dir = last.getD (t.loaded cwd dir) := by
  rcases kept.loaded with as | ⟨rfl, uncovered⟩
  · exact as
  · have held : t.held cwd dir = {} := by
      rw [FileTree.held, direct.file?_eq_none uncovered.before uncovered.after]
      rfl
    rw [uncovered.loaded, held, Option.getD_none, loaded_of_closed uncovered.before]

theorem init_spares (kept : Kept cwd dir t last t') (direct : Direct cwd dir t)
    (effect : Effect cwd dir t' t'' .init result) {bytes : ByteArray}
    (file : t'.file? (settingsPlace cwd dir) = some bytes) :
    t''.file? (settingsPlace cwd dir) = some bytes := by
  cases effect with
  | present same => rwa [same]
  | failed spared => rwa [spared.file]
  | initialized missing stored =>
      exfalso
      cases opened : t'.opens cwd dir with
      | true =>
          have found : t'.find cwd (joinPath dir settingsFile) = .ok (settingsPlace cwd dir) := by
            rw [find_eq_ok_iff isFileName_settingsFile]
            refine ⟨stored.checked, opened, ?_, rfl⟩
            rw [← settingsPlace, file?_eq_some_iff.1 file]
            rfl
          rw [found] at missing
          cases missing
      | false =>
          rw [(kept.closed opened).2,
            direct.file?_eq_none (kept.closed_before opened) stored.opens] at file
          cases file

end Kept

/-- **No call loses settings that were saved.**  After any calls on a directory, any of which may
have failed at any step, what is loaded is what the last successful save has saved, or what was
loaded before if there is none; only a way to the files that was not there may lead to settings that
were held all along.  If the way is direct this does not happen, a call that is no successful save
does not change what is loaded, and initializing does not change a file that is there. -/
theorem performAll_loaded (honest : disk.Honest cwd tree)
    (ran : performAll disk dir calls s = (history, s')) :
    let loadedIn (s : σ) : Settings := (loadSettings disk dir s).1
    (loadedIn s' = (lastSaved history).getD (loadedIn s) ∨
      lastSaved history = none ∧ (tree s).opens cwd dir = false ∧
        (tree s').opens cwd dir = true ∧ loadedIn s' = (tree s).held cwd dir) ∧
    (((tree s').find cwd (joinPath dir settingsFile)).isOk = true →
      initSettings disk dir s' = (.ok (), s')) ∧
    (∀ s'', initSettings disk dir s' = (.ok (), s'') → loadedIn s'' = loadedIn s') ∧
    (Direct cwd dir (tree s) →
      loadedIn s' = (lastSaved history).getD (loadedIn s) ∧
      (∀ call result s'', call.perform disk dir s' = (result, s'') →
        saved? (call, result) = none → loadedIn s'' = loadedIn s') ∧
      ∀ result s'', initSettings disk dir s' = (result, s'') →
        ∀ bytes, (tree s').file? (settingsPlace cwd dir) = some bytes →
          (tree s'').file? (settingsPlace cwd dir) = some bytes) := by
  intro loadedIn
  have loadedIn_eq : ∀ s, loadedIn s = (tree s).loaded cwd dir := by
    intro s
    exact congrArg Prod.fst (loadSettings_eq honest dir s)
  have kept := performAll_kept honest (.refl cwd dir (tree s)) ran
  rw [Option.or_none] at kept
  simp only [loadedIn_eq]
  refine ⟨?_, ?_, ?_, ?_⟩
  · rcases kept.loaded with as | ⟨unsaved, uncovered⟩
    · exact .inl as
    · exact .inr ⟨unsaved, uncovered.before, uncovered.after, uncovered.loaded⟩
  · intro found
    exact initSettings_of_found honest found
  · intro s'' again
    cases SettingsCall.init.effect honest again with
    | initialized missing stored => rw [stored.loaded, loaded_of_missing missing]
    | present same => rw [same]
  · intro direct
    have loaded := kept.loaded_of_direct direct
    refine ⟨loaded, ?_, ?_⟩
    · intro call result s'' again unsaved
      have kept' := kept.effect (call.effect honest again)
      rw [unsaved, Option.none_or] at kept'
      rw [kept'.loaded_of_direct direct, loaded]
    · intro result s'' again bytes file
      exact kept.init_spares direct (SettingsCall.init.effect honest again) file

end Honest

/-- A write that stops halfway and a draft that cannot be put in place do not touch the settings
that were saved between them. -/
theorem loaded_among_failures :
    let first : Settings := { links := { taskRoot := "/first" } }
    let second : Settings := { links := { taskRoot := "/second" } }
    let broken : FileTree := ⟨[(["conf"], .directory), (["conf", settingsFile], .file ⟨#[0xff]⟩)]⟩
    let full : FileFault := .other "No space left on device (os error 28)"
    let disk := UnreliableTree.disk []
    let calls : List SettingsCall := [.save second, .save first, .save second, .init]
    let start : UnreliableTree :=
      ⟨broken, [some (.cutShort ⟨#[0x5b]⟩ full), none, none, none, some (.refused full)]⟩
    ∃ history s', performAll disk "conf" calls start = (history, s') ∧
      history.map (fun e => e.2.isOk) = [false, true, false, true] ∧
      (loadSettings disk "conf" s').1 = first := by
  intro first second broken full disk calls start
  have failures : ((performAll disk "conf" calls start).1.map fun e => e.2.isOk) =
      [false, true, false, true] := by decide +kernel
  have last : lastSaved (performAll disk "conf" calls start).1 = some first := by decide +kernel
  have direct : Direct [] "conf" start.tree := .inl (by decide +kernel)
  obtain ⟨⟨history, s'⟩, ran⟩ : ∃ outcome, performAll disk "conf" calls start = outcome := ⟨_, rfl⟩
  rw [ran] at failures last
  obtain ⟨-, -, -, kept⟩ := performAll_loaded (UnreliableTree.honest_unreliable []) ran
  have after := (kept direct).1
  rw [last] at after
  exact ⟨history, s', ran, failures, after⟩

/-- A way that leads back from a missing directory hides the settings that are held there.
Initializing writes over them, and a save that fails uncovers them: what is loaded from that very
directory changes. -/
theorem way_back_loses_settings :
    let custom : Settings := { links := { taskRoot := "/custom" } }
    let other : Settings := { links := { taskRoot := "/other" } }
    let configured : FileTree := ⟨[([settingsFile], .file custom.text.toUTF8)]⟩
    let blocked : FileTree := configured.put [settingsDraft] .directory
    let disk := FileTree.disk []
    let initialized := initSettings disk "nope/.." configured
    let saved := saveSettings disk "nope/.." other blocked
    let file (t : FileTree) : Option ByteArray := t.file? (FileTree.settingsPlace [] "nope/..")
    (file configured = some custom.text.toUTF8 ∧ initialized.1 = .ok () ∧
      file initialized.2 = some ({} : Settings).text.toUTF8) ∧
    ((loadSettings disk "nope/.." blocked).1 = {} ∧
      saved.1 = .error (saveError "write temp file" .isDirectory) ∧
      (loadSettings disk "nope/.." saved.2).1 = custom) := by
  intro custom other configured blocked disk initialized saved file
  have uncovered : Stored [] "nope/.." custom saved.2 := ⟨rfl, rfl, FileTree.held_of_file rfl⟩
  have loaded := loadSettings_of_stored (FileTree.honest_disk []) uncovered
  exact ⟨⟨rfl, rfl, rfl⟩, rfl, rfl, congrArg Prod.fst loaded⟩

end ConsoleView
