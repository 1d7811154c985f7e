/-
# ConsoleView.Proofs.Settings.Text -- settings read back from the text of their file

The file is a comment, an empty line and two tables of two bindings each.  Read
line by line it gives the table with just these entries (`read_text`), and this
table is the settings again (`ofText_text`), whatever the texts in them are.
-/
import ConsoleView.Proofs.Toml.Lines
import ConsoleView.Settings.Toml

namespace ConsoleView

set_option autoImplicit false

open Toml

variable {rest : List Char} {room steps : Nat} {d : Progress}

/-- A written line that binds a name to a text binds the name to the text. -/
theorem lines_textLine {name : String} (value : String) (plain : Plain name.toList)
    (fits : (textLine name value).length ≤ room) :
    lines room (steps + 1) d (textLine name value ++ rest) =
      (d.bind [] name (.string value)).bind fun d => lines room steps d rest := by
  have equals : " = ".toList = [' ', '=', ' '] := rfl
  simp only [textLine, equals, List.length_append, List.length_cons, List.length_nil] at fits
  have read : Toml.value room maxNesting (textChars value ++ '\n' :: rest) =
      some (.string value, '\n' :: rest) := value_textChars value maxNesting (by omega)
  obtain ⟨q, tail, written, quote⟩ := textChars_eq_cons value
  have unblank : ∀ c ∈ (textChars value).head?, isBlank c = false := by
    intro c head
    rw [written] at head
    cases head
    rcases quote with rfl | rfl <;> rfl
  have nonempty : textChars value ≠ [] := by
    rw [written]
    exact List.cons_ne_nil q tail
  have split : textLine name value ++ rest =
      name.toList ++ ' ' :: '=' :: ' ' :: (textChars value ++ '\n' :: rest) := by
    rw [textLine, equals]
    simp only [List.append_assoc, List.cons_append, List.nil_append]
  rw [split, lines_binding plain (by omega) unblank nonempty read, String.ofList_toList]

/-- A written line that binds a name to yes or no does so. -/
theorem lines_boolLine {name : String} (value : Bool) (plain : Plain name.toList)
    (pos : 0 < room) :
    lines room (steps + 1) d (boolLine name value ++ rest) =
      (d.bind [] name (.bool value)).bind fun d => lines room steps d rest := by
  have equals : " = ".toList = [' ', '=', ' '] := rfl
  have read : Toml.value room maxNesting ((if value then "true" else "false").toList ++
      '\n' :: rest) = some (.bool value, '\n' :: rest) := value_bool value maxNesting
  have unblank : ∀ c ∈ (if value then "true" else "false").toList.head?, isBlank c = false := by
    intro c head
    cases value with
    | true =>
        obtain rfl : 't' = c := Option.some.inj head
        rfl
    | false =>
        obtain rfl : 'f' = c := Option.some.inj head
        rfl
  have nonempty : (if value then "true" else "false").toList ≠ [] := by
    cases value <;> decide
  have split : boolLine name value ++ rest =
      name.toList ++ ' ' :: '=' :: ' ' ::
        ((if value then "true" else "false").toList ++ '\n' :: rest) := by
    rw [boolLine, equals]
    simp only [List.append_assoc, List.cons_append, List.nil_append]
  rw [split, lines_binding plain pos unblank nonempty read, String.ofList_toList]

namespace Settings

/-- The table that a file of settings stands for. -/
def table (s : Settings) : Toml :=
  .table [
    ("links", .table [
      ("scheduler_root", .string s.links.schedulerRoot),
      ("task_root", .string s.links.taskRoot)]),
    ("templates", .table [
      ("root", .string s.templates.root),
      ("cache", .bool s.templates.cache)])]

theorem ofToml_table (s : Settings) : ofToml s.table = some s := rfl

/-- The lines of a file of settings. -/
theorem toList_text (s : Settings) :
    s.text.toList =
      '#' :: (" Scheduler console bindings configuration".toList ++ '\n' :: '\n' :: '[' ::
        ("links".toList ++ ']' :: '\n' :: (textLine "scheduler_root" s.links.schedulerRoot ++
          (textLine "task_root" s.links.taskRoot ++ '\n' :: '[' ::
            ("templates".toList ++ ']' :: '\n' :: (textLine "root" s.templates.root ++
              (boolLine "cache" s.templates.cache ++ []))))))) := by
  have header : settingsHeader.toList =
      '#' :: (" Scheduler console bindings configuration".toList ++ ['\n', '\n']) := rfl
  have links : "[links]\n".toList = '[' :: ("links".toList ++ [']', '\n']) := rfl
  have templates : "\n[templates]\n".toList =
      '\n' :: '[' :: ("templates".toList ++ [']', '\n']) := rfl
  rw [text, String.toList_ofList, header, links, templates]
  simp only [List.append_assoc, List.cons_append, List.nil_append, List.append_nil]

/-- What has been read at the end of a file of settings. -/
def progress (s : Settings) : Progress where
  root := [
    ("links", .table .opened [
      ("scheduler_root", .leaf (.string s.links.schedulerRoot)),
      ("task_root", .leaf (.string s.links.taskRoot))]),
    ("templates", .table .opened [
      ("root", .leaf (.string s.templates.root)),
      ("cache", .leaf (.bool s.templates.cache))])]
  path := ["templates"]

/-- Line by line, the reader binds what the settings hold. -/
theorem lines_text (s : Settings) (fits : s.text.toList.length ≤ room) :
    lines room (steps + 10) {} s.text.toList = some s.progress := by
  have comment : ∀ c ∈ " Scheduler console bindings configuration".toList,
      isCommentChar c = true := List.all_eq_true.1 (by decide)
  have links : Plain "links".toList := by decide
  have templates : Plain "templates".toList := by decide
  rw [toList_text] at fits ⊢
  simp only [List.length_append, List.length_cons, List.length_nil] at fits
  have pos : 0 < room := by omega
  rw [lines_comment comment, lines_empty, lines_header links pos]
  have openedLinks : ({} : Progress).openHeader [] (String.ofList "links".toList) false =
      some ⟨[("links", .table .opened [])], ["links"]⟩ := rfl
  rw [openedLinks, Option.bind_some, lines_textLine _ (by decide) (by omega)]
  let scheduler : String × Item := ("scheduler_root", .leaf (.string s.links.schedulerRoot))
  have boundScheduler : Progress.bind ⟨[("links", .table .opened [])], ["links"]⟩ []
      "scheduler_root" (.string s.links.schedulerRoot) =
        some ⟨[("links", .table .opened [scheduler])], ["links"]⟩ := rfl
  rw [boundScheduler, Option.bind_some, lines_textLine _ (by decide) (by omega)]
  let task : String × Item := ("task_root", .leaf (.string s.links.taskRoot))
  have boundTask : Progress.bind ⟨[("links", .table .opened [scheduler])], ["links"]⟩ []
      "task_root" (.string s.links.taskRoot) =
        some ⟨[("links", .table .opened [scheduler, task])], ["links"]⟩ := rfl
  rw [boundTask, Option.bind_some, lines_empty, lines_header templates pos]
  let linked : String × Item := ("links", .table .opened [scheduler, task])
  have openedTemplates : Progress.openHeader ⟨[linked], ["links"]⟩ []
      (String.ofList "templates".toList) false =
        some ⟨[linked, ("templates", .table .opened [])], ["templates"]⟩ := rfl
  rw [openedTemplates, Option.bind_some, lines_textLine _ (by decide) (by omega)]
  let root : String × Item := ("root", .leaf (.string s.templates.root))
  have boundRoot : Progress.bind ⟨[linked, ("templates", .table .opened [])], ["templates"]⟩ []
      "root" (.string s.templates.root) =
        some ⟨[linked, ("templates", .table .opened [root])], ["templates"]⟩ := rfl
  have boundCache : Progress.bind ⟨[linked, ("templates", .table .opened [root])], ["templates"]⟩ []
      "cache" (.bool s.templates.cache) = some s.progress := rfl
  rw [boundRoot, Option.bind_some, lines_boolLine _ (by decide) pos, boundCache, Option.bind_some,
    lines_nil]

/-- **A file of settings is read as its table.** -/
theorem read_text (s : Settings) : Toml.read s.text = some s.table := by
  have unmarked : dropMark s.text.toList = s.text.toList := by
    rw [toList_text]
    rfl
  obtain ⟨steps, enough⟩ : ∃ steps, s.text.toList.length + 1 + 1 = steps + 10 := by
    refine ⟨s.text.toList.length - 8, ?_⟩
    have long : 8 ≤ s.text.toList.length := by
      simp only [toList_text, List.length_append, List.length_cons]
      omega
    omega
  have read : lines (s.text.toList.length + 1) (steps + 10) {} s.text.toList = some s.progress :=
    s.lines_text (Nat.le_succ _)
  rw [Toml.read]
  simp only [unmarked]
  rw [enough, read]
  rfl

/-- **Settings are read back as they were written.** -/
theorem ofText_text (s : Settings) : ofText s.text = some s := by
  rw [ofText, read_text]
  exact ofToml_table s

end Settings

end ConsoleView
