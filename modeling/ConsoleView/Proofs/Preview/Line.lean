/-
# ConsoleView.Proofs.Preview.Line -- the line of a preview tells what was shown

The line of an output is its object printed.  No step of a writer that may refuse
fails on it (`write_datum_line`), and all of it is visible (`visible_line`).  Two
outputs with one line are the same up to numbers of their scopes that are printed
alike (`line_eq_line_iff`), and what is read from the line is an object with the
kind and the texts of the output (`read_line`).
-/
import ConsoleView.Preview.Output
import ConsoleView.Proofs.Json.Alike
import ConsoleView.Proofs.Json.Datum
import ConsoleView.Proofs.Json.Line

namespace ConsoleView.PreviewOutput

set_option autoImplicit false

/-! ## Parts of an output -/

def component : PreviewOutput → String
  | .markup component _ | .template component _ _ _ | .behavior component _ | .marker component
  | .error component _ _ => component

/-- Markup that was made, or that stands for a failure. -/
def html? : PreviewOutput → Option String
  | .markup _ html | .error _ _ html => some html
  | _ => none

def url? : PreviewOutput → Option String
  | .template _ url _ _ => some url
  | _ => none

def content? : PreviewOutput → Option String
  | .template _ _ content _ => some content
  | _ => none

def message? : PreviewOutput → Option String
  | .error _ message _ => some message
  | _ => none

def scope? : PreviewOutput → Option Json
  | .template _ _ _ scope | .behavior _ scope => some scope
  | _ => none

/-- The numbers of the scope are those that a JSON value can hold. -/
def ScopeFits (o : PreviewOutput) : Prop := ∀ scope ∈ o.scope?, scope.NumbersFit

/-- The outputs are the same, up to numbers of their scopes that are printed alike. -/
structure PrintedAlike (o p : PreviewOutput) : Prop where
  kind : o.kind = p.kind
  component : o.component = p.component
  html : o.html? = p.html?
  url : o.url? = p.url?
  content : o.content? = p.content?
  message : o.message? = p.message?
  scope : Option.Rel Json.PrintedAlike o.scope? p.scope?

/-- The value is an object with the kind and the texts of the output, and its scope as it is read
from its text. -/
structure IsReadAs (o : PreviewOutput) (entries : Entries Json) : Prop where
  kind : Entries.get? entries "kind" = some (.string o.kind)
  component : Entries.get? entries "component" = some (.string o.component)
  html : Entries.get? entries "html" = o.html?.map .string
  url : Entries.get? entries "template" = o.url?.map .string
  content : Entries.get? entries "markup" = o.content?.map .string
  message : Entries.get? entries "message" = o.message?.map .string
  scope : Option.Rel Json.RereadAs o.scope? (Entries.get? entries "scope")

/-! ## The object of an output -/

def part (name : String) (value? : Option Json) : Entries Json :=
  match value? with
  | some value => [(name, value)]
  | none => []

def fields (o : PreviewOutput) : Entries Json :=
  List.flatten [[("kind", .string o.kind), ("component", .string o.component)],
    part "template" (o.url?.map .string), part "markup" (o.content?.map .string),
    part "message" (o.message?.map .string), part "html" (o.html?.map .string),
    part "scope" o.scope?]

theorem toJson_eq (o : PreviewOutput) : o.toJson = .object o.fields := by
  cases o <;> rfl

theorem distinct_fields (o : PreviewOutput) : (o.fields.map Prod.fst).Nodup := by
  cases o <;> simp [fields, part, url?, content?, message?, html?, scope?]

theorem get?_fields (o : PreviewOutput) :
    Entries.get? o.fields "kind" = some (.string o.kind) ∧
    Entries.get? o.fields "component" = some (.string o.component) ∧
    Entries.get? o.fields "html" = o.html?.map .string ∧
    Entries.get? o.fields "template" = o.url?.map .string ∧
    Entries.get? o.fields "markup" = o.content?.map .string ∧
    Entries.get? o.fields "message" = o.message?.map .string ∧
    Entries.get? o.fields "scope" = o.scope? := by
  cases o <;> exact ⟨rfl, rfl, rfl, rfl, rfl, rfl, rfl⟩

theorem numbersFit_toJson {o : PreviewOutput} (fits : o.ScopeFits) : o.toJson.NumbersFit := by
  cases o <;> simp_all [toJson, ScopeFits, scope?, Json.NumbersFit, Json.NumbersFit.inFields]

/-! ## The line -/

/-- The output as it is handed to the writer: a tag for its kind, then its parts. -/
def datum : PreviewOutput → Datum
  | .markup component html =>
      .map [(.string "kind", .string "markup"), (.string "component", .string component),
        (.string "html", .string html)]
  | .template component url content scope =>
      .map [(.string "kind", .string "template"), (.string "component", .string component),
        (.string "template", .string url), (.string "markup", .string content),
        (.string "scope", scope.datum)]
  | .behavior component scope =>
      .map [(.string "kind", .string "behavior"), (.string "component", .string component),
        (.string "scope", scope.datum)]
  | .marker component =>
      .map [(.string "kind", .string "marker"), (.string "component", .string component)]
  | .error component message html =>
      .map [(.string "kind", .string "error"), (.string "component", .string component),
        (.string "message", .string message), (.string "html", .string html)]

/-- An output is always written, and its text is the line. -/
theorem write_datum_line (o : PreviewOutput) : o.datum.write = some o.line.toList := by
  have object : o.datum = o.toJson.datum := by cases o <;> rfl
  rw [object, Json.write_datum, line, Json.print, String.toList_ofList]

theorem visible_line (o : PreviewOutput) : Visible o.line.toList := by
  rw [line, Json.print, String.toList_ofList]
  exact Json.visible_chars o.toJson

/-! ## One line for two outputs -/

theorem eq_of_rel_string {x y : Option String}
    (alike : Option.Rel Json.PrintedAlike (x.map .string) (y.map .string)) : x = y := by
  cases x <;> cases y <;> cases alike
  · rfl
  · rename_i same
    exact congrArg some (Json.string.inj same).symm

theorem printedAlike_of_line {o p : PreviewOutput} (fitsO : o.ScopeFits) (fitsP : p.ScopeFits)
    (same : o.line = p.line) : o.PrintedAlike p := by
  have alike := (Json.print_eq_print_iff (numbersFit_toJson fitsO) (numbersFit_toJson fitsP)).1 same
  rw [toJson_eq, toJson_eq] at alike
  obtain ⟨gs, parts, object⟩ := alike
  obtain rfl := Json.object.inj object
  have values := Json.rel_get?_of_fieldsAlike parts
  obtain ⟨kindO, componentO, htmlO, urlO, contentO, messageO, scopeO⟩ := get?_fields o
  obtain ⟨kindP, componentP, htmlP, urlP, contentP, messageP, scopeP⟩ := get?_fields p
  have text {name : String} {x y : Option String} (atO : Entries.get? o.fields name = x.map .string)
      (atP : Entries.get? p.fields name = y.map .string) : x = y := by
    have rel := values name
    rw [atO, atP] at rel
    exact eq_of_rel_string rel
  have scopes := values "scope"
  rw [scopeO, scopeP] at scopes
  exact {
    kind := Option.some.inj (text (x := some _) (y := some _) kindO kindP)
    component := Option.some.inj (text (x := some _) (y := some _) componentO componentP)
    html := text htmlO htmlP
    url := text urlO urlP
    content := text contentO contentP
    message := text messageO messageP
    scope := scopes }

theorem line_of_printedAlike {o p : PreviewOutput} (alike : o.PrintedAlike p) :
    o.line = p.line := by
  obtain ⟨kind, component, html, url, content, message, scope⟩ := alike
  rw [line, line, toJson_eq, toJson_eq]
  apply Json.print_object_congr
  unfold fields
  rw [kind, component, html, url, content, message]
  generalize o.scope? = x at scope ⊢
  generalize p.scope? = y at scope ⊢
  cases scope with
  | none => rfl
  | some alike =>
      simp only [part, List.map_flatten, List.map_cons, List.map_nil,
        Json.chars_of_printedAlike _ _ alike]

/-- **Two outputs have one line exactly if they are the same up to numbers printed alike.** -/
theorem line_eq_line_iff {o p : PreviewOutput} (fitsO : o.ScopeFits) (fitsP : p.ScopeFits) :
    o.line = p.line ↔ o.PrintedAlike p :=
  ⟨printedAlike_of_line fitsO fitsP, line_of_printedAlike⟩

/-! ## Reading the line -/

theorem eq_of_rel_reread {x : Option String} {y : Option Json}
    (reread : Option.Rel Json.RereadAs (x.map .string) y) : y = x.map .string := by
  cases x <;> cases reread
  · rfl
  · rename_i same
    exact congrArg some same

/-- **The line is read as an object with the kind and the texts of the output.** -/
theorem read_line {o : PreviewOutput} (fits : o.ScopeFits) {nesting : Nat}
    (deep : o.toJson.depth ≤ nesting) :
    ∃ entries, Json.read nesting o.line = .ok (.object entries) ∧ o.IsReadAs entries := by
  have fitsObject := numbersFit_toJson fits
  rw [line, toJson_eq] at *
  obtain ⟨entries, read, values⟩ := Json.read_print_object (distinct_fields o) fitsObject deep
  obtain ⟨kind, component, html, url, content, message, scope⟩ := get?_fields o
  have text {name : String} {x : Option String}
      (found : Entries.get? o.fields name = x.map .string) :
      Entries.get? entries name = x.map .string := by
    have rel := values name
    rw [found] at rel
    exact eq_of_rel_reread rel
  have scopes := values "scope"
  rw [scope] at scopes
  exact ⟨entries, read, {
    kind := text (x := some _) kind
    component := text (x := some _) component
    html := text html
    url := text url
    content := text content
    message := text message
    scope := scopes }⟩

/-- **An output is one line, and the line tells the output.**  It is always written, with no
character below the space; no output but one of the same parts, up to numbers printed alike, has
the same line; and a reader that goes as deep as the output finds the parts in it. -/
theorem line_tells_output (o : PreviewOutput) (fits : o.ScopeFits) :
    o.datum.write = some o.line.toList ∧
      (∀ c ∈ o.line.toList, 0x20 ≤ c.toNat) ∧
      (∀ p : PreviewOutput, p.ScopeFits → (o.line = p.line ↔ o.PrintedAlike p)) ∧
      ∀ nesting, o.toJson.depth ≤ nesting →
        ∃ entries, Json.read nesting o.line = .ok (.object entries) ∧ o.IsReadAs entries :=
  ⟨write_datum_line o, visible_line o, fun _ fitsP => line_eq_line_iff fits fitsP,
    fun _ deep => read_line fits deep⟩

/-- A template with quotes, line breaks and a null character in its texts and names. -/
theorem line_of_odd_template :
    let o : PreviewOutput := .template "a\"b" "C:\\x.html" "<p>\n\u0000é</p>"
      (.object
        [("\n\"", .array [.int (-2 ^ 63), .real (.ofInt 50), .string "\u001f"]), ("", .null)])
    o.ScopeFits ∧ '\n' ∉ o.line.toList ∧ o.line ≠ (PreviewOutput.marker "a\"b").line ∧
      ∃ entries, Json.read 3 o.line = .ok (.object entries) ∧
        Entries.get? entries "component" = some (.string "a\"b") ∧
        Entries.get? entries "template" = some (.string "C:\\x.html") ∧
        Entries.get? entries "markup" = some (.string "<p>\n\u0000é</p>") ∧
        Entries.get? entries "html" = none := by
  intro o
  have fits : o.ScopeFits := by
    rintro scope ⟨⟩
    have finite : (Float.ofInt 50).isFinite = true := isFinite_ofInt (by decide) (by decide)
    simp [Json.NumbersFit, Json.NumbersFit.inFields, Json.NumbersFit.inItems, finite]
  obtain ⟨-, visible, alone, readable⟩ := line_tells_output o fits
  obtain ⟨entries, read, parts⟩ := readable 3 (by decide)
  refine ⟨fits, fun broken => absurd (visible '\n' broken) (by decide), fun same => ?_, entries,
    read, parts.component, parts.url, parts.content, parts.html⟩
  have alike := (alone (.marker "a\"b") (by rintro scope ⟨⟩)).1 same
  exact absurd alike.kind (by decide)

end ConsoleView.PreviewOutput
