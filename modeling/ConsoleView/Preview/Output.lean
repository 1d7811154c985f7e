/-
# ConsoleView.Preview.Output -- what a preview shows, as one line of JSON
-/
import ConsoleView.Json.Printer
import ConsoleView.Markup.Html

namespace ConsoleView

set_option autoImplicit false

inductive PreviewOutput where
  /-- Markup that the component made. -/
  | markup (component html : String)
  /-- A template, its markup, and the scope it is rendered against. -/
  | template (component url content : String) (scope : Json)
  /-- The scope a component shows to its contents. -/
  | behavior (component : String) (scope : Json)
  /-- Nothing to render. -/
  | marker (component : String)
  /-- The component failed; its siblings did not. -/
  | error (component message html : String)
deriving Inhabited

namespace PreviewOutput

def kind : PreviewOutput → String
  | .markup _ _ => "markup"
  | .template _ _ _ _ => "template"
  | .behavior _ _ => "behavior"
  | .marker _ => "marker"
  | .error _ _ _ => "error"

/-- The output as an object; the kind comes first, then the parts in order. -/
def toJson (o : PreviewOutput) : Json :=
  .object <| ("kind", .string o.kind) ::
    match o with
    | .markup component html => [("component", .string component), ("html", .string html)]
    | .template component url content scope =>
        [("component", .string component), ("template", .string url),
         ("markup", .string content), ("scope", scope)]
    | .behavior component scope => [("component", .string component), ("scope", scope)]
    | .marker component => [("component", .string component)]
    | .error component message html =>
        [("component", .string component), ("message", .string message), ("html", .string html)]

/-- The output as one line, without its end. -/
def line (o : PreviewOutput) : String := o.toJson.print

end PreviewOutput

/-- The element that stands in the place of a failed component. -/
def placeholder (component message : String) : Element :=
  (((Element.named "div").withClass "component-error").withAttribute "data-component"
    component).withText message

example : (placeholder "error" "Template not found: /error.html").toMarkup.html =
    "<div class=\"component-error\" data-component=\"error\">" ++
      "Template not found: /error.html</div>" := by decide +kernel

end ConsoleView
