/-
# ConsoleView.Component.Grid -- the grid of instances and the title above it

The grid has one cell per instance, in order.  A cell carries the status as its
class, the number of the instance as its text, and a label as its tooltip.
-/
import ConsoleView.Markup.Basic
import ConsoleView.Records.Instances
import ConsoleView.Text.Upper

namespace ConsoleView

set_option autoImplicit false

def titleCaption : String := "Instance Status"

def cellLabel (n : Nat) (record : InstanceRecord) : String :=
  "INSTANCE " ++ toString n ++ ": " ++ Text.upper record.statusClass

def gridCell (n : Nat) (record : InstanceRecord) : Element :=
  let number := ((Element.named "span").withClass "instance-id").withText (toString n)
  (((Element.named "li").withClass record.statusClass).withAttribute "tooltip"
    (cellLabel n record)).withChild number

/-- The grid before it has cells. -/
def gridFrame (size : String) : Element :=
  ((Element.named "ul").withClass "instance-grid").withClass size

def buildGrid (instances : List InstanceRecord) (size : String) : Element :=
  { gridFrame size with children := instances.mapIdx fun n record => (gridCell n record).toMarkup }

/-- The caption and the progress. -/
def buildTitle (stats : InstanceStats) : Element :=
  let caption := ((Element.named "span").withClass "instance-title").withText titleCaption
  let progress := ((Element.named "span").withClass "instance-progress").withText stats.label
  let captioned := ((Element.named "div").withClass "instance-summary-title").withChild caption
  (captioned.withText " ").withChild progress

example : (buildTitle { updated := 1, total := 2, progress := 50.0 }).toMarkup.textContent =
    "Instance Status 1 / 2 (50%)" := by decide +kernel

end ConsoleView
