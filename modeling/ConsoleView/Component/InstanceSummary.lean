/-
# ConsoleView.Component.InstanceSummary -- title and grid mounted into a document

The grid is built once, from the instances bound when the component is mounted.
Rebinding them later changes what the component would show, not what it has
shown.  The labels of the cells are activated against the inputs as they were.
-/
import ConsoleView.Component.Grid
import ConsoleView.Document.Compile
import ConsoleView.Registry.Table

namespace ConsoleView

set_option autoImplicit false

open Json

/-! ## Inputs -/

structure InstanceInputs where
  instances : List InstanceRecord := []
  /-- A class of the grid. -/
  size : String := ""
  stats : InstanceStats := {}
deriving Inhabited

def InstanceInputs.shape : RecordShape InstanceInputs where
  name := "InstanceSummaryInputs"
  blank := {}
  fields := [
    (Field.of "instances" (.list InstanceRecord.codec) InstanceInputs.instances
      fun i instances => { i with instances }).needed,
    (Field.of "size" Codec.string InstanceInputs.size fun i size => { i with size }).needed,
    (Field.of "stats" InstanceStats.codec InstanceInputs.stats
      fun i stats => { i with stats }).needed]

/-- The strict reading of the inputs: all three must be there. -/
def InstanceInputs.codec : Codec InstanceInputs := InstanceInputs.shape.codec

/-- The class a bound size stands for; what is not a text is shown as JSON. -/
def sizeToken : Option Json → String
  | none | some .null => ""
  | some (.string s) => s
  | some j => j.print

namespace InstanceInputs

/-- The statistics a scope binds, or none. -/
def statsFrom (scope : Scope) : Except ViewError InstanceStats :=
  match scope.get? "stats" with
  | none | some .null => .ok {}
  | some j => InstanceStats.codec.decode j

/-- The inputs a scope binds: the instances must be a list, size and statistics may be missing. -/
def ofScope (scope : Scope) : Except ViewError InstanceInputs :=
  let descriptor := Component.instanceSummary.descriptor
  match descriptor.missingInputs scope with
  | input :: _ => .error (.missingInput descriptor.name input)
  | [] =>
      match (scope.get? "instances").getD .null with
      | .array items =>
          match statsFrom scope with
          | .error e => .error e
          | .ok stats =>
              match (Codec.list InstanceRecord.codec).decode (.array items) with
              | .error e => .error e
              | .ok instances => .ok { instances, size := sizeToken (scope.get? "size"), stats }
      | _ => .error (.malformedInput descriptor.name "instances must be an ordered list")

def scope (i : InstanceInputs) : Scope :=
  ((Scope.empty.bind "instances" (.list InstanceRecord.codec) i.instances).bind "size" .string
    i.size).bind "stats" InstanceStats.codec i.stats

end InstanceInputs

/-! ## The component -/

/-- What a mount has made: the nodes, and how many bindings became live. -/
structure MountedGrid where
  anchor : NodeId
  title : NodeId
  grid : NodeId
  activated : Nat
deriving DecidableEq, Repr, Inhabited

/-- The component: what is bound to it, and its mount if it has one. -/
structure InstanceSummary where
  inputs : InstanceInputs
  mounted : Option MountedGrid := none
deriving Inhabited

namespace InstanceSummary

/-- Build title and grid into an anchor and make the labels live.  A mounted component stays as it
is.  Whatever was done before a step failed stays done. -/
def mount (s : InstanceSummary) (d : Document) (anchor : NodeId) :
    Except ViewError MountedGrid × InstanceSummary × Document :=
  match s.mounted with
  | some mounted => (.ok mounted, s, d)
  | none =>
      match d.append anchor (buildGrid s.inputs.instances s.inputs.size) with
      | .error e => (.error e, s, d)
      | .ok (withGrid, grid) =>
          match withGrid.insertBefore anchor (buildTitle s.inputs.stats) grid with
          | .error e => (.error e, s, withGrid)
          | .ok (withTitle, title) =>
              match withTitle.compile grid s.inputs.scope with
              | .error e => (.error e, s, withTitle)
              | .ok (compiled, activated) =>
                  let mounted : MountedGrid := { anchor, title, grid, activated }
                  (.ok mounted, { s with mounted := some mounted }, compiled)

/-- Bind other instances; a grid that is there stays as built. -/
def setInstances (s : InstanceSummary) (instances : List InstanceRecord) : InstanceSummary :=
  { s with inputs := { s.inputs with instances } }

/-- Bind other statistics; a title that is there stays as built. -/
def setStats (s : InstanceSummary) (stats : InstanceStats) : InstanceSummary :=
  { s with inputs := { s.inputs with stats } }

theorem mount_of_mounted {s : InstanceSummary} {mounted : MountedGrid}
    (done : s.mounted = some mounted) (d : Document) (anchor : NodeId) :
    s.mount d anchor = (.ok mounted, s, d) := by
  simp [mount, done]

end InstanceSummary

end ConsoleView
