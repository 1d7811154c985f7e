/-
# ConsoleView.Records.Instances -- task instances, their progress and their ranges
-/
import ConsoleView.Json.Record

namespace ConsoleView

set_option autoImplicit false

open Json

/-! ## Instances -/

/-- One task instance of the grid.  The status is also the class of its cell. -/
structure InstanceRecord where
  statusClass : String := ""
deriving DecidableEq, Repr, Inhabited

def InstanceRecord.shape : RecordShape InstanceRecord where
  name := "InstanceRecord"
  blank := {}
  fields := [
    ((Field.of "statusClass" Codec.string InstanceRecord.statusClass
      fun r statusClass => { r with statusClass }).orNamed "className").needed]

def InstanceRecord.codec : Codec InstanceRecord := InstanceRecord.shape.codec

/-! ## Progress -/

/-- The progress of a rollout; `progress` is a percentage. -/
structure InstanceStats where
  updated : UInt32 := 0
  total : UInt32 := 0
  progress : Float := 0.0
deriving Repr, Inhabited

def InstanceStats.shape : RecordShape InstanceStats where
  name := "InstanceStats"
  blank := {}
  fields := [
    Field.of "instancesUpdatedSoFar" Codec.uint32 InstanceStats.updated
      fun s updated => { s with updated },
    Field.of "totalInstancesToBeUpdated" Codec.uint32 InstanceStats.total
      fun s total => { s with total },
    Field.of "progress" Codec.float InstanceStats.progress fun s progress => { s with progress }]

def InstanceStats.codec : Codec InstanceStats := InstanceStats.shape.codec

/-- A percentage is shown without an exponent and without a point after a whole number, and of two
equally near decimals the one further from zero is shown. -/
def percentLayout : NumberLayout where
  tie := .away
  positional := none
  wholeEnd := []
  infinity := "inf"
  notANumber := "NaN"

/-- The progress as a text such as `1 / 2 (50%)`. -/
def InstanceStats.label (s : InstanceStats) : String :=
  toString s.updated ++ " / " ++ toString s.total ++ " (" ++
    String.ofList (percentLayout.write (Double.ofFloat s.progress)) ++ "%)"

/-! ## Ranges -/

/-- A range of instance numbers, both ends included. -/
structure InstanceRange where
  first : UInt32 := 0
  last : UInt32 := 0
deriving DecidableEq, Repr, Inhabited

def InstanceRange.shape : RecordShape InstanceRange where
  name := "InstanceRange"
  blank := {}
  fields := [
    (Field.of "first" Codec.uint32 InstanceRange.first fun r first => { r with first }).needed,
    (Field.of "last" Codec.uint32 InstanceRange.last fun r last => { r with last }).needed]

def InstanceRange.codec : Codec InstanceRange := InstanceRange.shape.codec

end ConsoleView
