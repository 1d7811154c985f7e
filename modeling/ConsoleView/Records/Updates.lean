/-
# ConsoleView.Records.Updates -- configuration groups and update settings
-/
import ConsoleView.Records.Instances

namespace ConsoleView

set_option autoImplicit false

open Json

/-- Instances that share one task configuration.  The configuration is not looked into. -/
structure ConfigGroup where
  instances : List InstanceRange := []
  config : Json := .null
deriving Inhabited

def ConfigGroup.shape : RecordShape ConfigGroup where
  name := "ConfigGroup"
  blank := {}
  fields := [
    Field.of "instances" (.list InstanceRange.codec) ConfigGroup.instances
      fun g instances => { g with instances },
    Field.of "config" .raw ConfigGroup.config fun g config => { g with config }]

def ConfigGroup.codec : Codec ConfigGroup := ConfigGroup.shape.codec

structure UpdateSettings where
  updateGroupSize : UInt32 := 0
  maxPerInstanceFailures : UInt32 := 0
  maxFailedInstances : UInt32 := 0
  minWaitInInstanceRunningMs : UInt64 := 0
  rollbackOnFailure : Bool := false
  waitForBatchCompletion : Bool := false
  blockIfNoPulsesAfterMs : Option UInt64 := none
  updateOnlyTheseInstances : List InstanceRange := []
deriving DecidableEq, Repr, Inhabited

def UpdateSettings.shape : RecordShape UpdateSettings where
  name := "UpdateSettings"
  blank := {}
  fields := [
    Field.of "updateGroupSize" Codec.uint32 UpdateSettings.updateGroupSize
      fun u updateGroupSize => { u with updateGroupSize },
    Field.of "maxPerInstanceFailures" Codec.uint32 UpdateSettings.maxPerInstanceFailures
      fun u maxPerInstanceFailures => { u with maxPerInstanceFailures },
    Field.of "maxFailedInstances" Codec.uint32 UpdateSettings.maxFailedInstances
      fun u maxFailedInstances => { u with maxFailedInstances },
    Field.of "minWaitInInstanceRunningMs" Codec.uint64 UpdateSettings.minWaitInInstanceRunningMs
      fun u minWaitInInstanceRunningMs => { u with minWaitInInstanceRunningMs },
    Field.of "rollbackOnFailure" Codec.bool UpdateSettings.rollbackOnFailure
      fun u rollbackOnFailure => { u with rollbackOnFailure },
    Field.of "waitForBatchCompletion" Codec.bool UpdateSettings.waitForBatchCompletion
      fun u waitForBatchCompletion => { u with waitForBatchCompletion },
    Field.of "blockIfNoPulsesAfterMs" (.option .uint64) UpdateSettings.blockIfNoPulsesAfterMs
      fun u blockIfNoPulsesAfterMs => { u with blockIfNoPulsesAfterMs },
    Field.of "updateOnlyTheseInstances" (.list InstanceRange.codec)
      UpdateSettings.updateOnlyTheseInstances
      fun u updateOnlyTheseInstances => { u with updateOnlyTheseInstances }]

def UpdateSettings.codec : Codec UpdateSettings := UpdateSettings.shape.codec

end ConsoleView
