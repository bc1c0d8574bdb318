import TiltMenu.Device.Executor
import TiltMenu.Device.State
import TiltMenu.Validation

/-!
# The controller of the device

The controller runs its queue in order and stops at the first command that the
device refuses; the commands behind it are discarded. It keeps the commands that
were not refused in the order in which they ran.
-/

set_option autoImplicit false

namespace TiltMenu.Device

open Log (Event)

/-- A device with its queue and its history. -/
structure Controller where
  /-- The commands waiting, the first to run first. -/
  pending : List Command := []
  /-- The commands that ran without being refused, oldest first. -/
  executed : List Command := []
  device : State := {}
  deriving DecidableEq, Repr

namespace Controller

/-- What running a queue leaves behind. -/
structure QueueRun where
  /-- Why the run stopped early, if it did. -/
  fault : Option Fault
  controller : Controller
  events : List Event

/-- The controller after a command that the device does not refuse. -/
def record (controller : Controller) (command : Command) : Controller :=
  { controller with
    device := controller.device.after command
    executed := controller.executed ++ [command] }

/-- Runs commands in order up to the first that the device refuses. -/
def runQueue (controller : Controller) : List Command → QueueRun
  | [] => ⟨none, controller, []⟩
  | command :: rest =>
    match controller.device.refusal? command with
    | some fault =>
      ⟨some fault, { controller with device := controller.device.after command }, []⟩
    | none =>
      let later := (controller.record command).runQueue rest
      { later with
        events := controller.device.report controller.executed.length command ++ later.events }

/-- The operation that the events about an execution name. -/
def operation : String := "execute_command"

/-- Runs the queue and leaves it empty. An empty queue is a fault. -/
def execute (controller : Controller) : Outcome Controller :=
  let started :=
    { Event.started State.origin operation with
      details := [("pending", .number controller.pending.length)] }
  if controller.pending.isEmpty then
    ⟨false, controller,
      [started, Event.failed State.origin operation .elapsed Fault.emptyQueue.report]⟩
  else
    let run := { controller with pending := [] }.runQueue controller.pending
    match run.fault with
    | some fault =>
      ⟨false, run.controller,
        started :: run.events ++ [Event.failed State.origin operation .elapsed fault.report]⟩
    | none =>
      ⟨true, run.controller,
        started :: run.events ++ [Event.finished State.origin operation .elapsed]⟩

/-- Puts commands at the end of the queue. -/
def enqueue (controller : Controller) (commands : List Command) : Controller :=
  { controller with pending := controller.pending ++ commands }

instance : Executor Controller Command where
  enqueue controller commands := (controller.enqueue commands, [])
  execute := execute

end Controller

/-- The validator of the device family. -/
structure Rules where
  deriving DecidableEq, Repr

instance : Validator Rules Command where
  inspect rules store commandLine := .ofReading rules commandLine (Command.parse store commandLine)

end TiltMenu.Device
