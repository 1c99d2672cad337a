/-
# MediaTransport.Session.Control -- the loop of the control stream

The control loop dispatches every packet to the listeners of the session.  There is one
listener, which reports the feedback that it is told of and never fails.
-/
import MediaTransport.Session.Loop

namespace MediaTransport.Session.Control

set_option autoImplicit false

open Net (Address)

/-- The name of the listener. -/
def reporter : Dispatch.Name := "reporter"

/-- The listener takes notice of an event and makes no use of the dispatcher. -/
def behaviour : Dispatch.Behaviour := fun _ _ _ => .finish none

/-- The dispatcher of a new session. -/
def hub : Dispatch.Hub where
  registry := [reporter]

/-- The feedback that the listener was told of. -/
def reported (moments : List Dispatch.Moment) : List Note :=
  moments.filterMap fun
    | .called _ _ event => some (.feedback event)
    | .answered .. => none

/-- What the control loop does with a packet.  As the listener does not dispatch, one
dispatch at a time is enough. -/
def handler : Handler Dispatch.Hub := fun hub bytes source =>
  match Dispatch.dispatch behaviour 0 1 bytes hub with
  | none => (hub, [])
  | some (.ok _, hub, moments) => (hub, reported moments)
  | some (.error cause, hub, moments) =>
    (hub, reported moments ++ [.listenerFailed source cause])

end MediaTransport.Session.Control
