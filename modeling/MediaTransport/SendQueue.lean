/-
# MediaTransport.SendQueue -- the bounded queue in front of a writer

Pushing never waits: when the queue is full the oldest packet makes room.  A pop
waits while the queue is empty.  Waiting pops are served by single notifications:
a push or a close wakes the pop that has waited longest or, if none waits, leaves one
permit that the next pop to wait uses up at once.

A pop is named, and is in one of three states: unknown, `waiting` in line, or `woken`
by a notification that it has not acted on yet.  A woken pop that is cancelled hands
its notification on.
-/
import MediaTransport.Octets

namespace MediaTransport

set_option autoImplicit false

/-- A bounded queue with the pops that wait for it. -/
structure SendQueue where
  /-- How many packets may wait, at least one. -/
  capacity : Nat
  /-- The packets, the oldest first. -/
  items : List Octets := []
  closed : Bool := false
  /-- A notification that nobody has waited for yet. -/
  permit : Bool := false
  /-- The pops in line, the one that has waited longest first. -/
  waiting : List String := []
  /-- The pops that were notified and have not acted on it. -/
  woken : List String := []
  deriving DecidableEq, Repr

namespace SendQueue

/-- An empty queue; a capacity of zero acts as one. -/
def start (capacity : Nat) : SendQueue where
  capacity := max capacity 1

/-- Wakes the pop that has waited longest, or leaves a permit. -/
def notify (q : SendQueue) : SendQueue :=
  match q.waiting with
  | pop :: rest => { q with waiting := rest, woken := q.woken ++ [pop] }
  | [] => { q with permit := true }

/-- Adds a packet behind the others, after dropping the oldest ones of a full queue;
answers how many were dropped. -/
def push (q : SendQueue) (packet : Octets) : Nat × SendQueue :=
  let excess := q.items.length + 1 - q.capacity
  (excess, notify { q with items := q.items.drop excess ++ [packet] })

/-- Discards the packets and wakes a pop. -/
def close (q : SendQueue) : SendQueue :=
  notify { q with closed := true, items := [] }

/-- What a pop has to say when it is polled. -/
inductive Poll where
  | pending
  /-- The next packet, or `none` once the queue is closed. -/
  | ready (packet : Option Octets)
  deriving DecidableEq, Repr

/-- Looks for a packet on behalf of a pop that is not in line, and gets it in line if
there is none.  A permit is used up by the first who gets in line; as the queue is
empty then, that pop gets in line again. -/
def look (q : SendQueue) (pop : String) : Poll × SendQueue :=
  if q.closed then (.ready none, q)
  else
    match q.items with
    | packet :: rest => (.ready (some packet), { q with items := rest })
    | [] => (.pending, { q with permit := false, waiting := q.waiting ++ [pop] })

/-- Polls a pop, after starting it if it is not under way.  A pop in line that was not
notified stays there, even if there is a packet. -/
def poll (q : SendQueue) (pop : String) : Poll × SendQueue :=
  if q.waiting.contains pop then (.pending, q)
  else look { q with woken := q.woken.filter (· != pop) } pop

/-- Gives a pop up; says whether it was under way. -/
def cancel (q : SendQueue) (pop : String) : Bool × SendQueue :=
  if q.waiting.contains pop then (true, { q with waiting := q.waiting.filter (· != pop) })
  else if q.woken.contains pop then
    (true, notify { q with woken := q.woken.filter (· != pop) })
  else (false, q)

/-! ## Histories -/

/-- One use of a queue. -/
inductive Op where
  | push (packet : Octets)
  | close
  | poll (pop : String)
  | cancel (pop : String)
  deriving DecidableEq, Repr

/-- What a use of a queue answers. -/
inductive Answer where
  | dropped (count : Nat)
  | closed
  | polled (result : Poll)
  | cancelled (existed : Bool)
  deriving DecidableEq, Repr

def step (q : SendQueue) : Op → Answer × SendQueue
  | .push packet => let (count, q) := q.push packet; (.dropped count, q)
  | .close => (.closed, q.close)
  | .poll pop => let (result, q) := q.poll pop; (.polled result, q)
  | .cancel pop => let (existed, q) := q.cancel pop; (.cancelled existed, q)

/-- The queue after a history of uses. -/
def run (q : SendQueue) (ops : List Op) : SendQueue :=
  ops.foldl (fun q op => (q.step op).2) q

end SendQueue

end MediaTransport
