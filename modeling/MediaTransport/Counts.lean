/-
# MediaTransport.Counts -- the traffic counters of a connector

Seven counters, each of 64 bits, which wrap around.  A report names a counter and an
amount; what is reported together is added one report after the other.
-/

namespace MediaTransport

set_option autoImplicit false

/-- The traffic counters of one connector. -/
structure Counts where
  receivedBytes : UInt64 := 0
  sendBytes : UInt64 := 0
  receivedPkts : UInt64 := 0
  sendPkts : UInt64 := 0
  /-- Dropped by the input filter. -/
  rejectedPkts : UInt64 := 0
  /-- Dropped from a full send queue. -/
  droppedPkts : UInt64 := 0
  /-- Datagrams larger than the receive buffer, dropped. -/
  truncatedPkts : UInt64 := 0
  deriving DecidableEq, Repr

namespace Counts

/-- Names of the counters. -/
inductive Counter where
  | receivedBytes
  | sendBytes
  | receivedPkts
  | sendPkts
  | rejectedPkts
  | droppedPkts
  | truncatedPkts
  deriving DecidableEq, Repr

/-- Adds an amount to one counter. -/
def add (c : Counts) (counter : Counter) (amount : UInt64) : Counts :=
  match counter with
  | .receivedBytes => { c with receivedBytes := c.receivedBytes + amount }
  | .sendBytes => { c with sendBytes := c.sendBytes + amount }
  | .receivedPkts => { c with receivedPkts := c.receivedPkts + amount }
  | .sendPkts => { c with sendPkts := c.sendPkts + amount }
  | .rejectedPkts => { c with rejectedPkts := c.rejectedPkts + amount }
  | .droppedPkts => { c with droppedPkts := c.droppedPkts + amount }
  | .truncatedPkts => { c with truncatedPkts := c.truncatedPkts + amount }

/-- Adds what is reported together. -/
def report (c : Counts) (reports : List (Counter × UInt64)) : Counts :=
  reports.foldl (fun c r => c.add r.1 r.2) c

/-- The value of one counter. -/
def get (c : Counts) : Counter → UInt64
  | .receivedBytes => c.receivedBytes
  | .sendBytes => c.sendBytes
  | .receivedPkts => c.receivedPkts
  | .sendPkts => c.sendPkts
  | .rejectedPkts => c.rejectedPkts
  | .droppedPkts => c.droppedPkts
  | .truncatedPkts => c.truncatedPkts

namespace Counter

/-- All counters, in the order in which they are shown. -/
def all : List Counter :=
  [.receivedBytes, .sendBytes, .receivedPkts, .sendPkts, .rejectedPkts, .droppedPkts,
    .truncatedPkts]

def name : Counter → String
  | .receivedBytes => "received_bytes"
  | .sendBytes => "send_bytes"
  | .receivedPkts => "received_pkts"
  | .sendPkts => "send_pkts"
  | .rejectedPkts => "rejected_pkts"
  | .droppedPkts => "dropped_pkts"
  | .truncatedPkts => "truncated_pkts"

end Counter

/-- The counters as the log writes them. -/
def text (c : Counts) : String :=
  let fields := Counter.all.map fun counter => s!"{counter.name}: {c.get counter}"
  "Counts \x7b " ++ ", ".intercalate fields ++ " \x7d"

end Counts

end MediaTransport
