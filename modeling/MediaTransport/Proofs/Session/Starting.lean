/-
# MediaTransport.Proofs.Session.Starting -- the loops of a new session

A session that has started runs a loop on each of its streams, above the channel that is
configured for it (`loops_of_start`).  Both loops have begun a receive and wait for their first
packet (`Loop.waits_start`), with what they were given to keep.
-/
import MediaTransport.Proofs.Connector.Datagrams
import MediaTransport.Proofs.Session.Feeding
import MediaTransport.Session

namespace MediaTransport.Session

set_option autoImplicit false

open Net (Address Host Peer)

/-- A loop that has begun on the channel of a stream waits on the line of that channel. -/
theorem Loop.waits_start {σ : Type} (handler : Handler σ) (config : Config) (protocol : Protocol)
    (address : Address) (records : Bool) (now : Tick) (state : σ) :
    let channel := Channel.ofConfig config protocol address records now
    let l := (Loop.start handler now channel state).1
    l.state = state ∧ ∃ c loan, l.Waits c loan ∧ c.line = channel.connector.line := by
  intro channel
  obtain ⟨fresh, -⟩ := Channel.fresh_ofConfig config protocol address records now
  obtain ⟨l, begun, same, waits⟩ := Loop.advance_begins handler (l := { channel, state })
    rfl rfl rfl fresh.standing fresh.uniform now
  unfold Loop.start
  rw [begun]
  exact ⟨same, _, _, waits, by simp [Connector.line, channel]⟩

/-- The loops of a new session are loops on what is configured for their streams. -/
theorem loops_of_start {host : Host} {peers : Streams (Option Peer)} {config : Config}
    {limit : Log.Threshold} {s : Session}
    (started : (Session.start host peers config limit).1 = .ok s) :
    ∃ rtp rtcp,
      s.media =
        (Loop.start Media.handler 0 (Channel.ofConfig config .rtp rtp true 0) none).1 ∧
      s.control =
        (Loop.start Control.handler 0 (Channel.ofConfig config .rtcp rtcp true 0)
          Control.hub).1 := by
  unfold Session.start at started
  simp only at started
  split at started
  · cases started
  · split at started
    · cases started
    · rename_i rtp openedMedia
      split at started
      · cases started
      · rename_i rtcp openedControl
        cases started
        obtain ⟨rtp, rfl⟩ := Channel.exists_ofConfig_of_openOn openedMedia
        obtain ⟨rtcp, rfl⟩ := Channel.exists_ofConfig_of_openOn openedControl
        exact ⟨rtp, rtcp, rfl, rfl⟩

end MediaTransport.Session
