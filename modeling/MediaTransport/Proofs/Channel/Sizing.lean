/-
# MediaTransport.Proofs.Channel.Sizing -- what is computed from a configuration is exact

The sizes and times of a channel are natural numbers here, but they are computed in words: the
size of its buffers in words of 64 bits, where a sum that is too large begins again at zero
(`bufferWord_eq_zero_iff`), the backoff of its limiters in words of 32 bits.  No configuration
that is accepted comes so far (`exact_of_parse`).  The size of the largest packet is below 2^63,
so there is room for the octet that tells a datagram that is too long; and a backoff of any length
passes through seconds and nanoseconds unchanged (`milliseconds_duration`) and is cut where one
millisecond more still fits.
-/
import MediaTransport.Channel.OnHost
import MediaTransport.Proofs.Config.Sizes
import MediaTransport.Proofs.Limiter.Progress

namespace MediaTransport

set_option autoImplicit false

/-! ## Limiters -/

namespace Limiter

/-- Milliseconds as the whole seconds and the nanoseconds of a duration. -/
def duration (time : Nat) : Nat × Nat :=
  (time / 1000, time % 1000 * 1000000)

theorem milliseconds_duration (time : Nat) :
    milliseconds (duration time).1 (duration time).2 = time := by
  simp only [milliseconds, duration]
  omega

/-- A limiter that keeps a backoff as far as it can, from a reading of its clock on. -/
structure Spaces (time : Nat) (now : Tick) (l : Limiter) : Prop where
  seconds : (duration time).1 < 2 ^ 64
  nanoseconds : (duration time).2 < 10 ^ 9
  made : l = start (milliseconds (duration time).1 (duration time).2) now
  backoff : l.backoff.toNat = min time (2 ^ 32 - 2)
  /-- One millisecond more than the backoff still fits, so the limiter is open. -/
  beyond : (l.backoff + 1).toNat = l.backoff.toNat + 1
  opened : (l.shouldRun now).1 = true

theorem spaces_start {time : Nat} (word : time < 2 ^ 64) (now : Tick) :
    Spaces time now (start time now) := by
  have small := spacing_lt time
  have kept := toNat_backoff_start time now
  constructor
  · show time / 1000 < 2 ^ 64
    omega
  · show time % 1000 * 1000000 < 10 ^ 9
    omega
  · rw [milliseconds_duration]
  · exact kept
  · rw [UInt32.toNat_add, kept]
    exact Nat.mod_eq_of_lt small
  · have first := first_permitted_iff (duration time).1 (duration time).2 now 0
    rw [milliseconds_duration, reading_zero] at first
    exact first.2 small

end Limiter

/-- The limiters of a connector: its own and that of its filter. -/
def Connector.limiters (c : Connector) : List Limiter :=
  c.limiter :: (c.filter.map Filter.limiter).toList

namespace Channel

/-! ## Buffers -/

/-- The size of the buffers for packets up to a size, in the words in which it is computed. -/
def bufferWord (mtu : Nat) : UInt64 :=
  UInt64.ofNat mtu + 1

theorem toNat_bufferWord {mtu : Nat} (small : mtu < 2 ^ 63) : (bufferWord mtu).toNat = mtu + 1 := by
  rw [bufferWord, UInt64.toNat_add, UInt64.toNat_ofNat']
  have one : (1 : UInt64).toNat = 1 := rfl
  omega

/-- Of all words the largest alone leaves no room. -/
theorem bufferWord_eq_zero_iff {mtu : Nat} (word : mtu < 2 ^ 64) :
    bufferWord mtu = 0 ↔ mtu = 2 ^ 64 - 1 := by
  have zero : (0 : UInt64).toNat = 0 := rfl
  have one : (1 : UInt64).toNat = 1 := rfl
  rw [← UInt64.toNat_inj, bufferWord, UInt64.toNat_add, UInt64.toNat_ofNat', zero, one]
  omega

/-! ## Channels of accepted configurations -/

/-- What is computed for a channel is what the configuration says. -/
structure Exact (config : Config) (protocol : Protocol) (now : Tick) (channel : Channel) : Prop where
  mtu_lt : (config.interface protocol).mtu < 2 ^ 63
  /-- The size in words is that of the pool. -/
  word : (bufferWord (config.interface protocol).mtu).toNat = channel.connector.pool.size
  size : channel.connector.pool.size = (config.interface protocol).mtu + 1
  positive : 1 ≤ channel.connector.pool.size
  mtu : channel.connector.mtu = (config.interface protocol).mtu
  both : channel.connector.limiters.length = 2
  spaced : ∀ l ∈ channel.connector.limiters, l.Spaces config.minBackoff now

theorem exact_of_fits {config : Config} (fits : config.Fits) {host : Net.Host}
    {protocol : Protocol} {records : Bool} {now : Tick} {channel : Channel}
    (opened : (openOn host config protocol records now).1 = .ok channel) :
    Exact config protocol now channel := by
  obtain ⟨address, rfl⟩ := exists_ofConfig_of_openOn opened
  have mtu_lt := fits.sizes protocol _ (Interface.mtu_mem_sizes _)
  refine ⟨mtu_lt, toNat_bufferWord mtu_lt, rfl, Nat.succ_pos _, rfl, rfl, fun l here => ?_⟩
  have new : l = Limiter.start config.minBackoff now := by
    simpa [Connector.limiters, ofConfig, Filter.start] using here
  exact new ▸ Limiter.spaces_start fits.minBackoff now

/-- **No accepted configuration overflows what is computed from it.**  All its numbers fit 64
bits; and whatever host opens its channels, their buffers have room for one octet more than the
largest packet, in words as in numbers, and their limiters keep the backoff, up to 2^32 - 2
milliseconds, and are open at first. -/
theorem exact_of_parse {text : String} {config : Config}
    (accepted : Config.parse text = .ok config) :
    config.Fits ∧ ∀ host protocol records now channel,
      (openOn host config protocol records now).1 = .ok channel →
        Exact config protocol now channel := by
  have fits := Config.fits_of_parse accepted
  exact ⟨fits, fun host protocol records now channel opened => exact_of_fits fits opened⟩

/-- A document of both forms with the largest numbers of every notation. -/
def largestText : String :=
  "[[\"udp\",\"0.0.0.0:5\",null,9223372036854775807],\x7btransport:\"udp\",mtu:0xFFFFFFFF," ++
    "listen:\"0.0.0.0:6\"\x7d,[1e300]]"

def largestConfig : Config where
  rtp := .udp (.v4 ⟨0, 0, 0, 0⟩ 5) none 9223372036854775807 none
  rtcp := .udp (.v4 ⟨0, 0, 0, 0⟩ 6) none 4294967295 none
  minBackoff := 18446744073709551615

theorem exact_of_largest :
    Config.parse largestText = .ok largestConfig ∧ ∃ channel,
      (openOn { routed := true } largestConfig .rtp true 7).1 = .ok channel ∧
      largestConfig.Fits ∧ Exact largestConfig .rtp 7 channel ∧
      channel.connector.pool.size = 9223372036854775808 ∧
      channel.connector.limiter.backoff = 4294967294 := by
  have accepted : Config.parse largestText = .ok largestConfig :=
    toOption_eq_some_iff.1 (by decide +kernel)
  obtain ⟨fits, exact_⟩ := exact_of_parse accepted
  exact ⟨accepted, _, rfl, fits, exact_ { routed := true } .rtp true 7 _ rfl, rfl, rfl⟩

end Channel

end MediaTransport
