import Mathlib

/-!
# The BIOS tick count and its witness (`vdd_pit.h`)

The tick count at 0040:006C, the midnight flag at 0040:0070, and the fields of
`PIT_STATE` that tell a count the BIOS wrote from one the guest stored.
-/

namespace Ntvdmex.Vdd.BiosTick

def pitTicksPerDay : UInt32 := 0x1800B0

structure TickState where
  tickCount : UInt32
  midnightFlag : UInt8
  tickWitness : UInt32
  isTickForeign : Bool
  tickWraps : UInt32
  tickSince : UInt32
  deriving DecidableEq, Repr

/-- What `VddPitTickTake` hands back. -/
structure TakenTicks where
  ticks : UInt32
  wraps : UInt32
  since : UInt32
  deriving DecidableEq, Repr

variable (state : TickState) (count : UInt32)

/-- A count that is not the witness starts the watch. -/
def noticeStore : TickState :=
  if state.tickCount ≠ state.tickWitness ∧ state.isTickForeign = false then
    { state with isTickForeign := true, tickWraps := 0, tickSince := 0 }
  else state

def vddPitBiosTick : TickState :=
  let noticed := noticeStore state
  let count := state.tickCount + 1
  let rolled :=
    if count ≥ pitTicksPerDay then
      { noticed with
        midnightFlag := 1
        tickWraps := if noticed.isTickForeign then noticed.tickWraps + 1 else noticed.tickWraps }
    else noticed
  let next := if count ≥ pitTicksPerDay then 0 else count
  { rolled with
    tickSince := if rolled.isTickForeign then rolled.tickSince + 1 else rolled.tickSince
    tickCount := next
    tickWitness := next }

def vddPitTickOwned : TickState :=
  { state with tickWitness := count, isTickForeign := false, tickWraps := 0, tickSince := 0 }

def vddPitTickTake : Option TakenTicks × TickState :=
  if state.isTickForeign = false ∧ count = state.tickWitness then (none, state)
  else
    let fresh :=
      if state.isTickForeign then state else { state with tickWraps := 0, tickSince := 0 }
    (some { ticks := count, wraps := fresh.tickWraps, since := fresh.tickSince },
      vddPitTickOwned fresh count)

/-- What can happen to the count. -/
inductive TickEvent where
  | biosTick
  | guestStore (count : UInt32)
  /-- The BIOS stores a count (the seed, a reload) and calls `VddPitTickOwned` with it. -/
  | biosStore (count : UInt32)
  | take
  deriving DecidableEq, Repr

def TickEvent.apply (state : TickState) : TickEvent → TickState
  | .biosTick => vddPitBiosTick state
  | .guestStore count => { state with tickCount := count }
  | .biosStore count => vddPitTickOwned { state with tickCount := count } count
  | .take => (vddPitTickTake state state.tickCount).2

/-- The state in which the BIOS has just stored `count`. -/
def seeded : TickState where
  tickCount := count
  midnightFlag := 0
  tickWitness := count
  isTickForeign := false
  tickWraps := 0
  tickSince := 0

def stateAfter (start : UInt32) : List TickEvent → TickState
  | [] => seeded start
  | event :: earlier => event.apply (stateAfter start earlier)

end Ntvdmex.Vdd.BiosTick
