import Mathlib

/-!
# The instruction pacer (`cpuspeed.c`)

The instructions a setting allows in a second, and the charge for a slice of them.  Counts of
instructions are 32 bits wide, and the `INT64` sums of a charge that is not clamped do not wrap.
-/

namespace Ntvdmex.Host.CpuSpeed

def cpuSpeedCount : Nat := 11
def cpuSpeedCpi : Nat := 3
def cpuSpeedMaxDebtUs : Int := 100000
def hertzPerMegahertz : Nat := 1000000
def microsecondsPerSecond : Int := 1000000
def microsecondsPerMillisecond : Int := 1000

/-- `g_CpuSpeedMhz`; 0 is no throttle. -/
def cpuSpeedMhz : List Nat := [0, 1000, 600, 300, 200, 133, 100, 66, 50, 33, 16]

def cpuSpeedInstructionsPerSecond (index : Nat) : Nat :=
  if index = 0 ∨ index ≥ cpuSpeedCount then 0
  else cpuSpeedMhz.getD index 0 * hertzPerMegahertz / cpuSpeedCpi

structure CpuSpeedPace where
  owedUs : Int

/-- The debt after a slice, before it is held between nothing and the ceiling. -/
def CpuSpeedPace.debt (pace : CpuSpeedPace) (ran instructionsPerSecond : Nat) (elapsedUs : Int) :
    Int :=
  let wantedUs := (ran * microsecondsPerSecond).tdiv instructionsPerSecond
  pace.owedUs + (wantedUs - elapsedUs)

/-- The whole milliseconds to sleep, and what stays owed. -/
def cpuSpeedCharge (pace : CpuSpeedPace) (ran instructionsPerSecond : Nat) (elapsedUs : Int) :
    Int × CpuSpeedPace :=
  if instructionsPerSecond = 0 ∨ ran = 0 then
    (0, ⟨if pace.owedUs < 0 then 0 else pace.owedUs⟩)
  else
    let owedUs := pace.debt ran instructionsPerSecond elapsedUs
    let owedUs := if owedUs < 0 then 0 else owedUs
    let owedUs := if owedUs > cpuSpeedMaxDebtUs then cpuSpeedMaxDebtUs else owedUs
    let milliseconds := owedUs.tdiv microsecondsPerMillisecond
    (milliseconds, ⟨owedUs - milliseconds * microsecondsPerMillisecond⟩)

end Ntvdmex.Host.CpuSpeed
