import Ntvdmex.Foundation.Ring

/-!
# The Win16 message queue (`wowmsg.c`)

One ring of messages for every task, with the menu-replay marker that a take consumes when
it passes it.  The globals `g_WowMsgTaker` and `g_WowMsgOwner` are arguments of a take.
-/

namespace Ntvdmex.Wow.Msg

open Foundation

def wowMsgMax : Nat := 64
def wowMsgMenuReplay : UInt16 := 0xBF7E

instance : NeZero wowMsgMax := ⟨by decide⟩

structure WowMsg where
  window : UInt16
  message : UInt16
  wParam : UInt16
  lParam : UInt32
  time : UInt32
  pointX : UInt16
  pointY : UInt16
deriving DecidableEq, Repr, Inhabited

structure WowMsgState where
  ring : Vector WowMsg wowMsgMax
  head : Nat
  tail : Nat
  count : Nat
  posted : UInt32
  taken : UInt32
  dropped : UInt32
  isReplayDue : Bool
  replay : WowMsg
deriving DecidableEq, Repr, Inhabited

/-- The globals at start: all zero. -/
def wowMsgInitial : WowMsgState where
  ring := Vector.replicate wowMsgMax ⟨0, 0, 0, 0, 0, 0, 0⟩
  head := 0
  tail := 0
  count := 0
  posted := 0
  taken := 0
  dropped := 0
  isReplayDue := false
  replay := ⟨0, 0, 0, 0, 0, 0, 0⟩

def wowMsgIsFor (owner : Option (UInt16 → UInt16)) (window task : UInt16) : Bool :=
  match owner with
  | none => true
  | some ownerOf =>
    if task = 0 ∨ window = 0 then true
    else ownerOf window = 0 ∨ ownerOf window = task

variable (state : WowMsgState)

def wowMsgPost (entry : WowMsg) : WowMsgState × Bool :=
  if wowMsgMax ≤ state.count then
    ({ state with dropped := state.dropped + 1 }, false)
  else
    ({ state with
        ring := Ring.store state.ring state.tail entry
        tail := (state.tail + 1) % wowMsgMax
        count := state.count + 1
        posted := state.posted + 1 }, true)

def wowMsgPostMove (entry : WowMsg) : WowMsgState × Bool :=
  if state.count = 0 then (state, false)
  else
    let newest := (state.tail + wowMsgMax - 1) % wowMsgMax
    let old := Ring.slot state.ring newest
    if old.window = entry.window ∧ old.message = entry.message then
      ({ state with
          ring := Ring.store state.ring newest
            { old with
              wParam := entry.wParam
              lParam := entry.lParam
              time := entry.time
              pointX := entry.pointX
              pointY := entry.pointY } }, true)
    else (state, false)

/-- What a take asks for. -/
structure WowMsgFilter where
  window : UInt16
  filterMin : UInt16
  filterMax : UInt16
  isRemove : Bool
  taker : UInt16
  owner : Option (UInt16 → UInt16)

/-- The entries ahead of `position` each move up one slot and the head follows. -/
def wowMsgRemove (position : Nat) : WowMsgState :=
  { state with
    ring := Ring.closeUp state.ring state.head position
    head := (state.head + 1) % wowMsgMax
    count := state.count - 1 }

/-- The scan of a take from `position` on; a marker is taken out and the entry that then
stands at the same position comes next. -/
def wowMsgScan (filter : WowMsgFilter) : Nat → Nat → WowMsgState → WowMsgState × Option WowMsg
  | 0, _, state => (state, none)
  | rounds + 1, position, state =>
    if position < state.count then
      let entry := Ring.slot state.ring (state.head + position)
      if entry.message = wowMsgMenuReplay then
        wowMsgScan filter rounds position
          (wowMsgRemove { state with replay := entry, isReplayDue := true } position)
      else if filter.window ≠ 0 ∧ entry.window ≠ filter.window then
        wowMsgScan filter rounds (position + 1) state
      else if (filter.filterMin ≠ 0 ∨ filter.filterMax ≠ 0) ∧
          (entry.message < filter.filterMin ∨ filter.filterMax < entry.message) then
        wowMsgScan filter rounds (position + 1) state
      else if wowMsgIsFor filter.owner entry.window filter.taker = false then
        wowMsgScan filter rounds (position + 1) state
      else if filter.isRemove then
        ({ wowMsgRemove state position with taken := state.taken + 1 }, some entry)
      else (state, some entry)
    else (state, none)

def wowMsgTake (filter : WowMsgFilter) : WowMsgState × Option WowMsg :=
  if state.count = 0 then (state, none)
  else wowMsgScan filter state.count 0 state

/-- `GetMessage` and `PeekMessage` (`wowuser.c`) pick up the replay that is due. -/
def wowMsgServeReplay : WowMsgState × Option WowMsg :=
  if state.isReplayDue then
    ({ state with isReplayDue := false }, some state.replay)
  else (state, none)

def wowMsgCountFor (owner : Option (UInt16 → UInt16)) (task : UInt16) : Nat :=
  (List.range state.count).foldl (fun count position =>
    if wowMsgIsFor owner (Ring.slot state.ring (state.head + position)).window task then
      count + 1
    else count) 0

end Ntvdmex.Wow.Msg
