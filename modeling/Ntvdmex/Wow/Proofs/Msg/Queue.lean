import Ntvdmex.Wow.Msg
import Ntvdmex.Foundation.FilteredQueue

/-!
# The message ring is a queue with filtered removal

The ring holds its messages as a list in posting order, and a take is the filtered removal
of that list.  The menu-replay markers that takes have passed wait to be served; the ring
keeps one slot for them, and the slot holds all of them as long as no take passes a marker
while another one waits.
-/

namespace Ntvdmex.Wow.Msg

open Foundation Ring List FilteredQueue Option WowMsgFilter

variable (state : WowMsgState) (filter : WowMsgFilter) (calls : List WowMsgCall) (call : WowMsgCall)

/-- Head, tail and count agree. -/
structure RingInvariant (state : WowMsgState) : Prop where
  head_lt : state.head < wowMsgMax
  count_le : state.count ≤ wowMsgMax
  tail_eq : state.tail = (state.head + state.count) % wowMsgMax

def contents (state : WowMsgState) : List WowMsg :=
  Ring.contents state.ring state.head state.count

def isMarker (entry : WowMsg) : Bool := entry.message = wowMsgMenuReplay

/-- The window, the message range and the task a take asks for. -/
def WowMsgFilter.wants (filter : WowMsgFilter) (entry : WowMsg) : Bool :=
  (filter.window = 0 ∨ entry.window = filter.window) ∧
  (filter.filterMin = 0 ∧ filter.filterMax = 0 ∨
    filter.filterMin ≤ entry.message ∧ entry.message ≤ filter.filterMax) ∧
  wowMsgIsFor filter.owner entry.window filter.taker = true

theorem wowMsgMax_eq : wowMsgMax = 64 := rfl

def replaySlot (state : WowMsgState) : List WowMsg :=
  if state.isReplayDue then [state.replay] else []

/-! ## The abstract queue -/

/-- Messages in posting order, and the markers passed and not yet served. -/
structure MessageQueue where
  entries : List WowMsg
  due : List WowMsg
deriving DecidableEq, Repr

inductive WowMsgCall
  | post (entry : WowMsg)
  | postMove (entry : WowMsg)
  | take (filter : WowMsgFilter)
  | serveReplay

inductive WowMsgReply
  | accepted (isAccepted : Bool)
  | found (entry : Option WowMsg)
deriving DecidableEq, Repr

def WowMsgCall.step (state : WowMsgState) : WowMsgCall → WowMsgState × WowMsgReply
  | .post entry => ((wowMsgPost state entry).1, .accepted (wowMsgPost state entry).2)
  | .postMove entry => ((wowMsgPostMove state entry).1, .accepted (wowMsgPostMove state entry).2)
  | .take filter => ((wowMsgTake state filter).1, .found (wowMsgTake state filter).2)
  | .serveReplay => ((wowMsgServeReplay state).1, .found (wowMsgServeReplay state).2)

/-- A move takes the place of a newest entry for the same window and message. -/
def foldsInto (entry newest : WowMsg) : Bool :=
  newest.window = entry.window ∧ newest.message = entry.message

def WowMsgCall.queueStep (queue : MessageQueue) : WowMsgCall → MessageQueue × WowMsgReply
  | .post entry =>
    if queue.entries.length < wowMsgMax then
      ({ queue with entries := queue.entries ++ [entry] }, .accepted true)
    else (queue, .accepted false)
  | .postMove entry =>
    if queue.entries.getLast?.any (foldsInto entry) then
      ({ queue with entries := queue.entries.dropLast ++ [entry] }, .accepted true)
    else (queue, .accepted false)
  | .take filter =>
    ({ entries := FilteredQueue.remaining isMarker filter.wants filter.isRemove queue.entries
       due := queue.due ++ FilteredQueue.markers isMarker filter.wants queue.entries },
      .found (FilteredQueue.answer isMarker filter.wants queue.entries))
  | .serveReplay => ({ queue with due := queue.due.tail }, .found queue.due.head?)

def wowMsgAfter (calls : List WowMsgCall) : WowMsgState :=
  calls.foldl (fun state call => (call.step state).1) wowMsgInitial

def queueAfter (calls : List WowMsgCall) : MessageQueue :=
  calls.foldl (fun queue call => (call.queueStep queue).1) ⟨[], []⟩

section

variable {filter : WowMsgFilter} {entry : WowMsg}

theorem wants_of_window (hwindow : filter.window ≠ 0 ∧ entry.window ≠ filter.window) :
    filter.wants entry = false := by
  simp [wants, hwindow]

theorem wants_of_range (hrange : (filter.filterMin ≠ 0 ∨ filter.filterMax ≠ 0) ∧
      (entry.message < filter.filterMin ∨ filter.filterMax < entry.message)) :
    filter.wants entry = false := by
  obtain ⟨hasRange, houtside⟩ := hrange
  have hout : ¬(filter.filterMin = 0 ∧ filter.filterMax = 0 ∨
      filter.filterMin ≤ entry.message ∧ entry.message ≤ filter.filterMax) := by
    rintro (⟨hmin, hmax⟩ | ⟨hmin, hmax⟩)
    · rcases hasRange with h | h
      · exact h hmin
      · exact h hmax
    · rcases houtside with h | h
      · exact absurd hmin (UInt16.not_le.mpr h)
      · exact absurd hmax (UInt16.not_le.mpr h)
  simp [wants, hout]

theorem wants_of_task (htask : wowMsgIsFor filter.owner entry.window filter.taker = false) :
    filter.wants entry = false := by
  simp [wants, htask]

theorem wants_of_passes (hwindow : ¬(filter.window ≠ 0 ∧ entry.window ≠ filter.window))
    (hrange : ¬((filter.filterMin ≠ 0 ∨ filter.filterMax ≠ 0) ∧
      (entry.message < filter.filterMin ∨ filter.filterMax < entry.message)))
    (htask : ¬wowMsgIsFor filter.owner entry.window filter.taker = false) :
    filter.wants entry = true := by
  rw [Bool.not_eq_false] at htask
  have hin : filter.window = 0 ∨ entry.window = filter.window := by tauto
  have hwithin : filter.filterMin = 0 ∧ filter.filterMax = 0 ∨
      filter.filterMin ≤ entry.message ∧ entry.message ≤ filter.filterMax := by
    by_cases hmin : entry.message < filter.filterMin
    · tauto
    by_cases hmax : filter.filterMax < entry.message
    · tauto
    exact .inr ⟨UInt16.not_lt.mp hmin, UInt16.not_lt.mp hmax⟩
  simp [wants, hin, hwithin, htask]

theorem wants_owner (hwants : filter.wants entry = true) {ownerOf : UInt16 → UInt16}
    (howner : filter.owner = some ownerOf) (htaker : filter.taker ≠ 0)
    (hwindow : entry.window ≠ 0) :
    ownerOf entry.window = 0 ∨ ownerOf entry.window = filter.taker := by
  have hfor : wowMsgIsFor filter.owner entry.window filter.taker = true := by
    simp only [wants, decide_eq_true_eq] at hwants
    exact hwants.2.2
  rw [howner] at hfor
  simpa [wowMsgIsFor, htaker, hwindow] using hfor

end

/-! ## Posting -/

section

variable {state : WowMsgState}

theorem wowMsgPost_full (entry : WowMsg)
    (hfull : wowMsgMax ≤ state.count) :
    wowMsgPost state entry = ({ state with dropped := state.dropped + 1 }, false) := by
  unfold wowMsgPost
  rw [if_pos hfull]

theorem wowMsgPost_contents (hring : RingInvariant state) (entry : WowMsg)
    (hroom : state.count < wowMsgMax) :
    contents (wowMsgPost state entry).1 = contents state ++ [entry] := by
  unfold wowMsgPost
  rw [if_neg (Nat.not_le.mpr hroom)]
  simp only [contents, hring.tail_eq, store_mod]
  exact contents_append entry hroom

theorem wowMsgPost_ring (hring : RingInvariant state) (entry : WowMsg) :
    RingInvariant (wowMsgPost state entry).1 := by
  have hhead := hring.head_lt
  have hcount := hring.count_le
  have htail := hring.tail_eq
  unfold wowMsgPost
  split
  · exact ⟨hhead, hcount, htail⟩
  · refine ⟨hhead, by simp only; omega, ?_⟩
    simp only
    rw [htail, Nat.mod_add_mod, Nat.add_assoc]

theorem newest_slot (hring : RingInvariant state)
    (hcount : 0 < state.count) :
    (state.tail + wowMsgMax - 1) % wowMsgMax =
      (state.head + (state.count - 1)) % wowMsgMax := by
  rw [hring.tail_eq, wowMsgMax_eq]
  lia

theorem contents_getLast (hcount : 0 < state.count) :
    (contents state).getLast? =
      some (slot state.ring (state.head + (state.count - 1))) := by
  obtain ⟨count, hsucc⟩ : ∃ count, state.count = count + 1 := ⟨state.count - 1, by omega⟩
  unfold contents
  rw [hsucc, contents_succ]
  simp

theorem contents_eq_nil (hcount : state.count = 0) :
    contents state = [] := by
  unfold contents
  rw [hcount, contents_zero]

theorem wowMsgPostMove_eq (hring : RingInvariant state)
    (entry : WowMsg) :
    RingInvariant (wowMsgPostMove state entry).1 ∧
      replaySlot (wowMsgPostMove state entry).1 = replaySlot state ∧
      (wowMsgPostMove state entry).2 = (contents state).getLast?.any (foldsInto entry) ∧
      contents (wowMsgPostMove state entry).1 =
        if (contents state).getLast?.any (foldsInto entry) then
          (contents state).dropLast ++ [entry]
        else contents state := by
  unfold wowMsgPostMove
  by_cases hzero : state.count = 0
  · have hnil := contents_eq_nil hzero
    rw [if_pos hzero]
    rw [hnil]
    exact ⟨hring, rfl, rfl, rfl⟩
  rw [if_neg hzero]
  dsimp only
  have hcount : 0 < state.count := Nat.pos_of_ne_zero hzero
  have hle := hring.count_le
  rw [newest_slot hring hcount, slot_mod, contents_getLast hcount, any_some]
  by_cases hfold : foldsInto entry (slot state.ring (state.head + (state.count - 1))) = true
  · have hsame := of_decide_eq_true hfold
    rw [if_pos hsame, if_pos hfold, hfold]
    refine ⟨⟨hring.head_lt, hring.count_le, hring.tail_eq⟩, rfl, rfl, ?_⟩
    obtain ⟨count, hsucc⟩ : ∃ count, state.count = count + 1 := ⟨state.count - 1, by omega⟩
    simp only [contents, hsucc, Nat.add_sub_cancel, store_mod] at hsame ⊢
    rw [contents_replace_last _ (by omega), hsame.1, hsame.2]
  · have hdiffers : ¬((slot state.ring (state.head + (state.count - 1))).window =
          entry.window ∧
        (slot state.ring (state.head + (state.count - 1))).message = entry.message) :=
      fun hsame => hfold (decide_eq_true hsame)
    rw [if_neg hdiffers, if_neg hfold]
    exact ⟨hring, rfl, (Bool.not_eq_true _ ▸ hfold).symm, rfl⟩

end

/-! ## Taking -/

section

variable {state : WowMsgState} (hring : RingInvariant state) {position : Nat}
    (hposition : position < state.count)

include hring hposition

theorem wowMsgRemove_ring : RingInvariant (wowMsgRemove state position) := by
  refine ⟨Nat.mod_lt _ (by decide), Nat.le_trans (Nat.sub_le _ _) hring.count_le, ?_⟩
  show state.tail = ((state.head + 1) % wowMsgMax + (state.count - 1)) % wowMsgMax
  rw [hring.tail_eq, wowMsgMax_eq]
  omega

theorem wowMsgRemove_contents :
    contents (wowMsgRemove state position) = (contents state).eraseIdx position := by
  obtain ⟨count, hsucc⟩ : ∃ count, state.count = count + 1 := ⟨state.count - 1, by lia⟩
  have hcount := hring.count_le
  unfold contents wowMsgRemove
  rw [hsucc, Nat.add_sub_cancel, contents_mod]
  exact contents_closeUp _ (by lia) (by lia)

end

theorem contents_split {state : WowMsgState} {position : Nat}
    (hposition : position < state.count) :
    (contents state).drop position =
      slot state.ring (state.head + position) :: (contents state).drop (position + 1) := by
  have hlength : position < (contents state).length := by
    rw [contents, contents_length]
    exact hposition
  have hentry : (contents state)[position]? =
      some (slot state.ring (state.head + position)) := by
    rw [contents, getElem?_contents, if_pos hposition]
  rw [drop_eq_getElem_cons hlength]
  rw [getElem?_eq_getElem hlength] at hentry
  rw [some.inj hentry]

/-- What a scan leaves and answers: the entries before `position` stand, the rest is read
as a queue, and of the markers passed the slot keeps the last. -/
structure Scanned (filter : WowMsgFilter) (position : Nat) (state : WowMsgState)
    (outcome : WowMsgState × Option WowMsg) : Prop where
  ring : RingInvariant outcome.1
  found : outcome.2 = FilteredQueue.answer isMarker filter.wants ((contents state).drop position)
  left : contents outcome.1 = (contents state).take position ++
    FilteredQueue.remaining isMarker filter.wants filter.isRemove
      ((contents state).drop position)
  slot : replaySlot outcome.1 = (replaySlot state ++
    FilteredQueue.markers isMarker filter.wants ((contents state).drop position)).getLast?.toList

theorem replaySlot_getLast : (replaySlot state).getLast?.toList = replaySlot state := by
  unfold replaySlot
  split <;> rfl

variable {outcome : WowMsgState × Option WowMsg}

/-- An entry that is neither wanted nor a marker joins those already passed. -/
theorem Scanned.skip {filter : WowMsgFilter} {position : Nat} {state : WowMsgState}
    (hposition : position < state.count)
    (hmarker : isMarker (Ring.slot state.ring (state.head + position)) = false)
    (hwants : filter.wants (Ring.slot state.ring (state.head + position)) = false)
    (hrest : Scanned filter (position + 1) state outcome) :
    Scanned filter position state outcome := by
  have hsplit := contents_split hposition
  have htake : (contents state).take (position + 1) = (contents state).take position ++
      [Ring.slot state.ring (state.head + position)] := by
    have hall := take_append_drop position (contents state)
    rw [hsplit] at hall
    rw [take_add_one, contents, getElem?_contents, if_pos hposition, toList_some]
  refine ⟨hrest.ring, ?_, ?_, ?_⟩
  · rw [hrest.found, hsplit, answer_skipped _ hwants]
  · rw [hrest.left, hsplit, remaining_skipped _ _ hmarker hwants, htake,
      append_assoc, singleton_append]
  · rw [hrest.slot, hsplit, markers_skipped _ hmarker hwants]

/-- The entries around a removed one. -/
theorem remove_take_drop {state : WowMsgState} (hring : RingInvariant state) {position : Nat}
    (hposition : position < state.count) :
    (contents (wowMsgRemove state position)).take position = (contents state).take position ∧
    (contents (wowMsgRemove state position)).drop position =
      (contents state).drop (position + 1) := by
  have hlength : position ≤ (contents state).length := by
    rw [contents, contents_length]
    exact hposition.le
  have hinitial : ((contents state).take position).length = position := by
    rw [length_take, Nat.min_eq_left hlength]
  rw [wowMsgRemove_contents hring hposition, eraseIdx_eq_take_drop_succ]
  constructor
  · rw [take_append_of_le_length hinitial.ge, take_take, Nat.min_self]
  · rw [drop_append_of_le_length hinitial.ge, drop_take, Nat.sub_self, take_zero,
      nil_append]

theorem Scanned.marker {filter : WowMsgFilter} {position : Nat} {state : WowMsgState}
    (hring : RingInvariant state) (hposition : position < state.count)
    (hmarker : isMarker (Ring.slot state.ring (state.head + position)) = true)
    (hrest : Scanned filter position (wowMsgRemove
      { state with
        replay := Ring.slot state.ring (state.head + position), isReplayDue := true } position)
      outcome) :
    Scanned filter position state outcome := by
  have hsplit := contents_split hposition
  obtain ⟨htake, hdrop⟩ := @remove_take_drop
    { state with
      replay := Ring.slot state.ring (state.head + position), isReplayDue := true }
    ⟨hring.head_lt, hring.count_le, hring.tail_eq⟩ position hposition
  refine ⟨hrest.ring, ?_, ?_, ?_⟩
  · rw [hrest.found, hdrop, hsplit, answer_marker _ hmarker]
    rfl
  · rw [hrest.left, hdrop, htake, hsplit, remaining_marker _ _ hmarker]
    rfl
  · rw [hrest.slot, hdrop, hsplit, markers_marker _ hmarker,
      getLast?_append_of_ne_nil _ (cons_ne_nil _ _)]
    rfl

theorem Scanned.ended {position : Nat} {state : WowMsgState} (hring : RingInvariant state)
    (hposition : state.count ≤ position) : Scanned filter position state (state, none) := by
  have hlength : (contents state).length ≤ position := by
    rw [contents, contents_length]
    exact hposition
  have hnone : (contents state).drop position = [] := drop_eq_nil_iff.mpr hlength
  have hremaining :
      remaining isMarker filter.wants filter.isRemove [] = [] := by
    cases filter.isRemove <;> rfl
  refine ⟨hring, ?_, ?_, ?_⟩
  · rw [hnone]
    rfl
  · rw [hnone, hremaining, append_nil, take_of_length_le hlength]
  · rw [hnone]
    show replaySlot state = (replaySlot state ++ []).getLast?.toList
    rw [append_nil, replaySlot_getLast]

theorem wowMsgScan_scanned (rounds : Nat) :
    ∀ position state, RingInvariant state → position ≤ state.count →
      state.count ≤ position + rounds →
      Scanned filter position state (wowMsgScan filter rounds position state) := by
  induction rounds with
  | zero =>
    intro position state hring hposition hrounds
    exact Scanned.ended filter hring (by omega)
  | succ rounds ih =>
    intro position state hring hposition hrounds
    unfold wowMsgScan
    by_cases hlt : position < state.count
    · rw [if_pos hlt]
      by_cases hmessage :
          (Ring.slot state.ring (state.head + position)).message = wowMsgMenuReplay
      · rw [if_pos hmessage]
        apply Scanned.marker hring hlt (decide_eq_true hmessage)
        apply ih
        · have hremoved := wowMsgRemove_ring hring hlt
          exact ⟨hremoved.head_lt, hremoved.count_le, hremoved.tail_eq⟩
        · show position ≤ state.count - 1
          omega
        · show state.count - 1 ≤ position + rounds
          omega
      rw [if_neg hmessage]
      have hmarker : isMarker (Ring.slot state.ring (state.head + position)) = false :=
        decide_eq_false hmessage
      have hnext := ih (position + 1) state hring hlt (by omega)
      by_cases hwindow : filter.window ≠ 0 ∧
          (Ring.slot state.ring (state.head + position)).window ≠ filter.window
      · rw [if_pos hwindow]
        exact hnext.skip hlt hmarker (wants_of_window hwindow)
      rw [if_neg hwindow]
      by_cases hrange : (filter.filterMin ≠ 0 ∨ filter.filterMax ≠ 0) ∧
          ((Ring.slot state.ring (state.head + position)).message < filter.filterMin ∨
            filter.filterMax < (Ring.slot state.ring (state.head + position)).message)
      · rw [if_pos hrange]
        exact hnext.skip hlt hmarker (wants_of_range hrange)
      rw [if_neg hrange]
      by_cases htask : wowMsgIsFor filter.owner
          (Ring.slot state.ring (state.head + position)).window filter.taker = false
      · rw [if_pos htask]
        exact hnext.skip hlt hmarker (wants_of_task htask)
      rw [if_neg htask]
      have hwants := wants_of_passes hwindow hrange htask
      have hsplit := contents_split hlt
      have hanswer := answer_wanted
        ((contents state).drop (position + 1)) hmarker hwants
      have hmarkers := markers_wanted
        ((contents state).drop (position + 1)) hmarker hwants
      have hremaining := remaining_wanted filter.isRemove
        ((contents state).drop (position + 1)) hmarker hwants
      by_cases hremove : filter.isRemove = true
      · rw [if_pos hremove]
        have hremoved := wowMsgRemove_ring hring hlt
        refine ⟨⟨hremoved.head_lt, hremoved.count_le, hremoved.tail_eq⟩, ?_, ?_, ?_⟩
        · rw [hsplit, hanswer]
        · rw [hsplit, hremaining, if_pos hremove]
          have hremovedContents := wowMsgRemove_contents hring hlt
          rw [eraseIdx_eq_take_drop_succ] at hremovedContents
          exact hremovedContents
        · rw [hsplit, hmarkers, append_nil]
          exact (replaySlot_getLast state).symm
      · rw [if_neg hremove]
        refine ⟨hring, ?_, ?_, ?_⟩
        · rw [hsplit, hanswer]
        · rw [hsplit, hremaining, if_neg hremove, ← hsplit, take_append_drop]
        · rw [hsplit, hmarkers, append_nil]
          exact (replaySlot_getLast state).symm
    · rw [if_neg hlt]
      exact Scanned.ended filter hring (Nat.not_lt.mp hlt)

theorem wowMsgTake_scanned {state : WowMsgState} (hring : RingInvariant state)
    : Scanned filter 0 state (wowMsgTake state filter) := by
  unfold wowMsgTake
  by_cases hzero : state.count = 0
  · rw [if_pos hzero]
    exact Scanned.ended filter hring hzero.le
  · rw [if_neg hzero]
    exact wowMsgScan_scanned filter _ 0 state hring (Nat.zero_le _) (by omega)

/-! ## One call -/

/-- The ring stands for the queue's entries. -/
structure Refines (state : WowMsgState) (queue : MessageQueue) : Prop where
  ring : RingInvariant state
  entries : contents state = queue.entries

theorem contents_length : (contents state).length = state.count :=
  Ring.contents_length _ _ _

/-- The call picks up the replay that is due. -/
def WowMsgCall.isServe : WowMsgCall → Bool
  | .serveReplay => true
  | _ => false

theorem WowMsgCall.step_refines {state : WowMsgState} {queue : MessageQueue}
    (hrefines : Refines state queue) (call : WowMsgCall) :
    Refines (call.step state).1 (call.queueStep queue).1 ∧
      (call.isServe = false → (call.step state).2 = (call.queueStep queue).2) := by
  obtain ⟨hring, hentries⟩ := hrefines
  have hlength := contents_length state
  rw [hentries] at hlength
  cases call with
  | post entry =>
    by_cases hroom : state.count < wowMsgMax
    · simp only [step, queueStep, hlength, if_pos hroom]
      refine ⟨⟨wowMsgPost_ring hring entry, ?_⟩, fun _ => ?_⟩
      · rw [wowMsgPost_contents hring entry hroom, hentries]
      · unfold wowMsgPost
        rw [if_neg (Nat.not_le.mpr hroom)]
    · simp only [step, queueStep, hlength, if_neg hroom,
        wowMsgPost_full entry (Nat.not_lt.mp hroom)]
      exact ⟨⟨⟨hring.head_lt, hring.count_le, hring.tail_eq⟩, hentries⟩, fun _ => trivial⟩
  | postMove entry =>
    obtain ⟨hmoved, -, hreply, hcontents⟩ := wowMsgPostMove_eq hring entry
    rw [hentries] at hreply hcontents
    simp only [step, queueStep]
    by_cases hfold : queue.entries.getLast?.any (foldsInto entry) = true
    · rw [if_pos hfold] at hcontents ⊢
      exact ⟨⟨hmoved, hcontents⟩, fun _ => by rw [hreply, hfold]⟩
    · rw [if_neg hfold] at hcontents ⊢
      rw [Bool.not_eq_true] at hfold
      exact ⟨⟨hmoved, hcontents⟩, fun _ => by rw [hreply, hfold]⟩
  | take filter =>
    have hscanned := wowMsgTake_scanned filter hring
    simp only [step, queueStep]
    rw [← hentries]
    refine ⟨⟨hscanned.ring, hscanned.left⟩, fun _ => ?_⟩
    exact congrArg WowMsgReply.found hscanned.found
  | serveReplay =>
    refine ⟨?_, fun hserve => absurd hserve (by decide)⟩
    simp only [step, queueStep, wowMsgServeReplay]
    split
    · exact ⟨⟨hring.head_lt, hring.count_le, hring.tail_eq⟩, hentries⟩
    · exact ⟨hring, hentries⟩

/-- A take passes no marker while another one waits, and no two. -/
def WowMsgCall.MarkersFit (state : WowMsgState) : WowMsgCall → Prop
  | .take filter =>
    (replaySlot state ++
      FilteredQueue.markers isMarker filter.wants (contents state)).length ≤ 1
  | _ => True

theorem getLast_toList_eq_iff {α : Type*} (entries : List α) :
    entries.getLast?.toList = entries ↔ entries.length ≤ 1 := by
  cases entries with
  | nil => simp
  | cons entry entries =>
    rw [getLast?_eq_some_getLast (cons_ne_nil _ _), toList_some]
    constructor
    · intro heq
      rw [← heq]
      exact Nat.le_refl 1
    · intro hlength
      have hnil : entries = [] := eq_nil_of_length_eq_zero (by simpa using hlength)
      subst hnil
      rfl

theorem WowMsgCall.step_slot {state : WowMsgState} {queue : MessageQueue}
    (hrefines : Refines state queue) (hslot : replaySlot state = queue.due)
    (call : WowMsgCall) :
    replaySlot (call.step state).1 = (call.queueStep queue).1.due ↔ call.MarkersFit state := by
  obtain ⟨hring, hentries⟩ := hrefines
  cases call with
  | post entry =>
    refine iff_of_true ?_ trivial
    simp only [step, queueStep, wowMsgPost]
    split <;> split <;> exact hslot
  | postMove entry =>
    refine iff_of_true ?_ trivial
    have hmoved := (wowMsgPostMove_eq hring entry).2.1
    simp only [step, queueStep]
    split <;> exact hmoved.trans hslot
  | take filter =>
    have hscanned := wowMsgTake_scanned filter hring
    simp only [step, queueStep, MarkersFit]
    rw [hscanned.slot, drop_zero, ← hslot, ← hentries, getLast_toList_eq_iff]
  | serveReplay =>
    refine iff_of_true ?_ trivial
    simp only [step, queueStep, wowMsgServeReplay]
    rw [← hslot]
    unfold replaySlot
    by_cases hdue : state.isReplayDue = true
    · rw [if_pos hdue, if_pos hdue]
      rfl
    · rw [if_neg hdue, if_neg hdue, tail_nil]

/-! ## Every run -/

theorem wowMsgInitial_refines : Refines wowMsgInitial ⟨[], []⟩ :=
  ⟨⟨by decide, by decide, by decide⟩, rfl⟩

theorem wowMsgAfter_concat : wowMsgAfter (calls ++ [call]) = (call.step (wowMsgAfter calls)).1 := by
  simp [wowMsgAfter]

theorem queueAfter_concat :
    queueAfter (calls ++ [call]) = (call.queueStep (queueAfter calls)).1 := by
  simp [queueAfter]

theorem wowMsgAfter_refines : Refines (wowMsgAfter calls) (queueAfter calls) := by
  induction calls using reverseRecOn with
  | nil => exact wowMsgInitial_refines
  | append_singleton calls call ih =>
    rw [wowMsgAfter_concat, queueAfter_concat]
    exact (call.step_refines ih).1

theorem slot_holds_iff :
    (∀ done, done <+: calls → replaySlot (wowMsgAfter done) = (queueAfter done).due) ↔
      ∀ done call, done ++ [call] <+: calls → call.MarkersFit (wowMsgAfter done) := by
  constructor
  · intro hholds done call hinitial
    have hbefore := hholds done ((prefix_append done [call]).trans hinitial)
    have hafter := hholds _ hinitial
    rw [wowMsgAfter_concat, queueAfter_concat] at hafter
    exact (call.step_slot (wowMsgAfter_refines done) hbefore).mp hafter
  · intro hfits done hinitial
    induction done using reverseRecOn with
    | nil => rfl
    | append_singleton done call ih =>
      have hbefore := ih ((prefix_append done [call]).trans hinitial)
      rw [wowMsgAfter_concat, queueAfter_concat]
      exact (call.step_slot (wowMsgAfter_refines done) hbefore).mpr (hfits done call hinitial)

/-- After every run the ring is the queue of the same calls, and the next call answers as
the queue does: a take hands out the first wanted message, leaves the others in posting
order without loss or double, and hands no task a message for the window of another.  All
the markers passed stay due exactly when no take passes one while another waits, or two. -/
theorem wowMsg_is_filtered_queue (calls : List WowMsgCall) :
    contents (wowMsgAfter calls) = (queueAfter calls).entries ∧
    (contents (wowMsgAfter calls)).length ≤ wowMsgMax ∧
    (∀ call : WowMsgCall, call.isServe = false →
      (call.step (wowMsgAfter calls)).2 = (call.queueStep (queueAfter calls)).2) ∧
    (∀ filter : WowMsgFilter,
      (contents (wowMsgTake (wowMsgAfter calls) filter).1).Sublist
        (contents (wowMsgAfter calls)) ∧
      (contents (wowMsgTake (wowMsgAfter calls) filter).1 ++
        FilteredQueue.markers isMarker filter.wants (contents (wowMsgAfter calls)) ++
        (if filter.isRemove then (wowMsgTake (wowMsgAfter calls) filter).2.toList
          else [])).Perm (contents (wowMsgAfter calls)) ∧
      ∀ entry, (wowMsgTake (wowMsgAfter calls) filter).2 = some entry →
        ∀ ownerOf, filter.owner = some ownerOf → filter.taker ≠ 0 → entry.window ≠ 0 →
          ownerOf entry.window = 0 ∨ ownerOf entry.window = filter.taker) ∧
    ((∀ done, done <+: calls → replaySlot (wowMsgAfter done) = (queueAfter done).due) ↔
      ∀ done call, done ++ [call] <+: calls → call.MarkersFit (wowMsgAfter done)) := by
  have hrefines := wowMsgAfter_refines calls
  refine ⟨hrefines.entries, ?_, ?_, ?_, slot_holds_iff calls⟩
  · rw [contents_length]
    exact hrefines.ring.count_le
  · intro call
    exact (call.step_refines hrefines).2
  · intro filter
    have hscanned := wowMsgTake_scanned filter hrefines.ring
    have hleft := hscanned.left
    have hfound := hscanned.found
    rw [take_zero, drop_zero, nil_append] at hleft
    rw [drop_zero] at hfound
    rw [hleft, hfound]
    refine ⟨remaining_sublist _ _, remaining_perm _ _, ?_⟩
    intro entry hentry ownerOf howner htaker hwindow
    exact wants_owner (answer_wants hentry) howner htaker hwindow

def menuReplay (window : UInt16) : WowMsg := ⟨window, wowMsgMenuReplay, 0xF100, 0, 0, 0, 0⟩

theorem replay_lost :
    ¬∀ calls, replaySlot (wowMsgAfter calls) = (queueAfter calls).due := by
  intro hholds
  have hlost := hholds [.post (menuReplay 1), .post (menuReplay 2),
    .take ⟨0, 0, 0, true, 0, none⟩]
  revert hlost
  decide

end Ntvdmex.Wow.Msg
