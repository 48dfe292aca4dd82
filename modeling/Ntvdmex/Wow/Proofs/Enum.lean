import Ntvdmex.Foundation.Runs
import Ntvdmex.Wow.Enum

/-!
# Running enumerations and their callbacks

Beside the state stand what the running enumeration owes, one call for every item collected when
it began, the calls it has made, and a report of every enumeration that is over.  A call made by
the callback never starts a second enumeration and leaves the cursor alone; the running one goes
on undisturbed exactly if no such call changes the count of the list or an entry the cursor has
not reached.
-/

namespace Ntvdmex.Wow.Enum

open Foundation List Function

variable {enum : WowEnum} {state : EnumState} {frame : EnumFrame} {world : EnumWorld}
    {event : EnumEvent}

structure Running where
  enum : WowEnum
  snapshot : List EnumCall
  made : List EnumCall

/-- An enumeration that is over: how it ended, with what the last callback answered, what the host
brought to the last step, and what the caller's return hole held then. -/
structure Report where
  snapshot : List EnumCall
  made : List EnumCall
  ending : StepOutcome
  result : BitVec 32
  host : EnumHost
  hole : BitVec 32
  answer : BitVec 32

structure EnumWorld where
  state : EnumState
  running : Option Running
  reports : List Report

/-- A call of the guest, or the return of the callback in flight. -/
inductive EnumAction where
  | call (frame : EnumFrame) (call : GdiEnumCall)
  | returned (result : BitVec 32)

structure EnumEvent where
  host : EnumHost
  action : EnumAction

def enumStart : EnumWorld where
  state :=
    { enum := ⟨.none, 0, 0, 0, 0, 0, 0, 0, 0, 0, 0⟩
      fonts := ⟨fun _ => ⟨List.replicate 187 0, 0⟩, 0⟩
      blob2Argument := -1
      blob2Offset := 0
      holes := fun _ => 0 }
  running := none
  reports := []

/-- The calls for the entries from the cursor on. -/
def owed (state : EnumState) : List EnumCall :=
  (List.range' state.enum.index (state.fonts.count - state.enum.index)).map fun index =>
    wowEnumEntryCall state.enum (state.fonts.entries index)

def begun (state : EnumState) : Option Running :=
  if state.enum.kind = .fonts ∨ state.enum.kind = .objects then
    some ⟨state.enum, owed state, []⟩
  else none

def EnumWorld.step (world : EnumWorld) (host : EnumHost) (isFirst : Bool) (result : BitVec 32) :
    EnumWorld :=
  let taken := wowEnumStep world.state host isFirst result
  match world.running with
  | none => ⟨taken.1, none, world.reports⟩
  | some running =>
    match taken.2 with
    | .called call => ⟨taken.1, some { running with made := running.made ++ [call] }, world.reports⟩
    | ending =>
      ⟨taken.1, none, world.reports ++
        [⟨running.snapshot, running.made, ending, result, host, world.state.enum.returnLinear,
          taken.1.holes world.state.enum.returnLinear⟩]⟩

def EnumWorld.next (world : EnumWorld) (event : EnumEvent) : EnumWorld :=
  match event.action with
  | .call frame call =>
    let asked := wowGdiEnumCall world.state frame call
    if asked.2 then
      EnumWorld.step ⟨asked.1, begun asked.1, world.reports⟩ event.host true 0
    else ⟨asked.1, world.running, world.reports⟩
  | .returned result => world.step event.host false result

def enumAfter (events : List EnumEvent) : EnumWorld := events.foldl EnumWorld.next enumStart

/-- A frame made while the caller of a running enumeration waits has a return hole of its own. -/
def Apart (world : EnumWorld) (event : EnumEvent) : Prop :=
  match event.action with
  | .call frame _ => world.running.isSome → frame.hole ≠ world.state.enum.returnLinear
  | .returned _ => True

instance (world : EnumWorld) (event : EnumEvent) : Decidable (Apart world event) :=
  match event with
  | ⟨_, .call frame _⟩ =>
    inferInstanceAs
      (Decidable (world.running.isSome → frame.hole ≠ world.state.enum.returnLinear))
  | ⟨_, .returned _⟩ => inferInstanceAs (Decidable True)

/-- Every item once, in order, until the list ended, the callback answered 0 or the call was
refused; and only the callback's 0 made the answer FALSE. -/
def Report.Fair (report : Report) : Prop :=
  match report.ending with
  | .complete => report.made = report.snapshot ∧ report.answer = 1
  | .refused =>
    report.made <+: report.snapshot ∧ report.answer = 1 ∧
      (report.host.returnSelector = 0 ∨ report.host.stackBase = 0 ∨ report.host.enters = false)
  | .stopped =>
    report.made <+: report.snapshot ∧ report.result.setWidth 16 = (0 : BitVec 16) ∧
      (report.hole ≠ 0 → report.answer = 0)
  | _ => False

/-- What a running enumeration has left to do is what it owed without what it has done; all it
reads is as it was. -/
structure Running.Undisturbed (running : Running) (state : EnumState) : Prop where
  enum : state.enum = { running.enum with index := running.made.length }
  count : state.fonts.count = running.snapshot.length
  calls : running.snapshot = running.made ++ owed state
  answer : state.holes state.enum.returnLinear = 1

structure Undisturbed (world : EnumWorld) : Prop where
  running : ∀ running, world.running = some running → running.Undisturbed world.state
  reports : ∀ report ∈ world.reports, report.Fair

/-- The list after a call, whatever else the call does. -/
def collectedBy (call : GdiEnumCall) (fonts : WowEnumFonts) : WowEnumFonts :=
  match call with
  | .enumFonts isPlain items => recollect (wowGdiFontCollect isPlain) fonts items
  | .enumObjects objectType items =>
    if objectType ≠ objPen ∧ objectType ≠ objBrush then fonts
    else recollect (wowGdiObjectCollect objectType) fonts items
  | .lineDda _ _ _ _ => fonts

/-- A call made while an enumeration of fonts or objects runs leaves the count and every entry
from the cursor on. -/
def Harmless (world : EnumWorld) (event : EnumEvent) : Prop :=
  ∀ frame call, event.action = .call frame call → world.running.isSome →
    (collectedBy call world.state.fonts).count = world.state.fonts.count ∧
      ∀ index, world.state.enum.index ≤ index → index < world.state.fonts.count →
        wowEnumEntryCall world.state.enum ((collectedBy call world.state.fonts).entries index) =
          wowEnumEntryCall world.state.enum (world.state.fonts.entries index)

/-- What holds beside `Undisturbed` in every run. -/
structure EnumKept (world : EnumWorld) : Prop where
  kind : world.running.isSome ↔ world.state.enum.kind = .fonts ∨ world.state.enum.kind = .objects
  blob2 : world.state.blob2Argument = -1

/-! ## One call -/

theorem wowGdiEnumCall_fonts (state : EnumState) (frame : EnumFrame) (call : GdiEnumCall) :
    (wowGdiEnumCall state frame call).1.fonts = collectedBy call state.fonts := by
  cases call with
  | enumFonts isPlain items =>
    simp only [wowGdiEnumCall, wowGdiEnumFonts, collectedBy]
    split
    · rfl
    · split
      · rfl
      · split <;> rfl
  | enumObjects objectType items =>
    simp only [wowGdiEnumCall, wowGdiEnumObjects, collectedBy]
    split
    · rfl
    · split
      · split <;> rfl
      · split
        · rfl
        · split <;> rfl
  | lineDda startX startY endX endY =>
    simp only [wowGdiEnumCall, wowGdiLineDda, collectedBy]
    split
    · rfl
    · split
      · rfl
      · split <;> rfl

/-- A call writes its own return hole, and begins an enumeration only if none runs. -/
structure Asked (state : EnumState) (frame : EnumFrame) (result : EnumState × Bool) : Prop where
  blob2 : result.1.blob2Argument = state.blob2Argument
  holes : ∀ address, address ≠ frame.hole → result.1.holes address = state.holes address
  refused : result.2 = false → result.1.enum = state.enum
  begun : result.2 = true → state.enum.kind = .none ∧ result.1.enum.index = 0 ∧
    (result.1.enum.kind = .line ∨
      (result.1.enum.kind = .fonts ∨ result.1.enum.kind = .objects) ∧
        result.1.enum.returnLinear = frame.hole ∧ result.1.holes frame.hole = 1)

theorem wow32SetReturn_holes (state : EnumState) (frame : EnumFrame) (value : BitVec 32)
    {address : BitVec 32} (h : address ≠ frame.hole) :
    (wow32SetReturn state frame value).holes address = state.holes address :=
  update_of_ne h _ _

theorem wowEnumBegin_some {after : WowEnum} {kind : WowEnumKind} {procedure : BitVec 32}
    {dataSelector : BitVec 16} {lParam returnLinear : BitVec 32}
    (h : wowEnumBegin enum kind procedure dataSelector lParam returnLinear = some after) :
    enum.kind = .none ∧ after.kind = kind ∧ after.index = 0 ∧
      after.returnLinear = returnLinear := by
  unfold wowEnumBegin at h
  split at h
  · cases h
  · rename_i hkind
    split at h
    · cases h
    · cases h
      exact ⟨not_not.mp hkind, rfl, rfl, rfl⟩

variable {after : EnumState}

/-- A call that does not begin an enumeration. -/
theorem Asked.none (hblob2 : after.blob2Argument = state.blob2Argument)
    (henum : after.enum = state.enum)
    (hholes : ∀ address, address ≠ frame.hole → after.holes address = state.holes address) :
    Asked state frame (after, false) :=
  ⟨hblob2, hholes, fun _ => henum, fun h => nomatch h⟩

theorem wowGdiEnumFonts_asked (isPlain : Bool) (state : EnumState) (frame : EnumFrame)
    (items : Option (List Win32Font)) :
    Asked state frame (wowGdiEnumFonts isPlain state frame items) := by
  have hholes : ∀ address, address ≠ frame.hole →
      (wow32SetReturn state frame 1).holes address = state.holes address :=
    fun _ => wow32SetReturn_holes state frame 1
  unfold wowGdiEnumFonts
  refine iteInduction (fun _ => .none rfl rfl hholes) fun _ => ?_
  refine iteInduction (fun _ => .none rfl rfl hholes) fun _ => ?_
  split
  · exact .none rfl rfl hholes
  · rename_i enum hbegin
    obtain ⟨hidle, hkind, hindex, hreturn⟩ := wowEnumBegin_some hbegin
    refine ⟨rfl, hholes, (fun h => nomatch h), fun _ => ⟨hidle, hindex, .inr ?_⟩⟩
    refine ⟨.inl hkind, hreturn, ?_⟩
    exact update_self _ _ _

theorem wowGdiEnumObjects_asked (objectType : BitVec 16) (state : EnumState) (frame : EnumFrame)
    (items : Option (List LogObject)) :
    Asked state frame (wowGdiEnumObjects objectType state frame items) := by
  have hholes : ∀ (middle : EnumState) (value : BitVec 32),
      (∀ address, address ≠ frame.hole → middle.holes address = state.holes address) →
        ∀ address, address ≠ frame.hole →
          (wow32SetReturn middle frame value).holes address = state.holes address := by
    intro middle value hmiddle address hne
    exact (wow32SetReturn_holes middle frame value hne).trans (hmiddle address hne)
  have hfirst := hholes state 1 fun _ _ => rfl
  unfold wowGdiEnumObjects
  refine iteInduction (fun _ => .none rfl rfl (hholes state 0 fun _ _ => rfl)) fun _ => ?_
  refine iteInduction (fun _ => ?_) fun _ => ?_
  · refine iteInduction (motive := fun after => Asked state frame (after, false)) (fun _ => ?_)
      fun _ => .none rfl rfl hfirst
    exact .none rfl rfl (hholes _ 0 hfirst)
  refine iteInduction (fun _ => .none rfl rfl (hholes _ 0 hfirst)) fun _ => ?_
  split
  · exact .none rfl rfl (hholes _ 0 hfirst)
  · rename_i enum hbegin
    obtain ⟨hidle, hkind, hindex, hreturn⟩ := wowEnumBegin_some hbegin
    refine ⟨rfl, hfirst, (fun h => nomatch h), fun _ => ⟨hidle, hindex, .inr ?_⟩⟩
    refine ⟨.inr hkind, hreturn, ?_⟩
    exact update_self _ _ _

theorem wowGdiLineDda_asked (state : EnumState) (frame : EnumFrame)
    (startX startY endX endY : Int) :
    Asked state frame (wowGdiLineDda state frame startX startY endX endY) := by
  have hholes : ∀ address, address ≠ frame.hole →
      (wow32SetReturn state frame 0).holes address = state.holes address :=
    fun _ => wow32SetReturn_holes state frame 0
  unfold wowGdiLineDda
  refine iteInduction (fun _ => .none rfl rfl hholes) fun _ => ?_
  refine iteInduction (fun _ => .none rfl rfl hholes) fun _ => ?_
  split
  · exact .none rfl rfl hholes
  · rename_i enum hbegin
    obtain ⟨hidle, hkind, hindex, -⟩ := wowEnumBegin_some hbegin
    exact ⟨rfl, hholes, (fun h => nomatch h), fun _ => ⟨hidle, hindex, .inl hkind⟩⟩

theorem wowGdiEnumCall_asked (state : EnumState) (frame : EnumFrame) (call : GdiEnumCall) :
    Asked state frame (wowGdiEnumCall state frame call) := by
  cases call with
  | enumFonts isPlain items => exact wowGdiEnumFonts_asked isPlain state frame items
  | enumObjects objectType items => exact wowGdiEnumObjects_asked objectType state frame items
  | lineDda startX startY endX endY => exact wowGdiLineDda_asked state frame startX startY endX endY

/-! ## One step -/

theorem owed_of_le (h : state.fonts.count ≤ state.enum.index) : owed state = [] := by
  rw [owed, Nat.sub_eq_zero_of_le h]
  rfl

theorem owed_of_lt (h : state.enum.index < state.fonts.count)
    (hfonts : after.fonts = state.fonts)
    (henum : after.enum = { state.enum with index := state.enum.index + 1 }) : owed state =
      wowEnumEntryCall state.enum (state.fonts.entries state.enum.index) :: owed after := by
  have hcount : state.fonts.count - state.enum.index =
      (state.fonts.count - (state.enum.index + 1)) + 1 := by lia
  rw [owed, hcount, range'_succ, map_cons, owed, hfonts, henum]
  rfl

/-- What a step of an enumeration of fonts or objects does. -/
inductive Stepped (state : EnumState) (host : EnumHost) (isFirst : Bool) (result : BitVec 32) :
    EnumState × StepOutcome → Prop
  | called (after : EnumState)
      (hmore : state.enum.index < state.fonts.count)
      (hfonts : after.fonts = state.fonts) (hholes : after.holes = state.holes)
      (henum : after.enum = { state.enum with index := state.enum.index + 1 }) :
      Stepped state host isFirst result
        (after, .called (wowEnumEntryCall state.enum (state.fonts.entries state.enum.index)))
  | complete (after : EnumState) (hdone : state.fonts.count ≤ state.enum.index)
      (hholes : after.holes = state.holes) (hkind : after.enum.kind = .none) :
      Stepped state host isFirst result (after, .complete)
  | refused (after : EnumState)
      (hhost : host.returnSelector = 0 ∨ host.stackBase = 0 ∨ host.enters = false)
      (hholes : after.holes = state.holes) (hkind : after.enum.kind = .none) :
      Stepped state host isFirst result (after, .refused)
  | stopped (after : EnumState) (hfirst : isFirst = false)
      (hresult : result.setWidth 16 = (0 : BitVec 16))
      (hholes : state.enum.returnLinear ≠ 0 → after.holes state.enum.returnLinear = 0)
      (hkind : after.enum.kind = .none) :
      Stepped state host isFirst result (after, .stopped)

theorem wowEnumEntryCall_fonts (h : enum.kind = .fonts) (entry : WowEnumFont) :
    { wowEnumEntryCall enum entry with
      blob2 := some (wowEnumFontArgMetrics, (wowEnumElf16 : Int)) } =
        wowEnumEntryCall enum entry := by
  unfold wowEnumEntryCall
  rw [h]

theorem wowEnumEntryCall_objects (h : enum.kind = .objects) (entry : WowEnumFont) :
    { wowEnumEntryCall enum entry with blob2 := none } = wowEnumEntryCall enum entry := by
  unfold wowEnumEntryCall
  rw [h]

theorem wowEnumFontsStep_stepped (hkind : state.enum.kind = .fonts) (host : EnumHost)
    (isFirst : Bool) (result : BitVec 32) :
    Stepped state host isFirst result (wowEnumFontsStep state host) ∧
      (wowEnumFontsStep state host).1.blob2Argument =
        if state.fonts.count ≤ state.enum.index then state.blob2Argument else -1 := by
  unfold wowEnumFontsStep
  by_cases hdone : state.fonts.count ≤ state.enum.index
  · rw [if_pos hdone, if_pos hdone]
    exact ⟨.complete _ hdone rfl rfl, rfl⟩
  · rw [if_neg hdone, if_neg hdone]
    dsimp only
    unfold wowEnumEnter
    by_cases hhost : host.returnSelector = 0 ∨ host.stackBase = 0 ∨ host.enters = false
    · rw [if_pos hhost]
      exact ⟨.refused _ hhost rfl rfl, rfl⟩
    · rw [if_neg hhost]
      have hblob2 : ({ state with
          blob2Argument := wowEnumFontArgMetrics
          blob2Offset := (wowEnumElf16 : Int) } : EnumState).blob2 =
            some (wowEnumFontArgMetrics, (wowEnumElf16 : Int)) := rfl
      rw [hblob2, wowEnumEntryCall_fonts hkind]
      exact ⟨.called _ (Nat.lt_of_not_le hdone) rfl rfl rfl, rfl⟩

theorem wowEnumObjectsStep_stepped (hkind : state.enum.kind = .objects)
    (hblob2 : state.blob2Argument = -1) (host : EnumHost) (isFirst : Bool) (result : BitVec 32) :
    Stepped state host isFirst result (wowEnumObjectsStep state host) ∧
      (wowEnumObjectsStep state host).1.blob2Argument = -1 := by
  unfold wowEnumObjectsStep
  by_cases hdone : state.fonts.count ≤ state.enum.index
  · rw [if_pos hdone]
    exact ⟨.complete _ hdone rfl rfl, hblob2⟩
  · rw [if_neg hdone]
    unfold wowEnumEnter
    by_cases hhost : host.returnSelector = 0 ∨ host.stackBase = 0 ∨ host.enters = false
    · rw [if_pos hhost]
      exact ⟨.refused _ hhost rfl rfl, hblob2⟩
    · rw [if_neg hhost]
      have hnone : state.blob2 = none := by
        rw [EnumState.blob2, hblob2]
        rfl
      rw [hnone, wowEnumEntryCall_objects hkind]
      exact ⟨.called _ (Nat.lt_of_not_le hdone) rfl rfl rfl, rfl⟩

theorem wowEnumStep_stepped (hkind : state.enum.kind = .fonts ∨ state.enum.kind = .objects)
    (hblob2 : state.blob2Argument = -1) (host : EnumHost) (isFirst : Bool) (result : BitVec 32) :
    Stepped state host isFirst result (wowEnumStep state host isFirst result) ∧
      (wowEnumStep state host isFirst result).1.blob2Argument = -1 := by
  have hrunning : state.enum.kind ≠ .none := by
    rcases hkind with h | h <;> rw [h] <;> exact fun heq => nomatch heq
  unfold wowEnumStep
  rw [if_neg hrunning]
  by_cases hstop : isFirst = false ∧ state.enum.kind ≠ .line ∧
      result.setWidth 16 = (0 : BitVec 16)
  · rw [if_pos hstop]
    refine ⟨.stopped _ hstop.1 hstop.2.2 ?_ rfl, ?_⟩
    · intro hhole
      unfold wowEnumEnd wowEnumStopped
      rw [if_neg hhole]
      exact update_self _ _ _
    · unfold wowEnumEnd wowEnumStopped
      split <;> exact hblob2
  · rw [if_neg hstop]
    rcases hkind with h | h
    · obtain ⟨hstepped, hafter⟩ := wowEnumFontsStep_stepped h host isFirst result
      rw [h]
      refine ⟨hstepped, hafter.trans ?_⟩
      split
      · exact hblob2
      · rfl
    · rw [h]
      exact wowEnumObjectsStep_stepped h hblob2 host isFirst result

/-- A line, or nothing, runs on without touching what an enumeration of fonts or objects reads. -/
theorem wowEnumStep_other (hkind : state.enum.kind = .none ∨ state.enum.kind = .line)
    (hblob2 : state.blob2Argument = -1) (host : EnumHost) (isFirst : Bool) (result : BitVec 32) :
    ((wowEnumStep state host isFirst result).1.enum.kind = .none ∨
      (wowEnumStep state host isFirst result).1.enum.kind = .line) ∧
        (wowEnumStep state host isFirst result).1.blob2Argument = -1 := by
  unfold wowEnumStep
  rcases hkind with h | h
  · rw [if_pos h]
    exact ⟨.inl h, hblob2⟩
  · have hstop : ¬(isFirst = false ∧ state.enum.kind ≠ .line ∧
        result.setWidth 16 = (0 : BitVec 16)) := fun hand => hand.2.1 h
    rw [if_neg (by rw [h]; exact fun heq => nomatch heq), if_neg hstop, h]
    dsimp only
    unfold wowEnumLineStep
    split
    · exact ⟨.inl rfl, hblob2⟩
    · unfold wowEnumEnter
      split
      · exact ⟨.inl rfl, hblob2⟩
      · exact ⟨.inr h, rfl⟩

theorem kind_other (h : ¬(enum.kind = .fonts ∨ enum.kind = .objects)) :
    enum.kind = .none ∨ enum.kind = .line := by
  cases hkind : enum.kind with
  | none => exact .inl rfl
  | line => exact .inr rfl
  | fonts => exact absurd (.inl hkind) h
  | objects => exact absurd (.inr hkind) h

theorem not_fonts_of_other (h : enum.kind = .none ∨ enum.kind = .line) :
    ¬(enum.kind = .fonts ∨ enum.kind = .objects) := by
  rcases h with h | h <;> rw [h] <;> rintro (heq | heq) <;> cases heq

theorem step_undisturbed (hkept : EnumKept world) (h : Undisturbed world) (host : EnumHost)
    (isFirst : Bool) (result : BitVec 32) :
    EnumKept (world.step host isFirst result) ∧ Undisturbed (world.step host isFirst result) := by
  unfold EnumWorld.step
  cases hrunning : world.running with
  | none =>
    have hother : world.state.enum.kind = .none ∨ world.state.enum.kind = .line := by
      refine kind_other fun hkind => ?_
      have hsome := hkept.kind.mpr hkind
      rw [hrunning] at hsome
      cases hsome
    obtain ⟨hkind, hblob2⟩ := wowEnumStep_other hother hkept.blob2 host isFirst result
    refine ⟨⟨?_, hblob2⟩, ⟨(fun _ hsome => nomatch hsome), h.reports⟩⟩
    exact ⟨(fun hsome => nomatch hsome), fun hfonts => absurd hfonts (not_fonts_of_other hkind)⟩
  | some running =>
    have hkind := hkept.kind.mp (by rw [hrunning]; rfl)
    have hnow := h.running running hrunning
    obtain ⟨hstepped, hblob2⟩ := wowEnumStep_stepped hkind hkept.blob2 host isFirst result
    generalize wowEnumStep world.state host isFirst result = taken at hstepped hblob2
    have hover : ∀ {after : EnumState}, after.enum.kind = .none →
        ((none : Option Running).isSome ↔
          after.enum.kind = .fonts ∨ after.enum.kind = .objects) := by
      intro after hnone
      exact ⟨(fun hsome => nomatch hsome), fun hfonts =>
        absurd hfonts (not_fonts_of_other (.inl hnone))⟩
    have hreports : ∀ {report : Report}, report.Fair →
        ∀ other ∈ world.reports ++ [report], other.Fair := by
      intro report hfair other hother
      rcases mem_append.mp hother with hold | hnew
      · exact h.reports other hold
      · rwa [mem_singleton.mp hnew]
    have hinitial : running.made <+: running.snapshot := ⟨_, hnow.calls.symm⟩
    cases hstepped with
    | called after hmore hfonts hholes henum =>
      have hindex : world.state.enum.index = running.made.length := by rw [hnow.enum]
      refine ⟨⟨⟨fun _ => ?_, fun _ => rfl⟩, hblob2⟩, ⟨?_, h.reports⟩⟩
      · rw [henum]
        exact hkind
      · intro other hother
        cases hother
        refine ⟨?_, ?_, ?_, ?_⟩
        · rw [henum, length_append, length_singleton, hindex, hnow.enum]
        · rw [hfonts, hnow.count]
        · rw [append_assoc, singleton_append, ← owed_of_lt hmore hfonts henum]
          exact hnow.calls
        · rw [henum, hholes]
          exact hnow.answer
    | complete after hdone hholes hnone =>
      refine ⟨⟨hover hnone, hblob2⟩, ⟨(fun _ hsome => nomatch hsome), hreports ?_⟩⟩
      refine ⟨?_, ?_⟩
      · have hcalls := hnow.calls
        rw [owed_of_le hdone, append_nil] at hcalls
        exact hcalls.symm
      · exact (congrFun hholes _).trans hnow.answer
    | refused after hhost hholes hnone =>
      refine ⟨⟨hover hnone, hblob2⟩,
        ⟨(fun _ hsome => nomatch hsome), hreports ?_⟩⟩
      refine ⟨hinitial, ?_, hhost⟩
      exact (congrFun hholes _).trans hnow.answer
    | stopped after hfirst hresult hholes hnone =>
      refine ⟨⟨hover hnone, hblob2⟩, ⟨(fun _ hsome => nomatch hsome), hreports ?_⟩⟩
      exact ⟨hinitial, hresult, hholes⟩

/-! ## Runs -/

theorem begun_undisturbed {result : EnumState × Bool} (hasked : Asked state frame result)
    (hbegun : result.2 = true) (hblob2 : state.blob2Argument = -1) {reports : List Report}
    (hreports : ∀ report ∈ reports, report.Fair) :
    EnumKept ⟨result.1, begun result.1, reports⟩ ∧
      Undisturbed ⟨result.1, begun result.1, reports⟩ := by
  obtain ⟨-, hindex, hkind⟩ := hasked.begun hbegun
  refine ⟨⟨?_, hasked.blob2.trans hblob2⟩, ⟨?_, hreports⟩⟩
  · unfold begun
    split
    · rename_i hfonts
      exact ⟨fun _ => hfonts, fun _ => rfl⟩
    · rename_i hfonts
      exact ⟨(fun hsome => nomatch hsome), fun h => absurd h hfonts⟩
  · intro running hrunning
    unfold begun at hrunning
    split at hrunning
    · rename_i hfonts
      cases hrunning
      have hnotLine : result.1.enum.kind ≠ .line := by
        intro hline
        exact not_fonts_of_other (.inr hline) hfonts
      obtain ⟨-, hreturn, hanswer⟩ := hkind.resolve_left hnotLine
      refine ⟨?_, ?_, rfl, ?_⟩
      · rw [length_nil, ← hindex]
      · rw [owed, length_map, length_range', hindex, Nat.sub_zero]
      · rw [hreturn]
        exact hanswer
    · cases hrunning

theorem owed_congr (henum : after.enum = state.enum)
    (hcount : after.fonts.count = state.fonts.count)
    (hentries : ∀ index, state.enum.index ≤ index → index < state.fonts.count →
      wowEnumEntryCall state.enum (after.fonts.entries index) =
      wowEnumEntryCall state.enum (state.fonts.entries index)) :
    owed after = owed state := by
  rw [owed, owed, henum, hcount]
  refine map_congr_left fun index hindex => ?_
  have hrange := mem_range'_1.mp hindex
  exact hentries index hrange.1 (by omega)

theorem next_undisturbed (hkept : EnumKept world) (h : Undisturbed world)
    (hapart : Apart world event) (hharmless : Harmless world event) :
    EnumKept (world.next event) ∧ Undisturbed (world.next event) := by
  unfold EnumWorld.next
  cases haction : event.action with
  | returned result => exact step_undisturbed hkept h event.host false result
  | call frame call =>
    have hasked := wowGdiEnumCall_asked world.state frame call
    have hfonts := wowGdiEnumCall_fonts world.state frame call
    dsimp only
    generalize wowGdiEnumCall world.state frame call = asked at hasked hfonts
    by_cases hbegun : asked.2 = true
    · rw [if_pos hbegun]
      obtain ⟨hkeptBegun, hbegunNow⟩ := begun_undisturbed hasked hbegun hkept.blob2 h.reports
      exact step_undisturbed hkeptBegun hbegunNow event.host true 0
    · rw [if_neg hbegun]
      have henum := hasked.refused (by simpa using hbegun)
      refine ⟨⟨?_, hasked.blob2.trans hkept.blob2⟩, ⟨?_, h.reports⟩⟩
      · rw [henum]
        exact hkept.kind
      · intro running hrunning
        have hnow := h.running running hrunning
        have hsome : world.running.isSome := by
          rw [show world.running = some running from hrunning]
          rfl
        have hhole : frame.hole ≠ world.state.enum.returnLinear := by
          unfold Apart at hapart
          rw [haction] at hapart
          exact hapart hsome
        obtain ⟨hcount, hentries⟩ := hharmless frame call haction hsome
        rw [← hfonts] at hcount hentries
        refine ⟨?_, ?_, ?_, ?_⟩
        · rw [henum]
          exact hnow.enum
        · rw [hcount]
          exact hnow.count
        · rw [owed_congr henum hcount hentries]
          exact hnow.calls
        · rw [henum, hasked.holes _ hhole.symm]
          exact hnow.answer

theorem harmless_of_undisturbed (hkept : EnumKept world) (h : Undisturbed world)
    (hnext : Undisturbed (world.next event)) : Harmless world event := by
  intro frame call haction hsome
  obtain ⟨running, hrunning⟩ := Option.isSome_iff_exists.mp hsome
  have hasked := wowGdiEnumCall_asked world.state frame call
  have hfonts := wowGdiEnumCall_fonts world.state frame call
  have hbegun : ¬(wowGdiEnumCall world.state frame call).2 = true := by
    intro hbegun
    exact not_fonts_of_other (.inl (hasked.begun hbegun).1) (hkept.kind.mp hsome)
  have henum := hasked.refused (by simpa using hbegun)
  unfold EnumWorld.next at hnext
  rw [haction] at hnext
  dsimp only at hnext
  rw [if_neg hbegun] at hnext
  have hnow := h.running running hrunning
  have hafter := hnext.running running hrunning
  have hcount : (collectedBy call world.state.fonts).count = world.state.fonts.count := by
    rw [← hfonts]
    exact hafter.count.trans hnow.count.symm
  refine ⟨hcount, fun index hfrom hto => ?_⟩
  have howed : owed (wowGdiEnumCall world.state frame call).1 = owed world.state :=
    append_cancel_left (hafter.calls.symm.trans hnow.calls)
  rw [owed, owed, henum, hfonts, hcount] at howed
  exact map_inj_left.mp howed index (mem_range'_1.mpr ⟨hfrom, by lia⟩)

theorem enumKept_start : EnumKept enumStart := by
  refine ⟨⟨(fun hsome => nomatch hsome), fun hkind => ?_⟩, rfl⟩
  rcases hkind with hkind | hkind <;> cases hkind

theorem undisturbed_start : Undisturbed enumStart :=
  ⟨(fun _ hsome => nomatch hsome), fun _ hreport => absurd hreport not_mem_nil⟩

/-- In every run, enumerations go on undisturbed throughout exactly if every call made while one
runs is harmless; and no such call ever moves the cursor or begins another. -/
theorem enumeration_undisturbed_iff (events : List EnumEvent)
    (hapart : Throughout EnumWorld.next enumStart Apart events) :
    ((∀ before later, events = before ++ later → Undisturbed (enumAfter before)) ↔
      Throughout EnumWorld.next enumStart Harmless events) ∧
      ∀ (world : EnumWorld) frame call, world.state.enum.kind ≠ .none →
        (wowGdiEnumCall world.state frame call).2 = false ∧
          (wowGdiEnumCall world.state frame call).1.enum = world.state.enum := by
  refine ⟨?_, ?_⟩
  · refine holds_throughout_iff (fun world => EnumKept world ∧ Undisturbed world)
      ⟨enumKept_start, undisturbed_start⟩ (fun _ h => h.2) ?_ ?_ hapart
    · intro world event h hframes hharmless
      exact next_undisturbed h.1 h.2 hframes hharmless
    · intro world event h _ hnext
      exact harmless_of_undisturbed h.1 h.2 hnext
  · intro world frame call hrunning
    have hasked := wowGdiEnumCall_asked world.state frame call
    have hbegun : (wowGdiEnumCall world.state frame call).2 = false := by
      cases hresult : (wowGdiEnumCall world.state frame call).2 with
      | false => rfl
      | true => exact absurd (hasked.begun hresult).1 hrunning
    exact ⟨hbegun, hasked.refused hbegun⟩

def fontNamed (face : List (BitVec 8)) : Win32Font where
  logFont := ⟨0, 0, 0, 0, 0, 0, 0, 0, 0, 0, 0, 0, 0, face, [], []⟩
  textMetric := ⟨0, 0, 0, 0, 0, 0, 0, 0, 0, 0, 0, 0, 0, 0, 0, 0, 0, 0, 0, 0, 0, 0, 0, 0⟩
  type := trueTypeFontType

def takingHost : EnumHost := ⟨0x17, 0x10000, true⟩

def fontsOf (hole : BitVec 32) (faces : List (List (BitVec 8))) : EnumEvent :=
  ⟨takingHost, .call ⟨0x00A71234, 0, 0x1F, true, hole⟩ (.enumFonts false (some (faces.map fontNamed)))⟩

def lineFrom (hole : BitVec 32) : EnumEvent :=
  ⟨takingHost, .call ⟨0x00A71234, 0, 0x1F, true, hole⟩ (.lineDda 0 0 5 5)⟩

def answers (result : BitVec 32) : EnumEvent := ⟨takingHost, .returned result⟩

/-- Two fonts, with a line and the same query again asked for in the callback. -/
def harmlessRun : List EnumEvent :=
  [fontsOf 0x1000 [[65], [66]], lineFrom 0xF00, fontsOf 0xF00 [[65], [66]], answers 1, answers 1]

theorem enumeration_undisturbed_in_harmlessRun :
    Throughout EnumWorld.next enumStart Apart harmlessRun ∧
      ((∀ before later, harmlessRun = before ++ later → Undisturbed (enumAfter before)) ↔
        Throughout EnumWorld.next enumStart Harmless harmlessRun) :=
  ⟨throughout_of_checkRun (by decide),
    (enumeration_undisturbed_iff harmlessRun (throughout_of_checkRun (by decide))).1⟩

/-- Two fonts; the callback for the first asks for another family, which has one. -/
def otherFamilyRun : List EnumEvent :=
  [fontsOf 0x1000 [[65], [66]], fontsOf 0xF00 [[67]], answers 1]

theorem other_family_ends_enumeration :
    Throughout EnumWorld.next enumStart Apart otherFamilyRun ∧
      (enumAfter otherFamilyRun).reports.map (fun report =>
        (report.ending, report.made.length, report.snapshot.length)) = [(.complete, 1, 2)] ∧
        ¬∀ before later, otherFamilyRun = before ++ later → Undisturbed (enumAfter before) := by
  have hreports : (enumAfter otherFamilyRun).reports.map (fun report =>
      (report.ending, report.made.length, report.snapshot.length)) = [(.complete, 1, 2)] := by
    decide
  refine ⟨throughout_of_checkRun (by decide), hreports, fun h => ?_⟩
  have hmem : (StepOutcome.complete, 1, 2) ∈ (enumAfter otherFamilyRun).reports.map
      (fun report => (report.ending, report.made.length, report.snapshot.length)) := by
    rw [hreports]
    exact mem_cons_self
  obtain ⟨report, hreport, heq⟩ := mem_map.mp hmem
  have hfair := (h otherFamilyRun [] rfl).reports report hreport
  obtain ⟨hending, hlengths⟩ := Prod.mk.inj heq
  obtain ⟨hmade, hsnapshot⟩ := Prod.mk.inj hlengths
  unfold Report.Fair at hfair
  rw [hending] at hfair
  rw [hfair.1, hsnapshot] at hmade
  cases hmade

end Ntvdmex.Wow.Enum
