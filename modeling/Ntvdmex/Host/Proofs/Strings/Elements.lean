import Ntvdmex.Foundation.Execution
import Ntvdmex.Host.Proofs.Registers
import Ntvdmex.Host.V86.Moves

/-!
# String instructions as loops over elements

A string instruction reads its parameters, moves one element after another with the indices it
keeps to itself, and stores the indices and the count at its end.  It is then one unprefixed
instruction after another.
-/

namespace Ntvdmex.Host.V86

open Foundation Interp Function Or V86Cpu

section Words

variable (cpu : V86Cpu) (index other : Nat) (value value' : Word)

theorem v86Set16_get16 : v86Set16 cpu index (v86Get16 cpu index) = cpu := by
  unfold v86Set16 v86Get16 assign
  rw [storeWord_self, update_eq_self]

theorem v86Get16_set16 : v86Get16 (v86Set16 cpu index value) index = value := by
  unfold v86Set16 v86Get16 assign
  dsimp only
  rw [update_self, setWidth_storeWord]

theorem v86Set16_set16 :
    v86Set16 (v86Set16 cpu index value) index value' = v86Set16 cpu index value' := by
  unfold v86Set16 assign
  dsimp only
  rw [update_self, update_idem, highWord_storeWord]

variable {index other}

theorem registers_v86Set16_of_ne (h : other ≠ index % 8) :
    (v86Set16 cpu index value).registers other = cpu.registers other := by
  unfold v86Set16 assign
  dsimp only
  rw [update_of_ne h]

theorem v86Get16_set16_of_ne (h : other % 8 ≠ index % 8) :
    v86Get16 (v86Set16 cpu index value) other = v86Get16 cpu other := by
  unfold v86Get16
  rw [registers_v86Set16_of_ne cpu value h]

theorem v86Set16_comm (h : other % 8 ≠ index % 8) :
    v86Set16 (v86Set16 cpu index value) other value' =
      v86Set16 (v86Set16 cpu other value') index value := by
  unfold v86Set16 assign
  dsimp only
  rw [update_of_ne h, update_of_ne h.symm, update_comm h]

end Words

/-! ## The indices and the count -/

/-- The index registers an instruction moves along. -/
structure StringUse where
  source : Bool
  destination : Bool

namespace StringUse

/-- The registers hold the indices. -/
structure At (indices : V86Indices) (cpu : V86Cpu) : Prop where
  source : v86Get16 cpu x86RegSi = indices.source
  destination : v86Get16 cpu x86RegDi = indices.destination

variable (uses : StringUse)

/-- The indices stored. -/
def storeIndices (next : V86Indices) (cpu : V86Cpu) : V86Cpu :=
  let stored := if uses.source then v86Set16 cpu x86RegSi next.source else cpu
  if uses.destination then v86Set16 stored x86RegDi next.destination else stored

def place (next : V86Indices) (count : Nat) (cpu : V86Cpu) : V86Cpu :=
  v86Set16 (uses.storeIndices next cpu) x86RegCx (BitVec.ofNat 16 count)

variable {uses} {next indices : V86Indices} {count count' : Nat} {cpu : V86Cpu}

theorem storeIndices_of_at (hat : At indices cpu) : uses.storeIndices indices cpu = cpu := by
  have hstored : (if uses.source then v86Set16 cpu x86RegSi indices.source else cpu) = cpu := by
    split
    · rw [← hat.source, v86Set16_get16]
    · rfl
  unfold storeIndices
  rw [hstored]
  split
  · rw [← hat.destination, v86Set16_get16]
  · rfl

theorem place_of_at (hat : At indices cpu)
    (hcount : v86Get16 cpu x86RegCx = BitVec.ofNat 16 count) :
    uses.place indices count cpu = cpu := by
  unfold place
  rw [storeIndices_of_at hat, ← hcount, v86Set16_get16]

/-- What is not stored is there already. -/
theorem place_at (uses : StringUse) (next : V86Indices) (cpu : V86Cpu)
    (hsource : uses.source = false → v86Get16 cpu x86RegSi = next.source)
    (hdestination : uses.destination = false → v86Get16 cpu x86RegDi = next.destination)
    (count : Nat) : At next (uses.place next count cpu) := by
  have hsi : x86RegSi % 8 ≠ x86RegCx % 8 := by decide
  have hdi : x86RegDi % 8 ≠ x86RegCx % 8 := by decide
  have hsd : x86RegSi % 8 ≠ x86RegDi % 8 := by decide
  unfold place storeIndices
  cases huses : uses.source <;> cases huses' : uses.destination
  all_goals
    constructor
    all_goals
      simp [v86Get16_set16, v86Get16_set16_of_ne _ _ hsi, v86Get16_set16_of_ne _ _ hdi,
        v86Get16_set16_of_ne _ _ hsd, v86Get16_set16_of_ne _ _ hsd.symm, hsource, hdestination,
        huses, huses']

theorem place_count (next : V86Indices) (count : Nat) (cpu : V86Cpu) :
    v86Get16 (uses.place next count cpu) x86RegCx = BitVec.ofNat 16 count :=
  v86Get16_set16 _ _ _

theorem place_place (next indices : V86Indices) (count count' : Nat) (cpu : V86Cpu) :
    uses.place next count (uses.place indices count' cpu) = uses.place next count cpu := by
  have hsi : x86RegSi % 8 ≠ x86RegCx % 8 := by decide
  have hdi : x86RegDi % 8 ≠ x86RegCx % 8 := by decide
  have hsd : x86RegSi % 8 ≠ x86RegDi % 8 := by decide
  unfold place storeIndices
  by_cases hsource : uses.source = true
  · by_cases hdestination : uses.destination = true
    · simp only [if_pos hsource, if_pos hdestination]
      rw [v86Set16_comm _ _ _ hsi, v86Set16_comm _ _ _ hdi, v86Set16_set16,
        v86Set16_comm _ _ _ hsd, v86Set16_set16, v86Set16_set16]
    · simp only [if_pos hsource, if_neg hdestination]
      rw [v86Set16_comm _ _ _ hsi, v86Set16_set16, v86Set16_set16]
  · by_cases hdestination : uses.destination = true
    · simp only [if_neg hsource, if_pos hdestination]
      rw [v86Set16_comm _ _ _ hdi, v86Set16_set16, v86Set16_set16]
    · simp only [if_neg hsource, if_neg hdestination]
      rw [v86Set16_set16]

theorem place_comm (update : V86Cpu → V86Cpu)
    (hset : ∀ cpu index value, index = x86RegSi ∨ index = x86RegDi ∨ index = x86RegCx →
      update (v86Set16 cpu index value) = v86Set16 (update cpu) index value) (cpu : V86Cpu) :
    update (uses.place next count cpu) = uses.place next count (update cpu) := by
  unfold place storeIndices
  rw [hset _ _ _ (inr (inr rfl))]
  by_cases hsource : uses.source = true
  · by_cases hdestination : uses.destination = true
    · simp only [if_pos hsource, if_pos hdestination]
      rw [hset _ _ _ (inr (inl rfl)), hset _ _ _ (inl rfl)]
    · simp only [if_pos hsource, if_neg hdestination]
      rw [hset _ _ _ (inl rfl)]
  · by_cases hdestination : uses.destination = true
    · simp only [if_neg hsource, if_pos hdestination]
      rw [hset _ _ _ (inr (inl rfl))]
    · simp only [if_neg hsource, if_neg hdestination]

theorem place_keeps {δ : Type} {f : V86Cpu → δ}
    (hset : ∀ cpu index value, index = x86RegSi ∨ index = x86RegDi ∨ index = x86RegCx →
      f (v86Set16 cpu index value) = f cpu) (next : V86Indices) (count : Nat) (cpu : V86Cpu) :
    f (uses.place next count cpu) = f cpu := by
  unfold place storeIndices
  dsimp only
  rw [hset _ _ _ (inr (inr rfl))]
  split
  · rw [hset _ _ _ (inr (inl rfl))]
    split
    · rw [hset _ _ _ (inl rfl)]
    · rfl
  · split
    · rw [hset _ _ _ (inl rfl)]
    · rfl

end StringUse

/-! ## Elements one after another -/

/-- A string instruction: the registers it moves along, the parameters it reads first, and one
element.  A comparison may end after an element. -/
structure StringUnit (κ : Type) where
  uses : StringUse
  parameters : V86Cpu → κ
  element : κ → V86Indices → V86Action V86Indices
  ends : V86Instruction → V86Cpu → Bool

namespace StringUnit

variable {κ : Type} (unit : StringUnit κ) (instruction : V86Instruction)

def loop (parameters : κ) : Nat → V86Indices → V86Action V86Compared
  | 0, indices => return { indices, count := 0 }
  | count + 1, indices => do
    let next ← unit.element parameters indices
    let cpu ← getCpu
    if unit.ends instruction cpu then return { indices := next, count }
    else loop parameters count next

/-- The whole instruction. -/
def run (offset : Nat) : V86Action Unit := do
  let cpu ← getCpu
  let done ← unit.loop instruction (unit.parameters cpu) (v86StringCount instruction cpu)
    { source := v86Get16 cpu x86RegSi, destination := v86Get16 cpu x86RegDi }
  modifyCpu (unit.uses.storeIndices done.indices)
  v86StoreCount instruction done.count
  advance offset

/-- The instruction without its prefix, the count decremented, until the count is 0 or a
comparison ends it. -/
def repeats : Nat → V86Action Unit
  | 0 => return ()
  | count + 1 => do
    unit.run { instruction with repeated := 0 } 0
    set16 x86RegCx (BitVec.ofNat 16 count)
    let cpu ← getCpu
    if unit.ends instruction cpu then return () else repeats count

/-- An element keeps the parameters and does not touch what a string instruction stores. -/
structure Lawful : Prop where
  parameters_place : ∀ next count cpu,
    unit.parameters (unit.uses.place next count cpu) = unit.parameters cpu
  ends_place : ∀ next count cpu,
    unit.ends instruction (unit.uses.place next count cpu) = unit.ends instruction cpu
  keeps : ∀ parameters indices, Leaves (SameCpu unit.parameters) (unit.element parameters indices)
  keepsIndices : ∀ parameters indices,
    Leaves (SameCpu fun cpu => (v86Get16 cpu x86RegSi, v86Get16 cpu x86RegDi))
      (unit.element parameters indices)
  completes : ∀ parameters indices, Completes (unit.element parameters indices)
  source : ∀ parameters indices next m m', unit.element parameters indices m = .ok next m' →
    unit.uses.source = false → next.source = indices.source
  destination : ∀ parameters indices next m m', unit.element parameters indices m = .ok next m' →
    unit.uses.destination = false → next.destination = indices.destination
  commutes : ∀ parameters indices next count,
    Commutes (unit.uses.place next count) (unit.element parameters indices)

variable {unit} {instruction}

theorem repeats_succ (count : Nat) :
    unit.repeats instruction (count + 1) =
      (do
        unit.run { instruction with repeated := 0 } 0
        set16 x86RegCx (BitVec.ofNat 16 count)
        let cpu ← getCpu
        if unit.ends instruction cpu then return () else unit.repeats instruction count) := rfl

theorem loop_succ (parameters : κ) (count : Nat) (indices : V86Indices) :
    unit.loop instruction parameters (count + 1) indices =
      (do
        let next ← unit.element parameters indices
        let cpu ← getCpu
        if unit.ends instruction cpu then return { indices := next, count }
        else unit.loop instruction parameters count next) := rfl

theorem advance_zero (m : Machine V86Cpu) : advance 0 m = .ok () m := by
  have hip : m.cpu.ip + BitVec.ofNat 16 0 = m.cpu.ip := BitVec.add_zero _
  change EStateM.Result.ok () { m with cpu := { m.cpu with ip := m.cpu.ip + BitVec.ofNat 16 0 } } =
    .ok () m
  rw [hip]

section Unrepeated

variable {m between : Machine V86Cpu} {next : V86Indices}

/-- The unprefixed instruction is one element. -/
theorem run_unrepeated (h : unit.element (unit.parameters m.cpu)
      { source := v86Get16 m.cpu x86RegSi, destination := v86Get16 m.cpu x86RegDi } m =
    .ok next between) :
    unit.run { instruction with repeated := 0 } 0 m =
      .ok () (between.onCpu (unit.uses.storeIndices next)) := by
  have hloop : unit.loop { instruction with repeated := 0 } (unit.parameters m.cpu) 1
      { source := v86Get16 m.cpu x86RegSi, destination := v86Get16 m.cpu x86RegDi } m =
      .ok { indices := next, count := 0 } between := by
    unfold loop
    rw [bind_of_ok h, getCpu_bind]
    split
    · rfl
    · rfl
  unfold run
  rw [getCpu_bind]
  have hcount : v86StringCount { instruction with repeated := 0 } m.cpu = 1 := rfl
  rw [hcount, bind_of_ok hloop, modifyCpu_bind]
  exact advance_zero _

end Unrepeated

/-! ## A prefix repeats -/

section

variable (hlawful : unit.Lawful instruction) (parameters : κ)

include hlawful parameters

theorem commutes_loop (next : V86Indices)
    (counted count : Nat) (indices : V86Indices) :
    Commutes (unit.uses.place next counted) (unit.loop instruction parameters count indices) := by
  induction count generalizing indices with
  | zero => exact commutes_pure _
  | succ count ih =>
    unfold loop
    have helement := hlawful.commutes parameters indices next counted
    have hends (following : V86Indices) :
        Commutes (unit.uses.place next counted)
          (getCpu >>= fun cpu =>
            if unit.ends instruction cpu then
              return { indices := following, count }
            else unit.loop instruction parameters count following) := by
      apply commutes_getCpu_bind
      intro cpu
      rw [hlawful.ends_place]
    infer_instance

theorem completes_loop (count : Nat)
    (indices : V86Indices) : Completes (unit.loop instruction parameters count indices) := by
  induction count generalizing indices with
  | zero => exact completes_pure _
  | succ count ih =>
    unfold loop
    have helement := hlawful.completes parameters indices
    infer_instance

theorem keepsIndices_loop (count : Nat)
    (indices : V86Indices) :
    Leaves (SameCpu fun cpu => (v86Get16 cpu x86RegSi, v86Get16 cpu x86RegDi))
      (unit.loop instruction parameters count indices) := by
  induction count generalizing indices with
  | zero => exact leaves_pure _
  | succ count ih =>
    unfold loop
    have helement := hlawful.keepsIndices parameters indices
    infer_instance

end

variable (unit) (instruction) in
def placed (parameters : κ) (count : Nat) (indices : V86Indices) : V86Action Unit := do
  let done ← unit.loop instruction parameters count indices
  modifyCpu (unit.uses.place done.indices done.count)

theorem placed_onCpu (hlawful : unit.Lawful instruction) (parameters : κ) (count : Nat)
    (indices next : V86Indices) (counted : Nat) (m : Machine V86Cpu) :
    unit.placed instruction parameters count indices (m.onCpu (unit.uses.place next counted)) =
      unit.placed instruction parameters count indices m := by
  have hcommutes := commutes_loop hlawful parameters next counted count indices
  obtain ⟨done, between, hloop⟩ := (completes_loop hlawful parameters count indices).ends m
  unfold placed
  rw [bind_of_ok hloop, bind_of_ok (Commutes.of_ok hloop)]
  change EStateM.Result.ok () (between.onCpu _ |>.onCpu _) = .ok () (between.onCpu _)
  unfold Machine.onCpu
  rw [StringUse.place_place]

theorem placed_eq_repeats (hlawful : unit.Lawful instruction) {count : Nat} {indices : V86Indices}
    {m : Machine V86Cpu} (hat : StringUse.At indices m.cpu)
    (hcount : v86Get16 m.cpu x86RegCx = BitVec.ofNat 16 count) :
    unit.placed instruction (unit.parameters m.cpu) count indices m =
      unit.repeats instruction count m := by
  induction count generalizing indices m with
  | zero =>
    change EStateM.Result.ok () (m.onCpu (unit.uses.place indices 0)) = .ok () m
    unfold Machine.onCpu
    rw [StringUse.place_of_at hat hcount]
  | succ count ih =>
    obtain ⟨next, between, helement⟩ :=
      (hlawful.completes (unit.parameters m.cpu) indices).ends m
    have hkeeps := hlawful.keeps (unit.parameters m.cpu) indices
    have hkeepsIndices := hlawful.keepsIndices (unit.parameters m.cpu) indices
    have hparameters : unit.parameters between.cpu = unit.parameters m.cpu :=
      Leaves.of_ok (R := SameCpu unit.parameters) helement
    have hindices : (v86Get16 between.cpu x86RegSi, v86Get16 between.cpu x86RegDi) =
        (v86Get16 m.cpu x86RegSi, v86Get16 m.cpu x86RegDi) :=
      Leaves.of_ok (R := SameCpu fun cpu => (v86Get16 cpu x86RegSi, v86Get16 cpu x86RegDi)) helement
    obtain ⟨hsi, hdi⟩ := Prod.mk.inj hindices
    let stored := between.onCpu (unit.uses.place next count)
    have hstoredAt : StringUse.At next stored.cpu := by
      apply StringUse.place_at unit.uses next between.cpu
      · intro huses
        rw [hsi, hat.source, hlawful.source _ _ _ _ _ helement huses]
      · intro huses
        rw [hdi, hat.destination, hlawful.destination _ _ _ _ _ helement huses]
    have hregisters : indices =
        { source := v86Get16 m.cpu x86RegSi, destination := v86Get16 m.cpu x86RegDi } := by
      rw [hat.source, hat.destination]
    have hrun : unit.run { instruction with repeated := 0 } 0 m =
        .ok () (between.onCpu (unit.uses.storeIndices next)) := by
      rw [hregisters] at helement
      exact run_unrepeated helement
    have hstored : unit.repeats instruction (count + 1) m =
        if unit.ends instruction between.cpu then .ok () stored
        else unit.repeats instruction count stored := by
      have hset : set16 x86RegCx (BitVec.ofNat 16 count)
          (between.onCpu (unit.uses.storeIndices next)) = .ok () stored := rfl
      have hends : unit.ends instruction stored.cpu = unit.ends instruction between.cpu :=
        hlawful.ends_place next count between.cpu
      rw [repeats_succ, bind_of_ok hrun, bind_of_ok hset, getCpu_bind, hends]
      split
      · rfl
      · rfl
    have hplaced : unit.placed instruction (unit.parameters m.cpu) (count + 1) indices m =
        if unit.ends instruction between.cpu then .ok () stored
        else unit.placed instruction (unit.parameters m.cpu) count next between := by
      unfold placed
      rw [loop_succ, bind_assoc, bind_of_ok helement, bind_assoc, getCpu_bind]
      split
      · rfl
      · rfl
    have hstoredParameters : unit.parameters stored.cpu = unit.parameters m.cpu :=
      (hlawful.parameters_place _ _ _).trans hparameters
    have hrest := ih hstoredAt (StringUse.place_count next count between.cpu)
    rw [hstoredParameters, placed_onCpu hlawful] at hrest
    rw [hplaced, hstored, hrest]

theorem run_eq_repeats (hlawful : unit.Lawful instruction) (hrepeated : instruction.repeated ≠ 0)
    (offset : Nat) (m : Machine V86Cpu) :
    unit.run instruction offset m =
      (unit.repeats instruction (v86Get16 m.cpu x86RegCx).toNat >>= fun _ => advance offset) m := by
  have hcount : v86StringCount instruction m.cpu = (v86Get16 m.cpu x86RegCx).toNat := if_pos hrepeated
  have hstore (done : V86Compared) : (modifyCpu (unit.uses.storeIndices done.indices) >>= fun _ =>
      v86StoreCount instruction done.count >>= fun _ => advance offset) =
      (modifyCpu (unit.uses.place done.indices done.count) >>= fun _ => advance offset) := by
    unfold v86StoreCount onlyIf
    rw [if_pos hrepeated]
    rfl
  have hat : StringUse.At { source := v86Get16 m.cpu x86RegSi, destination := v86Get16 m.cpu x86RegDi }
      m.cpu := ⟨rfl, rfl⟩
  have hplaced := placed_eq_repeats hlawful hat
    (by rw [BitVec.ofNat_toNat, BitVec.setWidth_eq] :
      v86Get16 m.cpu x86RegCx = BitVec.ofNat 16 (v86Get16 m.cpu x86RegCx).toNat)
  have hrun : unit.run instruction offset m =
      (unit.placed instruction (unit.parameters m.cpu) (v86Get16 m.cpu x86RegCx).toNat
          { source := v86Get16 m.cpu x86RegSi, destination := v86Get16 m.cpu x86RegDi } >>=
        fun _ => advance offset) m := by
    unfold run placed
    rw [getCpu_bind, hcount, bind_assoc]
    simp only [hstore]
  rw [hrun]
  obtain ⟨_, after, hafter⟩ : ∃ a after, unit.placed instruction (unit.parameters m.cpu)
      (v86Get16 m.cpu x86RegCx).toNat
      { source := v86Get16 m.cpu x86RegSi, destination := v86Get16 m.cpu x86RegDi } m =
      .ok a after := by
    have hcompletes := completes_loop hlawful (unit.parameters m.cpu)
      (v86Get16 m.cpu x86RegCx).toNat
      { source := v86Get16 m.cpu x86RegSi, destination := v86Get16 m.cpu x86RegDi }
    have hall : Completes (unit.placed instruction (unit.parameters m.cpu)
      (v86Get16 m.cpu x86RegCx).toNat
      { source := v86Get16 m.cpu x86RegSi, destination := v86Get16 m.cpu x86RegDi }) := by
      unfold placed
      infer_instance
    exact hall.ends m
  rw [bind_of_ok hafter, bind_of_ok (hplaced.symm.trans hafter)]

end StringUnit

end Ntvdmex.Host.V86
