import Ntvdmex.Host.V86.Addressing
import Ntvdmex.Host.Proofs.Segments.Confined

/-!
# Operands and the segments they are in

Where a decoded operand is, and when an instruction keeps to the segment of its operand: when the
bytes it touches end by the end of the segment.
-/

namespace Ntvdmex.Host.V86

open Foundation Interp BitVec

variable {host : V86Host} {instruction : V86Instruction} {offset : Nat} {cpu : V86Cpu}

/-! ## Where an operand is -/

theorem v86SegmentBase_of_none (hmode : host.segmentToLinear = none) (segment : Word) :
    v86SegmentBase host segment = segment.setWidth 32 * 16 := by
  unfold v86SegmentBase
  rw [hmode]
  rw [shiftLeft_eq_mul_twoPow]
  rfl

/-- `linear` is `segment * 16 + address` for a segment register, with a 16-bit address. -/
def IsInSegment (cpu : V86Cpu) (linear address : Dword) : Prop :=
  address.toNat ≤ 0xFFFF ∧ ∃ index, linear = (cpu.segments index).setWidth 32 * 16 + address

theorem IsInSegment.toNat_linear {linear address : Dword} (h : IsInSegment cpu linear address) :
    ∃ index, linear.toNat = (cpu.segments index).toNat * 16 + address.toNat := by
  obtain ⟨haddress, index, rfl⟩ := h
  refine ⟨index, ?_⟩
  rw [toNat_add, toNat_mul, toNat_setWidth]
  have hsixteen : (16 : Dword).toNat = 16 := rfl
  rw [hsixteen]
  omega

theorem IsInSegment.lt_guestLimit {linear address : Dword} (h : IsInSegment cpu linear address) :
    linear.toNat + 6 ≤ v86GuestLimit.toNat := by
  obtain ⟨index, hlinear⟩ := h.toNat_linear
  have haddress := h.1
  have hlimit : v86GuestLimit.toNat = 0x110000 := rfl
  omega

def V86Modrm.IsLocated (cpu : V86Cpu) (modrm : V86Modrm) : Prop :=
  modrm.isMemory = true →
    IsInSegment cpu modrm.linear modrm.effectiveAddress ∨
      0xFFFF < modrm.effectiveAddress.toNat ∧ modrm.linear = v86GuestLimit

theorem isLocated_registerOperand (modrmByte : Byte) :
    (v86RegisterOperand modrmByte).IsLocated cpu :=
  fun hmemory => absurd hmemory Bool.false_ne_true

section

variable (hmode : host.segmentToLinear = none) (modrmByte : Byte)

include hmode modrmByte

theorem v86MemoryOperand_linear (address : V86Address) :
    ∃ index, (v86MemoryOperand host instruction cpu modrmByte address).linear =
      (cpu.segments index).setWidth 32 * 16 + address.address := by
  unfold v86MemoryOperand
  rw [v86SegmentBase_of_none hmode]
  exact ⟨_, rfl⟩

theorem isLocated_memoryOperand {address : V86Address} (haddress : address.address.toNat ≤ 0xFFFF) :
    (v86MemoryOperand host instruction cpu modrmByte address).IsLocated cpu :=
  fun _ => Or.inl ⟨haddress, v86MemoryOperand_linear hmode modrmByte address⟩

theorem isLocated_limited (address : V86Address) :
    (v86MemoryOperand host instruction cpu modrmByte address).limited.IsLocated cpu := by
  intro _
  have hmax : v86OffsetMax.toNat = 0xFFFF := rfl
  unfold V86Modrm.limited
  split
  · rename_i hpast
    rw [lt_def, hmax] at hpast
    exact Or.inr ⟨hpast, rfl⟩
  · rename_i hinside
    rw [lt_def, hmax, not_lt] at hinside
    exact Or.inl ⟨hinside, v86MemoryOperand_linear hmode modrmByte address⟩

end

theorem toNat_word_le (address : Word) : (address.setWidth 32).toNat ≤ 0xFFFF := by
  rw [toNat_setWidth]
  omega

theorem v86BaseAddress16_le (cpu : V86Cpu) (modrmByte : Byte) :
    Ensures (fun _ => True) (v86BaseAddress16 host instruction cpu modrmByte offset)
      fun base _ => base.address.toNat ≤ 0xFFFF := by
  unfold v86BaseAddress16
  split
  case h_7 =>
    refine ensures_ite (fun _ => ?_) fun _ => ensures_pure fun _ _ => toNat_word_le _
    intro m _ base m' h
    obtain ⟨word, _, -, hrest⟩ := bind_ok h
    cases hrest
    exact toNat_word_le word
  all_goals exact ensures_pure fun _ _ => toNat_word_le _

theorem v86Displace16_le (mode : Nat) {base : V86Address} (hbase : base.address.toNat ≤ 0xFFFF) :
    Ensures (fun _ => True) (v86Displace16 host instruction mode offset base)
      fun address _ => address.address.toNat ≤ 0xFFFF := by
  refine ensures_ite (fun _ => ?_) fun _ => ensures_ite (fun _ => ?_) fun _ =>
    ensures_pure fun _ _ => hbase
  · intro m _ address m' h
    obtain ⟨byte, _, -, hrest⟩ := bind_ok h
    cases hrest
    exact toNat_word_le _
  · intro m _ address m' h
    obtain ⟨word, _, -, hrest⟩ := bind_ok h
    cases hrest
    exact toNat_word_le _

theorem v86DecodeModrm_isLocated (hmode : host.segmentToLinear = none) {m m' : Machine V86Cpu}
    {modrm : V86Modrm} (h : v86DecodeModrm host instruction offset m = .ok modrm m') :
    modrm.IsLocated m.cpu := by
  unfold v86DecodeModrm at h
  by_cases hwide : instruction.isAddress32 = true
  · rw [if_pos hwide] at h
    obtain ⟨modrmByte, m1, hbyte, hrest⟩ := bind_ok h
    by_cases hregister : modrmMode modrmByte = x86ModeRegister
    · rw [if_pos hregister] at hrest
      cases hrest
      exact isLocated_registerOperand modrmByte
    · rw [if_neg hregister] at hrest
      obtain ⟨cpu, m2, hcpu, hrest2⟩ := bind_ok hrest
      obtain ⟨base, m3, -, hrest3⟩ := bind_ok hrest2
      obtain ⟨address, m4, -, hrest4⟩ := bind_ok hrest3
      cases hcpu
      cases hrest4
      rw [← (Leaves.of_ok (R := OnlyReads) hbyte).1]
      exact isLocated_limited hmode modrmByte address
  · rw [if_neg hwide] at h
    obtain ⟨modrmByte, m1, hbyte, hrest⟩ := bind_ok h
    by_cases hregister : modrmMode modrmByte = x86ModeRegister
    · rw [if_pos hregister] at hrest
      cases hrest
      exact isLocated_registerOperand modrmByte
    · rw [if_neg hregister] at hrest
      obtain ⟨cpu, m2, hcpu, hrest2⟩ := bind_ok hrest
      obtain ⟨base, m3, hbase, hrest3⟩ := bind_ok hrest2
      obtain ⟨address, m4, haddress, hrest4⟩ := bind_ok hrest3
      cases hcpu
      cases hrest4
      rw [← (Leaves.of_ok (R := OnlyReads) hbyte).1]
      have hbaseLe := v86BaseAddress16_le _ modrmByte m1 trivial base m3 hbase
      exact isLocated_memoryOperand hmode modrmByte
        (v86Displace16_le _ hbaseLe m3 trivial address _ haddress)

/-! ## Instructions and the segment of their operand -/

/-- However `block` goes, its reads and writes of the operand are in the operand's segment. -/
def V86Addressing.Keeps (operand : V86Addressing) (block : V86Action Unit)
    (m : Machine V86Cpu) : Prop :=
  ∃ made, (block.after m).calls = made ++ m.calls ∧
    ∀ call ∈ made, call.IsWithin (operand.segmentBytes m.cpu)

/-- However `block` goes, it reads or writes a byte of the operand past its segment. -/
def V86Addressing.Overruns (operand : V86Addressing) (block : V86Action Unit)
    (m : Machine V86Cpu) : Prop :=
  ∃ made, (block.after m).calls = made ++ m.calls ∧
    ∃ call ∈ made, ¬call.IsWithin (operand.segmentBytes m.cpu)

theorem V86Addressing.Keeps.not_overruns {operand : V86Addressing} {block : V86Action Unit}
    {m : Machine V86Cpu} (h : operand.Keeps block m) : ¬operand.Overruns block m := by
  rintro ⟨made, hcalls, call, hcall, hoverruns⟩
  obtain ⟨made', hcalls', hwithin⟩ := h
  obtain rfl : made = made' := List.append_cancel_right (hcalls.symm.trans hcalls')
  exact hoverruns (hwithin call hcall)

/-- A block keeps to the segment of the operand that `addressing` decodes just when it fits. -/
structure OperatesAt (block : V86Action Unit) (addressing : V86Action (Option V86Addressing))
    (m : Machine V86Cpu) : Prop where
  keeps : ∀ operand m', addressing m = .ok (some operand) m' → operand.Fits →
    operand.Keeps block m
  overruns : ∀ operand m', addressing m = .ok (some operand) m' → ¬operand.Fits →
    operand.Overruns block m

section Rules

variable {block : V86Action Unit} {addressing : V86Action (Option V86Addressing)}
  {m : Machine V86Cpu} {α : Type}
variable {f : α → V86Action Unit} {operand : V86Addressing}

theorem OperatesAt.keeps_iff (h : OperatesAt block addressing m) {m' : Machine V86Cpu}
    (hoperand : addressing m = .ok (some operand) m') : operand.Keeps block m ↔ operand.Fits := by
  constructor
  · intro hkeeps
    by_contra hfits
    exact hkeeps.not_overruns (h.overruns operand m' hoperand hfits)
  · exact h.keeps operand m' hoperand

theorem operatesAt_none : OperatesAt block (return none) m where
  keeps := fun _ _ h => nomatch h
  overruns := fun _ _ h => nomatch h

theorem operatesAt_ite {c : Prop} [Decidable c] {block' : V86Action Unit}
    {addressing' : V86Action (Option V86Addressing)} (h : c → OperatesAt block addressing m)
    (h' : ¬c → OperatesAt block' addressing' m) :
    OperatesAt (if c then block else block') (if c then addressing else addressing') m := by
  by_cases hc : c
  · rw [if_pos hc, if_pos hc]
    exact h hc
  · rw [if_neg hc, if_neg hc]
    exact h' hc

theorem after_bind_of_ok {x : V86Action α} {between : Machine V86Cpu} {a : α}
    (h : x m = .ok a between) : (x >>= f).after m = (f a).after between := by
  unfold after
  rw [bind_of_ok h]

/-- What both begin with has to fetch only. -/
theorem operatesAt_bind {x : V86Action α} {g : α → V86Action (Option V86Addressing)}
    [hx : Confined ∅ x] [Leaves OnlyReads x]
    (h : ∀ a between, x m = .ok a between → OperatesAt (f a) (g a) between) :
    OperatesAt (x >>= f) (x >>= g) m := by
  obtain ⟨first, hfirst, hnothing⟩ := hx.calls m
  unfold after at hfirst
  cases hxm : x m with
  | error stop between =>
    constructor <;>
    · intro operand m' hoperand
      rw [bind_of_error hxm] at hoperand
      cases hoperand
  | ok a between =>
    rw [hxm] at hfirst
    have hcpu : between.cpu = m.cpu := (Leaves.of_ok (R := OnlyReads) hxm).1
    have hcalls : ∀ second : List HostCall,
        second ++ between.calls = (second ++ first) ++ m.calls :=
      fun second => by rw [hfirst, List.append_assoc]
    constructor
    · intro operand m' hoperand hfits
      rw [bind_of_ok hxm] at hoperand
      obtain ⟨second, hsecond, hwithin⟩ := (h a between hxm).keeps operand m' hoperand hfits
      unfold V86Addressing.Keeps
      rw [after_bind_of_ok hxm]
      refine ⟨second ++ first, hsecond.trans (hcalls second), fun call hcall => ?_⟩
      rw [← hcpu]
      rcases List.mem_append.mp hcall with hcall | hcall
      · exact hwithin call hcall
      · exact (hnothing call hcall).mono (Set.empty_subset _)
    · intro operand m' hoperand hfits
      rw [bind_of_ok hxm] at hoperand
      obtain ⟨second, hsecond, call, hcall, hpast⟩ :=
        (h a between hxm).overruns operand m' hoperand hfits
      unfold V86Addressing.Overruns
      rw [after_bind_of_ok hxm]
      refine ⟨second ++ first, hsecond.trans (hcalls second), call,
        List.mem_append_left first hcall, ?_⟩
      rwa [← hcpu]

theorem operatesAt_of_confined (hfits : operand.Fits)
    (hblock : Confined (operand.segmentBytes m.cpu) block) :
    OperatesAt block (return some operand) m where
  keeps := by
    intro operand' m' hoperand _
    cases hoperand
    exact hblock.calls m
  overruns := by
    intro operand' m' hoperand hoverruns
    cases hoperand
    exact absurd hfits hoverruns

def V86Addressing.reached (operand : V86Addressing) : Set (Dword × Bool) :=
  {byte | operand.owns byte.2 = true →
    ∃ position < operand.reach, byte.1 = operand.linear + BitVec.ofNat 32 position}

def V86Addressing.last (operand : V86Addressing) : Set (Dword × Bool) :=
  {byte | operand.owns byte.2 = true ∧
    byte.1 = operand.linear + BitVec.ofNat 32 (operand.reach - 1)}

theorem reached_subset_segmentBytes
    (hplace : IsInSegment cpu operand.linear operand.effectiveAddress) (hfits : operand.Fits) :
    operand.reached ⊆ operand.segmentBytes cpu := by
  obtain ⟨haddress, index, hlinear⟩ := hplace
  rintro byte hbyte howns
  obtain ⟨position, hposition, hlocation⟩ := hbyte howns
  have hend : operand.effectiveAddress.toNat + operand.reach ≤ 0x10000 :=
    hfits.resolve_left (Nat.not_lt.mpr haddress)
  refine ⟨index, operand.effectiveAddress.toNat + position, by omega, hlinear, ?_⟩
  rw [hlocation, hlinear, BitVec.add_assoc, ofNat_add, ofNat_toNat,
    setWidth_eq]

theorem last_disjoint_segmentBytes (hreach : operand.reach ≤ 6)
    (hplace : IsInSegment cpu operand.linear operand.effectiveAddress) (hfits : ¬operand.Fits) :
    Disjoint operand.last (operand.segmentBytes cpu) := by
  have haddress := hplace.1
  rw [Set.disjoint_left]
  rintro byte ⟨howns, hlast⟩ hinside
  obtain ⟨index, e, he, hlinear, hlocation⟩ := hinside howns
  unfold V86Addressing.Fits at hfits
  rw [hlast, hlinear] at hlocation
  have hsame : operand.effectiveAddress + BitVec.ofNat 32 (operand.reach - 1) =
      BitVec.ofNat 32 e := by
    rw [BitVec.add_assoc] at hlocation
    exact (BitVec.add_right_inj _).mp hlocation
  have htoNat := congrArg BitVec.toNat hsame
  rw [toNat_add, toNat_ofNat, toNat_ofNat] at htoNat
  omega

theorem operatesAt_of_reached (hreach : operand.reach ≤ 6)
    (hplace : IsInSegment m.cpu operand.linear operand.effectiveAddress)
    (hblock : Confined operand.reached block)
    (hlast : 0 < operand.reach → Touches operand.last block) :
    OperatesAt block (return some operand) m where
  keeps := by
    intro operand' m' hoperand hfits
    cases hoperand
    exact Confined.calls (hblock.mono (reached_subset_segmentBytes hplace hfits)) m
  overruns := by
    intro operand' m' hoperand hfits
    cases hoperand
    have hpositive : 0 < operand.reach := by
      by_contra hzero
      have haddress := hplace.1
      exact hfits (Or.inr (by omega))
    obtain ⟨made, hcalls, call, hcall, htouches⟩ := (hlast hpositive).touches m
    exact ⟨made, hcalls, call, hcall,
      htouches.not_isWithin (last_disjoint_segmentBytes hreach hplace hfits)⟩

end Rules

end Ntvdmex.Host.V86
