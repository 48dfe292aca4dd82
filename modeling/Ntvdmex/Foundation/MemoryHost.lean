import Ntvdmex.Foundation.Execution
import Ntvdmex.Foundation.InstructionPointer

/-!
# Programs over a memory

A host that is a memory answers a read with what was last written.  A program then runs on a
processor and a memory, and has one rule for each action.
-/

namespace Ntvdmex.Foundation

open Function Nat Width

variable {γ α β : Type}

/-- Reads change nothing, and a write changes the byte at its address. -/
structure Host.IsMemory (host : Host) : Prop where
  keeps : host.KeepsMemory
  written : ∀ calls linear value,
    host.read8 (.write linear value :: calls) = Function.update (host.read8 calls) linear value

/-- What a machine's memory holds. -/
def Host.memory (host : Host) (m : Machine γ) : Dword → Byte := host.read8 m.calls

theorem Host.KeepsMemory.read8_cons {host : Host} (hkeeps : host.KeepsMemory) (call : HostCall)
    (hcall : call.IsRead) (calls : List HostCall) :
    host.read8 (call :: calls) = host.read8 calls :=
  funext fun other => hkeeps calls call other hcall

theorem memoryHost_isMemory (memory : Dword → Byte)
    (portIn : List HostCall → Word → Nat → Dword) : (memoryHost memory portIn).IsMemory where
  keeps := memoryHost_keepsMemory memory portIn
  written := by
    intro calls linear value
    funext other
    by_cases hother : other = linear
    · rw [hother, update_self]
      simp [memoryHost, latestWrite]
    · rw [update_of_ne hother]
      simp [memoryHost, latestWrite, Ne.symm hother]

/-! ## Operands in a memory -/

def valueAt (memory : Dword → Byte) (linear : Dword) : Width → Dword
  | .byte => (memory linear).setWidth 32
  | .word => (memory linear).setWidth 32 ||| (memory (linear + 1)).setWidth 32 <<< 8
  | .dword =>
    (memory linear).setWidth 32 ||| (memory (linear + 1)).setWidth 32 <<< 8 |||
      (memory (linear + 2)).setWidth 32 <<< 16 ||| (memory (linear + 3)).setWidth 32 <<< 24

def storeAt (memory : Dword → Byte) (linear value : Dword) : Width → Dword → Byte
  | .byte => Function.update memory linear (value.setWidth 8)
  | .word =>
    Function.update (Function.update memory linear (value.setWidth 8)) (linear + 1)
      ((value >>> 8).setWidth 8)
  | .dword =>
    Function.update
      (Function.update
        (Function.update (Function.update memory linear (value.setWidth 8)) (linear + 1)
          ((value >>> 8).setWidth 8))
        (linear + 2) ((value >>> 16).setWidth 8))
      (linear + 3) ((value >>> 24).setWidth 8)

theorem dword_of_bytes (value : Dword) :
    (value.setWidth 8).setWidth 32 ||| ((value >>> 8).setWidth 8).setWidth 32 <<< 8 |||
        ((value >>> 16).setWidth 8).setWidth 32 <<< 16 |||
        ((value >>> 24).setWidth 8).setWidth 32 <<< 24 = value := by
  apply BitVec.eq_of_getLsbD_eq
  intro i hi
  simp only [BitVec.getLsbD_or, BitVec.getLsbD_shiftLeft, BitVec.getLsbD_setWidth,
    BitVec.getLsbD_ushiftRight]
  by_cases h8 : i < 8
  · simp [h8, hi, show i < 16 by omega, show i < 24 by omega]
  · by_cases h16 : i < 16
    · simp [h8, h16, hi, show i < 24 by omega, show i - 8 < 8 by omega, show i - 8 < 32 by omega,
        show 8 + (i - 8) = i by omega]
    · by_cases h24 : i < 24
      · simp [h8, h16, h24, hi, show ¬i - 8 < 8 by omega, show i - 16 < 8 by omega,
          show i - 16 < 32 by omega, show 16 + (i - 16) = i by omega]
      · simp [h8, h16, h24, hi, show ¬i - 8 < 8 by omega, show ¬i - 16 < 8 by omega,
          show i - 24 < 8 by omega, show i - 24 < 32 by omega, show 24 + (i - 24) = i by omega]

theorem shiftRight_eq_zero {value : Dword} {n : Nat} (h : value.toNat < 2 ^ n) :
    value >>> n = 0 := by
  apply BitVec.eq_of_toNat_eq
  rw [BitVec.toNat_ushiftRight, shiftRight_eq_div_pow, div_eq_of_lt h]
  rfl

theorem valueAt_storeAt (memory : Dword → Byte) {linear value : Dword} {width : Width}
    (hvalue : value.toNat < 2 ^ width.bits) :
    valueAt (storeAt memory linear value width) linear width = value := by
  have hbytes := dword_of_bytes value
  cases width with
  | byte =>
    have h8 : value >>> 8 = 0 := shiftRight_eq_zero hvalue
    have h16 : value >>> 16 = 0 := shiftRight_eq_zero (lt_trans hvalue (by decide))
    have h24 : value >>> 24 = 0 := shiftRight_eq_zero (lt_trans hvalue (by decide))
    rw [h8, h16, h24] at hbytes
    simpa [valueAt, storeAt] using hbytes
  | word =>
    have h16 : value >>> 16 = 0 := shiftRight_eq_zero hvalue
    have h24 : value >>> 24 = 0 := shiftRight_eq_zero (lt_trans hvalue (by decide))
    rw [h16, h24] at hbytes
    simpa [valueAt, storeAt] using hbytes
  | dword => simpa [valueAt, storeAt] using hbytes

theorem storeAt_outside (memory : Dword → Byte) {linear address value : Dword} {width : Width}
    (h : width.bytes ≤ (address - linear).toNat) :
    storeAt memory linear value width address = memory address := by
  have hbyte : ∀ j : Dword, j.toNat < width.bytes → address ≠ linear + j := by
    rintro j hj rfl
    rw [add_sub_cancel_left] at h
    exact Nat.not_le.mpr hj h
  have hfirst : address ≠ linear := by
    have hpos : 0 < width.bytes := by cases width <;> decide
    rintro rfl
    rw [sub_self] at h
    exact Nat.not_le.mpr hpos h
  cases width with
  | byte => simp only [storeAt, update_of_ne hfirst]
  | word =>
    simp only [storeAt, update_of_ne hfirst, update_of_ne (hbyte 1 (by decide))]
  | dword =>
    simp only [storeAt, update_of_ne hfirst, update_of_ne (hbyte 1 (by decide)),
      update_of_ne (hbyte 2 (by decide)), update_of_ne (hbyte 3 (by decide))]

theorem valueAt_storeAt_of_disjoint (memory : Dword → Byte) {linear other value : Dword}
    {width : Width} (hbelow : width.bytes ≤ (other - linear).toNat)
    (habove : width.bytes ≤ (linear - other).toNat) :
    valueAt (storeAt memory linear value width) other width = valueAt memory other width := by
  have hbyte : ∀ i : Dword, i.toNat < width.bytes →
      storeAt memory linear value width (other + i) = memory (other + i) := by
    intro i hi
    apply storeAt_outside
    rw [← neg_sub, BitVec.toNat_neg] at habove
    rw [add_sub_right_comm, BitVec.toNat_add]
    lia
  have hfirst : storeAt memory linear value width other = memory other :=
    storeAt_outside memory hbelow
  cases width with
  | byte => simp only [valueAt, hfirst]
  | word => simp only [valueAt, hfirst, hbyte 1 (by decide)]
  | dword =>
    simp only [valueAt, hfirst, hbyte 1 (by decide), hbyte 2 (by decide), hbyte 3 (by decide)]

namespace Interp

/-! ## Where programs end -/

/-- However `p` ends when it starts with `cpu` and `memory`, `Q` holds of what it leaves. -/
structure EndsIn (host : Host) (cpu : γ) (memory : Dword → Byte) (p : Interp γ α)
    (Q : α → γ → (Dword → Byte) → Prop) : Prop where
  holds : ∀ m, m.cpu = cpu → host.memory m = memory → ∀ a m', p m = .ok a m' →
    Q a m'.cpu (host.memory m')

section EndsIn

variable {host : Host} {cpu : γ} {memory : Dword → Byte}
  {Q Q' : α → γ → (Dword → Byte) → Prop}
variable {p : Interp γ α}

theorem EndsIn.of_ok {m m' : Machine γ} {a : α} (h : EndsIn host m.cpu (host.memory m) p Q)
    (hp : p m = .ok a m') : Q a m'.cpu (host.memory m') :=
  h.holds m rfl rfl a m' hp

theorem EndsIn.mono (h : EndsIn host cpu memory p Q)
    (hQ : ∀ a cpu' memory', Q a cpu' memory' → Q' a cpu' memory') : EndsIn host cpu memory p Q' :=
  ⟨fun m hcpu hmemory a m' hp => hQ a m'.cpu _ (h.holds m hcpu hmemory a m' hp)⟩

theorem endsIn_pure {a : α} (h : Q a cpu memory) : EndsIn host cpu memory (pure a) Q := by
  constructor
  rintro m rfl rfl b m' hp
  cases hp
  exact h

theorem endsIn_bind {x : Interp γ β} {f : β → Interp γ α}
    (h : EndsIn host cpu memory x fun b cpu' memory' => EndsIn host cpu' memory' (f b) Q) :
    EndsIn host cpu memory (x >>= f) Q := by
  constructor
  intro m hcpu hmemory a m' hp
  obtain ⟨b, between, hx, hf⟩ := bind_ok hp
  exact (h.holds m hcpu hmemory b between hx).of_ok hf

theorem endsIn_seq {x : Interp γ β} {f : β → Interp γ α} {R : β → γ → (Dword → Byte) → Prop}
    (hx : EndsIn host cpu memory x R)
    (hf : ∀ b cpu' memory', R b cpu' memory' → EndsIn host cpu' memory' (f b) Q) :
    EndsIn host cpu memory (x >>= f) Q :=
  endsIn_bind (hx.mono hf)

theorem endsIn_ite {c : Prop} [Decidable c] {x y : Interp γ α}
    (hx : c → EndsIn host cpu memory x Q) (hy : ¬c → EndsIn host cpu memory y Q) :
    EndsIn host cpu memory (if c then x else y) Q := by
  by_cases hc : c
  · rw [if_pos hc]
    exact hx hc
  · rw [if_neg hc]
    exact hy hc

theorem endsIn_decline : EndsIn host cpu memory (decline : Interp γ α) Q := by
  constructor
  intro m _ _ a m' hp
  cases hp

theorem endsIn_declineIf {c : Prop} [Decidable c] {f : Unit → Interp γ α}
    (h : ¬c → EndsIn host cpu memory (f ()) Q) : EndsIn host cpu memory (declineIf c >>= f) Q :=
  endsIn_bind (endsIn_ite (fun _ => endsIn_decline) fun hc => endsIn_pure (h hc))

theorem endsIn_onlyIf {c : Prop} [Decidable c] {x : Interp γ Unit}
    {Q : Unit → γ → (Dword → Byte) → Prop} (hx : c → EndsIn host cpu memory x Q)
    (hskip : ¬c → Q () cpu memory) : EndsIn host cpu memory (onlyIf c x) Q := by
  exact endsIn_ite hx fun hc => endsIn_pure (hskip hc)

theorem endsIn_getCpu {f : γ → Interp γ α} (h : EndsIn host cpu memory (f cpu) Q) :
    EndsIn host cpu memory (getCpu >>= f) Q := by
  apply endsIn_bind
  constructor
  rintro m rfl rfl a m' hp
  cases hp
  exact h

theorem endsIn_modifyCpu {change : γ → γ} {Q : Unit → γ → (Dword → Byte) → Prop}
    (h : Q () (change cpu) memory) : EndsIn host cpu memory (modifyCpu change) Q := by
  constructor
  rintro m rfl rfl a m' hp
  cases hp
  exact h

variable (hkeeps : host.KeepsMemory)

include hkeeps

theorem onlyReads_memory {m m' : Machine γ} (h : OnlyReads m m') :
    host.memory m' = host.memory m := by
  obtain ⟨-, reads, hcalls, hread⟩ := h
  funext linear
  unfold Host.memory
  rw [hcalls, hkeeps.read8_append hread]

/-- A program that reads leaves the processor and the memory. -/
theorem endsIn_reads [hreads : Leaves OnlyReads p]
    (h : ∀ m a m', m.cpu = cpu → host.memory m = memory → p m = .ok a m' → Q a cpu memory) :
    EndsIn host cpu memory p Q := by
  constructor
  rintro m rfl rfl a m' hp
  have hreads := Leaves.of_ok (R := OnlyReads) hp
  rw [hreads.1, onlyReads_memory hkeeps hreads]
  exact h m a m' rfl rfl hp

/-- As `endsIn_reads`, when what was read does not matter. -/
theorem endsIn_anyRead {p : Interp γ β} {f : β → Interp γ α} [Leaves OnlyReads p]
    (h : ∀ b, EndsIn host cpu memory (f b) Q) : EndsIn host cpu memory (p >>= f) Q :=
  endsIn_bind (endsIn_reads hkeeps fun _ b _ _ _ _ => h b)

theorem endsIn_fetch {linear : Dword} {Q : Byte → γ → (Dword → Byte) → Prop}
    (h : Q (memory linear) cpu memory) : EndsIn host cpu memory (fetch host linear) Q := by
  apply endsIn_reads hkeeps
  rintro m a m' - rfl hp
  cases hp
  exact h

omit hkeeps

section

variable {linear : Dword} {width : Width} {f : Dword → Interp γ α} (hkeeps : host.KeepsMemory)
  (h : EndsIn host cpu memory (f (valueAt memory linear width)) Q)

include hkeeps h

theorem endsIn_readMemory : EndsIn host cpu memory (readMemory host linear width >>= f) Q := by
  apply endsIn_bind
  apply endsIn_reads hkeeps
  rintro m a m' - rfl hp
  cases width with
  | byte =>
    cases hp
    exact h
  | word =>
    cases hp
    rw [hkeeps.read8_cons (.read linear) trivial]
    exact h
  | dword =>
    cases hp
    simp only [hkeeps.read8_cons (.read _) trivial]
    exact h

theorem endsIn_fetchMemory : EndsIn host cpu memory (fetchMemory host linear width >>= f) Q := by
  apply endsIn_bind
  apply endsIn_reads hkeeps
  rintro m a m' - rfl hp
  cases width with
  | byte =>
    cases hp
    exact h
  | word =>
    cases hp
    rw [hkeeps.read8_cons (.fetch linear) trivial]
    exact h
  | dword =>
    cases hp
    simp only [hkeeps.read8_cons (.fetch _) trivial]
    exact h

end

theorem endsIn_writeMemory {linear value : Dword} {width : Width}
    {Q : Unit → γ → (Dword → Byte) → Prop} (hmemory : host.IsMemory)
    (h : Q () cpu (storeAt memory linear value width)) :
    EndsIn host cpu memory (writeMemory linear value width) Q := by
  constructor
  rintro m rfl rfl a m' hp
  have hstored : host.memory m' = storeAt (host.memory m) linear value width ∧ m'.cpu = m.cpu := by
    cases width with
    | byte =>
      cases hp
      exact ⟨hmemory.written _ _ _, rfl⟩
    | word =>
      cases hp
      refine ⟨?_, rfl⟩
      unfold Host.memory
      rw [hmemory.written, hmemory.written]
      rfl
    | dword =>
      cases hp
      refine ⟨?_, rfl⟩
      unfold Host.memory
      rw [hmemory.written, hmemory.written, hmemory.written, hmemory.written]
      rfl
  rw [hstored.1, hstored.2]
  exact h

end EndsIn

end Interp

/-!
## Elements moved in a memory

A value stored, or one copied, a byte at a time, and elements moved one after another.
-/

/-! ## Bytes of a value -/

section Bytes

variable (memory : Dword → Byte) (linear value source : Dword)

def storeBytes : Nat → Dword → Byte
  | 0 => memory
  | n + 1 =>
    Function.update (storeBytes n) (linear + BitVec.ofNat 32 n) ((value >>> (8 * n)).setWidth 8)

/-- Bytes copied from `source`, the low byte first, each read when it is written. -/
def copyBytes : Nat → Dword → Byte
  | 0 => memory
  | n + 1 =>
    Function.update (copyBytes n) (linear + BitVec.ofNat 32 n)
      (copyBytes n (source + BitVec.ofNat 32 n))

theorem storeBytes_eq (width : Width) :
    storeBytes memory linear value width.bytes = storeAt memory linear value width := by
  cases width with
  | byte => simp [storeBytes, storeAt, bytes]
  | word => simp [storeBytes, storeAt, bytes]
  | dword => simp [storeBytes, storeAt, bytes]

variable {memory linear value source}

theorem storeBytes_of_ne {n : Nat} {address : Dword}
    (h : ∀ i < n, address ≠ linear + BitVec.ofNat 32 i) :
    storeBytes memory linear value n address = memory address := by
  induction n with
  | zero => rfl
  | succ n ih =>
    unfold storeBytes
    rw [update_of_ne (h n (lt_succ_self n))]
    exact ih fun i hi => h i (lt_succ_of_lt hi)

theorem byte_valueAt (memory : Dword → Byte) (linear : Dword) {width : Width} {i : Nat}
    (hi : i < width.bytes) :
    (valueAt memory linear width >>> (8 * i)).setWidth 8 =
      memory (linear + BitVec.ofNat 32 i) := by
  have hzero : linear + BitVec.ofNat 32 0 = linear := BitVec.add_zero _
  apply BitVec.eq_of_getLsbD_eq
  intro bit hbit
  have hlow : bit < 32 := by lia
  have hsecond : 8 + bit < 16 ∧ 8 + bit < 24 ∧ 8 + bit < 32 := by lia
  have hthird : ¬16 + bit < 8 ∧ 16 + bit < 24 ∧ 16 + bit < 32 := by lia
  have hfourth : 24 + bit < 32 := by lia
  have hbeyond : ∀ position address, 8 ≤ position → (memory address).getLsbD position = false :=
    fun position address hge => BitVec.getLsbD_of_ge _ position hge
  cases width with
  | byte =>
    obtain rfl : i = 0 := by simp only [bytes] at hi; lia
    simp [valueAt, hbit, hzero]
  | word =>
    obtain rfl | rfl : i = 0 ∨ i = 1 := by simp only [bytes] at hi; lia
    · simp [valueAt, hbit, hzero]
    · simp [valueAt, hbit, hlow, hsecond]
  | dword =>
    obtain rfl | rfl | rfl | rfl : i = 0 ∨ i = 1 ∨ i = 2 ∨ i = 3 := by
      simp only [bytes] at hi
      lia
    · simp [valueAt, hbit, hzero]
    · simp [valueAt, hbit, hlow, hsecond]
    · simp [valueAt, hbit, hlow, hthird, hbeyond (16 + bit) _ (by lia),
        hbeyond (16 + bit - 8) _ (by lia)]
    · simp [valueAt, hbit, hlow, hfourth, hbeyond (24 + bit) _ (by lia),
        hbeyond (24 + bit - 8) _ (by lia), hbeyond (24 + bit - 16) _ (by lia)]

theorem copyBytes_eq_storeBytes {width : Width}
    (hapart : linear = source ∨ width.bytes ≤ (linear - source).toNat) {n : Nat}
    (hn : n ≤ width.bytes) :
    copyBytes memory linear source n =
      storeBytes memory linear (valueAt memory source width) n := by
  have hbytes : width.bytes ≤ 4 := by cases width <;> decide
  induction n with
  | zero => rfl
  | succ n ih =>
    have hlt : n < width.bytes := hn
    have hother : ∀ i < n, source + BitVec.ofNat 32 n ≠ linear + BitVec.ofNat 32 i := by
      intro i hi heq
      have hoffset : linear - source = BitVec.ofNat 32 (n - i) := by
        rw [← Nat.sub_add_cancel hi.le, BitVec.ofNat_add, ← add_assoc] at heq
        rw [← add_right_cancel heq, add_sub_cancel_left]
      have hdistance : (linear - source).toNat = n - i := by
        rw [hoffset, BitVec.toNat_ofNat, mod_eq_of_lt (by lia)]
      rcases hapart with rfl | hapart
      · rw [sub_self] at hdistance
        exact sub_ne_zero_of_lt hi hdistance.symm
      · lia
    unfold copyBytes storeBytes
    rw [ih (le_of_succ_le hn), storeBytes_of_ne hother, byte_valueAt memory source hlt]

theorem storeBytes_congr {value' : Dword} {n : Nat}
    (h : ∀ i < n, (value >>> (8 * i)).setWidth 8 = (value' >>> (8 * i)).setWidth 8) :
    storeBytes memory linear value n = storeBytes memory linear value' n := by
  induction n with
  | zero => rfl
  | succ n ih =>
    unfold storeBytes
    rw [ih fun i hi => h i (lt_succ_of_lt hi), h n (lt_succ_self n)]

end Bytes

/-- What an element of a move does to the memory. -/
inductive ElementMove where
  | copy
  | store
  | load

namespace ElementMove

variable (move : ElementMove) (width : Width) (value : Dword)

def once (linear source : Dword) (memory : Dword → Byte) : Dword → Byte :=
  match move with
  | copy => storeAt memory linear (valueAt memory source width) width
  | store => storeAt memory linear value width
  | load => memory

/-- Elements one after another, a stride apart. -/
def times (stride : Dword) : Nat → Dword → Dword → (Dword → Byte) → Dword → Byte
  | 0, _, _, memory => memory
  | count + 1, linear, source, memory =>
    times stride count (linear + stride) (source + stride)
      (move.once width value linear source memory)

theorem times_congr {move : ElementMove} {width : Width} {value value' : Dword}
    (h : move = store → ∀ memory linear, storeAt memory linear value width =
      storeAt memory linear value' width) (stride : Dword) (count : Nat) (linear source : Dword)
    (memory : Dword → Byte) :
    move.times width value stride count linear source memory =
      move.times width value' stride count linear source memory := by
  have honce (linear source : Dword) (memory : Dword → Byte) :
      move.once width value linear source memory = move.once width value' linear source memory := by
    cases move with
    | copy => rfl
    | store => exact h rfl memory linear
    | load => rfl
  induction count generalizing linear source memory with
  | zero => rfl
  | succ count ih =>
    unfold times
    rw [honce, ih]

end ElementMove

namespace Interp

variable {γ α : Type}

theorem forEach_append (action : α → Interp γ Unit) (xs ys : List α) :
    forEach action (xs ++ ys) = (forEach action xs >>= fun _ => forEach action ys) := by
  induction xs with
  | nil => rfl
  | cons x xs ih =>
    change (action x >>= fun _ => forEach action (xs ++ ys)) =
      ((action x >>= fun _ => forEach action xs) >>= fun _ => forEach action ys)
    rw [ih, bind_assoc]

section EndsIn

variable {host : Host} {cpu : γ} {memory : Dword → Byte}

theorem endsIn_read {linear : Dword} {Q : Byte → γ → (Dword → Byte) → Prop}
    (hkeeps : host.KeepsMemory) (h : Q (memory linear) cpu memory) :
    EndsIn host cpu memory (read host linear) Q := by
  apply endsIn_reads hkeeps
  rintro m a m' - rfl hp
  cases hp
  exact h

theorem endsIn_write {linear : Dword} {value : Byte} {Q : Unit → γ → (Dword → Byte) → Prop}
    (hmemory : host.IsMemory) (h : Q () cpu (Function.update memory linear value)) :
    EndsIn host cpu memory (write linear value) Q := by
  constructor
  rintro m rfl rfl a m' hp
  cases hp
  have hwritten := hmemory.written m.calls linear value
  change Q () m.cpu (host.read8 (.write linear value :: m.calls))
  rw [hwritten]
  exact h

/-- A loop over the first numbers, and the memory before each of them. -/
theorem endsIn_forEach_range {action : Nat → Interp γ Unit} (memoryAt : Nat → Dword → Byte)
    {n : Nat} (hfirst : memoryAt 0 = memory)
    (hstep : ∀ i < n, EndsIn host cpu (memoryAt i) (action i) fun _ cpu' memory' =>
      cpu' = cpu ∧ memory' = memoryAt (i + 1)) :
    EndsIn host cpu memory (forEach action (List.range n)) fun _ cpu' memory' =>
      cpu' = cpu ∧ memory' = memoryAt n := by
  induction n with
  | zero => exact endsIn_pure ⟨rfl, hfirst.symm⟩
  | succ n ih =>
    rw [List.range_succ, forEach_append]
    refine endsIn_seq (ih fun i hi => hstep i (lt_succ_of_lt hi)) ?_
    rintro _ cpu' memory' ⟨rfl, rfl⟩
    refine endsIn_seq (hstep n (lt_succ_self n)) ?_
    rintro _ cpu'' memory'' ⟨rfl, rfl⟩
    exact endsIn_pure ⟨rfl, rfl⟩

end EndsIn

end Interp

end Ntvdmex.Foundation
