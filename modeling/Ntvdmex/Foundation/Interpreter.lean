import Mathlib

/-!
# Instruction interpreters

An interpreter keeps the state of a processor and calls a host for memory and ports.  A step
ends, or stops: it declines the instruction, or it traps.  A stop keeps the machine as it is
at the stop, so that what a step changed before it stopped can be seen.

The host is a function of the calls made to it so far, which is any deterministic host.  The
rules below are one for each way programs are put together, for four properties: what a
program leaves of the machine, that it never stops, that it declines with nothing changed,
and what holds after it when something holds before it.
-/

namespace Ntvdmex.Foundation

abbrev Byte := BitVec 8
abbrev Word := BitVec 16
abbrev Dword := BitVec 32

inductive HostCall where
  | fetch (linear : Dword)
  | read (linear : Dword)
  | write (linear : Dword) (value : Byte)
  | portIn (port : Word) (width : Nat)
  | portOut (port : Word) (width : Nat) (value : Dword)
  | probe (linear : Dword) (length : Nat) (isWrite : Bool)

structure Host where
  read8 : List HostCall → Dword → Byte
  portIn : List HostCall → Word → Nat → Dword

/-- A processor, and the calls made to the host, the last one first. -/
structure Machine (γ : Type) where
  cpu : γ
  calls : List HostCall

inductive Stop where
  | declined
  | trapped
deriving DecidableEq

abbrev Interp (γ : Type) := EStateM Stop (Machine γ)

variable {γ α β δ : Type}

namespace Interp

/-! ## Programs -/

def decline : Interp γ α := fun m => .error .declined m

def trap : Interp γ α := fun m => .error .trapped m

def declineIf (c : Prop) [Decidable c] : Interp γ Unit := if c then decline else pure ()

def trapIf (c : Prop) [Decidable c] : Interp γ Unit := if c then trap else pure ()

/-- `if (c) action`. -/
def onlyIf (c : Prop) [Decidable c] (action : Interp γ Unit) : Interp γ Unit :=
  if c then action else pure ()

def getCpu : Interp γ γ := fun m => .ok m.cpu m

def modifyCpu (f : γ → γ) : Interp γ Unit := fun m => .ok () { m with cpu := f m.cpu }

/-- A change of the processor that has a result. -/
def updateCpu (f : γ → α × γ) : Interp γ α :=
  fun m => .ok (f m.cpu).1 { m with cpu := (f m.cpu).2 }

def fetch (host : Host) (linear : Dword) : Interp γ Byte :=
  fun m => .ok (host.read8 m.calls linear) { m with calls := .fetch linear :: m.calls }

def read (host : Host) (linear : Dword) : Interp γ Byte :=
  fun m => .ok (host.read8 m.calls linear) { m with calls := .read linear :: m.calls }

def write (linear : Dword) (value : Byte) : Interp γ Unit :=
  fun m => .ok () { m with calls := .write linear value :: m.calls }

def portIn (host : Host) (port : Word) (width : Nat) : Interp γ Dword :=
  fun m => .ok (host.portIn m.calls port width) { m with calls := .portIn port width :: m.calls }

def portOut (port : Word) (width : Nat) (value : Dword) : Interp γ Unit :=
  fun m => .ok () { m with calls := .portOut port width value :: m.calls }

def probe (canAccess : Dword → Nat → Bool → Bool) (linear : Dword) (length : Nat)
    (isWrite : Bool) : Interp γ Unit :=
  fun m =>
    if canAccess linear length isWrite then
      .ok () { m with calls := .probe linear length isWrite :: m.calls }
    else .error .declined { m with calls := .probe linear length isWrite :: m.calls }

/-- `action` for each element, in order. -/
def forEach (action : α → Interp γ Unit) : List α → Interp γ Unit
  | [] => pure ()
  | x :: xs => do
    action x
    forEach action xs

/-- The machine `p` leaves, ended or stopped. -/
def after (p : Interp γ α) (m : Machine γ) : Machine γ :=
  match p m with
  | .ok _ m' => m'
  | .error _ m' => m'

section

variable {x : Interp γ α} {f : α → Interp γ β}

theorem bind_ok {m m' : Machine γ} {b : β}
    (h : (x >>= f) m = .ok b m') : ∃ a between, x m = .ok a between ∧ f a between = .ok b m' := by
  change EStateM.bind x f m = _ at h
  unfold EStateM.bind at h
  cases hx : x m with
  | ok a between =>
    rw [hx] at h
    exact ⟨a, between, rfl, h⟩
  | error stop between =>
    rw [hx] at h
    cases h

theorem bind_of_ok {m between : Machine γ} {a : α}
    (h : x m = .ok a between) : (x >>= f) m = f a between := by
  change EStateM.bind x f m = _
  unfold EStateM.bind
  rw [h]

theorem bind_of_error {m between : Machine γ} {stop : Stop}
    (h : x m = .error stop between) : (x >>= f) m = .error stop between := by
  change EStateM.bind x f m = _
  unfold EStateM.bind
  rw [h]

end

/-! ## What a program leaves -/

section Leaves

variable {R : Machine γ → Machine γ → Prop}

/-- However `p` goes, it takes a machine to one that is related to it. -/
class Leaves (R : Machine γ → Machine γ → Prop) (p : Interp γ α) : Prop where
  after_related : ∀ m, R m (p.after m)

theorem Leaves.of_ok {p : Interp γ α} [h : Leaves R p] {m m' : Machine γ} {a : α}
    (hp : p m = .ok a m') : R m m' := by
  have hm := h.after_related m
  unfold after at hm
  rw [hp] at hm
  exact hm

theorem Leaves.of_error {p : Interp γ α} [h : Leaves R p] {m m' : Machine γ} {stop : Stop}
    (hp : p m = .error stop m') : R m m' := by
  have hm := h.after_related m
  unfold after at hm
  rw [hp] at hm
  exact hm

instance {c : Prop} [Decidable c] {x y : Interp γ α} [hx : Leaves R x]
    [hy : Leaves R y] : Leaves R (if c then x else y) := by
  split
  · exact hx
  · exact hy

variable [IsPreorder (Machine γ) R]

instance leaves_pure (a : α) : Leaves R (pure a : Interp γ α) :=
  ⟨fun m => refl_of R m⟩

instance leaves_decline : Leaves R (decline : Interp γ α) :=
  ⟨fun m => refl_of R m⟩

instance : Leaves R (trap : Interp γ α) :=
  ⟨fun m => refl_of R m⟩

instance : Leaves R (getCpu : Interp γ γ) :=
  ⟨fun m => refl_of R m⟩

instance {x : Interp γ α} {f : α → Interp γ β} [Leaves R x]
    [hf : ∀ a, Leaves R (f a)] : Leaves R (x >>= f) where
  after_related := by
    intro m
    unfold after
    cases hxm : x m with
    | ok a between =>
      rw [bind_of_ok hxm]
      exact trans_of R (Leaves.of_ok hxm) ((hf a).after_related between)
    | error stop between =>
      rw [bind_of_error hxm]
      exact Leaves.of_error hxm

instance {c : Prop} [Decidable c] : Leaves R (declineIf c : Interp γ Unit) := by
  unfold declineIf
  infer_instance

instance {c : Prop} [Decidable c] : Leaves R (trapIf c : Interp γ Unit) := by
  unfold trapIf
  infer_instance

instance {c : Prop} [Decidable c] {x : Interp γ Unit} [Leaves R x] : Leaves R (onlyIf c x) := by
  unfold onlyIf
  infer_instance

instance {action : α → Interp γ Unit} {xs : List α}
    [∀ x, Leaves R (action x)] : Leaves R (forEach action xs) := by
  induction xs with
  | nil => exact leaves_pure ()
  | cons x xs ih =>
    unfold forEach
    infer_instance

end Leaves

/-! ## Programs that never stop -/

section Completes

class Completes (p : Interp γ α) : Prop where
  ends : ∀ m, ∃ a m', p m = .ok a m'

instance completes_pure (a : α) : Completes (pure a : Interp γ α) :=
  ⟨fun m => ⟨a, m, rfl⟩⟩

instance : Completes (getCpu : Interp γ γ) :=
  ⟨fun m => ⟨m.cpu, m, rfl⟩⟩

instance (f : γ → γ) : Completes (modifyCpu f) :=
  ⟨fun _ => ⟨(), _, rfl⟩⟩

instance (f : γ → α × γ) : Completes (updateCpu f) :=
  ⟨fun _ => ⟨_, _, rfl⟩⟩

instance (host : Host) (linear : Dword) : Completes (fetch host linear : Interp γ Byte) :=
  ⟨fun _ => ⟨_, _, rfl⟩⟩

instance (host : Host) (linear : Dword) : Completes (read host linear : Interp γ Byte) :=
  ⟨fun _ => ⟨_, _, rfl⟩⟩

instance (linear : Dword) (value : Byte) : Completes (write linear value : Interp γ Unit) :=
  ⟨fun _ => ⟨_, _, rfl⟩⟩

instance (host : Host) (port : Word) (width : Nat) :
    Completes (portIn host port width : Interp γ Dword) :=
  ⟨fun _ => ⟨_, _, rfl⟩⟩

instance (port : Word) (width : Nat) (value : Dword) :
    Completes (portOut port width value : Interp γ Unit) :=
  ⟨fun _ => ⟨_, _, rfl⟩⟩

instance {x : Interp γ α} {f : α → Interp γ β} [hx : Completes x]
    [hf : ∀ a, Completes (f a)] : Completes (x >>= f) where
  ends := by
    intro m
    obtain ⟨a, between, hxm⟩ := hx.ends m
    rw [bind_of_ok hxm]
    exact (hf a).ends between

instance {c : Prop} [Decidable c] {x y : Interp γ α} [hx : Completes x]
    [hy : Completes y] : Completes (if c then x else y) := by
  split
  · exact hx
  · exact hy

instance {c : Prop} [Decidable c] {x : Interp γ Unit} [Completes x] : Completes (onlyIf c x) := by
  unfold onlyIf
  infer_instance

instance {action : α → Interp γ Unit} {xs : List α}
    [∀ x, Completes (action x)] : Completes (forEach action xs) := by
  induction xs with
  | nil => exact completes_pure ()
  | cons x xs ih =>
    unfold forEach
    infer_instance

end Completes

/-! ## Exact declines -/

section Exact

variable {R : Machine γ → Machine γ → Prop}

/-- When `p` declines, the machine it leaves is related to the one it was given. -/
class DeclinesInto (R : Machine γ → Machine γ → Prop) (p : Interp γ α) : Prop where
  related : ∀ m m', p m = .error .declined m' → R m m'

/-- While nothing but `R` has happened, a program may still decline. -/
instance [IsPreorder (Machine γ) R] {x : Interp γ α} {f : α → Interp γ β}
    [Leaves R x] [hf : ∀ a, DeclinesInto R (f a)] : DeclinesInto R (x >>= f) where
  related := by
    intro m m' hp
    cases hxm : x m with
    | ok a between =>
      rw [bind_of_ok hxm] at hp
      exact trans_of R (Leaves.of_ok hxm) ((hf a).related between m' hp)
    | error stop between =>
      rw [bind_of_error hxm] at hp
      cases hp
      exact Leaves.of_error hxm

/-- What follows the last way to decline may change anything. -/
instance {x : Interp γ α} {f : α → Interp γ β} [hx : DeclinesInto R x]
    [hf : ∀ a, Completes (f a)] : DeclinesInto R (x >>= f) where
  related := by
    intro m m' hp
    cases hxm : x m with
    | ok a between =>
      obtain ⟨b, last, hlast⟩ := (hf a).ends between
      rw [bind_of_ok hxm, hlast] at hp
      cases hp
    | error stop between =>
      rw [bind_of_error hxm] at hp
      cases hp
      exact hx.related m _ hxm

instance {c : Prop} [Decidable c] {x y : Interp γ α} [hx : DeclinesInto R x]
    [hy : DeclinesInto R y] : DeclinesInto R (if c then x else y) := by
  split
  · exact hx
  · exact hy

instance [IsPreorder (Machine γ) R] : DeclinesInto R (decline : Interp γ α) :=
  ⟨fun _ _ hp => Leaves.of_error hp⟩

instance [IsPreorder (Machine γ) R] (a : α) : DeclinesInto R (pure a : Interp γ α) :=
  ⟨fun _ _ hp => Leaves.of_error hp⟩

instance [IsPreorder (Machine γ) R] {c : Prop} [Decidable c]
    {x : Interp γ Unit} [DeclinesInto R x] : DeclinesInto R (onlyIf c x) := by
  unfold onlyIf
  infer_instance

/-- Once something else has happened, a program has to go on to its end. -/
instance {p : Interp γ α} [h : Completes p] : DeclinesInto R p where
  related := by
    intro m m' hp
    obtain ⟨a, between, hm⟩ := h.ends m
    rw [hm] at hp
    cases hp

end Exact

section Ensures

variable {P P' : Machine γ → Prop} {Q Q' : α → Machine γ → Prop}

/-- When `P` holds before `p` and `p` ends, `Q` holds after it. -/
def Ensures (P : Machine γ → Prop) (p : Interp γ α) (Q : α → Machine γ → Prop) : Prop :=
  ∀ m, P m → ∀ a m', p m = .ok a m' → Q a m'

theorem ensures_pure {a : α} (h : ∀ m, P m → Q a m) : Ensures P (pure a : Interp γ α) Q := by
  intro m hm b m' hp
  cases hp
  exact h m hm

theorem ensures_ite {c : Prop} [Decidable c] {x y : Interp γ α} (hx : c → Ensures P x Q)
    (hy : ¬c → Ensures P y Q) : Ensures P (if c then x else y) Q := by
  split
  · rename_i hc
    exact hx hc
  · rename_i hc
    exact hy hc

end Ensures

end Interp

/-! ## Programs that only read -/

def HostCall.IsRead : HostCall → Prop
  | .fetch _ => True
  | .read _ => True
  | .probe _ _ _ => True
  | .write _ _ => False
  | .portIn _ _ => False
  | .portOut _ _ _ => False

/-- The processor is the same, and only reads and probes were made. -/
def OnlyReads (before after : Machine γ) : Prop :=
  after.cpu = before.cpu ∧
    ∃ reads, after.calls = reads ++ before.calls ∧ ∀ call ∈ reads, call.IsRead

instance : IsPreorder (Machine γ) OnlyReads where
  refl m := ⟨rfl, [], rfl, fun _ h => absurd h List.not_mem_nil⟩
  trans := by
    rintro before between after ⟨hcpu, reads, hcalls, hreads⟩ ⟨hcpu', reads', hcalls', hreads'⟩
    refine ⟨hcpu'.trans hcpu, reads' ++ reads, ?_, fun call hcall => ?_⟩
    · rw [hcalls', hcalls, List.append_assoc]
    · rcases List.mem_append.mp hcall with h | h
      · exact hreads' call h
      · exact hreads call h

theorem onlyReads_cons {m : Machine γ} {call : HostCall} (hcall : call.IsRead) :
    OnlyReads m { m with calls := call :: m.calls } :=
  ⟨rfl, [call], rfl, fun _ h => by rwa [List.mem_singleton.mp h]⟩

/-- `f` of the processor is the same. -/
def SameCpu (f : γ → δ) (before after : Machine γ) : Prop :=
  f after.cpu = f before.cpu

instance (f : γ → δ) : IsPreorder (Machine γ) (SameCpu f) where
  refl _ := rfl
  trans := fun _ _ _ h h' => h'.trans h

namespace Interp

instance (host : Host) (linear : Dword) : Leaves OnlyReads (fetch host linear : Interp γ Byte) :=
  ⟨fun _ => onlyReads_cons trivial⟩

instance (host : Host) (linear : Dword) : Leaves OnlyReads (read host linear : Interp γ Byte) :=
  ⟨fun _ => onlyReads_cons trivial⟩

instance (canAccess : Dword → Nat → Bool → Bool) (linear : Dword) (length : Nat) (isWrite : Bool) :
    Leaves OnlyReads (probe canAccess linear length isWrite : Interp γ Unit) where
  after_related := by
    intro m
    unfold after probe
    by_cases hprobe : canAccess linear length isWrite = true
    · rw [if_pos hprobe]
      exact onlyReads_cons trivial
    · rw [if_neg hprobe]
      exact onlyReads_cons trivial

section SameCpu

variable {f : γ → δ}

instance (host : Host) (linear : Dword) : Leaves (SameCpu f) (read host linear) :=
  ⟨fun _ => rfl⟩

instance (linear : Dword) (value : Byte) : Leaves (SameCpu f) (write linear value) :=
  ⟨fun _ => rfl⟩

theorem sameCpu_modifyCpu {change : γ → γ} (h : ∀ cpu, f (change cpu) = f cpu) :
    Leaves (SameCpu f) (modifyCpu change) :=
  ⟨fun m => h m.cpu⟩

theorem sameCpu_updateCpu {change : γ → α × γ} (h : ∀ cpu, f (change cpu).2 = f cpu) :
    Leaves (SameCpu f) (updateCpu change) :=
  ⟨fun m => h m.cpu⟩

end SameCpu

end Interp

/-! ## Operands -/

/-- The width of an operand, in bytes 1, 2 and 4. -/
inductive Width where
  | byte
  | word
  | dword
deriving DecidableEq

def Width.bytes : Width → Nat
  | .byte => 1
  | .word => 2
  | .dword => 4

def Width.bits (width : Width) : Nat := 8 * width.bytes

namespace Interp

/-- A little-endian value, the low byte read first. -/
def readMemory (host : Host) (linear : Dword) : Width → Interp γ Dword
  | .byte => do
    let first ← read host linear
    return first.setWidth 32
  | .word => do
    let first ← read host linear
    let second ← read host (linear + 1)
    return first.setWidth 32 ||| second.setWidth 32 <<< 8
  | .dword => do
    let first ← read host linear
    let second ← read host (linear + 1)
    let third ← read host (linear + 2)
    let fourth ← read host (linear + 3)
    return first.setWidth 32 ||| second.setWidth 32 <<< 8 ||| third.setWidth 32 <<< 16 |||
      fourth.setWidth 32 <<< 24

def writeMemory (linear : Dword) (value : Dword) : Width → Interp γ Unit
  | .byte => write linear (value.setWidth 8)
  | .word => do
    write linear (value.setWidth 8)
    write (linear + 1) ((value >>> 8).setWidth 8)
  | .dword => do
    write linear (value.setWidth 8)
    write (linear + 1) ((value >>> 8).setWidth 8)
    write (linear + 2) ((value >>> 16).setWidth 8)
    write (linear + 3) ((value >>> 24).setWidth 8)

/-- A little-endian value of the instruction stream. -/
def fetchMemory (host : Host) (linear : Dword) : Width → Interp γ Dword
  | .byte => do
    let first ← fetch host linear
    return first.setWidth 32
  | .word => do
    let first ← fetch host linear
    let second ← fetch host (linear + 1)
    return first.setWidth 32 ||| second.setWidth 32 <<< 8
  | .dword => do
    let first ← fetch host linear
    let second ← fetch host (linear + 1)
    let third ← fetch host (linear + 2)
    let fourth ← fetch host (linear + 3)
    return first.setWidth 32 ||| second.setWidth 32 <<< 8 ||| third.setWidth 32 <<< 16 |||
      fourth.setWidth 32 <<< 24

instance (host : Host) (linear : Dword) (width : Width) :
    Leaves OnlyReads (readMemory host linear width : Interp γ Dword) := by
  cases width <;> unfold readMemory <;> infer_instance

instance (host : Host) (linear : Dword) (width : Width) :
    Leaves OnlyReads (fetchMemory host linear width : Interp γ Dword) := by
  cases width <;> unfold fetchMemory <;> infer_instance

instance (host : Host) (linear : Dword) (width : Width) :
    Completes (readMemory host linear width : Interp γ Dword) := by
  cases width <;> unfold readMemory <;> infer_instance

instance (host : Host) (linear : Dword) (width : Width) :
    Completes (fetchMemory host linear width : Interp γ Dword) := by
  cases width <;> unfold fetchMemory <;> infer_instance

instance (linear value : Dword) (width : Width) :
    Completes (writeMemory linear value width : Interp γ Unit) := by
  cases width <;> unfold writeMemory <;> infer_instance

end Interp

end Ntvdmex.Foundation
