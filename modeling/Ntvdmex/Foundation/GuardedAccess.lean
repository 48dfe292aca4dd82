import Ntvdmex.Foundation.Interpreter

/-!
# Guarded memory access

A program may ask its host for leave before it touches memory.  It is guarded when every byte
it reads or writes was granted: by a probe it made that the host allowed, or before it began.
What is granted is a set of bytes, each with whether it may be written, that grows along a
program as its probes succeed.
-/

namespace Ntvdmex.Foundation

open Set List

variable {γ α β ι : Type}

def accessBytes (linear : Dword) (length : Nat) (isWrite : Bool) : Set (Dword × Bool) :=
  {byte | (byte.2 = true → isWrite = true) ∧
    ∃ position < length, byte.1 = linear + BitVec.ofNat 32 position}

/-- The bytes of the accesses that were asked for among `calls` and allowed. -/
def grantedBytes (canAccess : Dword → Nat → Bool → Bool) (calls : List HostCall) :
    Set (Dword × Bool) :=
  {byte | ∃ linear length isWrite, .probe linear length isWrite ∈ calls ∧
    canAccess linear length isWrite = true ∧ byte ∈ accessBytes linear length isWrite}

def HostCall.IsWithin (bytes : Set (Dword × Bool)) : HostCall → Prop
  | .read linear => (linear, false) ∈ bytes
  | .write linear _ => (linear, true) ∈ bytes
  | _ => True

theorem HostCall.IsWithin.mono {bytes bytes' : Set (Dword × Bool)} {call : HostCall}
    (h : call.IsWithin bytes) (hsubset : bytes ⊆ bytes') : call.IsWithin bytes' := by
  cases call with
  | read linear => exact hsubset h
  | write linear value => exact hsubset h
  | _ => trivial

theorem mem_accessBytes {linear : Dword} {length position : Nat} {isWrite : Bool}
    (hposition : position < length) :
    (linear + BitVec.ofNat 32 position, isWrite) ∈ accessBytes linear length isWrite :=
  ⟨fun h => h, position, hposition, rfl⟩

theorem accessBytes_read_subset {linear : Dword} {length : Nat} (isWrite : Bool) :
    accessBytes linear length false ⊆ accessBytes linear length isWrite :=
  fun _ h => ⟨fun hwrite => absurd (h.1 hwrite) Bool.false_ne_true, h.2⟩

theorem grantedBytes_mono (canAccess : Dword → Nat → Bool → Bool) {calls calls' : List HostCall}
    (h : calls ⊆ calls') : grantedBytes canAccess calls ⊆ grantedBytes canAccess calls' := by
  rintro byte ⟨linear, length, isWrite, hcall, hgrant⟩
  exact ⟨linear, length, isWrite, h hcall, hgrant⟩

namespace Interp

variable {canAccess : Dword → Nat → Bool → Bool} {granted bytes bytes' : Set (Dword × Bool)}

/-- When `p` ends, the probes it made have been granted `bytes`. -/
class Grants (canAccess : Dword → Nat → Bool → Bool) (p : Interp γ α)
    (bytes : outParam (Set (Dword × Bool))) : Prop where
  grants : ∀ m a m', p m = .ok a m' →
    ∃ made, m'.calls = made ++ m.calls ∧ bytes ⊆ grantedBytes canAccess made

variable {action : ι → Interp γ Unit} {c : Prop} (linear : Dword) {p x : Interp γ α}
  {f : α → Interp γ β}

instance grants_probe (length : Nat) (isWrite : Bool) :
    Grants canAccess (probe canAccess linear length isWrite : Interp γ Unit)
      (accessBytes linear length isWrite) where
  grants := by
    intro m a m' hp
    unfold probe at hp
    by_cases hallowed : canAccess linear length isWrite = true
    · rw [if_pos hallowed] at hp
      cases hp
      refine ⟨[.probe linear length isWrite], rfl, fun byte hbyte => ?_⟩
      exact ⟨linear, length, isWrite, List.mem_singleton.mpr rfl, hallowed, hbyte⟩
    · rw [if_neg hallowed] at hp
      cases hp

theorem grants_onlyIf [Decidable c] {x : Interp γ Unit} (hx : Grants canAccess x bytes) :
    Grants canAccess (onlyIf c x) {byte | c ∧ byte ∈ bytes} where
  grants := by
    intro m a m' hp
    unfold onlyIf at hp
    by_cases hc : c
    · rw [if_pos hc] at hp
      obtain ⟨made, hcalls, hsubset⟩ := hx.grants m a m' hp
      exact ⟨made, hcalls, fun byte hbyte => hsubset hbyte.2⟩
    · rw [if_neg hc] at hp
      cases hp
      exact ⟨[], rfl, fun byte hbyte => absurd hbyte.1 hc⟩

theorem grants_bind (hx : Grants canAccess x bytes) (hf : ∀ a, Grants canAccess (f a) bytes') :
    Grants canAccess (x >>= f) (bytes ∪ bytes') where
  grants := by
    intro m b m' hp
    obtain ⟨a, between, hxm, hfm⟩ := bind_ok hp
    obtain ⟨first, hfirst, hbytes⟩ := hx.grants m a between hxm
    obtain ⟨second, hsecond, hbytes'⟩ := (hf a).grants between b m' hfm
    refine ⟨second ++ first, ?_, union_subset ?_ ?_⟩
    · rw [hsecond, hfirst, append_assoc]
    · exact hbytes.trans (grantedBytes_mono canAccess (subset_append_right second first))
    · exact hbytes'.trans (grantedBytes_mono canAccess (subset_append_left second first))

theorem grants_forEach {bytesOf : ι → Set (Dword × Bool)}
    (haction : ∀ x, Grants canAccess (action x) (bytesOf x)) (xs : List ι) :
    Grants canAccess (forEach action xs) {byte | ∃ x ∈ xs, byte ∈ bytesOf x} := by
  induction xs with
  | nil =>
    refine ⟨fun m a m' hp => ?_⟩
    cases hp
    exact ⟨[], rfl, fun byte ⟨x, hx, _⟩ => absurd hx not_mem_nil⟩
  | cons x xs ih =>
    refine ⟨fun m a m' hp => ?_⟩
    obtain ⟨made, hcalls, hsubset⟩ := (grants_bind (haction x) fun _ => ih).grants m a m' hp
    refine ⟨made, hcalls, fun byte ⟨y, hy, hbyte⟩ => hsubset ?_⟩
    rcases mem_cons.mp hy with rfl | hrest
    · exact Or.inl hbyte
    · exact Or.inr ⟨y, hrest, hbyte⟩

/-! ## Guarded programs -/

/-- However `p` goes, each byte it touches was granted before it or by one of its probes. -/
class Guarded (canAccess : Dword → Nat → Bool → Bool) (granted : Set (Dword × Bool))
    (p : Interp γ α) : Prop where
  within : ∀ m, ∃ made, (p.after m).calls = made ++ m.calls ∧
    ∀ call ∈ made, call.IsWithin (granted ∪ grantedBytes canAccess made)

/-- `bytes` are among what is granted. -/
class Covers (granted bytes : Set (Dword × Bool)) : Prop where
  subset : bytes ⊆ granted

instance : Covers (granted ∪ bytes) bytes := ⟨Set.subset_union_right⟩

instance [h : Covers granted bytes] : Covers (granted ∪ bytes') bytes :=
  ⟨h.subset.trans Set.subset_union_left⟩

instance {linear : Dword} {length : Nat} {isWrite : Bool} :
    Covers (granted ∪ accessBytes linear length isWrite) (accessBytes linear length false) :=
  ⟨(accessBytes_read_subset isWrite).trans Set.subset_union_right⟩

theorem Guarded.mono (h : Guarded canAccess bytes p) (hsubset : bytes ⊆ granted) :
    Guarded canAccess granted p where
  within := by
    intro m
    obtain ⟨made, hcalls, hwithin⟩ := h.within m
    exact ⟨made, hcalls, fun call hcall =>
      (hwithin call hcall).mono (union_subset_union_left _ hsubset)⟩

/-- One call, and no other. -/
theorem guarded_of_call (call : Machine γ → HostCall)
    (hcalls : ∀ m, (p.after m).calls = call m :: m.calls)
    (hwithin : ∀ m, (call m).IsWithin granted) : Guarded canAccess granted p where
  within := by
    intro m
    refine ⟨[call m], hcalls m, fun made hmade => ?_⟩
    rw [mem_singleton.mp hmade]
    exact (hwithin m).mono subset_union_left

theorem guarded_of_no_call (hcalls : ∀ m, (p.after m).calls = m.calls) :
    Guarded canAccess granted p where
  within := fun m => ⟨[], hcalls m, fun _ h => absurd h not_mem_nil⟩

instance guarded_pure (a : α) : Guarded canAccess granted (pure a : Interp γ α) :=
  guarded_of_no_call fun _ => rfl

instance guarded_decline : Guarded canAccess granted (decline : Interp γ α) :=
  guarded_of_no_call fun _ => rfl

instance : Guarded canAccess granted (trap : Interp γ α) :=
  guarded_of_no_call fun _ => rfl

instance : Guarded canAccess granted (getCpu : Interp γ γ) :=
  guarded_of_no_call fun _ => rfl

instance (f : γ → γ) : Guarded canAccess granted (modifyCpu f) :=
  guarded_of_no_call fun _ => rfl

instance (f : γ → α × γ) : Guarded canAccess granted (updateCpu f) :=
  guarded_of_no_call fun _ => rfl

instance (host : Host) (linear : Dword) :
    Guarded canAccess granted (fetch host linear : Interp γ Byte) :=
  guarded_of_call (fun _ => .fetch linear) (fun _ => rfl) fun _ => trivial

instance (host : Host) (port : Word) (width : Nat) :
    Guarded canAccess granted (portIn host port width : Interp γ Dword) :=
  guarded_of_call (fun _ => .portIn port width) (fun _ => rfl) fun _ => trivial

instance (port : Word) (width : Nat) (value : Dword) :
    Guarded canAccess granted (portOut port width value : Interp γ Unit) :=
  guarded_of_call (fun _ => .portOut port width value) (fun _ => rfl) fun _ => trivial

instance (length : Nat) (isWrite : Bool) :
    Guarded canAccess granted (probe canAccess linear length isWrite : Interp γ Unit) := by
  refine guarded_of_call (fun _ => .probe linear length isWrite) (fun m => ?_) fun _ => trivial
  unfold after probe
  by_cases hallowed : canAccess linear length isWrite = true
  · rw [if_pos hallowed]
  · rw [if_neg hallowed]

theorem guarded_read (host : Host) {linear : Dword} (h : (linear, false) ∈ granted) :
    Guarded canAccess granted (read host linear : Interp γ Byte) :=
  guarded_of_call (fun _ => .read linear) (fun _ => rfl) fun _ => h

theorem guarded_write {linear : Dword} {value : Byte} (h : (linear, true) ∈ granted) :
    Guarded canAccess granted (write linear value : Interp γ Unit) :=
  guarded_of_call (fun _ => .write linear value) (fun _ => rfl) fun _ => h

theorem guarded_ite [Decidable c] {y : Interp γ α} (hx : c → Guarded canAccess granted x)
    (hy : ¬c → Guarded canAccess granted y) : Guarded canAccess granted (if c then x else y) := by
  by_cases hc : c
  · rw [if_pos hc]
    exact hx hc
  · rw [if_neg hc]
    exact hy hc

instance [Decidable c] {y : Interp γ α} [hx : Guarded canAccess granted x]
    [hy : Guarded canAccess granted y] : Guarded canAccess granted (if c then x else y) :=
  guarded_ite (fun _ => hx) fun _ => hy

theorem guarded_onlyIf [Decidable c] {x : Interp γ Unit} (hx : c → Guarded canAccess granted x) :
    Guarded canAccess granted (onlyIf c x) :=
  guarded_ite hx fun _ => guarded_pure ()

instance [Decidable c] {x : Interp γ Unit} [hx : Guarded canAccess granted x] :
    Guarded canAccess granted (onlyIf c x) :=
  guarded_onlyIf fun _ => hx

instance [Decidable c] : Guarded canAccess granted (declineIf c : Interp γ Unit) := by
  unfold declineIf
  infer_instance

instance [Decidable c] : Guarded canAccess granted (trapIf c : Interp γ Unit) := by
  unfold trapIf
  infer_instance

theorem guarded_append {first second : List HostCall}
    (hfirst : ∀ call ∈ first, call.IsWithin (granted ∪ grantedBytes canAccess first))
    (hsecond : ∀ call ∈ second, call.IsWithin (granted ∪ bytes ∪ grantedBytes canAccess second))
    (hbytes : bytes ⊆ grantedBytes canAccess first) :
    ∀ call ∈ second ++ first,
      call.IsWithin (granted ∪ grantedBytes canAccess (second ++ first)) := by
  have hleft := grantedBytes_mono canAccess (subset_append_left second first)
  have hright := grantedBytes_mono canAccess (subset_append_right second first)
  intro call hcall
  rcases mem_append.mp hcall with h | h
  · refine (hsecond call h).mono (union_subset (union_subset ?_ ?_) ?_)
    · exact subset_union_left
    · exact (hbytes.trans hright).trans subset_union_right
    · exact hleft.trans subset_union_right
  · exact (hfirst call h).mono (union_subset_union_right granted hright)

theorem guarded_bind_of_calls (hx : Guarded canAccess granted x)
    (hgrants : ∀ m a m' made, x m = .ok a m' → m'.calls = made ++ m.calls →
      bytes ⊆ grantedBytes canAccess made)
    (hf : ∀ a, Guarded canAccess (granted ∪ bytes) (f a)) :
    Guarded canAccess granted (x >>= f) where
  within := by
    intro m
    obtain ⟨first, hfirst, hwithin⟩ := hx.within m
    cases hxm : x m with
    | ok a between =>
      unfold after at hfirst ⊢
      rw [hxm] at hfirst
      rw [bind_of_ok hxm]
      obtain ⟨second, hsecond, hwithin'⟩ := (hf a).within between
      refine ⟨second ++ first, ?_, ?_⟩
      · exact hsecond.trans (by rw [hfirst, append_assoc])
      · exact guarded_append hwithin hwithin' (hgrants m a between first hxm hfirst)
    | error stop between =>
      unfold after at hfirst ⊢
      rw [hxm] at hfirst
      rw [bind_of_error hxm]
      exact ⟨first, hfirst, hwithin⟩

instance guarded_bind [hx : Guarded canAccess granted x]
    [hf : ∀ a, Guarded canAccess granted (f a)] : Guarded canAccess granted (x >>= f) :=
  have hf' : ∀ a, Guarded canAccess (granted ∪ ∅) (f a) :=
    fun a => (hf a).mono Set.subset_union_left
  guarded_bind_of_calls hx (fun _ _ _ _ _ _ => Set.empty_subset _) hf'

/-- What follows a probe may touch what it was granted. -/
instance [hgrants : Grants canAccess x bytes] [hx : Guarded canAccess granted x]
    [hf : ∀ a, Guarded canAccess (granted ∪ bytes) (f a)] :
    Guarded canAccess granted (x >>= f) := by
  refine guarded_bind_of_calls hx (fun m a m' made hxm hmade => ?_) hf
  obtain ⟨made', hmade', hsubset⟩ := hgrants.grants m a m' hxm
  rwa [List.append_cancel_right (hmade.symm.trans hmade')]

instance {xs : List ι} [∀ x, Guarded canAccess granted (action x)] :
    Guarded canAccess granted (forEach action xs) := by
  induction xs with
  | nil => exact guarded_pure ()
  | cons x xs ih =>
    unfold forEach
    infer_instance

/-! ## Operands -/

instance (host : Host) (linear : Dword) (width : Width) :
    Guarded canAccess granted (fetchMemory host linear width : Interp γ Dword) := by
  cases width <;> unfold fetchMemory <;> infer_instance

theorem guarded_readMemory_of_mem (host : Host) {linear : Dword} {width : Width}
    (h : ∀ position < width.bytes, (linear + BitVec.ofNat 32 position, false) ∈ granted) :
    Guarded canAccess granted (readMemory host linear width : Interp γ Dword) := by
  have hread : ∀ position < width.bytes, Guarded canAccess granted
      (read host (linear + BitVec.ofNat 32 position) : Interp γ Byte) :=
    fun position hposition => guarded_read host (h position hposition)
  have hfirst : Guarded canAccess granted (read host linear : Interp γ Byte) := by
    have hzero := hread 0 (by cases width <;> decide)
    rwa [BitVec.add_zero] at hzero
  cases width with
  | byte =>
    unfold readMemory
    infer_instance
  | word =>
    have hsecond := hread 1 (by decide)
    unfold readMemory
    infer_instance
  | dword =>
    have hsecond := hread 1 (by decide)
    have hthird := hread 2 (by decide)
    have hfourth := hread 3 (by decide)
    unfold readMemory
    infer_instance

instance (host : Host) (linear : Dword) (width : Width)
    [h : Covers granted (accessBytes linear width.bytes false)] :
    Guarded canAccess granted (readMemory host linear width : Interp γ Dword) :=
  guarded_readMemory_of_mem host fun _ hposition => h.subset (mem_accessBytes hposition)

theorem guarded_writeMemory_of_mem {linear value : Dword} {width : Width}
    (h : ∀ position < width.bytes, (linear + BitVec.ofNat 32 position, true) ∈ granted) :
    Guarded canAccess granted (writeMemory linear value width : Interp γ Unit) := by
  have hwrite : ∀ position < width.bytes, ∀ byte, Guarded canAccess granted
      (write (linear + BitVec.ofNat 32 position) byte : Interp γ Unit) :=
    fun position hposition byte => guarded_write (h position hposition)
  have hfirst : ∀ byte, Guarded canAccess granted (write linear byte : Interp γ Unit) := by
    intro byte
    have hzero := hwrite 0 (by cases width <;> decide) byte
    rwa [BitVec.add_zero] at hzero
  cases width with
  | byte =>
    unfold writeMemory
    infer_instance
  | word =>
    have hsecond := hwrite 1 (by decide)
    unfold writeMemory
    infer_instance
  | dword =>
    have hsecond := hwrite 1 (by decide)
    have hthird := hwrite 2 (by decide)
    have hfourth := hwrite 3 (by decide)
    unfold writeMemory
    infer_instance

instance (value : Dword) (width : Width)
    [h : Covers granted (accessBytes linear width.bytes true)] :
    Guarded canAccess granted (writeMemory linear value width : Interp γ Unit) :=
  guarded_writeMemory_of_mem fun _ hposition => h.subset (mem_accessBytes hposition)

end Interp

/-!
## Bytes that a program touches

A program that asks its host for no leave is confined to a set of bytes when every byte it reads
or writes is one of them.  It touches a set when it reads or writes one of its bytes, however it
goes.
-/

variable {γ α β : Type} {bytes bytes' granted : Set (Dword × Bool)}

/-- A host that allows no access it is asked for. -/
def allowsNone (_ : Dword) (_ : Nat) (_ : Bool) : Bool := false

theorem grantedBytes_allowsNone (calls : List HostCall) : grantedBytes allowsNone calls = ∅ := by
  rw [eq_empty_iff_forall_notMem]
  rintro byte ⟨linear, length, isWrite, -, hallowed, -⟩
  exact Bool.false_ne_true hallowed

/-- A read or a write of one of `bytes`. -/
def HostCall.Touches (bytes : Set (Dword × Bool)) : HostCall → Prop
  | .read linear => (linear, false) ∈ bytes
  | .write linear _ => (linear, true) ∈ bytes
  | _ => False

theorem HostCall.Touches.not_isWithin {call : HostCall} (h : call.Touches bytes)
    (hdisjoint : Disjoint bytes bytes') : ¬call.IsWithin bytes' := by
  intro hwithin
  cases call with
  | read linear => exact disjoint_left.mp hdisjoint h hwithin
  | write linear value => exact disjoint_left.mp hdisjoint h hwithin
  | _ => exact h

namespace Interp

/-- However `p` goes, each byte it reads or writes is one of `bytes`. -/
abbrev Confined (bytes : Set (Dword × Bool)) (p : Interp γ α) : Prop := Guarded allowsNone bytes p

theorem Confined.calls {p : Interp γ α} (h : Confined bytes p) (m : Machine γ) :
    ∃ made, (p.after m).calls = made ++ m.calls ∧ ∀ call ∈ made, call.IsWithin bytes := by
  obtain ⟨made, hcalls, hwithin⟩ := h.within m
  rw [grantedBytes_allowsNone, union_empty] at hwithin
  exact ⟨made, hcalls, hwithin⟩

instance : Covers Set.univ bytes := ⟨Set.subset_univ bytes⟩

/-! ## Programs that touch a byte -/

/-- However `p` goes, it reads or writes one of `bytes`. -/
class Touches (bytes : Set (Dword × Bool)) (p : Interp γ α) : Prop where
  touches : ∀ m, ∃ made, (p.after m).calls = made ++ m.calls ∧ ∃ call ∈ made, call.Touches bytes

variable {linear : Dword} {x : Interp γ α} {f : α → Interp γ β}

theorem touches_read (host : Host) (h : (linear, false) ∈ bytes) :
    Touches bytes (read host linear : Interp γ Byte) :=
  ⟨fun _ => ⟨[.read linear], rfl, .read linear, mem_singleton.mpr rfl, h⟩⟩

theorem touches_write {value : Byte} (h : (linear, true) ∈ bytes) :
    Touches bytes (write linear value : Interp γ Unit) :=
  ⟨fun _ => ⟨[.write linear value], rfl, .write linear value, mem_singleton.mpr rfl, h⟩⟩

/-- What follows a touch does not take it back. -/
instance [hx : Touches bytes x] [hf : ∀ a, Confined Set.univ (f a)] : Touches bytes (x >>= f) where
  touches := by
    intro m
    obtain ⟨first, hfirst, call, hcall, htouches⟩ := hx.touches m
    unfold after at hfirst ⊢
    cases hxm : x m with
    | ok a between =>
      rw [hxm] at hfirst
      rw [bind_of_ok hxm]
      obtain ⟨second, hsecond, -⟩ := (hf a).calls between
      refine ⟨second ++ first, ?_, call, List.mem_append_right second hcall, htouches⟩
      exact hsecond.trans (by rw [hfirst, List.append_assoc])
    | error stop between =>
      rw [hxm] at hfirst
      rw [bind_of_error hxm]
      exact ⟨first, hfirst, call, hcall, htouches⟩

/-- What goes before a touch has to come to its end. -/
instance [hends : Completes x] [hx : Confined Set.univ x] [hf : ∀ a, Touches bytes (f a)] :
    Touches bytes (x >>= f) where
  touches := by
    intro m
    obtain ⟨first, hfirst, -⟩ := hx.calls m
    obtain ⟨a, between, hxm⟩ := hends.ends m
    unfold after at hfirst ⊢
    rw [hxm] at hfirst
    rw [bind_of_ok hxm]
    obtain ⟨second, hsecond, call, hcall, htouches⟩ := (hf a).touches between
    refine ⟨second ++ first, ?_, call, List.mem_append_left first hcall, htouches⟩
    exact hsecond.trans (by rw [hfirst, List.append_assoc])

instance {c : Prop} [Decidable c] {y : Interp γ α} [hx : Touches bytes x] [hy : Touches bytes y] :
    Touches bytes (if c then x else y) := by
  split
  · exact hx
  · exact hy

theorem touches_readMemory (host : Host) {width : Width}
    (h : (linear + BitVec.ofNat 32 (width.bytes - 1), false) ∈ bytes) :
    Touches bytes (readMemory host linear width : Interp γ Dword) := by
  have hlast : Touches bytes (read host (linear + BitVec.ofNat 32 (width.bytes - 1)) :
      Interp γ Byte) := touches_read host h
  have hread : ∀ address, Confined univ (read host address : Interp γ Byte) :=
    fun address => guarded_read host (mem_univ (address, false))
  cases width with
  | byte =>
    unfold Width.bytes at hlast
    rw [Nat.sub_self, BitVec.add_zero] at hlast
    unfold readMemory
    infer_instance
  | word =>
    change Touches bytes (read host (linear + 1)) at hlast
    unfold readMemory
    infer_instance
  | dword =>
    change Touches bytes (read host (linear + 3)) at hlast
    unfold readMemory
    infer_instance

theorem touches_writeMemory {value : Dword} {width : Width}
    (h : (linear + BitVec.ofNat 32 (width.bytes - 1), true) ∈ bytes) :
    Touches bytes (writeMemory linear value width : Interp γ Unit) := by
  have hlast : ∀ byte, Touches bytes (write (linear + BitVec.ofNat 32 (width.bytes - 1)) byte :
      Interp γ Unit) := fun _ => touches_write h
  have hwrite : ∀ address byte, Confined univ (write address byte : Interp γ Unit) :=
    fun address _ => guarded_write (mem_univ (address, true))
  cases width with
  | byte =>
    unfold Width.bytes at hlast
    rw [Nat.sub_self, BitVec.add_zero] at hlast
    unfold writeMemory
    infer_instance
  | word =>
    change ∀ byte, Touches bytes (write (linear + 1) byte) at hlast
    unfold writeMemory
    infer_instance
  | dword =>
    change ∀ byte, Touches bytes (write (linear + 3) byte) at hlast
    unfold writeMemory
    infer_instance

end Interp

end Ntvdmex.Foundation
