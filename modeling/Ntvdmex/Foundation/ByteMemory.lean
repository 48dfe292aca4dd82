import Mathlib

/-!
# Byte memory and reads of it

Memory as a total function from addresses to bytes, with little-endian words
and the two directions of a byte-at-a-time copy.  Every lemma is pointwise, so
a proof about one header or one buffer never has to look at the rest of the
address space.
-/

namespace Ntvdmex.Foundation

open List

/-- Bytes by address. -/
abbrev ByteMemory := Nat → UInt8

/-- A little-endian word from its two bytes. -/
def wordOf (low high : UInt8) : Nat := low.toNat ||| high.toNat <<< 8

theorem wordOf_eq (low high : UInt8) :
    wordOf low high = low.toNat + 256 * high.toNat := by
  unfold wordOf
  have hlow : low.toNat < 2 ^ 8 := low.toNat_lt
  rw [Nat.or_comm, ← Nat.shiftLeft_add_eq_or_of_lt hlow, Nat.shiftLeft_eq]
  omega

theorem wordOf_lt (low high : UInt8) : wordOf low high < 65536 := by
  have hlow : low.toNat < 2 ^ 8 := low.toNat_lt
  have hhigh : high.toNat < 2 ^ 8 := high.toNat_lt
  rw [wordOf_eq]
  omega

/-- The two bytes of a word. -/
def lowByte (value : Nat) : UInt8 := UInt8.ofNat (value &&& 0xFF)

def highByte (value : Nat) : UInt8 := UInt8.ofNat (value >>> 8)

theorem wordOf_bytes (value : Nat) :
    wordOf (lowByte value) (highByte value) = value % 65536 := by
  have hmask : value &&& 0xFF = value % 256 :=
    Nat.and_two_pow_sub_one_eq_mod value 8
  have hshift : value >>> 8 = value / 256 := Nat.shiftRight_eq_div_pow value 8
  rw [wordOf_eq, lowByte, highByte, hmask, hshift, UInt8.toNat_ofNat',
    UInt8.toNat_ofNat']
  lia

namespace ByteMemory

def store (memory : ByteMemory) (address : Nat) (value : UInt8) : ByteMemory :=
  fun a => if a = address then value else memory a

@[simp] theorem store_same (memory : ByteMemory) (address : Nat) (value : UInt8) :
    memory.store address value address = value := by
  simp [store]

variable {address : Nat}

theorem store_other (memory : ByteMemory) {a : Nat} (value : UInt8) (h : a ≠ address) :
    memory.store address value a = memory a := by
  simp [store, h]

def readWord (memory : ByteMemory) (address : Nat) : Nat :=
  wordOf (memory address) (memory (address + 1))

def writeWord (memory : ByteMemory) (address value : Nat) : ByteMemory :=
  (memory.store address (lowByte value)).store (address + 1) (highByte value)

theorem readWord_lt (memory : ByteMemory) (address : Nat) :
    memory.readWord address < 65536 :=
  wordOf_lt _ _

theorem readWord_congr {left right : ByteMemory} (hlow : left address = right address)
    (hhigh : left (address + 1) = right (address + 1)) :
    left.readWord address = right.readWord address := by
  rw [readWord, readWord, hlow, hhigh]

theorem writeWord_other (memory : ByteMemory) {a : Nat} (value : Nat)
    (h : a ≠ address ∧ a ≠ address + 1) : memory.writeWord address value a = memory a := by
  rw [writeWord, store_other _ _ h.2, store_other _ _ h.1]

@[simp] theorem readWord_writeWord_same (memory : ByteMemory) (address value : Nat) :
    (memory.writeWord address value).readWord address = value % 65536 := by
  rw [readWord, writeWord, store_same, store_other _ _ (by omega), store_same,
    wordOf_bytes]

theorem readWord_writeWord_disjoint (memory : ByteMemory) {a : Nat} (value : Nat)
    (h : a + 2 ≤ address ∨ address + 2 ≤ a) :
    (memory.writeWord address value).readWord a = memory.readWord a := by
  apply readWord_congr
  · exact writeWord_other _ _ (by lia)
  · exact writeWord_other _ _ (by lia)

theorem readWord_store_disjoint (memory : ByteMemory) {a : Nat} (value : UInt8)
    (h : a + 2 ≤ address ∨ address < a) :
    (memory.store address value).readWord a = memory.readWord a := by
  apply readWord_congr
  · exact store_other _ _ (by omega)
  · exact store_other _ _ (by omega)

/-! ## Runs of bytes -/

def zeroFill (memory : ByteMemory) (address length : Nat) : ByteMemory :=
  fun a => if address ≤ a ∧ a < address + length then 0 else memory a

theorem zeroFill_other (memory : ByteMemory) {length a : Nat}
    (h : a < address ∨ address + length ≤ a) : memory.zeroFill address length a = memory a := by
  rw [zeroFill, if_neg (by omega)]

def copyUp (memory : ByteMemory) (destination source : Nat) : Nat → ByteMemory
  | 0 => memory
  | count + 1 =>
    (copyUp memory destination source count).store (destination + count)
      (copyUp memory destination source count (source + count))

def copyDown (memory : ByteMemory) (destination source : Nat) : Nat → ByteMemory
  | 0 => memory
  | count + 1 =>
    copyDown (memory.store (destination + count) (memory (source + count)))
      destination source count

section

variable (memory : ByteMemory) {destination source count a : Nat}
    (h : a < destination ∨ destination + count ≤ a)

include memory h

theorem copyUp_other :
    copyUp memory destination source count a = memory a := by
  induction count with
  | zero => rfl
  | succ count ih =>
    rw [copyUp, store_other _ _ (by lia)]
    exact ih (by lia)

theorem copyDown_other :
    copyDown memory destination source count a = memory a := by
  induction count generalizing memory with
  | zero => rfl
  | succ count ih =>
    rw [copyDown, ih _ (by lia), store_other _ _ (by lia)]

end

/-- Copying up moves the original bytes unless the destination starts inside the
source. -/
theorem copyUp_apply (memory : ByteMemory) {destination source count i : Nat}
    (h : destination ≤ source ∨ source + count ≤ destination) (hi : i < count) :
    copyUp memory destination source count (destination + i) = memory (source + i) := by
  induction count with
  | zero => lia
  | succ count ih =>
    rw [copyUp]
    by_cases hlast : i = count
    · subst hlast
      rw [store_same, copyUp_other _ (by lia)]
    · rw [store_other _ _ (by lia)]
      exact ih (by lia) (by lia)

theorem copyDown_apply (memory : ByteMemory) {destination source count i : Nat}
    (h : source ≤ destination) (hi : i < count) :
    copyDown memory destination source count (destination + i) = memory (source + i) := by
  induction count generalizing memory with
  | zero => lia
  | succ count ih =>
    rw [copyDown]
    by_cases hlast : i = count
    · subst hlast
      rw [copyDown_other _ (by lia), store_same]
    · have hne : source + i ≠ destination + count := by lia
      rw [ih _ (by lia), store_other _ _ hne]

/-! ## Copies between two buffers -/

/-- `count` bytes of one buffer copied into another. -/
def copyFrom (destination : ByteMemory) (target : Nat) (source : ByteMemory)
    (origin count : Nat) : ByteMemory :=
  fun a =>
    if target ≤ a ∧ a < target + count then source (origin + (a - target)) else destination a

theorem copyFrom_apply (destination : ByteMemory) {target : Nat} (source : ByteMemory)
    (origin : Nat) {count i : Nat} (hi : i < count) :
    destination.copyFrom target source origin count (target + i) = source (origin + i) := by
  rw [copyFrom, if_pos (by omega), Nat.add_sub_cancel_left]

theorem copyFrom_other (destination : ByteMemory) {target : Nat} (source : ByteMemory)
    (origin : Nat) {count a : Nat} (h : a < target ∨ target + count ≤ a) :
    destination.copyFrom target source origin count a = destination a := by
  rw [copyFrom, if_neg (by omega)]

theorem copyFrom_eq_loop (destination : ByteMemory) (target : Nat) (source : ByteMemory)
    (origin count : Nat) :
    destination.copyFrom target source origin count =
      (range count).foldl
        (fun memory i => memory.store (target + i) (source (origin + i))) destination := by
  induction count with
  | zero =>
    funext a
    rw [copyFrom_other _ _ _ (by lia)]
    rfl
  | succ count ih =>
    rw [range_succ, foldl_append, ← ih, foldl_cons, foldl_nil]
    funext a
    by_cases hlast : a = target + count
    · subst hlast
      rw [store_same, copyFrom_apply _ _ _ (by lia)]
    · rw [store_other _ _ hlast]
      by_cases hin : target ≤ a ∧ a < target + count
      · rw [copyFrom, copyFrom, if_pos hin, if_pos (by lia)]
      · rw [copyFrom, copyFrom, if_neg hin, if_neg (by lia)]

end ByteMemory

/-!
## Reads that are logged

A computation over a file, the indices of the bytes it reads, in order, and its value.
-/

structure Logged (α : Type) where
  reads : List Nat
  value : α

namespace Logged

variable {α β : Type}

instance : Monad Logged where
  pure value := ⟨[], value⟩
  bind x f := ⟨x.reads ++ (f x.value).reads, (f x.value).value⟩

def byte (file : ByteMemory) (index : Nat) : Logged UInt8 := ⟨[index], file index⟩

def word (file : ByteMemory) (index : Nat) : Logged Nat := ⟨[index, index + 1], file.readWord index⟩

@[simp] theorem value_pure (value : α) : (pure value : Logged α).value = value := rfl

@[simp] theorem reads_pure (value : α) : (pure value : Logged α).reads = [] := rfl

@[simp] theorem value_bind (x : Logged α) (f : α → Logged β) :
    (x >>= f).value = (f x.value).value := rfl

@[simp] theorem reads_bind (x : Logged α) (f : α → Logged β) :
    (x >>= f).reads = x.reads ++ (f x.value).reads := rfl

section

variable (file : ByteMemory) (index : Nat)

include file index

@[simp] theorem value_byte :
    (byte file index).value = file index := rfl

@[simp] theorem reads_byte :
    (byte file index).reads = [index] := rfl

@[simp] theorem reads_word :
    (word file index).reads = [index, index + 1] := rfl

end

def loop (turn : α → β → Logged α) : List β → α → Logged α
  | [], start => pure start
  | x :: xs, start => do
    let next ← turn start x
    loop turn xs next

theorem value_loop (turn : α → β → Logged α) (xs : List β) (start : α) :
    (loop turn xs start).value = xs.foldl (fun current x => (turn current x).value) start := by
  induction xs generalizing start with
  | nil => rfl
  | cons x xs ih => exact ih _

theorem mem_reads_loop {turn : α → β → Logged α} (readsOf : β → List Nat)
    (hturn : ∀ current x, (turn current x).reads = readsOf x) (xs : List β) (start : α)
    (index : Nat) :
    index ∈ (loop turn xs start).reads ↔ ∃ x ∈ xs, index ∈ readsOf x := by
  induction xs generalizing start with
  | nil => simp [loop]
  | cons x xs ih => simp [loop, hturn, ih]

end Logged

end Ntvdmex.Foundation
