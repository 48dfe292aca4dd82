import Ntvdmex.Foundation.ByteMemory

/-!
# Bytes with a size

Bytes of which only those below a size may be read: a read at or past the size
is a fault, and a fault ends the whole computation.  A computation is safe when
it ends without one, so its rule is the rule of `bind`.
-/

namespace Ntvdmex.Foundation

open List Option

structure SizedBytes where
  data : ByteMemory
  size : Nat

section Faults

variable {α β σ : Type}

theorem bind_isSome {first : Option α} {next : α → Option β} (hfirst : first.isSome)
    (hnext : ∀ value, first = some value → (next value).isSome) :
    (first >>= next).isSome := by
  cases first with
  | none => cases hfirst
  | some value => exact hnext value rfl

variable {f : α → Option β} {xs : List α}

theorem mapM_isSome (hf : ∀ x ∈ xs, (f x).isSome) : (xs.mapM f).isSome := by
  induction xs with
  | nil => rfl
  | cons x xs ih =>
    rw [mapM_cons]
    refine bind_isSome (hf x mem_cons_self) fun value _ => ?_
    refine bind_isSome (ih fun y hy => hf y (mem_cons_of_mem x hy)) fun values _ => ?_
    rfl

theorem mapM_eq_some {g : α → β} (hf : ∀ x ∈ xs, f x = some (g x)) :
    xs.mapM f = some (xs.map g) := by
  induction xs with
  | nil => rfl
  | cons x xs ih =>
    rw [mapM_cons, hf x mem_cons_self, ih fun y hy => hf y (mem_cons_of_mem x hy)]
    rfl

theorem length_of_mapM_some {ys : List β} (h : xs.mapM f = some ys) : ys.length = xs.length := by
  induction xs generalizing ys with
  | nil =>
    cases h
    rfl
  | cons x xs ih =>
    rw [mapM_cons] at h
    obtain ⟨y, -, h⟩ := bind_eq_some_iff.mp h
    obtain ⟨rest, hrest, h⟩ := bind_eq_some_iff.mp h
    cases h
    rw [length_cons, length_cons, ih hrest]

theorem foldlM_isSome {step : σ → α → Option σ}
    (hstep : ∀ state, ∀ x ∈ xs, (step state x).isSome) (state : σ) :
    (xs.foldlM step state).isSome := by
  induction xs generalizing state with
  | nil => rfl
  | cons x xs ih =>
    rw [foldlM_cons]
    refine bind_isSome (hstep state x mem_cons_self) fun value _ => ?_
    exact ih (fun state y hy => hstep state y (mem_cons_of_mem x hy)) value

end Faults

/-! ## Reads -/

namespace SizedBytes

def read (bytes : SizedBytes) (index : Nat) : Option UInt8 :=
  if index < bytes.size then some (bytes.data index) else none

def readWord (bytes : SizedBytes) (index : Nat) : Option Nat := do
  let low ← bytes.read index
  let high ← bytes.read (index + 1)
  return wordOf low high

def readDword (bytes : SizedBytes) (index : Nat) : Option Nat := do
  let low ← bytes.readWord index
  let high ← bytes.readWord (index + 2)
  return low + 65536 * high

def readBytes (bytes : SizedBytes) (index count : Nat) : Option (List UInt8) :=
  (List.range count).mapM fun i => bytes.read (index + i)

def write (bytes : SizedBytes) (index : Nat) (value : UInt8) : Option SizedBytes :=
  if index < bytes.size then some { bytes with data := bytes.data.store index value } else none

def writeWord (bytes : SizedBytes) (index value : Nat) : Option SizedBytes := do
  let low ← bytes.write index (lowByte value)
  low.write (index + 1) (highByte value)

/-- The bytes of the text from `index` on, one after another. -/
def writeAll (bytes : SizedBytes) (index : Nat) : List UInt8 → Option SizedBytes
  | [] => some bytes
  | value :: text => do
    let bytes ← bytes.write index value
    bytes.writeAll (index + 1) text

variable {bytes : SizedBytes} {index : Nat}

theorem read_eq (hindex : index < bytes.size) : bytes.read index = some (bytes.data index) := by
  rw [read, if_pos hindex]

theorem read_isSome_iff : (bytes.read index).isSome ↔ index < bytes.size := by
  unfold read
  by_cases hindex : index < bytes.size
  · simp [hindex]
  · simp [hindex]

theorem readWord_eq (hindex : index + 1 < bytes.size) :
    bytes.readWord index = some (bytes.data.readWord index) := by
  rw [readWord, read_eq (Nat.lt_of_succ_lt hindex), read_eq hindex]
  rfl

theorem readWord_isSome (hindex : index + 1 < bytes.size) : (bytes.readWord index).isSome := by
  rw [readWord_eq hindex]
  rfl

theorem readDword_eq (hindex : index + 3 < bytes.size) :
    bytes.readDword index =
      some (bytes.data.readWord index + 65536 * bytes.data.readWord (index + 2)) := by
  have hlow : index + 1 < bytes.size := by omega
  have hhigh : index + 2 + 1 < bytes.size := hindex
  rw [readDword, readWord_eq hlow, readWord_eq hhigh]
  rfl

theorem readDword_isSome (hindex : index + 3 < bytes.size) :
    (bytes.readDword index).isSome := by
  rw [readDword_eq hindex]
  rfl

theorem readBytes_isSome {count : Nat} (hindex : index + count ≤ bytes.size) :
    (bytes.readBytes index count).isSome := by
  refine mapM_isSome fun i hi => ?_
  rw [mem_range] at hi
  rw [read_isSome_iff]
  omega

theorem write_eq {value : UInt8} (hindex : index < bytes.size) :
    bytes.write index value = some { bytes with data := bytes.data.store index value } :=
  if_pos hindex

theorem writeWord_eq {value : Nat} (hindex : index + 1 < bytes.size) :
    bytes.writeWord index value = some { bytes with data := bytes.data.writeWord index value } := by
  rw [writeWord, write_eq (Nat.lt_of_succ_lt hindex)]
  exact write_eq hindex

/-! ## Text at the front -/

/-- The bytes begin with the text. -/
structure StartsWith (bytes : SizedBytes) (text : List UInt8) : Prop where
  length_le : text.length ≤ bytes.size
  data_eq : ∀ i c, text[i]? = some c → bytes.data i = c

theorem startsWith_nil (bytes : SizedBytes) : bytes.StartsWith [] where
  length_le := Nat.zero_le _
  data_eq := fun _ _ h => by cases h

theorem StartsWith.of_append {text rest : List UInt8} (h : bytes.StartsWith (text ++ rest)) :
    bytes.StartsWith text where
  length_le := by
    have hle := h.length_le
    rw [length_append] at hle
    omega
  data_eq := by
    intro i c hi
    have hlt : i < text.length := (List.getElem?_eq_some_iff.mp hi).1
    apply h.data_eq
    rwa [getElem?_append_left hlt]

section

variable {text : List UInt8} (h : bytes.StartsWith text)

include h

theorem StartsWith.read_eq {i : Nat} {c : UInt8}
    (hi : text[i]? = some c) : bytes.read i = some c := by
  have hlt : i < text.length := (List.getElem?_eq_some_iff.mp hi).1
  rw [SizedBytes.read_eq (hlt.trans_le h.length_le), h.data_eq i c hi]

/-- A byte written behind the text is the next of it. -/
theorem StartsWith.store (hroom : text.length < bytes.size) (c : UInt8) :
    StartsWith { bytes with data := bytes.data.store text.length c } (text ++ [c]) where
  length_le := by
    rw [length_append]
    exact hroom
  data_eq := by
    intro i d hi
    dsimp only
    by_cases hlt : i < text.length
    · rw [getElem?_append_left hlt] at hi
      rw [ByteMemory.store_other bytes.data c (Nat.ne_of_lt hlt)]
      exact h.data_eq i d hi
    · rw [getElem?_append_right (Nat.le_of_not_lt hlt)] at hi
      have hzero := (List.getElem?_eq_some_iff.mp hi).1
      rw [length_singleton] at hzero
      have heq : i = text.length := by omega
      rw [heq, Nat.sub_self] at hi
      rw [heq, ByteMemory.store_same]
      exact some.inj hi

theorem StartsWith.writeAll_append
    (rest : List UInt8) (hroom : text.length + rest.length ≤ bytes.size) :
    ∃ after, bytes.writeAll text.length rest = some after ∧ after.size = bytes.size ∧
      after.StartsWith (text ++ rest) := by
  induction rest generalizing bytes text with
  | nil => exact ⟨bytes, rfl, rfl, by simpa using h⟩
  | cons c rest ih =>
    rw [length_cons] at hroom
    have hsize : text.length < bytes.size := by lia
    have hmore : (text ++ [c]).length + rest.length ≤ bytes.size := by
      rw [length_append, length_singleton]
      lia
    obtain ⟨after, hafter, hkept, hstarts⟩ := ih (h.store hsize c) hmore
    rw [length_append, length_singleton] at hafter
    refine ⟨after, ?_, hkept, by simpa using hstarts⟩
    rw [writeAll, write_eq hsize]
    exact hafter

end

theorem StartsWith.store_over {before rest : List UInt8} {old : UInt8}
    (h : bytes.StartsWith (before ++ old :: rest)) (c : UInt8) :
    StartsWith { bytes with data := bytes.data.store before.length c } (before ++ c :: rest) where
  length_le := by
    have hle := h.length_le
    simpa using hle
  data_eq := by
    intro i d hi
    dsimp only
    by_cases heq : i = before.length
    · rw [heq, getElem?_append_right le_rfl, Nat.sub_self] at hi
      rw [heq, ByteMemory.store_same]
      exact some.inj hi
    · rw [ByteMemory.store_other bytes.data c heq]
      apply h.data_eq
      by_cases hlt : i < before.length
      · rw [getElem?_append_left hlt] at hi ⊢
        exact hi
      · obtain ⟨k, hk⟩ : ∃ k, i - before.length = k + 1 := ⟨i - before.length - 1, by lia⟩
        rw [getElem?_append_right (Nat.le_of_not_lt hlt), hk, getElem?_cons_succ] at hi ⊢
        exact hi

theorem StartsWith.writeAll_over {before old rest : List UInt8}
    (h : bytes.StartsWith (before ++ old ++ rest)) (text : List UInt8)
    (hlength : text.length = old.length) :
    ∃ after, bytes.writeAll before.length text = some after ∧ after.size = bytes.size ∧
      after.StartsWith (before ++ text ++ rest) := by
  induction text generalizing bytes before old with
  | nil =>
    have hold : old = [] := eq_nil_of_length_eq_zero hlength.symm
    rw [hold] at h
    exact ⟨bytes, rfl, rfl, h⟩
  | cons c text ih =>
    cases old with
    | nil => cases hlength
    | cons first old =>
      have hover : bytes.StartsWith (before ++ first :: (old ++ rest)) := by simpa using h
      have hle := hover.length_le
      have hsize : before.length < bytes.size := by
        rw [length_append, length_cons] at hle
        omega
      have hnext := hover.store_over c
      have hsplit : before ++ c :: (old ++ rest) = before ++ [c] ++ old ++ rest := by simp
      rw [hsplit] at hnext
      obtain ⟨after, hafter, hkept, hstarts⟩ := ih hnext (Nat.succ.inj hlength)
      rw [length_append, length_singleton] at hafter
      refine ⟨after, ?_, hkept, by simpa using hstarts⟩
      rw [writeAll, write_eq hsize]
      exact hafter

/-- The text stands at `index`. -/
def HoldsAt (bytes : SizedBytes) (index : Nat) (text : List UInt8) : Prop :=
  ∀ i c, text[i]? = some c → bytes.read (index + i) = some c

theorem holdsAt_append_iff {first second : List UInt8} :
    bytes.HoldsAt index (first ++ second) ↔
      bytes.HoldsAt index first ∧ bytes.HoldsAt (index + first.length) second := by
  constructor
  · intro h
    constructor
    · intro i c hi
      have hlt : i < first.length := (List.getElem?_eq_some_iff.mp hi).1
      exact h i c (by rwa [getElem?_append_left hlt])
    · intro i c hi
      rw [Nat.add_assoc]
      refine h (first.length + i) c ?_
      rwa [getElem?_append_right (Nat.le_add_right _ _), Nat.add_sub_cancel_left]
  · rintro ⟨hfirst, hsecond⟩ i c hi
    by_cases hlt : i < first.length
    · exact hfirst i c (by rwa [getElem?_append_left hlt] at hi)
    · have hle := Nat.le_of_not_lt hlt
      rw [getElem?_append_right hle] at hi
      have hread := hsecond (i - first.length) c hi
      rwa [Nat.add_assoc, Nat.add_sub_cancel' hle] at hread

theorem holdsAt_cons_iff {c : UInt8} {text : List UInt8} :
    bytes.HoldsAt index (c :: text) ↔
      bytes.read index = some c ∧ bytes.HoldsAt (index + 1) text := by
  rw [← singleton_append, holdsAt_append_iff, length_singleton]
  refine and_congr_left fun _ => ⟨fun h => h 0 c rfl, fun h i d hi => ?_⟩
  have hzero : i = 0 := by
    have := (List.getElem?_eq_some_iff.mp hi).1
    rw [length_singleton] at this
    omega
  subst hzero
  rw [← some.inj hi]
  exact h

theorem HoldsAt.chunk {α : Type} {f : α → List UInt8} {size : Nat}
    (hsize : ∀ x, (f x).length = size) {xs : List α} (h : bytes.HoldsAt index (xs.flatMap f))
    {i : Nat} {x : α} (hi : xs[i]? = some x) : bytes.HoldsAt (index + i * size) (f x) := by
  obtain ⟨hlt, hx⟩ := List.getElem?_eq_some_iff.mp hi
  have hsplit : xs = xs.take i ++ x :: xs.drop (i + 1) := by
    rw [← hx, cons_getElem_drop_succ, take_append_drop]
  have hlength : ((xs.take i).flatMap f).length = i * size := by
    rw [length_flatMap, map_congr_left (g := fun _ => size) fun y _ => hsize y,
      map_const', sum_replicate, length_take, Nat.min_eq_left hlt.le, smul_eq_mul]
  rw [hsplit, flatMap_append, holdsAt_append_iff, hlength, flatMap_cons,
    holdsAt_append_iff] at h
  exact h.2.1

end SizedBytes

end Ntvdmex.Foundation
