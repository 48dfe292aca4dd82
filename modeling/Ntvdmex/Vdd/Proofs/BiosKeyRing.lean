import Ntvdmex.Foundation.Runs
import Ntvdmex.Vdd.BiosKeyRing

/-!
# The key ring is a queue while its pointers are entries

With head and tail both in the ring the keys between them are a queue.  A pop looks at the head
only, so with a tail that is no entry it goes round for ever.
-/

namespace Ntvdmex.Vdd.BiosKeyRing

open Foundation ByteMemory Bounds List

/-! ## Pointers -/

/-- The entries of the ring; one of them is always free. -/
def Bounds.size (bounds : Bounds) : Nat := (bounds.bufferEnd - bounds.bufferStart) / 2

def Bounds.entries (bounds : Bounds) (head tail : Nat) : Nat :=
  if head ≤ tail then (tail - head) / 2
  else (tail + (bounds.bufferEnd - bounds.bufferStart) - head) / 2

structure Bounds.Valid (bounds : Bounds) : Prop where
  start_even : bounds.bufferStart % 2 = 0
  end_even : bounds.bufferEnd % 2 = 0
  le : bounds.bufferStart + 4 ≤ bounds.bufferEnd
  lt : bounds.bufferEnd < 65536

variable {data : ByteMemory} {bounds : Bounds} {head tail : Nat}

theorem inputKeyboardBounds_valid (data : ByteMemory) : (inputKeyboardBounds data).Valid := by
  have hend := readWord_lt data biosBdaKeyboardEndPointer
  unfold inputKeyboardBounds inputRingMinimumSize
  dsimp only
  split_ifs with h
  · constructor <;> decide
  · constructor <;> dsimp only <;> lia

theorem inputKeyboardBounds_writeWord (data : ByteMemory) {address : Nat} (value : Nat)
    (h : address + 2 ≤ biosBdaKeyboardStartPointer ∨ biosBdaKeyboardEndPointer + 2 ≤ address) :
    inputKeyboardBounds (data.writeWord address value) = inputKeyboardBounds data := by
  have hend : biosBdaKeyboardEndPointer = biosBdaKeyboardStartPointer + 2 := rfl
  simp only [inputKeyboardBounds]
  rw [readWord_writeWord_disjoint data value (by lia),
    readWord_writeWord_disjoint data value (by lia)]

theorem inputBdaNext_eq (h : bounds.Valid) (hhead : bounds.Holds head) :
    inputBdaNext head bounds =
      if bounds.bufferEnd ≤ head + 2 then bounds.bufferStart else head + 2 := by
  obtain ⟨hstart, hend, hle, hlt⟩ := h
  obtain ⟨-, hbelow, heven⟩ := hhead
  unfold inputBdaNext
  rw [Nat.mod_eq_of_lt (by lia)]

theorem Bounds.Holds.next (h : bounds.Valid) (hhead : bounds.Holds head) :
    bounds.Holds (inputBdaNext head bounds) := by
  rw [inputBdaNext_eq h hhead]
  obtain ⟨hstart, hend, hle, hlt⟩ := h
  obtain ⟨habove, hbelow, heven⟩ := hhead
  unfold Bounds.Holds
  split_ifs <;> lia

theorem Bounds.entries_self (bounds : Bounds) (head : Nat) : bounds.entries head head = 0 := by
  simp [entries]

theorem Bounds.entries_next (h : bounds.Valid) (hhead : bounds.Holds head)
    (htail : bounds.Holds tail) (hne : head ≠ tail) :
    bounds.entries head tail = bounds.entries (inputBdaNext head bounds) tail + 1 := by
  rw [inputBdaNext_eq h hhead]
  obtain ⟨hstart, hend, hle, hlt⟩ := h
  simp only [Holds] at hhead htail
  unfold entries
  split_ifs <;> lia

theorem Bounds.entries_push (h : bounds.Valid) (hhead : bounds.Holds head)
    (htail : bounds.Holds tail) (hroom : inputBdaNext tail bounds ≠ head) :
    bounds.entries head (inputBdaNext tail bounds) = bounds.entries head tail + 1 := by
  rw [inputBdaNext_eq h htail] at hroom ⊢
  obtain ⟨hstart, hend, hle, hlt⟩ := h
  simp only [Holds] at hhead htail
  unfold entries
  split_ifs at hroom ⊢ <;> lia

theorem Bounds.full_iff (h : bounds.Valid) (hhead : bounds.Holds head)
    (htail : bounds.Holds tail) :
    inputBdaNext tail bounds = head ↔ bounds.entries head tail + 1 = bounds.size := by
  rw [inputBdaNext_eq h htail]
  obtain ⟨hstart, hend, hle, hlt⟩ := h
  simp only [Holds] at hhead htail
  unfold entries size
  split_ifs <;> lia

theorem Bounds.entries_lt (h : bounds.Valid) (hhead : bounds.Holds head)
    (htail : bounds.Holds tail) : bounds.entries head tail < bounds.size := by
  obtain ⟨hstart, hend, hle, hlt⟩ := h
  simp only [Holds] at hhead htail
  unfold entries size
  split_ifs <;> lia

/-! ## A pop -/

abbrev headOf (data : ByteMemory) : Nat := data.readWord biosBdaKeyboardHead

abbrev tailOf (data : ByteMemory) : Nat := data.readWord biosBdaKeyboardTail

theorem vddInputPop_moves (hhead : (inputKeyboardBounds data).Holds (headOf data))
    (hne : headOf data ≠ tailOf data) :
    (vddInputPop data).1 = some (data.readWord (headOf data)) ∧
    inputKeyboardBounds (vddInputPop data).2 = inputKeyboardBounds data ∧
    headOf (vddInputPop data).2 = inputBdaNext (headOf data) (inputKeyboardBounds data) ∧
    tailOf (vddInputPop data).2 = tailOf data ∧
    ∀ entry, entry + 2 ≤ biosBdaKeyboardHead ∨ biosBdaKeyboardHead + 2 ≤ entry →
      (vddInputPop data).2.readWord entry = data.readWord entry := by
  have hnext := (hhead.next (inputKeyboardBounds_valid data)).2.1
  have hlt := (inputKeyboardBounds_valid data).lt
  unfold vddInputPop
  rw [if_neg hne, if_pos hhead]
  refine ⟨rfl, inputKeyboardBounds_writeWord _ _ (by decide), ?_, ?_, fun entry hentry => ?_⟩
  · exact (readWord_writeWord_same _ _ _).trans (Nat.mod_eq_of_lt (hnext.trans hlt))
  · exact readWord_writeWord_disjoint _ _ (by decide)
  · exact readWord_writeWord_disjoint _ _ hentry

theorem vddInputPop_none (h : (inputKeyboardBounds data).Holds (headOf data) →
    headOf data = tailOf data) : vddInputPop data = (none, data) := by
  unfold vddInputPop
  dsimp only
  split_ifs with hempty hhead
  · rfl
  · exact absurd (h hhead) hempty
  · rfl

def TailInRing (data : ByteMemory) : Prop :=
  (inputKeyboardBounds data).Holds (headOf data) → (inputKeyboardBounds data).Holds (tailOf data)

/-- So many pops in a row give a key. -/
def PopsSucceed : Nat → ByteMemory → Prop
  | 0, _ => True
  | count + 1, data => (vddInputPop data).1.isSome = true ∧ PopsSucceed count (vddInputPop data).2

theorem popsSucceed_runaway (hhead : (inputKeyboardBounds data).Holds (headOf data))
    (htail : ¬(inputKeyboardBounds data).Holds (tailOf data)) (count : Nat) :
    PopsSucceed count data := by
  induction count generalizing data with
  | zero => trivial
  | succ count ih =>
    have hne : headOf data ≠ tailOf data := fun heq => htail (heq ▸ hhead)
    obtain ⟨hkey, hbounds, hnext, htailOf, -⟩ := vddInputPop_moves hhead hne
    refine ⟨by rw [hkey]; rfl, ih ?_ ?_⟩
    · rw [hbounds, hnext]
      exact hhead.next (inputKeyboardBounds_valid data)
    · rwa [hbounds, htailOf]

def keysLeft (data : ByteMemory) : Nat :=
  if (inputKeyboardBounds data).Holds (headOf data) then
    (inputKeyboardBounds data).entries (headOf data) (tailOf data)
  else 0

theorem vddInputPop_keysLeft (h : TailInRing data) :
    vddInputPop data = (none, data) ∨
      TailInRing (vddInputPop data).2 ∧ keysLeft data = keysLeft (vddInputPop data).2 + 1 := by
  by_cases hgives : (inputKeyboardBounds data).Holds (headOf data) ∧ headOf data ≠ tailOf data
  · obtain ⟨hhead, hne⟩ := hgives
    have hvalid := inputKeyboardBounds_valid data
    obtain ⟨-, hbounds, hnext, htailOf, -⟩ := vddInputPop_moves hhead hne
    refine .inr ⟨fun _ => ?_, ?_⟩
    · rw [hbounds, htailOf]
      exact h hhead
    · rw [keysLeft, if_pos hhead, keysLeft, hbounds, hnext, htailOf, if_pos (hhead.next hvalid)]
      exact entries_next hvalid hhead (h hhead) hne
  · refine .inl (vddInputPop_none fun hhead => ?_)
    by_contra hne
    exact hgives ⟨hhead, hne⟩

theorem popsSucceed_le (h : TailInRing data) {count : Nat} (hpops : PopsSucceed count data) :
    count ≤ keysLeft data := by
  induction count generalizing data with
  | zero => exact Nat.zero_le _
  | succ count ih =>
    rcases vddInputPop_keysLeft h with hnone | ⟨hnext, hless⟩
    · rw [PopsSucceed, hnone] at hpops
      exact absurd hpops.1 (by simp)
    · have hle := ih hnext hpops.2
      omega

theorem keysLeft_lt (h : TailInRing data) : keysLeft data < (inputKeyboardBounds data).size := by
  have hvalid := inputKeyboardBounds_valid data
  unfold keysLeft
  split_ifs with hhead
  · exact entries_lt hvalid hhead (h hhead)
  · have hle := hvalid.le
    unfold size
    omega

theorem vddInputPeek_eq (data : ByteMemory) : vddInputPeek data = (vddInputPop data).1 := by
  unfold vddInputPeek vddInputPop
  dsimp only
  split_ifs <;> rfl

theorem loops_return (h : TailInRing data) :
    (inputInt16Read (keysLeft data + 1) data).isSome = true ∧
      (inputInt16Status (keysLeft data + 1) data).isSome = true := by
  generalize hcount : keysLeft data = count
  induction count generalizing data with
  | zero =>
    have hnone := (vddInputPop_keysLeft h).resolve_right (by lia)
    simp [inputInt16Read, inputInt16Status, vddInputPeek_eq, hnone]
  | succ count ih =>
    unfold inputInt16Read inputInt16Status
    rw [vddInputPeek_eq]
    rcases vddInputPop_keysLeft h with hnone | ⟨hnext, hless⟩
    · simp [hnone]
    · obtain ⟨hread, hstatus⟩ := ih hnext (by lia)
      rcases hpop : vddInputPop data with ⟨_ | key, after⟩
      · simp
      · rw [hpop] at hread hstatus
        cases hkey : inputKeyCompatible key <;> simp [hkey, hread, hstatus]

variable {after : ByteMemory}

theorem status_then_read {fuel : Nat} {answer : Option Nat}
    (h : inputInt16Status fuel data = some (answer, after)) :
    ∃ last, inputInt16Read 1 after = some (answer, last) := by
  induction fuel generalizing data with
  | zero => exact absurd h (by simp [inputInt16Status])
  | succ fuel ih =>
    rw [inputInt16Status, vddInputPeek_eq] at h
    rcases hpop : vddInputPop data with ⟨_ | key, next⟩ <;> rw [hpop] at h <;> dsimp only at h
    · obtain ⟨rfl, rfl⟩ := Prod.mk.inj (Option.some_inj.mp h)
      exact ⟨next, by rw [inputInt16Read, hpop]⟩
    · cases hkey : inputKeyCompatible key with
      | none => exact ih (by simpa only [hkey] using h)
      | some delivered =>
        rw [hkey] at h
        obtain ⟨rfl, rfl⟩ := Prod.mk.inj (Option.some_inj.mp h)
        exact ⟨next, by rw [inputInt16Read, hpop]; simp only [hkey]⟩

/-! ## The queue -/

def RingApart (data : ByteMemory) : Prop :=
  let bounds := inputKeyboardBounds data
  (bounds.bufferEnd ≤ biosBdaKeyboardHead ∨ biosBdaKeyboardTail + 2 ≤ bounds.bufferStart) ∧
    (bounds.bufferEnd ≤ biosBdaKeyboardStartPointer ∨
      biosBdaKeyboardEndPointer + 2 ≤ bounds.bufferStart)

structure QueueReady (data : ByteMemory) : Prop where
  apart : RingApart data
  head : (inputKeyboardBounds data).Holds (headOf data)
  tail : (inputKeyboardBounds data).Holds (tailOf data)

def keysFrom (data : ByteMemory) : Nat → Nat → List Nat
  | 0, _ => []
  | count + 1, head =>
    data.readWord head :: keysFrom data count (inputBdaNext head (inputKeyboardBounds data))

def queuedKeys (data : ByteMemory) : List Nat :=
  keysFrom data ((inputKeyboardBounds data).entries (headOf data) (tailOf data)) (headOf data)

theorem keysFrom_length (data : ByteMemory) (count head : Nat) :
    (keysFrom data count head).length = count := by
  induction count generalizing head with
  | zero => rfl
  | succ count ih => rw [keysFrom, length_cons, ih]

theorem keysFrom_congr (hbounds : inputKeyboardBounds after = inputKeyboardBounds data)
    (hsame : ∀ entry, (inputKeyboardBounds data).Holds entry →
      after.readWord entry = data.readWord entry)
    (count : Nat) (hhead : (inputKeyboardBounds data).Holds head) :
    keysFrom after count head = keysFrom data count head := by
  induction count generalizing head with
  | zero => rfl
  | succ count ih =>
    rw [keysFrom, keysFrom, hsame head hhead, hbounds,
      ih (hhead.next (inputKeyboardBounds_valid data))]

theorem vddInputPop_queue (h : QueueReady data) :
    QueueReady (vddInputPop data).2 ∧ (vddInputPop data).1.toList ++
      queuedKeys (vddInputPop data).2 = queuedKeys data ∧
    ((vddInputPop data).1 = none ↔ queuedKeys data = []) := by
  have hvalid := inputKeyboardBounds_valid data
  by_cases hne : headOf data = tailOf data
  · have hempty : queuedKeys data = [] := by
      rw [queuedKeys, hne, entries_self]
      rfl
    rw [vddInputPop_none fun _ => hne]
    exact ⟨h, rfl, iff_of_true rfl hempty⟩
  · obtain ⟨hkey, hbounds, hnext, htailOf, hsame⟩ := vddInputPop_moves h.head hne
    have hkeys : queuedKeys data = data.readWord (headOf data) ::
        keysFrom data ((inputKeyboardBounds data).entries
          (inputBdaNext (headOf data) (inputKeyboardBounds data)) (tailOf data))
          (inputBdaNext (headOf data) (inputKeyboardBounds data)) := by
      rw [queuedKeys, entries_next hvalid h.head h.tail hne, keysFrom]
    refine ⟨⟨?_, ?_, ?_⟩, ?_, by rw [hkey, hkeys]; simp⟩
    · rw [RingApart, hbounds]
      exact h.apart
    · rw [hbounds, hnext]
      exact h.head.next hvalid
    · rw [hbounds, htailOf]
      exact h.tail
    · rw [hkey, hkeys, queuedKeys, hbounds, hnext, htailOf]
      refine congrArg _ (keysFrom_congr hbounds (fun entry hentry => hsame entry ?_) _
        (h.head.next hvalid))
      obtain ⟨hapart, -⟩ := h.apart
      obtain ⟨habove, hbelow, heven⟩ := hentry
      obtain ⟨hstart, hend, -, -⟩ := hvalid
      have htail : biosBdaKeyboardTail = biosBdaKeyboardHead + 2 := rfl
      lia

theorem keysFrom_push {key : Nat}
    (hbounds : inputKeyboardBounds after = inputKeyboardBounds data)
    (htail : (inputKeyboardBounds data).Holds tail) (hkey : after.readWord tail = key)
    (hsame : ∀ entry, (inputKeyboardBounds data).Holds entry → entry ≠ tail →
      after.readWord entry = data.readWord entry)
    {count : Nat} (hhead : (inputKeyboardBounds data).Holds head)
    (hcount : (inputKeyboardBounds data).entries head tail = count) :
    keysFrom after (count + 1) head = keysFrom data count head ++ [key] := by
  have hvalid := inputKeyboardBounds_valid data
  induction count generalizing head with
  | zero =>
    have heq : head = tail := by
      by_contra hne
      rw [entries_next hvalid hhead htail hne] at hcount
      omega
    rw [heq]
    exact congrArg (fun entry => [entry]) hkey
  | succ count ih =>
    have hne : head ≠ tail := by
      rintro rfl
      rw [entries_self] at hcount
      omega
    rw [entries_next hvalid hhead htail hne] at hcount
    rw [keysFrom, hsame head hhead hne, hbounds,
      ih (hhead.next hvalid) (Nat.succ_inj.mp hcount), keysFrom, cons_append]

theorem vddInputPush_queue (h : QueueReady data) (key : UInt16) :
    QueueReady (vddInputPush data key).2 ∧ queuedKeys (vddInputPush data key).2 =
      queuedKeys data ++ (if (vddInputPush data key).1 then [key.toNat] else []) ∧
    ((vddInputPush data key).1 = false ↔
      (queuedKeys data).length + 1 = (inputKeyboardBounds data).size) := by
  have hvalid := inputKeyboardBounds_valid data
  have hlength : (queuedKeys data).length =
      (inputKeyboardBounds data).entries (headOf data) (tailOf data) := keysFrom_length _ _ _
  rw [hlength, ← full_iff hvalid h.head h.tail]
  unfold vddInputPush
  simp only [h.head, h.tail, and_self, if_true]
  by_cases hfull : inputBdaNext (tailOf data) (inputKeyboardBounds data) = headOf data
  · rw [if_pos hfull]
    exact ⟨h, by simp [queuedKeys], iff_of_true rfl hfull⟩
  · rw [if_neg hfull]
    have hnext := h.tail.next hvalid
    obtain ⟨hhead, hpointers⟩ := h.apart
    obtain ⟨habove, hbelow, heven⟩ := h.tail
    obtain ⟨hstart, hend, hle, hlt⟩ := hvalid
    have hends : biosBdaKeyboardTail = biosBdaKeyboardHead + 2 ∧
        biosBdaKeyboardEndPointer = biosBdaKeyboardStartPointer + 2 := ⟨rfl, rfl⟩
    generalize hafter : (data.writeWord (tailOf data) key.toNat).writeWord biosBdaKeyboardTail
      (inputBdaNext (tailOf data) (inputKeyboardBounds data)) = after
    have hbounds : inputKeyboardBounds after = inputKeyboardBounds data := by
      rw [← hafter, inputKeyboardBounds_writeWord _ _ (by decide),
        inputKeyboardBounds_writeWord _ _ (by lia)]
    have hheadOf : headOf after = headOf data := by
      rw [← hafter, headOf, readWord_writeWord_disjoint _ _ (by decide),
        readWord_writeWord_disjoint _ _ (by lia)]
    have htailOf : tailOf after = inputBdaNext (tailOf data) (inputKeyboardBounds data) := by
      rw [← hafter, tailOf, readWord_writeWord_same]
      exact Nat.mod_eq_of_lt (hnext.2.1.trans hlt)
    have hkey : after.readWord (tailOf data) = key.toNat := by
      rw [← hafter, readWord_writeWord_disjoint _ _ (by lia), readWord_writeWord_same]
      exact Nat.mod_eq_of_lt key.toNat_lt
    have hsame : ∀ entry, (inputKeyboardBounds data).Holds entry → entry ≠ tailOf data →
        after.readWord entry = data.readWord entry := by
      rintro entry ⟨hentryAbove, hentryBelow, hentryEven⟩ hne
      rw [← hafter, readWord_writeWord_disjoint _ _ (by lia),
        readWord_writeWord_disjoint _ _ (by lia)]
    refine ⟨⟨?_, ?_, ?_⟩, ?_, iff_of_false (by simp) hfull⟩
    · rw [RingApart, hbounds]
      exact h.apart
    · rw [hbounds, hheadOf]
      exact h.head
    · rwa [hbounds, htailOf]
    · rw [queuedKeys, hbounds, hheadOf, htailOf,
        entries_push (inputKeyboardBounds_valid data) h.head h.tail hfull]
      exact keysFrom_push hbounds h.tail hkey hsame h.head rfl

/-! ## Runs -/

inductive KeyEvent where
  | store (key : UInt16)
  | take

/-- The segment, and the keys that AH=05h stored and AH=10h delivered. -/
structure KeyLog where
  data : ByteMemory
  stored : List Nat
  taken : List Nat

def KeyLog.next (log : KeyLog) : KeyEvent → KeyLog
  | .store key =>
    let (isStored, data) := inputInt16PushKey log.data key
    ⟨data, log.stored ++ (if isStored then [key.toNat] else []), log.taken⟩
  | .take =>
    let (key, data) := inputInt16ReadEnhanced log.data
    ⟨data, log.stored, log.taken ++ key.toList⟩

theorem keyLog_run (h : QueueReady data) (events : List KeyEvent) :
    QueueReady (events.foldl KeyLog.next ⟨data, [], []⟩).data ∧
    queuedKeys data ++ (events.foldl KeyLog.next ⟨data, [], []⟩).stored =
      (events.foldl KeyLog.next ⟨data, [], []⟩).taken ++
        queuedKeys (events.foldl KeyLog.next ⟨data, [], []⟩).data := by
  induction events using reverseRecOn with
  | nil => exact ⟨h, append_nil _⟩
  | append_singleton events event ih =>
    obtain ⟨hready, hkeys⟩ := ih
    rw [foldl_append, foldl_cons, foldl_nil]
    cases event with
    | store key =>
      obtain ⟨hnext, hpush, -⟩ := vddInputPush_queue hready key
      exact ⟨hnext, by simp only [KeyLog.next, inputInt16PushKey, hpush,
        ← append_assoc, hkeys]; rfl⟩
    | take =>
      obtain ⟨hnext, hpop, -⟩ := vddInputPop_queue hready
      exact ⟨hnext, by simp only [KeyLog.next, inputInt16ReadEnhanced, append_assoc,
        hpop, hkeys]⟩

theorem vddInputPush_writes {key : UInt16} {address : Nat}
    (h : (vddInputPush data key).2 address ≠ data address) :
    (biosBdaKeyboardHead ≤ address ∧ address < biosBdaKeyboardTail + 2) ∨
      ∃ entry, (inputKeyboardBounds data).Holds entry ∧ entry % 2 = 0 ∧
        (address = entry ∨ address = entry + 1) := by
  have hvalid := inputKeyboardBounds_valid data
  have hstart : (inputKeyboardBounds data).Holds (inputKeyboardBounds data).bufferStart :=
    ⟨le_rfl, by have hle := hvalid.le; lia, by lia⟩
  have hends : biosBdaKeyboardTail = biosBdaKeyboardHead + 2 := rfl
  by_contra hother
  obtain ⟨hpointers, hentries⟩ := not_or.mp hother
  have hentry : ∀ entry, (inputKeyboardBounds data).Holds entry →
      address ≠ entry ∧ address ≠ entry + 1 := by
    intro entry hentry
    refine not_or.mp fun hat => hentries ⟨entry, hentry, ?_, hat⟩
    have heven := hvalid.start_even
    have hentryEven := hentry.2.2
    have habove := hentry.1
    lia
  apply h
  unfold vddInputPush
  by_cases hboth : (inputKeyboardBounds data).Holds (headOf data) ∧
      (inputKeyboardBounds data).Holds (tailOf data)
  · simp only [if_pos hboth]
    split_ifs <;> dsimp only
    rw [writeWord_other _ _ (by lia), writeWord_other _ _ (hentry _ hboth.2)]
  · simp only [if_neg hboth]
    split_ifs <;> dsimp only
    · exact writeWord_other _ _ (by lia)
    · rw [writeWord_other _ _ (by lia), writeWord_other _ _ (hentry _ hstart),
        writeWord_other _ _ (by lia)]

/-- A push writes an entry and the two pointers.  With head and tail in a ring apart from its
pointers the ring is a queue, whose pushes fail at its capacity, and AH=01h announces what AH=00h
delivers.  The pops in a row are bounded by the size, and the loops that discard end, just when
the tail is an entry of the ring or the head is none. -/
theorem key_ring_is_bounded_queue_iff (data : ByteMemory) :
    (∀ key address, (vddInputPush data key).2 address ≠ data address →
      (biosBdaKeyboardHead ≤ address ∧ address < biosBdaKeyboardTail + 2) ∨
        ∃ entry, (inputKeyboardBounds data).Holds entry ∧ entry % 2 = 0 ∧
          (address = entry ∨ address = entry + 1)) ∧
    (QueueReady data → ∀ events : List KeyEvent,
      let log := events.foldl KeyLog.next ⟨data, [], []⟩
      queuedKeys data ++ log.stored = log.taken ++ queuedKeys log.data ∧
      (∀ key, (vddInputPush log.data key).1 = false ↔
        (queuedKeys log.data).length + 1 = (inputKeyboardBounds log.data).size) ∧
      ((vddInputPop log.data).1 = none ↔ queuedKeys log.data = [])) ∧
    (∀ fuel answer after, inputInt16Status fuel data = some (answer, after) →
      ∃ last, inputInt16Read 1 after = some (answer, last)) ∧
    (((∀ count, PopsSucceed count data → count ≤ (inputKeyboardBounds data).size) ∧
      (∃ fuel, (inputInt16Read fuel data).isSome = true) ∧
      ∃ fuel, (inputInt16Status fuel data).isSome = true) ↔ TailInRing data) := by
  refine ⟨fun key address => vddInputPush_writes, fun hready events => ?_,
    fun fuel answer after => status_then_read, ?_, fun htail => ?_⟩
  · obtain ⟨hlast, hkeys⟩ := keyLog_run hready events
    exact ⟨hkeys, fun key => (vddInputPush_queue hlast key).2.2, (vddInputPop_queue hlast).2.2⟩
  · rintro ⟨hbound, -, -⟩ hhead
    by_contra htail
    have hle := hbound _ (popsSucceed_runaway hhead htail ((inputKeyboardBounds data).size + 1))
    omega
  · obtain ⟨hread, hstatus⟩ := loops_return htail
    refine ⟨fun count hpops => ?_, ⟨_, hread⟩, ⟨_, hstatus⟩⟩
    exact (popsSucceed_le htail hpops).trans (keysLeft_lt htail).le

def strayTail : ByteMemory := ByteMemory.writeWord (fun _ => 0) biosBdaKeyboardHead 0x1E

theorem stray_tail_runs_away :
    (inputKeyboardBounds strayTail).size = 16 ∧ PopsSucceed 17 strayTail := by
  exact ⟨by decide, popsSucceed_runaway (by decide) (by decide) 17⟩

end Ntvdmex.Vdd.BiosKeyRing
