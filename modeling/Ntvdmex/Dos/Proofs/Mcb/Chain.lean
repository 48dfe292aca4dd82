import Ntvdmex.Dos.Mcb
import Ntvdmex.Foundation.Tiling

/-!
# Headers and the chain they make

The allocator writes one field of one header at a time.  These lemmas say what
every field of every header reads afterwards, so that the chain proofs never
descend to bytes again.
-/

namespace Ntvdmex.Dos.Mcb

open Foundation

theorem dosMcbSegmentAddress_eq (segment : Nat) :
    dosMcbSegmentAddress segment = 16 * segment := by
  rw [dosMcbSegmentAddress, Nat.shiftLeft_eq]
  omega

section Fields

variable (memory : ByteMemory) (segment s value : Nat) (signature : UInt8)

theorem mcbSize_lt : mcbSize memory s < 65536 := ByteMemory.readWord_lt _ _

@[simp] theorem mcbSignature_setMcbSignature :
    mcbSignature (setMcbSignature memory segment signature) s =
      if s = segment then signature else mcbSignature memory s := by
  unfold mcbSignature setMcbSignature
  by_cases h : s = segment
  · rw [h, ByteMemory.store_same, if_pos rfl]
  · rw [if_neg h, ByteMemory.store_other]
    rw [dosMcbSegmentAddress_eq, dosMcbSegmentAddress_eq]
    omega

@[simp] theorem mcbSignature_setMcbOwner :
    mcbSignature (setMcbOwner memory segment value) s = mcbSignature memory s := by
  apply ByteMemory.writeWord_other
  rw [dosMcbSegmentAddress_eq, dosMcbSegmentAddress_eq, dosMcbSignature, dosMcbOwner]
  omega

@[simp] theorem mcbSignature_setMcbSize :
    mcbSignature (setMcbSize memory segment value) s = mcbSignature memory s := by
  apply ByteMemory.writeWord_other
  rw [dosMcbSegmentAddress_eq, dosMcbSegmentAddress_eq, dosMcbSignature, dosMcbSize]
  omega

@[simp] theorem mcbSignature_clearMcbName :
    mcbSignature (clearMcbName memory segment) s = mcbSignature memory s := by
  apply ByteMemory.store_other
  rw [dosMcbSegmentAddress_eq, dosMcbSegmentAddress_eq, dosMcbSignature, dosMcbName]
  omega

@[simp] theorem mcbOwner_setMcbSignature :
    mcbOwner (setMcbSignature memory segment signature) s = mcbOwner memory s := by
  apply ByteMemory.readWord_store_disjoint
  rw [dosMcbSegmentAddress_eq, dosMcbSegmentAddress_eq, dosMcbSignature, dosMcbOwner]
  omega

@[simp] theorem mcbOwner_setMcbOwner :
    mcbOwner (setMcbOwner memory segment value) s =
      if s = segment then word value else mcbOwner memory s := by
  unfold mcbOwner setMcbOwner
  by_cases h : s = segment
  · rw [h, ByteMemory.readWord_writeWord_same, if_pos rfl, word]
  · rw [if_neg h, ByteMemory.readWord_writeWord_disjoint]
    rw [dosMcbSegmentAddress_eq, dosMcbSegmentAddress_eq]
    omega

@[simp] theorem mcbOwner_setMcbSize :
    mcbOwner (setMcbSize memory segment value) s = mcbOwner memory s := by
  apply ByteMemory.readWord_writeWord_disjoint
  rw [dosMcbSegmentAddress_eq, dosMcbSegmentAddress_eq, dosMcbOwner, dosMcbSize]
  omega

@[simp] theorem mcbOwner_clearMcbName :
    mcbOwner (clearMcbName memory segment) s = mcbOwner memory s := by
  apply ByteMemory.readWord_store_disjoint
  rw [dosMcbSegmentAddress_eq, dosMcbSegmentAddress_eq, dosMcbOwner, dosMcbName]
  omega

@[simp] theorem mcbSize_setMcbSignature :
    mcbSize (setMcbSignature memory segment signature) s = mcbSize memory s := by
  apply ByteMemory.readWord_store_disjoint
  rw [dosMcbSegmentAddress_eq, dosMcbSegmentAddress_eq, dosMcbSignature, dosMcbSize]
  omega

@[simp] theorem mcbSize_setMcbOwner :
    mcbSize (setMcbOwner memory segment value) s = mcbSize memory s := by
  apply ByteMemory.readWord_writeWord_disjoint
  rw [dosMcbSegmentAddress_eq, dosMcbSegmentAddress_eq, dosMcbOwner, dosMcbSize]
  omega

@[simp] theorem mcbSize_setMcbSize :
    mcbSize (setMcbSize memory segment value) s =
      if s = segment then word value else mcbSize memory s := by
  unfold mcbSize setMcbSize
  by_cases h : s = segment
  · rw [h, ByteMemory.readWord_writeWord_same, if_pos rfl, word]
  · rw [if_neg h, ByteMemory.readWord_writeWord_disjoint]
    rw [dosMcbSegmentAddress_eq, dosMcbSegmentAddress_eq]
    omega

@[simp] theorem mcbSize_clearMcbName :
    mcbSize (clearMcbName memory segment) s = mcbSize memory s := by
  apply ByteMemory.readWord_store_disjoint
  rw [dosMcbSegmentAddress_eq, dosMcbSegmentAddress_eq, dosMcbSize, dosMcbName]
  omega

variable (owner paragraphs : Nat)

@[simp] theorem mcbSignature_dosMcbWriteHeader :
    mcbSignature (dosMcbWriteHeader memory segment signature owner paragraphs) s =
      if s = segment then signature else mcbSignature memory s := by
  simp [dosMcbWriteHeader]

@[simp] theorem mcbOwner_dosMcbWriteHeader :
    mcbOwner (dosMcbWriteHeader memory segment signature owner paragraphs) s =
      if s = segment then word owner else mcbOwner memory s := by
  simp [dosMcbWriteHeader]

@[simp] theorem mcbSize_dosMcbWriteHeader :
    mcbSize (dosMcbWriteHeader memory segment signature owner paragraphs) s =
      if s = segment then word paragraphs else mcbSize memory s := by
  simp [dosMcbWriteHeader]

end Fields

/-!
## The chain as a list of blocks

`McbChain` relates the headers in memory to a list of blocks tiling
`[segment, top)`.  It is the abstract state of the allocator: everything a
service does to headers is an edit of this list.
-/

open Foundation.Tiling

structure McbBlock where
  owner : Nat
  size : Nat
  deriving DecidableEq, Repr

open McbBlock

def McbBlock.span (block : McbBlock) : Nat := 1 + block.size

/-- The signature of a header followed by the blocks `rest`. -/
def chainSignature (rest : List McbBlock) : UInt8 :=
  if rest.isEmpty then dosMcbLast else dosMcbMember

/-- The headers from `segment` on describe `blocks`, which end at `top`. -/
def McbChain (memory : ByteMemory) (top : Nat) : Nat → List McbBlock → Prop
  | segment, [] => segment = top
  | segment, block :: rest =>
    mcbSignature memory segment = chainSignature rest ∧
    mcbOwner memory segment = block.owner ∧
    mcbSize memory segment = block.size ∧
    McbChain memory top (segment + 1 + block.size) rest

def SameHeader (left right : ByteMemory) (segment : Nat) : Prop :=
  mcbSignature right segment = mcbSignature left segment ∧
  mcbOwner right segment = mcbOwner left segment ∧
  mcbSize right segment = mcbSize left segment

theorem SameHeader.refl (memory : ByteMemory) (segment : Nat) :
    SameHeader memory memory segment := ⟨rfl, rfl, rfl⟩

theorem SameHeader.trans {a b c : ByteMemory} {segment : Nat}
    (hab : SameHeader a b segment) (hbc : SameHeader b c segment) :
    SameHeader a c segment :=
  ⟨hbc.1.trans hab.1, hbc.2.1.trans hab.2.1, hbc.2.2.trans hab.2.2⟩

@[simp] theorem chainSignature_nil : chainSignature [] = dosMcbLast := rfl

@[simp] theorem chainSignature_cons (block : McbBlock) (rest : List McbBlock) :
    chainSignature (block :: rest) = dosMcbMember := rfl

theorem chainSignature_valid (rest : List McbBlock) :
    ¬ ¬ isMcbSignature (chainSignature rest) = true := by
  cases rest <;> exact not_not_intro rfl

theorem chainSignature_eq_last {rest : List McbBlock} :
    chainSignature rest = dosMcbLast ↔ rest = [] := by
  cases rest with
  | nil => simp
  | cons block rest =>
    rw [chainSignature_cons]
    constructor
    · intro h
      exact absurd h (by decide)
    · intro h
      cases h

theorem chainSignature_eq_member {rest : List McbBlock} :
    chainSignature rest = dosMcbMember ↔ rest ≠ [] := by
  cases rest with
  | nil => exact ⟨fun h => absurd h (by decide), fun h => absurd rfl h⟩
  | cons block rest => simp

namespace McbChain

variable {memory memory' : ByteMemory} {top segment : Nat}
  {block next : McbBlock} {rest blocks : List McbBlock}

theorem top_eq (h : McbChain memory top segment blocks) :
    top = segment + extent span blocks := by
  induction blocks generalizing segment with
  | nil => simpa using h.symm
  | cons block rest ih =>
    have hrest := ih h.2.2.2
    rw [extent_cons, span]
    omega

theorem segment_le (h : McbChain memory top segment blocks) : segment ≤ top := by
  have htop := h.top_eq
  omega

theorem block_end_le (h : McbChain memory top segment (block :: rest)) :
    segment + 1 + block.size ≤ top :=
  segment_le h.2.2.2

theorem congr (h : McbChain memory top segment blocks)
    (hsame : ∀ s, segment ≤ s → s < top → SameHeader memory memory' s) :
    McbChain memory' top segment blocks := by
  induction blocks generalizing segment with
  | nil => exact h
  | cons block rest ih =>
    have hend := h.block_end_le
    obtain ⟨hsig, howner, hsize⟩ := hsame segment (Nat.le_refl _) (by lia)
    refine ⟨hsig.trans h.1, howner.trans h.2.1, hsize.trans h.2.2.1, ?_⟩
    apply ih h.2.2.2
    intro s hlow hhigh
    exact hsame s (by lia) hhigh

theorem unique (hne : blocks ≠ []) (hne' : rest ≠ [])
    (h : McbChain memory top segment blocks) (h' : McbChain memory top segment rest) :
    blocks = rest := by
  induction blocks generalizing segment rest with
  | nil => exact absurd rfl hne
  | cons b bs ih =>
    cases rest with
    | nil => exact absurd rfl hne'
    | cons c cs =>
      have hblock : b = c := by
        cases b
        cases c
        simp only [McbBlock.mk.injEq]
        exact ⟨h.2.1.symm.trans h'.2.1, h.2.2.1.symm.trans h'.2.2.1⟩
      subst hblock
      have hsig : chainSignature bs = chainSignature cs := h.1.symm.trans h'.1
      by_cases hbs : bs = []
      · have hcs : cs = [] := by
          rw [hbs] at hsig
          exact chainSignature_eq_last.mp hsig.symm
        rw [hbs, hcs]
      · have hcs : cs ≠ [] := by
          rw [chainSignature_eq_member.mpr hbs] at hsig
          exact chainSignature_eq_member.mp hsig.symm
        rw [ih hbs hcs h.2.2.2 h'.2.2.2]

theorem suffix {pre suf : List McbBlock}
    (h : McbChain memory top segment (pre ++ suf)) :
    McbChain memory top (segment + extent span pre) suf := by
  induction pre generalizing segment with
  | nil => simpa using h
  | cons block pre ih =>
    have hsuf := ih h.2.2.2
    rw [extent_cons, span]
    rwa [show segment + (1 + block.size + extent span pre) =
      segment + 1 + block.size + extent span pre by omega]

/-- Editing the blocks behind a header leaves that header alone, as long as
neither the old nor the new blocks are empty. -/
theorem replace_tail {rest' : List McbBlock} (hrest : rest ≠ []) (hrest' : rest' ≠ [])
    (h : McbChain memory top segment (block :: rest))
    (hsame : SameHeader memory memory' segment)
    (h' : McbChain memory' top (segment + 1 + block.size) rest') :
    McbChain memory' top segment (block :: rest') := by
  obtain ⟨hsig, howner, hsize⟩ := hsame
  refine ⟨?_, howner.trans h.2.1, hsize.trans h.2.2.1, h'⟩
  rw [hsig, h.1, chainSignature_eq_member.mpr hrest, chainSignature_eq_member.mpr hrest']

theorem replace_suffix (pre : List McbBlock) {suf suf' : List McbBlock} (hsuf : suf ≠ [])
    (hsuf' : suf' ≠ []) (h : McbChain memory top segment (pre ++ suf))
    (hsame : ∀ s < segment + extent span pre, SameHeader memory memory' s)
    (h' : McbChain memory' top (segment + extent span pre) suf') :
    McbChain memory' top segment (pre ++ suf') := by
  induction pre generalizing segment with
  | nil => simpa using h'
  | cons block pre ih =>
    rw [extent_cons, span] at hsame h'
    have hassoc : segment + (1 + block.size + extent span pre) =
        segment + 1 + block.size + extent span pre := by omega
    rw [hassoc] at hsame h'
    have htail := ih h.2.2.2 hsame h'
    exact h.replace_tail (List.append_ne_nil_of_right_ne_nil pre hsuf)
      (List.append_ne_nil_of_right_ne_nil pre hsuf') (hsame segment (by omega)) htail

end McbChain

end Ntvdmex.Dos.Mcb
