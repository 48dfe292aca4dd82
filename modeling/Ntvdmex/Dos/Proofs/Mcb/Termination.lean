import Ntvdmex.Dos.Proofs.Mcb.Chain
import Ntvdmex.Foundation.Runs

/-!
# When the walks return

On arbitrary memory the walk of AH=48h and the merge of AH=49h follow the sizes in the headers,
modulo 64K segments, with no bound on their number.  Merging only makes a header skip others, so
every header a walk looks at stands on the walk over the headers as they were; whether it returns
can be read off that walk.
-/

namespace Ntvdmex.Dos.Mcb

open Foundation Nat

variable {stop target : Nat} {final : ByteMemory}

/-- The header behind a block. -/
def mcbNext (memory : ByteMemory) (segment : Nat) : Nat :=
  word (segment + 1 + mcbSize memory segment)

/-- The headers one after the other, from `segment` on. -/
def mcbWalk (memory : ByteMemory) (segment : Nat) (index : Nat) : Nat :=
  (mcbNext memory)^[index] segment

def IsFreeMember (memory : ByteMemory) (segment : Nat) : Prop :=
  mcbOwner memory segment = dosMcbOwnerFree ∧ mcbSignature memory segment = dosMcbMember

def RunStartsAt (memory : ByteMemory) (segment start : Nat) : Prop :=
  mcbOwner memory (mcbWalk memory segment start) = dosMcbOwnerFree ∧
    (start = 0 ∨ ¬IsFreeMember memory (mcbWalk memory segment (start - 1)) ∨
      ¬IsFreeMember memory (mcbWalk memory segment start))

/-- The first header behind a run. -/
def RunStopsAt (memory : ByteMemory) (segment start stop : Nat) : Prop :=
  (¬IsFreeMember memory (mcbWalk memory segment start) ∧ stop = start + 1) ∨
    (start < stop ∧ ¬IsFreeMember memory (mcbWalk memory segment stop) ∧
      ∀ index, start ≤ index → index < stop → IsFreeMember memory (mcbWalk memory segment index))

/-- The walk meets a `'Z'`. -/
def MeetsLast (memory : ByteMemory) (segment : Nat) : Prop :=
  ∃ index, mcbSignature memory (mcbWalk memory segment index) = dosMcbLast

def MeetsFit (memory : ByteMemory) (segment requested : Nat) : Prop :=
  ∃ start stop, RunStartsAt memory segment start ∧ RunStopsAt memory segment start stop ∧
    requested ≤ wordSub (mcbWalk memory segment stop) (mcbWalk memory segment start + 1)

section Walk

variable {memory : ByteMemory} {segment : Nat}

@[simp]
theorem mcbWalk_zero : mcbWalk memory segment 0 = segment := rfl

theorem mcbWalk_succ (index : Nat) :
    mcbWalk memory segment (index + 1) = mcbNext memory (mcbWalk memory segment index) :=
  Function.iterate_succ_apply' _ _ _

theorem mcbWalk_add (first second : Nat) :
    mcbWalk memory segment (first + second) =
      mcbWalk memory (mcbWalk memory segment first) second := by
  unfold mcbWalk
  rw [Nat.add_comm, Function.iterate_add_apply]

theorem mcbSize_eq (memory : ByteMemory) (segment : Nat) :
    mcbSize memory segment = wordSub (mcbNext memory segment) (segment + 1) := by
  have hsize := mcbSize_lt memory segment
  unfold mcbNext wordSub word
  omega

end Walk

/-! ## Headers that skip -/

/-- `target` is behind `segment` with only free members skipped. -/
def Skips (memory : ByteMemory) (segment target : Nat) : Prop :=
  ∃ count, target = mcbWalk memory segment (count + 1) ∧
    (count = 0 ∨ ∀ index ≤ count, IsFreeMember memory (mcbWalk memory segment index))

/-- The header of `segment` in `memory`, as merging leaves those of `start`. -/
structure Skipping (start memory : ByteMemory) (segment : Nat) : Prop where
  owner : mcbOwner memory segment = mcbOwner start segment
  signature : mcbSignature memory segment = mcbSignature start segment
  next : Skips start segment (mcbNext memory segment)

section Skips

variable {start memory : ByteMemory} {segment target behind : Nat}

theorem skips_next (memory : ByteMemory) (segment : Nat) :
    Skips memory segment (mcbNext memory segment) :=
  ⟨0, rfl, .inl rfl⟩

theorem Skipping.refl (memory : ByteMemory) (segment : Nat) : Skipping memory memory segment :=
  ⟨rfl, rfl, skips_next memory segment⟩

/-- Only a free member's header skips. -/
theorem Skips.eq_next (h : Skips start segment target) (hnot : ¬IsFreeMember start segment) :
    target = mcbNext start segment := by
  obtain ⟨count, rfl, rfl | hinner⟩ := h
  · rfl
  · exact absurd (hinner 0 (Nat.zero_le _)) hnot

theorem Skips.trans (hfirst : Skips start segment target) (hsecond : Skips start target behind)
    (hsegment : IsFreeMember start segment) (htarget : IsFreeMember start target) :
    Skips start segment behind := by
  obtain ⟨count, rfl, hcount⟩ := hfirst
  obtain ⟨more, rfl, hmore⟩ := hsecond
  refine ⟨count + 1 + more, ?_, .inr ?_⟩
  · rw [← mcbWalk_add]
    rfl
  · intro index hindex
    have hfront : ∀ index ≤ count, IsFreeMember start (mcbWalk start segment index) := by
      rcases hcount with rfl | hcount
      · intro index hindex
        rw [le_zero.mp hindex]
        exact hsegment
      · exact hcount
    have hback : ∀ index ≤ more,
        IsFreeMember start (mcbWalk start (mcbWalk start segment (count + 1)) index) := by
      rcases hmore with rfl | hmore
      · intro index hindex
        rw [le_zero.mp hindex]
        exact htarget
      · exact hmore
    by_cases hle : index ≤ count
    · exact hfront index hle
    · have hsplit : index = count + 1 + (index - (count + 1)) := by omega
      rw [hsplit, mcbWalk_add]
      exact hback _ (by omega)

theorem Skips.walk (h : Skips start segment target) (hsegment : IsFreeMember start segment) :
    ∃ count, target = mcbWalk start segment (count + 1) ∧
      ∀ index ≤ count, IsFreeMember start (mcbWalk start segment index) := by
  obtain ⟨count, htarget, rfl | hinner⟩ := h
  · refine ⟨0, htarget, fun index hindex => ?_⟩
    rw [le_zero.mp hindex]
    exact hsegment
  · exact ⟨count, htarget, hinner⟩

end Skips

/-! ## One turn of a merge -/

/-- The header `segment` after it absorbed the block behind it. -/
def absorbed (memory : ByteMemory) (segment : Nat) : ByteMemory :=
  setMcbSignature
    (setMcbSize memory segment
      (word (mcbSize memory segment + 1 + mcbSize memory (mcbNext memory segment))))
    segment (mcbSignature memory (mcbNext memory segment))

section Absorbed

variable {start memory : ByteMemory} {segment other : Nat}

theorem absorbed_owner : mcbOwner (absorbed memory segment) other = mcbOwner memory other := by
  simp [absorbed]

theorem absorbed_signature_self :
    mcbSignature (absorbed memory segment) segment =
      mcbSignature memory (mcbNext memory segment) := by
  simp [absorbed]

theorem absorbed_size_self :
    mcbSize (absorbed memory segment) segment =
      word (mcbSize memory segment + 1 + mcbSize memory (mcbNext memory segment)) := by
  simp [absorbed, word]

theorem absorbed_other (memory : ByteMemory) (hother : other ≠ segment) :
    mcbSignature (absorbed memory segment) other = mcbSignature memory other ∧
      mcbNext (absorbed memory segment) other = mcbNext memory other := by
  simp [absorbed, mcbNext, hother]

theorem absorbed_next_self :
    mcbNext (absorbed memory segment) segment = mcbNext memory (mcbNext memory segment) := by
  have hnext := mcbSize_lt memory (mcbNext memory segment)
  unfold mcbNext at hnext ⊢
  rw [absorbed_size_self]
  unfold mcbNext word at *
  lia

theorem Skipping.absorbed_other (h : Skipping start memory other) (hother : other ≠ segment) :
    Skipping start (absorbed memory segment) other := by
  obtain ⟨hsignature, hnext⟩ := Mcb.absorbed_other memory hother
  exact ⟨absorbed_owner.trans h.owner, hsignature.trans h.signature, by rw [hnext]; exact h.next⟩

theorem skipping_absorbed (h : ∀ other, Skipping start memory other)
    (hsegment : IsFreeMember start segment)
    (hnext : IsFreeMember start (mcbNext memory segment)) :
    ∀ other, Skipping start (absorbed memory segment) other := by
  intro other
  by_cases hother : other = segment
  · subst hother
    refine ⟨absorbed_owner.trans (h other).owner, ?_, ?_⟩
    · rw [absorbed_signature_self, (h _).signature, hnext.2, hsegment.2]
    · rw [absorbed_next_self]
      exact (h other).next.trans (h _).next hsegment hnext
  · exact (h other).absorbed_other hother

end Absorbed

/-! ## The whole merge -/

def Absorbs (memory : ByteMemory) (segment : Nat) : Prop :=
  mcbSignature memory segment = dosMcbMember ∧
    mcbOwner memory (mcbNext memory segment) = dosMcbOwnerFree ∧
    isMcbSignature (mcbSignature memory (mcbNext memory segment)) = true
deriving Decidable

section Coalesce

variable {start memory final : ByteMemory} {segment index : Nat}

theorem dosMcbFreeCoalesce_succ (fuel : Nat) (memory : ByteMemory) (segment : Nat) :
    dosMcbFreeCoalesce (fuel + 1) memory segment =
      if Absorbs memory segment then dosMcbFreeCoalesce fuel (absorbed memory segment) segment
      else some memory := by
  rw [dosMcbFreeCoalesce]
  by_cases h : Absorbs memory segment
  · have howner := not_not.mpr h.2.1
    have hsignature := not_not.mpr h.2.2
    unfold mcbNext at howner hsignature
    rw [if_pos h, if_pos h.1, if_neg howner, if_neg hsignature]
    dsimp only
    rw [mcbSignature_setMcbSize]
    rfl
  · rw [if_neg h]
    refine ite_eq_right_iff.mpr fun hmember => ite_eq_left_iff.mpr fun howner => ?_
    refine ite_eq_left_iff.mpr fun hsignature => absurd ?_ h
    exact ⟨hmember, not_not.mp howner, not_not.mp hsignature⟩

/-- AH=48h merges as AH=49h does. -/
theorem dosMcbAllocateMerge_eq (fuel : Nat) (memory : ByteMemory) (segment : Nat) :
    dosMcbAllocateMerge fuel memory segment (mcbSize memory segment)
        (mcbSignature memory segment) =
      (dosMcbFreeCoalesce fuel memory segment).map fun final =>
        (final, mcbSize final segment, mcbSignature final segment) := by
  induction fuel generalizing memory with
  | zero => rfl
  | succ fuel ih =>
    rw [dosMcbFreeCoalesce_succ, dosMcbAllocateMerge]
    by_cases h : Absorbs memory segment
    · have howner := not_not.mpr h.2.1
      have hsignature := not_not.mpr h.2.2
      unfold mcbNext at howner hsignature
      rw [if_pos h, if_pos h.1, if_neg howner, if_neg hsignature, ← ih, absorbed_size_self,
        absorbed_signature_self]
      dsimp only
      rw [mcbSignature_setMcbSize]
      rfl
    · rw [if_neg h]
      refine ite_eq_right_iff.mpr fun hmember => ite_eq_left_iff.mpr fun howner => ?_
      refine ite_eq_left_iff.mpr fun hsignature => absurd ?_ h
      exact ⟨hmember, not_not.mp howner, not_not.mp hsignature⟩

theorem dosMcbFreeCoalesce_none
    (hmembers : ∀ index, IsFreeMember start (mcbWalk start segment index)) (fuel : Nat)
    (h : ∀ other, Skipping start memory other) :
    dosMcbFreeCoalesce fuel memory segment = none := by
  induction fuel generalizing memory with
  | zero => rfl
  | succ fuel ih =>
    have hsegment : IsFreeMember start segment := hmembers 0
    obtain ⟨count, hcount, -⟩ := (h segment).next
    have hnext : IsFreeMember start (mcbNext memory segment) := by
      rw [hcount]
      exact hmembers _
    have habsorbs : Absorbs memory segment := by
      refine ⟨(h segment).signature.trans hsegment.2, (h _).owner.trans hnext.1, ?_⟩
      rw [(h _).signature, hnext.2]
      rfl
    rw [dosMcbFreeCoalesce_succ, if_pos habsorbs]
    exact ih (skipping_absorbed h hsegment hnext)

/-- What a merge over the headers up to `stop` leaves. -/
structure Merged (start final : ByteMemory) (segment stop : Nat) : Prop where
  stops : ¬IsFreeMember start (mcbWalk start segment stop)
  members : ∀ index < stop, IsFreeMember start (mcbWalk start segment index)
  positive : 0 < stop
  leaves : (∀ other, Skipping start final other) ∧
      mcbNext final segment = mcbWalk start segment stop ∨
    mcbSignature final segment = dosMcbLast ∧
      mcbSignature start (mcbWalk start segment stop) = dosMcbLast

/-- A merge of a free member that has come to header `index` ends with the run. -/
theorem dosMcbFreeCoalesce_merged (fuel : Nat) (h : ∀ other, Skipping start memory other)
    (hpos : 0 < index)
    (hmembers : ∀ other < index, IsFreeMember start (mcbWalk start segment other))
    (hnext : mcbNext memory segment = mcbWalk start segment index)
    (hfinal : dosMcbFreeCoalesce fuel memory segment = some final) :
    ∃ stop, Merged start final segment stop := by
  induction fuel generalizing memory index with
  | zero => cases hfinal
  | succ fuel ih =>
    have hsegment : IsFreeMember start segment := hmembers 0 hpos
    rw [dosMcbFreeCoalesce_succ] at hfinal
    by_cases hmember : IsFreeMember start (mcbNext memory segment)
    · have habsorbs : Absorbs memory segment := by
        refine ⟨(h segment).signature.trans hsegment.2, (h _).owner.trans hmember.1, ?_⟩
        rw [(h _).signature, hmember.2]
        rfl
      rw [if_pos habsorbs] at hfinal
      obtain ⟨count, hcount, hinner⟩ := (h (mcbNext memory segment)).next.walk hmember
      rw [hnext, ← mcbWalk_add] at hcount
      have hfurther : 0 < index + (count + 1) := by lia
      refine ih (skipping_absorbed h hsegment hmember) hfurther ?_ ?_ hfinal
      · intro other hother
        by_cases hlt : other < index
        · exact hmembers other hlt
        · have hsplit : other = index + (other - index) := by lia
          rw [hsplit, mcbWalk_add, ← hnext]
          exact hinner _ (by lia)
      · rw [absorbed_next_self, ← hcount, hnext]
    · rw [hnext] at hmember
      refine ⟨index, hmember, hmembers, hpos, ?_⟩
      by_cases habsorbs : Absorbs memory segment
      · rw [if_pos habsorbs] at hfinal
        have hlast : mcbSignature start (mcbWalk start segment index) = dosMcbLast := by
          have hsignature := habsorbs.2.2
          rw [(h _).signature, hnext] at hsignature
          have howner := habsorbs.2.1
          rw [(h _).owner, hnext] at howner
          rcases Bool.or_eq_true _ _ ▸ hsignature with hM | hZ
          · exact absurd ⟨howner, of_decide_eq_true hM⟩ hmember
          · exact of_decide_eq_true hZ
        have hself : mcbSignature (absorbed memory segment) segment = dosMcbLast := by
          rw [absorbed_signature_self, (h _).signature, hnext, hlast]
        cases fuel with
        | zero => cases hfinal
        | succ fuel =>
          rw [dosMcbFreeCoalesce_succ, if_neg] at hfinal
          · cases hfinal
            exact .inr ⟨hself, hlast⟩
          · intro hagain
            rw [Absorbs, hself] at hagain
            exact absurd hagain.1 (by decide)
      · rw [if_neg habsorbs] at hfinal
        cases hfinal
        exact .inl ⟨h, hnext⟩

/-- A run with an end is merged in finitely many turns. -/
theorem dosMcbFreeCoalesce_returns (h : ∀ other, Skipping start memory other) (hpos : 0 < index)
    (hle : index ≤ stop)
    (hmembers : ∀ other < stop, IsFreeMember start (mcbWalk start segment other))
    (hstop : ¬IsFreeMember start (mcbWalk start segment stop))
    (hnext : mcbNext memory segment = mcbWalk start segment index) :
    ∃ bound final, ∀ fuel ≥ bound, dosMcbFreeCoalesce fuel memory segment = some final := by
  induction hleft : stop - index using Nat.strong_induction_on generalizing memory index with
  | _ left ih =>
    have hsegment : IsFreeMember start segment := hmembers 0 (by lia)
    by_cases habsorbs : Absorbs memory segment
    · by_cases hmember : IsFreeMember start (mcbNext memory segment)
      · obtain ⟨count, hcount, hinner⟩ := (h (mcbNext memory segment)).next.walk hmember
        rw [hnext, ← mcbWalk_add] at hcount
        have hlt : index < stop := by
          refine lt_of_le_of_ne hle fun heq => hstop ?_
          rw [← heq, ← hnext]
          exact hmember
        have hfurther : index + (count + 1) ≤ stop := by
          by_contra hbeyond
          refine hstop ?_
          have hsplit : stop = index + (stop - index) := by lia
          rw [hsplit, mcbWalk_add, ← hnext]
          exact hinner _ (by lia)
        have hreached : mcbNext (absorbed memory segment) segment =
            mcbWalk start segment (index + (count + 1)) := by
          rw [absorbed_next_self, ← hcount, hnext]
        obtain ⟨bound, final, hbound⟩ := ih (stop - (index + (count + 1))) (by lia)
          (skipping_absorbed h hsegment hmember) (by lia) hfurther hreached rfl
        refine ⟨bound + 1, final, fun | fuel + 1, hfuel => ?_⟩
        rw [dosMcbFreeCoalesce_succ, if_pos habsorbs]
        exact hbound fuel (by lia)
      · have hends : ¬Absorbs (absorbed memory segment) segment := by
          intro hagain
          refine hmember ⟨(h _).owner.symm.trans habsorbs.2.1, ?_⟩
          rw [← (h _).signature, ← absorbed_signature_self]
          exact hagain.1
        refine ⟨2, absorbed memory segment, fun | fuel + 2, hfuel => ?_⟩
        rw [dosMcbFreeCoalesce_succ, if_pos habsorbs, dosMcbFreeCoalesce_succ, if_neg hends]
    · refine ⟨1, memory, fun | fuel + 1, hfuel => ?_⟩
      rw [dosMcbFreeCoalesce_succ, if_neg habsorbs]

end Coalesce

section FreeRun

variable {start memory final : ByteMemory} {segment : Nat}

section

variable (h : ∀ other, Skipping start memory other)
    (howner : mcbOwner start segment = dosMcbOwnerFree)

include h howner

theorem not_absorbs (hnot : ¬IsFreeMember start segment) :
    ¬Absorbs memory segment :=
  fun habsorbs => hnot ⟨howner, (h segment).signature.symm.trans habsorbs.1⟩

theorem merge_returns (hends : ∃ index, ¬IsFreeMember start (mcbWalk start segment index)) :
    ∃ bound final, ∀ fuel ≥ bound, dosMcbFreeCoalesce fuel memory segment = some final := by
  classical
  by_cases hsegment : IsFreeMember start segment
  · obtain ⟨count, hcount, hinner⟩ := (h segment).next.walk hsegment
    have hle : count + 1 ≤ Nat.find hends := by
      by_contra hbeyond
      exact Nat.find_spec hends (hinner _ (by lia))
    refine dosMcbFreeCoalesce_returns h (succ_pos count) hle ?_ (Nat.find_spec hends) hcount
    exact fun other hother => not_not.mp (Nat.find_min hends hother)
  · refine ⟨1, memory, fun | fuel + 1, hfuel => ?_⟩
    rw [dosMcbFreeCoalesce_succ, if_neg (not_absorbs h howner hsegment)]

end

theorem merge_spec (fuel : Nat) (h : ∀ other, Skipping start memory other)
    (howner : mcbOwner start segment = dosMcbOwnerFree)
    (hfinal : dosMcbFreeCoalesce fuel memory segment = some final) :
    ∃ stop, RunStopsAt start segment 0 stop ∧
      ((∀ other, Skipping start final other) ∧ mcbNext final segment = mcbWalk start segment stop ∨
        mcbSignature final segment = dosMcbLast ∧ MeetsLast start segment) := by
  by_cases hsegment : IsFreeMember start segment
  · obtain ⟨count, hcount, hinner⟩ := (h segment).next.walk hsegment
    obtain ⟨stop, hmerged⟩ := dosMcbFreeCoalesce_merged fuel h (succ_pos count)
      (fun other hother => hinner other (le_of_lt_succ hother)) hcount hfinal
    refine ⟨stop, .inr ⟨hmerged.positive, hmerged.stops, fun index _ => hmerged.members index⟩, ?_⟩
    exact hmerged.leaves.imp_right fun hlast => ⟨hlast.1, stop, hlast.2⟩
  · cases fuel with
    | zero => cases hfinal
    | succ fuel =>
      rw [dosMcbFreeCoalesce_succ, if_neg (not_absorbs h howner hsegment)] at hfinal
      cases hfinal
      exact ⟨1, .inl ⟨hsegment, rfl⟩, .inl ⟨h, (h segment).next.eq_next hsegment⟩⟩

end FreeRun

/-! ## The walk of AH=48h -/

section AllocateWalk

variable {start memory : ByteMemory} {first requested position : Nat}

def AtRun (start : ByteMemory) (first position : Nat) : Prop :=
  position = 0 ∨ ¬IsFreeMember start (mcbWalk start first (position - 1)) ∨
    ¬IsFreeMember start (mcbWalk start first position)

theorem RunStopsAt.shift (h : RunStopsAt start (mcbWalk start first position) 0 stop) :
    RunStopsAt start first position (position + stop) := by
  rcases h with ⟨hnot, rfl⟩ | ⟨hpos, hstop, hmembers⟩
  · exact .inl ⟨hnot, rfl⟩
  · rw [← mcbWalk_add] at hstop
    refine .inr ⟨by omega, hstop, fun index hle hlt => ?_⟩
    have hinner := hmembers (index - position) (Nat.zero_le _) (by omega)
    rw [← mcbWalk_add, Nat.add_sub_cancel' hle] at hinner
    exact hinner

theorem MeetsLast.shift (h : MeetsLast start (mcbWalk start first position)) :
    MeetsLast start first := by
  obtain ⟨index, hindex⟩ := h
  rw [← mcbWalk_add] at hindex
  exact ⟨position + index, hindex⟩

variable (h : RunStopsAt start first position stop)

include h

theorem RunStopsAt.lt : position < stop := by
  rcases h with ⟨-, rfl⟩ | ⟨hlt, -⟩
  · exact lt_succ_self _
  · exact hlt

theorem RunStopsAt.atRun : AtRun start first stop := by
  rcases h with ⟨hnot, rfl⟩ | ⟨-, hstop, -⟩
  · exact .inr (.inl hnot)
  · exact .inr (.inr hstop)

theorem RunStopsAt.unique {other : Nat} (hother : RunStopsAt start first position other) :
    stop = other := by
  rcases h with ⟨hnot, rfl⟩ | ⟨hlt, hstop, hmembers⟩ <;>
    rcases hother with ⟨hnot', rfl⟩ | ⟨hlt', hstop', hmembers'⟩
  · rfl
  · exact absurd (hmembers' position (le_refl _) hlt') hnot
  · exact absurd (hmembers position (le_refl _) hlt) hnot'
  · rcases Nat.lt_trichotomy stop other with hless | heq | hmore
    · exact absurd (hmembers' stop hlt.le hless) hstop
    · exact heq
    · exact absurd (hmembers other hlt'.le hmore) hstop'

theorem RunStopsAt.not_inside {inner : Nat} (hbefore : position < inner) (hafter : inner < stop) :
    ¬RunStartsAt start first inner := by
  rcases h with ⟨-, rfl⟩ | ⟨-, -, hmembers⟩
  · lia
  · rintro ⟨-, rfl | hnot | hnot⟩
    · lia
    · exact hnot (hmembers _ (by lia) (by lia))
    · exact hnot (hmembers _ hbefore.le hafter)

omit h

variable (fuel biggest : Nat)

theorem dosMcbAllocateWalk_owned (segment : Nat)
    (howner : mcbOwner memory segment ≠ dosMcbOwnerFree) :
    dosMcbAllocateWalk requested (fuel + 1) memory segment biggest =
      if mcbSignature memory segment = dosMcbLast then
        some (memory, .error (.insufficientMemory biggest))
      else
        dosMcbAllocateWalk requested fuel memory (mcbNext memory segment) biggest := by
  rw [dosMcbAllocateWalk, if_neg howner]
  rfl

theorem dosMcbAllocateWalk_free (segment : Nat)
    (howner : mcbOwner memory segment = dosMcbOwnerFree)
    (hfinal : dosMcbFreeCoalesce fuel memory segment = some final) :
    dosMcbAllocateWalk requested (fuel + 1) memory segment biggest =
      if requested ≤ mcbSize final segment then
        some (dosMcbAllocateTake final segment requested (mcbSize final segment)
          (mcbSignature final segment), .ok (word (segment + 1)))
      else if mcbSignature final segment = dosMcbLast then
        some (final, .error (.insufficientMemory
          (if biggest < mcbSize final segment then mcbSize final segment else biggest)))
      else
        dosMcbAllocateWalk requested fuel final (mcbNext final segment)
          (if biggest < mcbSize final segment then mcbSize final segment else biggest) := by
  rw [dosMcbAllocateWalk, if_pos howner, dosMcbAllocateMerge_eq, hfinal]
  rfl

/-- If the walk returns, it has met a `'Z'` or a run that holds the request. -/
theorem dosMcbAllocateWalk_meets (h : ∀ other, Skipping start memory other)
    (hrun : AtRun start first position) {result : ByteMemory × Except DosMcbError Nat}
    (hresult : dosMcbAllocateWalk requested fuel memory (mcbWalk start first position) biggest =
      some result) :
    MeetsLast start first ∨ MeetsFit start first requested := by
  induction fuel generalizing memory position biggest with
  | zero => cases hresult
  | succ fuel ih =>
    have hheader := h (mcbWalk start first position)
    by_cases howner : mcbOwner start (mcbWalk start first position) = dosMcbOwnerFree
    · have hfree := hheader.owner.trans howner
      cases hfinal : dosMcbFreeCoalesce fuel memory (mcbWalk start first position) with
      | none =>
        rw [dosMcbAllocateWalk, if_pos hfree, dosMcbAllocateMerge_eq, hfinal] at hresult
        cases hresult
      | some final =>
        rw [dosMcbAllocateWalk_free fuel biggest _ hfree hfinal] at hresult
        obtain ⟨stop, hstops, ⟨hskipping, hnext⟩ | ⟨-, hlast⟩⟩ := merge_spec fuel h howner hfinal
        · have hruns := hstops.shift
          rw [← mcbWalk_add] at hnext
          rw [mcbSize_eq, hnext, (hskipping _).signature] at hresult
          by_cases hfits : requested ≤ wordSub (mcbWalk start first (position + stop))
              (mcbWalk start first position + 1)
          · exact .inr ⟨position, position + stop, ⟨howner, hrun⟩, hruns, hfits⟩
          · rw [if_neg hfits] at hresult
            by_cases hlast : mcbSignature start (mcbWalk start first position) = dosMcbLast
            · exact .inl ⟨position, hlast⟩
            · rw [if_neg hlast] at hresult
              exact ih _ hskipping hruns.atRun hresult
        · exact .inl hlast.shift
    · have howned := fun hfree => howner (hheader.owner.symm.trans hfree)
      have hmember : ¬IsFreeMember start (mcbWalk start first position) :=
        fun hmember => howner hmember.1
      rw [dosMcbAllocateWalk_owned fuel biggest _ howned, hheader.signature,
        hheader.next.eq_next hmember, ← mcbWalk_succ] at hresult
      by_cases hlast : mcbSignature start (mcbWalk start first position) = dosMcbLast
      · exact .inl ⟨position, hlast⟩
      · rw [if_neg hlast] at hresult
        have hpassed : RunStopsAt start first position (position + 1) := .inl ⟨hmember, rfl⟩
        exact ih _ h hpassed.atRun hresult

/-- What ends the walk at `target`: a `'Z'`, or a run that holds the request. -/
def EndsWalk (start : ByteMemory) (first requested target : Nat) : Prop :=
  mcbSignature start (mcbWalk start first target) = dosMcbLast ∨
    ∃ stop, RunStartsAt start first target ∧ RunStopsAt start first target stop ∧
      requested ≤ wordSub (mcbWalk start first stop) (mcbWalk start first target + 1)

theorem EndsWalk.run_ends (h : EndsWalk start first requested target) :
    ∃ index ≥ target, ¬IsFreeMember start (mcbWalk start first index) := by
  rcases h with hlast | ⟨stop, -, ⟨hnot, -⟩ | ⟨hlt, hstop, -⟩, -⟩
  · refine ⟨target, le_refl _, fun hmember => ?_⟩
    rw [hmember.2] at hlast
    exact absurd hlast (by decide)
  · exact ⟨target, le_refl _, hnot⟩
  · exact ⟨stop, hlt.le, hstop⟩

theorem EndsWalk.past_run (h : EndsWalk start first requested target) (hle : position ≤ target)
    (hstops : RunStopsAt start first position stop)
    (hlast : mcbSignature start (mcbWalk start first position) ≠ dosMcbLast)
    (hfits : ¬requested ≤ wordSub (mcbWalk start first stop) (mcbWalk start first position + 1)) :
    stop ≤ target := by
  have hne : position ≠ target := by
    rintro rfl
    rcases h with hZ | ⟨other, -, hother, hfit⟩
    · exact hlast hZ
    · rw [hstops.unique hother] at hfits
      exact hfits hfit
  by_contra hinside
  rcases h with hZ | ⟨other, hstarts, -⟩
  · rcases hstops with ⟨-, rfl⟩ | ⟨-, -, hmembers⟩
    · lia
    · have hmember := hmembers target hle (by lia)
      rw [hmember.2] at hZ
      exact absurd hZ (by decide)
  · exact hstops.not_inside (by lia) (by lia) hstarts

theorem dosMcbAllocateWalk_ends {segment bound : Nat}
    (howner : mcbOwner memory segment = dosMcbOwnerFree)
    (hfinal : ∀ fuel ≥ bound, dosMcbFreeCoalesce fuel memory segment = some final)
    (hends : requested ≤ mcbSize final segment ∨ mcbSignature final segment = dosMcbLast)
    (biggest : Nat) :
    ∃ bound result, ∀ fuel ≥ bound,
      dosMcbAllocateWalk requested fuel memory segment biggest = some result := by
  have hreturns : ∃ result, ∀ fuel ≥ bound,
      dosMcbAllocateWalk requested (fuel + 1) memory segment biggest = some result := by
    by_cases hfits : requested ≤ mcbSize final segment
    · refine ⟨(dosMcbAllocateTake final segment requested (mcbSize final segment)
        (mcbSignature final segment), .ok (word (segment + 1))), fun fuel hfuel => ?_⟩
      rw [dosMcbAllocateWalk_free fuel biggest _ howner (hfinal fuel hfuel), if_pos hfits]
    · have hlast := hends.resolve_left hfits
      refine ⟨(final, .error (.insufficientMemory
        (if biggest < mcbSize final segment then mcbSize final segment else biggest))),
        fun fuel hfuel => ?_⟩
      rw [dosMcbAllocateWalk_free fuel biggest _ howner (hfinal fuel hfuel), if_neg hfits,
        if_pos hlast]
  obtain ⟨result, hresult⟩ := hreturns
  refine ⟨bound + 1, result, fun | fuel + 1, hfuel => ?_⟩
  exact hresult fuel (by lia)

theorem dosMcbAllocateWalk_returns (h : ∀ other, Skipping start memory other)
    (hle : position ≤ target) (hends : EndsWalk start first requested target) (biggest : Nat) :
    ∃ bound result, ∀ fuel ≥ bound,
      dosMcbAllocateWalk requested fuel memory (mcbWalk start first position) biggest =
        some result := by
  induction hleft : target - position using Nat.strong_induction_on
    generalizing memory position biggest with
  | _ left ih =>
    have hheader := h (mcbWalk start first position)
    by_cases howner : mcbOwner start (mcbWalk start first position) = dosMcbOwnerFree
    · have hrunEnds : ∃ index,
          ¬IsFreeMember start (mcbWalk start (mcbWalk start first position) index) := by
        obtain ⟨index, hindex, hnot⟩ := hends.run_ends
        refine ⟨index - position, ?_⟩
        rw [← mcbWalk_add, Nat.add_sub_cancel' (by lia)]
        exact hnot
      have hfree := hheader.owner.trans howner
      obtain ⟨bound, final, hfinal⟩ := merge_returns h howner hrunEnds
      obtain ⟨stop, hstops, ⟨hskipping, hnext⟩ | ⟨hlast, -⟩⟩ :=
        merge_spec bound h howner (hfinal bound (le_refl _))
      · have hruns := hstops.shift
        rw [← mcbWalk_add] at hnext
        have hsize := mcbSize_eq final (mcbWalk start first position)
        rw [hnext] at hsize
        by_cases hends' : requested ≤ mcbSize final (mcbWalk start first position) ∨
            mcbSignature final (mcbWalk start first position) = dosMcbLast
        · exact dosMcbAllocateWalk_ends hfree hfinal hends' biggest
        · obtain ⟨hfits, hlast⟩ := not_or.mp hends'
          have hnotLast : mcbSignature start (mcbWalk start first position) ≠ dosMcbLast :=
            (hskipping _).signature ▸ hlast
          have hnotFits : ¬requested ≤ wordSub (mcbWalk start first (position + stop))
              (mcbWalk start first position + 1) := hsize ▸ hfits
          have hpast := hends.past_run hle hruns hnotLast hnotFits
          have hless := hruns.lt
          obtain ⟨rest, result, hresult⟩ := ih (target - (position + stop)) (by lia)
            hskipping hpast _ rfl
          refine ⟨max bound rest + 1, result, fun | fuel + 1, hfuel => ?_⟩
          rw [dosMcbAllocateWalk_free fuel biggest _ hfree (hfinal fuel (by lia)),
            if_neg hfits, if_neg hlast, hnext]
          exact hresult fuel (by lia)
      · exact dosMcbAllocateWalk_ends hfree hfinal (.inr hlast) biggest
    · have howned := fun hfree => howner (hheader.owner.symm.trans hfree)
      have hmember : ¬IsFreeMember start (mcbWalk start first position) :=
        fun hmember => howner hmember.1
      by_cases hlast : mcbSignature start (mcbWalk start first position) = dosMcbLast
      · refine ⟨1, (memory, .error (.insufficientMemory biggest)), fun | fuel + 1, hfuel => ?_⟩
        rw [dosMcbAllocateWalk_owned fuel biggest _ howned, hheader.signature, if_pos hlast]
      · have hpassed : position ≠ target := by
          rintro rfl
          rcases hends with hZ | ⟨other, hstarts, -⟩
          · exact hlast hZ
          · exact howner hstarts.1
        obtain ⟨bound, result, hresult⟩ := ih (target - (position + 1)) (by lia) h
          (by lia) biggest rfl
        refine ⟨bound + 1, result, fun | fuel + 1, hfuel => ?_⟩
        rw [dosMcbAllocateWalk_owned fuel biggest _ howned, hheader.signature, if_neg hlast,
          hheader.next.eq_next hmember, ← mcbWalk_succ]
        exact hresult fuel (by lia)

end AllocateWalk

def released (memory : ByteMemory) (blockSegment : Nat) : ByteMemory :=
  setMcbOwner memory (wordSub blockSegment 1) dosMcbOwnerFree

theorem dosMcbAllocate_returns_iff (memory : ByteMemory) (firstMcb requested : Nat) :
    (∃ result, Returns (fun fuel => dosMcbAllocate fuel memory firstMcb requested) result) ↔
      MeetsLast memory firstMcb ∨ MeetsFit memory firstMcb requested := by
  have hstart : ∀ other, Skipping memory memory other := Skipping.refl memory
  constructor
  · rintro ⟨result, fuel, hresult⟩
    have hatRun : AtRun memory firstMcb 0 := .inl rfl
    exact dosMcbAllocateWalk_meets fuel 0 hstart hatRun (hresult fuel (le_refl _))
  · intro hmeets
    have hends : ∃ target, EndsWalk memory firstMcb requested target := by
      rcases hmeets with ⟨target, hlast⟩ | ⟨target, stop, hfit⟩
      · exact ⟨target, .inl hlast⟩
      · exact ⟨target, .inr ⟨stop, hfit⟩⟩
    obtain ⟨target, htarget⟩ := hends
    obtain ⟨bound, result, hresult⟩ :=
      dosMcbAllocateWalk_returns hstart (Nat.zero_le target) htarget 0
    exact ⟨result, bound, hresult⟩

theorem dosMcbFree_returns_iff (memory : ByteMemory) (blockSegment : Nat) :
    (∃ result, Returns (fun fuel => dosMcbFree fuel memory blockSegment) result) ↔
      ∃ index, ¬IsFreeMember (released memory blockSegment)
        (mcbWalk (released memory blockSegment) (wordSub blockSegment 1) index) := by
  have hstart := Skipping.refl (released memory blockSegment)
  have howner : mcbOwner (released memory blockSegment) (wordSub blockSegment 1) =
      dosMcbOwnerFree := by
    simp [released, word, dosMcbOwnerFree]
  have hsignature : mcbSignature (released memory blockSegment) (wordSub blockSegment 1) =
      mcbSignature memory (wordSub blockSegment 1) := by
    simp [released]
  unfold dosMcbFree
  by_cases hvalid : isMcbSignature (mcbSignature memory (wordSub blockSegment 1)) = true
  · constructor
    · rintro ⟨result, fuel, hreturns⟩
      by_contra hmembers
      have hnone := dosMcbFreeCoalesce_none (fun index => not_not.mp (not_exists.mp hmembers index))
        fuel hstart
      have hresult := hreturns fuel (le_refl _)
      dsimp only at hresult
      rw [if_neg (not_not.mpr hvalid), ← released, hnone] at hresult
      cases hresult
    · intro hends
      obtain ⟨bound, final, hfinal⟩ := merge_returns hstart howner hends
      refine ⟨(final, .ok ()), bound, fun fuel hfuel => ?_⟩
      dsimp only
      rw [if_neg (not_not.mpr hvalid), ← released, hfinal fuel hfuel]
  · refine iff_of_true ⟨(memory, .error .invalidBlock), 0, fun fuel _ => ?_⟩
      ⟨0, fun hmember => hvalid ?_⟩
    · dsimp only
      rw [if_pos hvalid]
    · rw [mcbWalk_zero, IsFreeMember, hsignature] at hmember
      rw [hmember.2]
      rfl

/-- On arbitrary memory AH=48h returns exactly if following the sizes from the first header
meets a `'Z'` or a free run that holds the request, and AH=49h exactly if following them from
the block it frees meets a header that is not a free `'M'`. -/
theorem mcb_walks_return_iff (memory : ByteMemory) :
    (∀ firstMcb requested,
      (∃ result, Returns (fun fuel => dosMcbAllocate fuel memory firstMcb requested) result) ↔
        MeetsLast memory firstMcb ∨ MeetsFit memory firstMcb requested) ∧
      ∀ blockSegment,
        (∃ result, Returns (fun fuel => dosMcbFree fuel memory blockSegment) result) ↔
          ∃ index, ¬IsFreeMember (released memory blockSegment)
            (mcbWalk (released memory blockSegment) (wordSub blockSegment 1) index) :=
  ⟨dosMcbAllocate_returns_iff memory, dosMcbFree_returns_iff memory⟩

/-- With a size of `FFFFh` in the first header the walk stands still. -/
theorem allocate_stands_still :
    ¬∃ result, Returns (fun fuel => dosMcbAllocate fuel (fun _ => 0xFF) dosFirstMcb 1) result := by
  have hnone : ∀ fuel biggest,
      dosMcbAllocateWalk 1 fuel (fun _ => 0xFF) dosFirstMcb biggest = none := by
    intro fuel
    induction fuel with
    | zero => exact fun _ => rfl
    | succ fuel ih => exact fun biggest => ih biggest
  rintro ⟨result, fuel, hreturns⟩
  have hresult := hreturns fuel (le_refl _)
  dsimp only [dosMcbAllocate] at hresult
  rw [hnone] at hresult
  cases hresult

end Ntvdmex.Dos.Mcb
