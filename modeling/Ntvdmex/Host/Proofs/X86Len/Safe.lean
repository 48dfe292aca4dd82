import Ntvdmex.Host.Proofs.X86Len.Decoded

/-!
# Instruction streams, and the safety of the length decoder

The decoder reads the array alone and answers from the instruction's own bytes.  So a stream of
instructions always goes on or ends, and streams that meet are one stream from there on.
-/

namespace Ntvdmex.Host.X86Len

open Foundation Option BitVec List

/-- The stream of an array from a position on. -/
def codeAt (bytes : List Byte) (start : Dword) (position : Nat) : Byte :=
  bytes.getD (start.toNat + position) 0

theorem holds_codeAt {bytes : List Byte} {length : Dword} (hbytes : length.toNat ≤ bytes.length)
    (start : Dword) : Holds (codeAt bytes start) bytes start length := by
  constructor
  intro position hposition
  have hlt : start.toNat + position < bytes.length := by omega
  unfold codeAt
  rw [List.getElem?_eq_getElem hlt, getD_eq_getElem?_getD, List.getElem?_eq_getElem hlt,
    getD_some]

section Decoder

variable {bytes bytes' : List Byte} {start length length' : Dword} {isDefault32 : Bool}

variable (hbytes : length.toNat ≤ bytes.length)

include hbytes

variable (hlength : length.toNat + 9 ≤ 2 ^ 32)

include hlength

theorem x86InstructionLength_within (start : Dword) (isDefault32 : Bool) :
    ∃ n, x86InstructionLength bytes start length isDefault32 = some n ∧
      (n = 0 ∨ 1 ≤ n.toNat ∧ start.toNat + n.toNat ≤ length.toNat) := by
  rcases x86InstructionLength_cases (holds_codeAt hbytes start) hlength isDefault32 with
    ⟨total, hdecodes, hanswer⟩ | hanswer
  · have hpos := hdecodes.pos
    have hfits := hdecodes.fits
    have htoNat : (BitVec.ofNat 32 total).toNat = total := by
      rw [toNat_ofNat]
      lia
    refine ⟨_, hanswer, Or.inr ?_⟩
    rw [htoNat]
    exact ⟨hpos, hfits⟩
  · exact ⟨0, hanswer, Or.inl rfl⟩

theorem x86InstructionLength_local {n : Dword}
    (hanswer : x86InstructionLength bytes start length isDefault32 = some n) (hn : n ≠ 0)
    (hlonger : length.toNat ≤ length'.toNat) (hbytes' : length'.toNat ≤ bytes'.length)
    (hsame : ∀ i, start.toNat ≤ i → i < start.toNat + n.toNat → bytes'[i]? = bytes[i]?) :
    x86InstructionLength bytes' start length' isDefault32 = some n := by
  rcases x86InstructionLength_cases (holds_codeAt hbytes start) hlength isDefault32 with
    ⟨total, hdecodes, htotal⟩ | hzero
  · obtain rfl := some.inj (hanswer.symm.trans htotal)
    have hfits := hdecodes.fits
    have htoNat : (BitVec.ofNat 32 total).toNat = total := by
      rw [toNat_ofNat]
      lia
    rw [htoNat] at hsame
    apply Decodes.answer (holds_codeAt hbytes' start)
    apply hdecodes.congr _ hlonger
    intro i hi
    unfold codeAt
    rw [getD_eq_getElem?_getD, getD_eq_getElem?_getD,
      hsame (start.toNat + i) (by lia) (by lia)]
  · exact absurd (some.inj (hanswer.symm.trans hzero)) hn

/-- The decoder reads nothing past `length`. -/
theorem x86InstructionLength_take :
    x86InstructionLength (bytes.take length.toNat) start length isDefault32 =
      x86InstructionLength bytes start length isDefault32 := by
  have htaken : length.toNat ≤ (bytes.take length.toNat).length := by
    rw [length_take]
    lia
  have hsame : ∀ i < length.toNat, (bytes.take length.toNat)[i]? = bytes[i]? :=
    fun i hi => getElem?_take_of_lt hi
  obtain ⟨n, hanswer, hwithin⟩ := x86InstructionLength_within hbytes hlength start
    isDefault32
  obtain ⟨n', hanswer', hwithin'⟩ := x86InstructionLength_within htaken hlength start
    isDefault32
  by_cases hn : n = 0
  · by_cases hn' : n' = 0
    · rw [hanswer, hanswer', hn, hn']
    · rw [hanswer', x86InstructionLength_local htaken hlength hanswer' hn' (Nat.le_refl _) hbytes
        fun i _ hi => (hsame i (by lia)).symm]
  · rw [hanswer, x86InstructionLength_local hbytes hlength hanswer hn (Nat.le_refl _) htaken
      fun i _ hi => hsame i (by lia)]

end Decoder

/-- The inner loop of `X86IsInstructionStart` goes on from `position` to `next`. -/
def StreamStep (bytes : List Byte) (offset length : Dword) (isDefault32 : Bool)
    (position next : Dword) : Prop :=
  position < offset ∧ ∃ n, x86InstructionLength bytes position length isDefault32 = some n ∧
    n ≠ 0 ∧ next = position + n

abbrev Reaches (bytes : List Byte) (offset length : Dword) (isDefault32 : Bool) :=
  Relation.ReflTransGen (StreamStep bytes offset length isDefault32)

section Streams

variable {bytes : List Byte} {offset length : Dword} {isDefault32 : Bool}

theorem streamStep_rightUnique :
    Relator.RightUnique (StreamStep bytes offset length isDefault32) := by
  rintro position next next' ⟨-, n, hn, -, rfl⟩ ⟨-, n', hn', -, rfl⟩
  obtain rfl := some.inj (hn.symm.trans hn')
  rfl

variable {position next : Dword}

variable (hbytes : length.toNat ≤ bytes.length)

include hbytes

variable (hlength : length.toNat + 9 ≤ 2 ^ 32)

include hlength

theorem StreamStep.advances (hstep : StreamStep bytes offset length isDefault32 position next) :
    position.toNat < next.toNat ∧ next.toNat ≤ length.toNat := by
  obtain ⟨-, n, hanswer, hn, rfl⟩ := hstep
  obtain ⟨n', hanswer', hwithin⟩ := x86InstructionLength_within hbytes hlength position
    isDefault32
  obtain rfl := some.inj (hanswer.symm.trans hanswer')
  obtain ⟨hpos, hends⟩ := hwithin.resolve_left hn
  rw [toNat_add]
  lia

theorem reaches_le (hreaches : Reaches bytes offset length isDefault32 position next) :
    position.toNat ≤ next.toNat ∧ (position.toNat = next.toNat → position = next) := by
  refine ⟨?_, eq_of_toNat_eq⟩
  induction hreaches with
  | refl => exact Nat.le_refl _
  | tail _ hstep ih => exact ih.trans (hstep.advances hbytes hlength).1.le

theorem reaches_from_meeting {first second meeting : Dword}
    (hfirst : Reaches bytes offset length isDefault32 first meeting)
    (hsecond : Reaches bytes offset length isDefault32 second meeting)
    (hpast : meeting.toNat ≤ position.toNat)
    (hposition : Reaches bytes offset length isDefault32 first position) :
    Reaches bytes offset length isDefault32 second position := by
  rcases hfirst.total_of_right_unique streamStep_rightUnique hposition with hafter | hbefore
  · exact hsecond.trans hafter
  · obtain ⟨hle, hsame⟩ := reaches_le hbytes hlength hbefore
    rw [hsame (by omega)]
    exact hsecond

omit hlength

omit hbytes

theorem x86Stream_step (hstep : StreamStep bytes offset length isDefault32 position next)
    (rounds : Nat) :
    x86Stream bytes offset length isDefault32 (rounds + 1) position =
      x86Stream bytes offset length isDefault32 rounds next := by
  obtain ⟨hbefore, n, hanswer, hn, rfl⟩ := hstep
  change (if position < offset then _ else _) = _
  rw [if_pos hbefore, hanswer, bind_eq_bind, bind_some, if_neg hn]

variable (hbytes : length.toNat ≤ bytes.length)

include hbytes

variable (hlength : length.toNat + 9 ≤ 2 ^ 32)

include hlength

theorem x86Stream_stop
    (hstop : ∀ next, ¬StreamStep bytes offset length isDefault32 position next) (rounds : Nat) :
    x86Stream bytes offset length isDefault32 (rounds + 1) position = some (some position) := by
  change (if position < offset then _ else _) = _
  by_cases hbefore : position < offset
  · obtain ⟨n, hanswer, -⟩ := x86InstructionLength_within hbytes hlength position
      isDefault32
    have hn : n = 0 := by
      by_contra hn
      exact hstop _ ⟨hbefore, n, hanswer, hn, rfl⟩
    rw [if_pos hbefore, hanswer, bind_eq_bind, bind_some, if_pos hn]
    rfl
  · rw [if_neg hbefore]

/-- A stream ends within as many rounds as there are bytes before `offset`, where it goes no
further. -/
theorem x86Stream_ends (isDefault32 : Bool) {rounds : Nat}
    (hrounds : offset.toNat - position.toNat < rounds) :
    ∃ final, x86Stream bytes offset length isDefault32 rounds position = some (some final) ∧
      Reaches bytes offset length isDefault32 position final ∧
      ∀ next, ¬StreamStep bytes offset length isDefault32 final next := by
  induction rounds generalizing position with
  | zero => exact absurd hrounds (Nat.not_lt_zero _)
  | succ rounds ih =>
    by_cases hgoes : ∃ next, StreamStep bytes offset length isDefault32 position next
    · obtain ⟨next, hstep⟩ := hgoes
      have hadvances := (hstep.advances hbytes hlength).1
      have hbefore := lt_def.mp hstep.1
      have hfewer : offset.toNat - next.toNat < rounds := by lia
      obtain ⟨final, hfinal, hreaches, hstop⟩ := ih hfewer
      exact ⟨final, (x86Stream_step hstep rounds).trans hfinal,
        Relation.ReflTransGen.head hstep hreaches, hstop⟩
    · have hstop := not_exists.mp hgoes
      exact ⟨position, x86Stream_stop hbytes hlength hstop rounds, .refl, hstop⟩

theorem x86Stream_take (rounds : Nat) (position : Dword) :
    x86Stream (bytes.take length.toNat) offset length isDefault32 rounds position =
      x86Stream bytes offset length isDefault32 rounds position := by
  induction rounds generalizing position with
  | zero => rfl
  | succ rounds ih =>
    unfold x86Stream
    rw [x86InstructionLength_take hbytes hlength]
    simp only [ih]

theorem x86Stream_meeting {first second meeting : Dword}
    (hfirst : Reaches bytes offset length isDefault32 first meeting)
    (hsecond : Reaches bytes offset length isDefault32 second meeting)
    {rounds : Nat} (hrounds : offset.toNat - first.toNat < rounds)
    (hrounds' : offset.toNat - second.toNat < rounds) :
    x86Stream bytes offset length isDefault32 rounds first =
      x86Stream bytes offset length isDefault32 rounds second := by
  obtain ⟨final, hfinal, hreaches, hstop⟩ :=
    x86Stream_ends hbytes hlength isDefault32 hrounds
  obtain ⟨final', hfinal', hreaches', hstop'⟩ :=
    x86Stream_ends hbytes hlength isDefault32 hrounds'
  have hends {end' : Dword} {start' : Dword}
      (hstart : Reaches bytes offset length isDefault32 start' meeting)
      (hend : Reaches bytes offset length isDefault32 start' end')
      (hstops : ∀ next, ¬StreamStep bytes offset length isDefault32 end' next) :
      Reaches bytes offset length isDefault32 meeting end' := by
    rcases hstart.total_of_right_unique streamStep_rightUnique hend with hafter | hbefore
    · exact hafter
    · rcases hbefore.cases_head with rfl | ⟨next, hstep, -⟩
      · exact .refl
      · exact absurd hstep (hstops next)
  have hboth := (hends hfirst hreaches hstop).total_of_right_unique streamStep_rightUnique
    (hends hsecond hreaches' hstop')
  have hsame : final = final' := by
    rcases hboth with hafter | hafter
    · rcases hafter.cases_head with h | ⟨next, hstep, -⟩
      · exact h
      · exact absurd hstep (hstop next)
    · rcases hafter.cases_head with h | ⟨next, hstep, -⟩
      · exact h.symm
      · exact absurd hstep (hstop' next)
  rw [hfinal, hfinal', hsame]

end Streams

/-! ## The votes -/

section Votes

variable {bytes : List Byte} {offset length : Dword} {isDefault32 : Bool}
variable {rounds : Nat}

variable (hbytes : length.toNat ≤ bytes.length)

include hbytes

variable (hlength : length.toNat + 9 ≤ 2 ^ 32)

include hlength

theorem x86Votes_ends (isDefault32 : Bool) {tries : Nat} {streamStart : Dword}
    (hrounds : tries < rounds) (htries : streamStart.toNat + tries = offset.toNat) :
    ∃ votes, x86Votes bytes rounds offset length isDefault32 tries streamStart =
      some (some votes) := by
  induction tries generalizing streamStart with
  | zero => exact ⟨0, rfl⟩
  | succ tries ih =>
    have hnext : (streamStart + 1).toNat + tries = offset.toNat := by
      rw [toNat_add]
      change (streamStart.toNat + 1) % 2 ^ 32 + tries = offset.toNat
      omega
    have hshort : offset.toNat - streamStart.toNat < rounds := by lia
    obtain ⟨final, hfinal, -⟩ :=
      x86Stream_ends hbytes hlength isDefault32 hshort
    obtain ⟨votes, hvotes⟩ := ih (by lia) hnext
    refine ⟨(if final = offset then 1 else 0) + votes, ?_⟩
    unfold x86Votes
    rw [hfinal, bind_eq_bind, bind_some]
    rw [hvotes]
    rfl

theorem x86IsInstructionStart_ends (hrounds : 48 < rounds) (offset : Dword) (isDefault32 : Bool) :
    ∃ verdict, x86IsInstructionStart bytes rounds offset length isDefault32 =
      some (some verdict) := by
  unfold x86IsInstructionStart
  by_cases hpast : length ≤ offset
  · exact ⟨false, by rw [if_pos hpast]⟩
  · rw [if_neg hpast]
    have hspan : (if offset < x86BoundarySpan then offset else x86BoundarySpan).toNat ≤ 48 ∧
        (if offset < x86BoundarySpan then offset else x86BoundarySpan).toNat ≤ offset.toNat := by
      have hboundary : x86BoundarySpan.toNat = 48 := rfl
      split
      · rename_i hlt
        have hlt' := lt_def.mp hlt
        lia
      · rename_i hle
        have hle' := Nat.le_of_not_lt fun h => hle (lt_def.mpr h)
        lia
    generalize (if offset < x86BoundarySpan then offset else x86BoundarySpan) = span at hspan
    have hstart : (offset - span).toNat + span.toNat = offset.toNat := by
      rw [toNat_sub_of_le (le_def.mpr hspan.2)]
      lia
    obtain ⟨votes, hvotes⟩ := x86Votes_ends hbytes hlength isDefault32
      (Nat.lt_of_le_of_lt hspan.1 hrounds) hstart
    rw [hvotes]
    exact ⟨_, rfl⟩

theorem x86Votes_take (rounds tries : Nat) (streamStart : Dword) :
    x86Votes (bytes.take length.toNat) rounds offset length isDefault32 tries streamStart =
      x86Votes bytes rounds offset length isDefault32 tries streamStart := by
  induction tries generalizing streamStart with
  | zero => rfl
  | succ tries ih =>
    unfold x86Votes
    rw [x86Stream_take hbytes hlength]
    simp only [ih]

theorem x86IsInstructionStart_take (rounds : Nat) (offset : Dword) (isDefault32 : Bool) :
    x86IsInstructionStart (bytes.take length.toNat) rounds offset length isDefault32 =
      x86IsInstructionStart bytes rounds offset length isDefault32 := by
  unfold x86IsInstructionStart
  simp only [x86Votes_take hbytes hlength]

theorem x86IsUnowned_ends (hrounds : 48 < rounds) (offset : Dword) (isDefault32 : Bool)
    (steps back : Nat) : ∃ verdict, x86IsUnowned bytes rounds offset length isDefault32 steps back =
      some (some verdict) := by
  induction steps generalizing back with
  | zero => exact ⟨true, rfl⟩
  | succ steps ih =>
    unfold x86IsUnowned
    by_cases hback : back ≤ offset.toNat
    · rw [if_pos hback]
      obtain ⟨n, hanswer, -⟩ := x86InstructionLength_within hbytes hlength
        (offset - BitVec.ofNat 32 back) isDefault32
      dsimp only
      rw [hanswer, bind_eq_bind, bind_some]
      by_cases howns : back < n.toNat
      · rw [if_pos howns]
        obtain ⟨isStart, hstart⟩ := x86IsInstructionStart_ends hbytes hlength hrounds
          (offset - BitVec.ofNat 32 back) isDefault32
        rw [hstart, bind_eq_bind, bind_some]
        cases isStart with
        | true => exact ⟨false, rfl⟩
        | false => exact ih (back + 1)
      · rw [if_neg howns]
        exact ih (back + 1)
    · exact ⟨true, by rw [if_neg hback]⟩

theorem x86IsIntSiteReal_ends (hrounds : 48 < rounds) (offset : Dword) (isDefault32 : Bool) :
    ∃ verdict, x86IsIntSiteReal bytes rounds offset length isDefault32 = some (some verdict) := by
  obtain ⟨isStart, hstart⟩ := x86IsInstructionStart_ends hbytes hlength hrounds offset isDefault32
  unfold x86IsIntSiteReal
  rw [hstart, bind_eq_bind, bind_some]
  cases isStart with
  | true => exact ⟨true, rfl⟩
  | false => exact x86IsUnowned_ends hbytes hlength hrounds offset isDefault32 _ _

end Votes

theorem x86IsIntSiteReal_ends_int :
    ∃ verdict, x86IsIntSiteReal [0xCD, 0x21] 49 0 2 false = some (some verdict) :=
  x86IsIntSiteReal_ends (by decide) (by decide) (by decide) 0 false

/-!
## The length decoder is safe and local

On every array that ends 9 bytes or more before the last `UINT`.  A longer one lets the decoder's
position wrap past its end.
-/

/-- The decoder reads nothing past `length`, answers 0 or a length within it, and answers the same
whatever is outside of the instruction.  The streams of `X86IsInstructionStart` advance and end
within `length`, and two that meet are one from there on. -/
theorem x86InstructionLength_safe_and_local (bytes : List Byte) (length : Dword)
    (isDefault32 : Bool) (hbytes : length.toNat ≤ bytes.length)
    (hlength : length.toNat + 9 ≤ 2 ^ 32) :
    (∀ offset,
      x86InstructionLength (bytes.take length.toNat) offset length isDefault32 =
          x86InstructionLength bytes offset length isDefault32 ∧
        ∃ n, x86InstructionLength bytes offset length isDefault32 = some n ∧
          (n = 0 ∨ 1 ≤ n.toNat ∧ offset.toNat + n.toNat ≤ length.toNat) ∧
          (n ≠ 0 → ∀ (bytes' : List Byte) (length' : Dword), length.toNat ≤ length'.toNat →
            length'.toNat ≤ bytes'.length →
            (∀ i, offset.toNat ≤ i → i < offset.toNat + n.toNat → bytes'[i]? = bytes[i]?) →
            x86InstructionLength bytes' offset length' isDefault32 = some n)) ∧
    (∀ offset position next, StreamStep bytes offset length isDefault32 position next →
      position.toNat < next.toNat ∧ next.toNat ≤ length.toNat) ∧
    (∀ (offset position : Dword) (rounds : Nat), offset.toNat - position.toNat < rounds →
      ∃ final, x86Stream (bytes.take length.toNat) offset length isDefault32 rounds position =
        some (some final)) ∧
    (∀ (offset : Dword) (rounds : Nat), 48 < rounds →
      ∃ verdict, x86IsInstructionStart (bytes.take length.toNat) rounds offset length isDefault32 =
        some (some verdict)) ∧
    ∀ offset first second meeting : Dword,
      Relation.ReflTransGen (StreamStep bytes offset length isDefault32) first meeting →
      Relation.ReflTransGen (StreamStep bytes offset length isDefault32) second meeting →
      (∀ position : Dword, meeting.toNat ≤ position.toNat →
        (Relation.ReflTransGen (StreamStep bytes offset length isDefault32) first position ↔
          Relation.ReflTransGen (StreamStep bytes offset length isDefault32) second position)) ∧
        ∀ rounds, offset.toNat - first.toNat < rounds → offset.toNat - second.toNat < rounds →
          x86Stream bytes offset length isDefault32 rounds first =
            x86Stream bytes offset length isDefault32 rounds second := by
  refine ⟨fun offset => ⟨x86InstructionLength_take hbytes hlength, ?_⟩, ?_, ?_, ?_, ?_⟩
  · obtain ⟨n, hanswer, hwithin⟩ := x86InstructionLength_within hbytes hlength offset isDefault32
    exact ⟨n, hanswer, hwithin, fun hn _ _ hlonger hbytes' hsame =>
      x86InstructionLength_local hbytes hlength hanswer hn hlonger hbytes' hsame⟩
  · intro offset position next hstep
    exact hstep.advances hbytes hlength
  · intro offset position rounds hrounds
    obtain ⟨final, hfinal, -⟩ := x86Stream_ends hbytes hlength isDefault32 hrounds
    exact ⟨final, (x86Stream_take hbytes hlength rounds position).trans hfinal⟩
  · intro offset rounds hrounds
    obtain ⟨verdict, hverdict⟩ :=
      x86IsInstructionStart_ends hbytes hlength hrounds offset isDefault32
    exact ⟨verdict, (x86IsInstructionStart_take hbytes hlength rounds offset isDefault32).trans
      hverdict⟩
  · intro offset first second meeting hfirst hsecond
    refine ⟨fun position hpast => ⟨?_, ?_⟩, fun rounds hrounds hrounds' => ?_⟩
    · exact reaches_from_meeting hbytes hlength hfirst hsecond hpast
    · exact reaches_from_meeting hbytes hlength hsecond hfirst hpast
    · exact x86Stream_meeting hbytes hlength hfirst hsecond hrounds hrounds'

/-- `NOP` and `INT 21h`: the decoder answers 2 at the second byte whatever follows it. -/
theorem x86InstructionLength_safe_and_local_int :
    (∃ n, x86InstructionLength [0x90, 0xCD, 0x21] 1 3 false = some n ∧
        (n = 0 ∨ 1 ≤ n.toNat ∧ 1 + n.toNat ≤ 3)) ∧
      ∃ verdict, x86IsInstructionStart [0x90, 0xCD, 0x21] 49 1 3 false = some (some verdict) := by
  obtain ⟨hdecoder, -, -, hstarts, -⟩ :=
    x86InstructionLength_safe_and_local [0x90, 0xCD, 0x21] 3 false (by decide) (by decide)
  obtain ⟨-, n, hanswer, hwithin, -⟩ := hdecoder 1
  exact ⟨⟨n, hanswer, hwithin⟩, hstarts 1 49 (by decide)⟩

/-! ## A position that wraps -/

/-- `66 67`, six times `2E`, and the first bytes of a `MOV` with a SIB byte and a displacement. -/
def wrappingCode : List Byte :=
  [0x66, 0x67, 0x2E, 0x2E, 0x2E, 0x2E, 0x2E, 0x2E, 0xC7, 0x84, 0x00]

def wrappingBytes : List Byte := List.replicate (2 ^ 32 - 19) 0 ++ wrappingCode

def wrappingStart : Dword := BitVec.ofNat 32 (2 ^ 32 - 19)
def wrappingLength : Dword := BitVec.ofNat 32 (2 ^ 32 - 8)

theorem wrappingBytes_length : wrappingBytes.length = wrappingLength.toNat := by
  unfold wrappingBytes
  rw [length_append, length_replicate]
  rfl

theorem wrappingBytes_holds :
    Holds (fun position => wrappingCode.getD position 0) wrappingBytes wrappingStart
      wrappingLength := by
  constructor
  intro position hposition
  have hstart : wrappingStart.toNat = 2 ^ 32 - 19 := rfl
  have hlength : wrappingLength.toNat = 2 ^ 32 - 8 := rfl
  have hcode : wrappingCode.length = 11 := rfl
  have hlt : position < wrappingCode.length := by lia
  unfold wrappingBytes
  rw [hstart, getElem?_append_right (by rw [length_replicate]; lia),
    length_replicate, Nat.add_sub_cancel_left, List.getElem?_eq_getElem hlt,
    getD_eq_getElem?_getD, List.getElem?_eq_getElem hlt, getD_some]

theorem wrappingStart_add :
    wrappingStart + BitVec.ofNat 32 9 + BitVec.ofNat 32 6 + BitVec.ofNat 32 4 = 0 := by
  decide

theorem x86InstructionLength_wraps :
    wrappingBytes.length = wrappingLength.toNat ∧
      x86InstructionLength wrappingBytes wrappingStart wrappingLength false = some 19 ∧
      wrappingLength.toNat - wrappingStart.toNat = 11 := by
  refine ⟨wrappingBytes_length, ?_, rfl⟩
  have hholds := wrappingBytes_holds
  have hstart : wrappingStart.toNat = 2 ^ 32 - 19 := rfl
  have hlength : wrappingLength.toNat = 2 ^ 32 - 8 := rfl
  have hmax : x86MaxPrefixes = 8 := rfl
  have hprefixes : HasPrefixes (fun position => wrappingCode.getD position 0) 8 :=
    ⟨by decide, by decide⟩
  have hread : ∀ position, position < 11 →
      wrappingBytes[(wrappingStart + BitVec.ofNat 32 position).toNat]? =
        some (wrappingCode.getD position 0) :=
    fun position hposition => hholds.at (by lia)
  have hmodrmLength : x86ModrmLength wrappingBytes (wrappingStart + BitVec.ofNat 32 9)
      wrappingLength true = some (BitVec.ofNat 32
        (modrmBytes (fun position => wrappingCode.getD position 0) 9 true)) :=
    x86ModrmLength_of_tested hholds (by lia) fun _ => by lia
  have hsizes : prefixedAt (fun position => wrappingCode.getD position 0) wrappingStart false 8 =
      ⟨true, true, wrappingStart + BitVec.ofNat 32 8⟩ := by
    have hoperand : sizeAfter (fun position => wrappingCode.getD position 0)
        x86PrefixOperandSize false 8 = true := by
      decide
    have haddress : sizeAfter (fun position => wrappingCode.getD position 0)
        x86PrefixAddressSize false 8 = true := by
      decide
    unfold prefixedAt
    rw [hoperand, haddress]
  unfold x86InstructionLength
  rw [← prefixedAt_zero (fun position => wrappingCode.getD position 0),
    x86SkipPrefixes_eq hholds hprefixes false (by lia) (Nat.zero_le 8) (by lia),
    Option.bind_eq_bind, Option.bind_some, hsizes]
  unfold x86OpcodeLength
  dsimp only
  rw [if_neg (not_le_at (by lia)), hread 8 (by decide), Option.bind_eq_bind, Option.bind_some,
    if_neg (by decide)]
  have hnext : wrappingStart + BitVec.ofNat 32 8 + 1 = wrappingStart + BitVec.ofNat 32 9 := rfl
  unfold x86EntryLength
  rw [hnext, if_pos (by decide), if_neg (not_le_at (by lia)), hread 9 (by decide), Option.bind_eq_bind,
    Option.bind_some, hmodrmLength, Option.bind_eq_bind, Option.bind_some]
  have hbytes : modrmBytes (fun position => wrappingCode.getD position 0) 9 true = 6 := by decide
  rw [hbytes, if_neg (by decide)]
  unfold x86FinishLength
  rw [x86ImmediateSize_eq (by decide)]
  dsimp only
  have hsize : immediateBytes (x86OneByteEntry (wrappingCode.getD 8 0) % 16) true true
      ((some (modrmRegister (wrappingCode.getD 9 0))).any fun field => field < 2) = 4 := by
    decide
  rw [hsize, wrappingStart_add]
  decide

end Ntvdmex.Host.X86Len
