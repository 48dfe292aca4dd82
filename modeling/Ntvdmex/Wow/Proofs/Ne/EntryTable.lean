import Ntvdmex.Wow.Proofs.Ne.Lookups

/-!
# The entry table

What the bytes of an entry table say, bundle by bundle, and that a lookup finds in them the
entry of its ordinal.
-/

namespace Ntvdmex.Wow.Ne

open Foundation List Option

/-! ## Bundles and their bytes -/

/-- An entry of a moveable segment: its flags, the two bytes of its thunk, its segment and the
offset there. -/
structure MoveableEntry where
  flags : UInt8
  thunkLow : UInt8
  thunkHigh : UInt8
  segment : UInt8
  offset : UInt16

/-- An entry of a fixed segment, or an absolute value. -/
structure FixedEntry where
  flags : UInt8
  offset : UInt16

/-- A bundle; a null bundle uses up ordinals and has no entries. -/
inductive NeBundle where
  | null (count : UInt8)
  | moveable (entries : List MoveableEntry)
  | absolute (entries : List FixedEntry)
  | fixed (segment : UInt8) (entries : List FixedEntry)

open NeBundle

def MoveableEntry.bytes (entry : MoveableEntry) : List UInt8 :=
  [entry.flags, entry.thunkLow, entry.thunkHigh, entry.segment, lowByte entry.offset.toNat,
    highByte entry.offset.toNat]

def FixedEntry.bytes (entry : FixedEntry) : List UInt8 :=
  [entry.flags, lowByte entry.offset.toNat, highByte entry.offset.toNat]

theorem MoveableEntry.bytes_length (entry : MoveableEntry) : entry.bytes.length = 6 := rfl

theorem FixedEntry.bytes_length (entry : FixedEntry) : entry.bytes.length = 3 := rfl

namespace NeBundle

def indicator : NeBundle → UInt8
  | .null _ => 0
  | .moveable _ => neEntMoveable
  | .absolute _ => neEntAbsolute
  | .fixed segment _ => segment

def records : NeBundle → List UInt8
  | .null _ => []
  | .moveable entries => entries.flatMap MoveableEntry.bytes
  | .absolute entries | .fixed _ entries => entries.flatMap FixedEntry.bytes

/-- What each ordinal of the bundle names, if it names anything. -/
def entries : NeBundle → List (Option NeEntry)
  | .null count => List.replicate count.toNat none
  | .moveable entries =>
    entries.map fun entry => some ⟨entry.segment.toNat, entry.offset.toNat, entry.flags⟩
  | .absolute entries => entries.map fun entry => some ⟨0, entry.offset.toNat, entry.flags⟩
  | .fixed segment entries =>
    entries.map fun entry => some ⟨segment.toNat, entry.offset.toNat, entry.flags⟩

def bytes (bundle : NeBundle) : List UInt8 :=
  UInt8.ofNat bundle.entries.length :: bundle.indicator :: bundle.records

/-- A bundle has one ordinal at least, as many as its count byte can say, and a fixed bundle
names a segment. -/
structure IsWellFormed (bundle : NeBundle) : Prop where
  nonempty : bundle.entries ≠ []
  short : bundle.entries.length < 256
  segment : ∀ segment entries, bundle = .fixed segment entries →
    segment ≠ 0 ∧ segment ≠ neEntAbsolute ∧ segment ≠ neEntMoveable

end NeBundle

/-- What is left of the table ends it: too few bytes for a bundle, or a count of 0. -/
def EndsTable (rest : List UInt8) : Prop := rest.length < 2 ∨ rest.head? = some 0

/-- The entry table of a module: its bundles, well formed, inside `EntryLength`. -/
structure HasEntryTable (module : NeModule) (bundles : List NeBundle) : Prop where
  inside : module.header + module.entryTable + module.entryLength ≤ module.image.size
  wellFormed : ∀ bundle ∈ bundles, bundle.IsWellFormed
  stands : ∃ rest, EndsTable rest ∧
    (bundles.flatMap NeBundle.bytes ++ rest).length = module.entryLength ∧
    module.image.HoldsAt (module.header + module.entryTable)
      (bundles.flatMap NeBundle.bytes ++ rest)
  ordinals : (bundles.flatMap NeBundle.entries).length < 65536

/-- The map of the table: ordinals are numbered from 1 across all bundles. -/
def entryMap (bundles : List NeBundle) (ordinal : Nat) : Option NeEntry :=
  if ordinal = 0 then none else ((bundles.flatMap NeBundle.entries)[ordinal - 1]?).join

/-! ## One bundle -/

theorem wordOf_offset (offset : UInt16) :
    wordOf (lowByte offset.toNat) (highByte offset.toNat) = offset.toNat := by
  rw [wordOf_bytes]
  exact Nat.mod_eq_of_lt offset.toNat_lt

variable {image : SizedBytes}
variable {bundle : NeBundle} {index : Nat}

theorem holdsAt_readWord {low high : UInt8} {rest : List UInt8}
    (h : image.HoldsAt index (low :: high :: rest)) :
    image.readWord index = some (wordOf low high) := by
  rw [SizedBytes.holdsAt_cons_iff, SizedBytes.holdsAt_cons_iff] at h
  unfold SizedBytes.readWord
  rw [h.1, h.2.1]
  rfl

theorem neReadEntry_moveable {entry : MoveableEntry} (h : image.HoldsAt index entry.bytes) :
    neReadEntry image neEntMoveable index =
      some ⟨entry.segment.toNat, entry.offset.toNat, entry.flags⟩ := by
  unfold MoveableEntry.bytes at h
  rw [SizedBytes.holdsAt_cons_iff, SizedBytes.holdsAt_cons_iff, SizedBytes.holdsAt_cons_iff,
    SizedBytes.holdsAt_cons_iff] at h
  obtain ⟨hflags, -, -, hsegment, hoffset⟩ := h
  unfold neReadEntry
  rw [hflags, bind_eq_bind, bind_some, if_pos rfl, hsegment, bind_eq_bind,
    bind_some, holdsAt_readWord hoffset, wordOf_offset]
  rfl

theorem neReadEntry_fixed {indicator : UInt8} (hfixed : indicator ≠ neEntMoveable)
    {entry : FixedEntry} (h : image.HoldsAt index entry.bytes) : neReadEntry image indicator index =
      some ⟨if indicator = neEntAbsolute then 0 else indicator.toNat, entry.offset.toNat,
        entry.flags⟩ := by
  unfold FixedEntry.bytes at h
  rw [SizedBytes.holdsAt_cons_iff] at h
  obtain ⟨hflags, hoffset⟩ := h
  unfold neReadEntry
  rw [hflags, bind_eq_bind, bind_some, if_neg hfixed, holdsAt_readWord hoffset,
    wordOf_offset]
  rfl

theorem length_flatMap_of_length {α : Type} {f : α → List UInt8} {size : Nat}
    (hsize : ∀ x, (f x).length = size) (xs : List α) : (xs.flatMap f).length = xs.length * size := by
  rw [length_flatMap, map_congr_left (g := fun _ => size) fun y _ => hsize y,
    map_const', sum_replicate, smul_eq_mul]

theorem entryStep_fixed {segment : UInt8} (hzero : segment ≠ 0)
    (hmoveable : segment ≠ neEntMoveable) : entryStep segment = 3 := by
  unfold entryStep
  rw [if_neg hmoveable, if_neg hzero]
  rfl

theorem NeBundle.IsWellFormed.records_length (h : bundle.IsWellFormed) :
    bundle.records.length = bundle.entries.length * entryStep bundle.indicator := by
  cases bundle with
  | null count => rfl
  | moveable entries =>
    unfold records NeBundle.entries
    rw [length_flatMap_of_length MoveableEntry.bytes_length, length_map]
    rfl
  | absolute entries =>
    unfold records NeBundle.entries
    rw [length_flatMap_of_length FixedEntry.bytes_length, length_map]
    rfl
  | fixed segment entries =>
    obtain ⟨hzero, -, hmoveable⟩ := h.segment segment entries rfl
    unfold records NeBundle.entries indicator
    rw [entryStep_fixed hzero hmoveable, length_flatMap_of_length FixedEntry.bytes_length,
      length_map]

theorem NeBundle.IsWellFormed.step_eq_zero_iff (h : bundle.IsWellFormed) :
    entryStep bundle.indicator = 0 ↔ ∃ count, bundle = .null count := by
  cases bundle with
  | null count => exact iff_of_true rfl ⟨count, rfl⟩
  | moveable entries =>
    exact iff_of_false (show ¬entryStep neEntMoveable = 0 by decide) (by rintro ⟨count, ⟨⟩⟩)
  | absolute entries =>
    exact iff_of_false (show ¬entryStep neEntAbsolute = 0 by decide) (by rintro ⟨count, ⟨⟩⟩)
  | fixed segment entries =>
    obtain ⟨hzero, -, hmoveable⟩ := h.segment segment entries rfl
    refine iff_of_false (fun hnone => ?_) (by rintro ⟨count, ⟨⟩⟩)
    unfold indicator at hnone
    rw [entryStep_fixed hzero hmoveable] at hnone
    exact absurd hnone (by decide)

theorem exists_entry_of_lt {α : Type} {read : α → NeEntry} {entries : List α} {i : Nat}
    (hi : i < (entries.map fun entry => some (read entry)).length) :
    ∃ entry, entries[i]? = some entry ∧
      (entries.map fun entry => some (read entry))[i]? = some (some (read entry)) := by
  rw [length_map] at hi
  refine ⟨entries[i], getElem?_eq_getElem hi, ?_⟩
  rw [getElem?_map, getElem?_eq_getElem hi]
  rfl

theorem NeBundle.IsWellFormed.readEntry (h : bundle.IsWellFormed)
    (hstep : entryStep bundle.indicator ≠ 0) {record : Nat}
    (hrecords : image.HoldsAt record bundle.records) {i : Nat} (hi : i < bundle.entries.length) :
    ∃ entry, bundle.entries[i]? = some (some entry) ∧
      neReadEntry image bundle.indicator (record + i * entryStep bundle.indicator) =
        some entry := by
  cases bundle with
  | null count => exact absurd rfl hstep
  | moveable entries =>
    obtain ⟨entry, hentry, hmap⟩ := exists_entry_of_lt hi
    exact ⟨_, hmap, neReadEntry_moveable (hrecords.chunk MoveableEntry.bytes_length hentry)⟩
  | absolute entries =>
    obtain ⟨entry, hentry, hmap⟩ := exists_entry_of_lt hi
    exact ⟨_, hmap, neReadEntry_fixed (show neEntAbsolute ≠ neEntMoveable by decide)
      (hrecords.chunk FixedEntry.bytes_length hentry)⟩
  | fixed segment entries =>
    obtain ⟨hzero, habsolute, hmoveable⟩ := h.segment segment entries rfl
    obtain ⟨entry, hentry, hmap⟩ := exists_entry_of_lt hi
    refine ⟨_, hmap, ?_⟩
    unfold indicator
    rw [entryStep_fixed hzero hmoveable, neReadEntry_fixed hmoveable
      (hrecords.chunk FixedEntry.bytes_length hentry), if_neg habsolute]

/-- A walk that starts at ordinal `start` of the rest of the table finds what the rest says. -/
theorem neEntryBundles_eq (himage : image.size + 3 < 4294967296) {limit ordinal : Nat}
    (hlimit : limit ≤ image.size) {rest : List UInt8} (hrest : EndsTable rest) :
    ∀ (bundles : List NeBundle), (∀ bundle ∈ bundles, bundle.IsWellFormed) →
      ∀ rounds position start, bundles.length < rounds →
        image.HoldsAt position (bundles.flatMap bytes ++ rest) →
        position + (bundles.flatMap bytes ++ rest).length = limit →
        start + (bundles.flatMap NeBundle.entries).length ≤ 65536 →
        neEntryBundles image ordinal limit rounds position (word start) =
          some (if start ≤ ordinal then
            ((bundles.flatMap NeBundle.entries)[ordinal - start]?).join
          else none) := by
  have htwo : neBundleHeaderSize = 2 := rfl
  intro bundles
  induction bundles with
  | nil =>
    intro _ rounds position start hrounds hholds hend _
    have hnone : (if start ≤ ordinal then
        ((([] : List NeBundle).flatMap NeBundle.entries)[ordinal - start]?).join else none) =
          none := ite_self none
    rw [hnone]
    obtain ⟨rounds, rfl⟩ := Nat.exists_eq_succ_of_ne_zero (Nat.ne_of_gt hrounds)
    rw [flatMap_nil, nil_append] at hholds hend
    have hsum : dword (position + neBundleHeaderSize) = position + 2 := dword_of_lt (by lia)
    unfold neEntryBundles
    rw [hsum]
    by_cases hshort : limit < position + 2
    · rw [if_pos hshort]
    · have hzero := hrest.resolve_left (by lia)
      rw [if_neg hshort]
      rcases rest with _ | ⟨first, _ | ⟨second, rest⟩⟩
      · cases hzero
      · exact absurd hend (by rw [length_singleton]; lia)
      · rw [SizedBytes.holdsAt_cons_iff, SizedBytes.holdsAt_cons_iff] at hholds
        have hnext : dword (position + 1) = position + 1 := dword_of_lt (by lia)
        have hcount : first = 0 := some.inj hzero
        rw [hholds.1, hnext, hholds.2.1, bind_eq_bind, bind_some,
          bind_eq_bind, bind_some, if_pos hcount]
        rfl
  | cons bundle bundles ih =>
    intro hwellFormed rounds position start hrounds hholds hend hordinals
    obtain ⟨rounds, rfl⟩ := Nat.exists_eq_succ_of_ne_zero (Nat.ne_of_gt (Nat.zero_lt_of_lt hrounds))
    have hbundle := hwellFormed bundle mem_cons_self
    have hothers := fun other hother => hwellFormed other (mem_cons_of_mem bundle hother)
    rw [flatMap_cons, append_assoc] at hholds hend
    rw [flatMap_cons, length_append] at hordinals
    rw [SizedBytes.holdsAt_append_iff] at hholds
    obtain ⟨hbytes, hlater⟩ := hholds
    unfold bytes at hbytes
    rw [SizedBytes.holdsAt_cons_iff, SizedBytes.holdsAt_cons_iff] at hbytes
    obtain ⟨hcount, hindicator, hrecords⟩ := hbytes
    have hnonempty := length_pos_iff.mpr hbundle.nonempty
    have hlength : bundle.bytes.length =
        2 + bundle.entries.length * entryStep bundle.indicator := by
      unfold bytes
      rw [length_cons, length_cons, hbundle.records_length]
      lia
    rw [length_append, hlength] at hend
    have hsum : dword (position + neBundleHeaderSize) = position + 2 := dword_of_lt (by lia)
    have hnext : dword (position + 1) = position + 1 := dword_of_lt (by lia)
    have hvalue : (UInt8.ofNat bundle.entries.length).toNat = bundle.entries.length :=
      UInt8.toNat_ofNat_of_lt' hbundle.short
    have hnotZero : UInt8.ofNat bundle.entries.length ≠ 0 := by
      intro hzero
      rw [hzero] at hvalue
      exact Nat.ne_of_gt hnonempty hvalue.symm
    have hcurrent : word start = start := Nat.mod_eq_of_lt (by lia)
    have hafter : position + bundle.bytes.length =
        position + 2 + bundle.entries.length * entryStep bundle.indicator := by
      rw [hlength]
      lia
    rw [hafter] at hlater
    have hskip : neEntryBundles image ordinal limit rounds
        (position + 2 + bundle.entries.length * entryStep bundle.indicator)
        (word (start + bundle.entries.length)) =
          some (if start + bundle.entries.length ≤ ordinal then
            ((bundles.flatMap NeBundle.entries)[ordinal - (start + bundle.entries.length)]?).join
          else none) :=
      ih hothers rounds _ _ (Nat.lt_of_succ_lt_succ hrounds) hlater (by lia) (by lia)
    have hbehind : start + bundle.entries.length ≤ ordinal →
        ((bundle :: bundles).flatMap NeBundle.entries)[ordinal - start]? =
          (bundles.flatMap NeBundle.entries)[ordinal - (start + bundle.entries.length)]? := by
      intro hle
      rw [flatMap_cons, getElem?_append_right (by lia), Nat.sub_sub]
    have hwithin : ordinal < start + bundle.entries.length → start ≤ ordinal →
        ((bundle :: bundles).flatMap NeBundle.entries)[ordinal - start]? =
          bundle.entries[ordinal - start]? := by
      intro hlt hle
      rw [flatMap_cons, getElem?_append_left (by lia)]
    unfold neEntryBundles
    rw [hsum, if_neg (by lia), hcount, hnext, hindicator, bind_eq_bind,
      bind_some, bind_eq_bind, bind_some]
    rw [if_neg hnotZero, hvalue, hcurrent]
    by_cases hstep : entryStep bundle.indicator = 0
    · obtain ⟨count, hnull⟩ := hbundle.step_eq_zero_iff.mp hstep
      rw [hstep, Nat.mul_zero, Nat.add_zero] at hskip
      rw [if_pos hstep, hskip]
      by_cases hle : start ≤ ordinal
      · rw [if_pos hle]
        by_cases hlater : start + bundle.entries.length ≤ ordinal
        · rw [if_pos hlater, hbehind hlater]
        · have hnone : bundle.entries[ordinal - start]? = some none := by
            rw [getElem?_eq_getElem (by lia)]
            subst hnull
            exact congrArg some (getElem_replicate _)
          rw [if_neg hlater, hwithin (Nat.lt_of_not_le hlater) hle, hnone]
          rfl
      · rw [if_neg hle, if_neg (by lia)]
    · rw [if_neg hstep]
      by_cases hhere : start ≤ ordinal ∧ ordinal < start + bundle.entries.length
      · obtain ⟨entry, hentry, hread⟩ :=
          hbundle.readEntry hstep hrecords (show ordinal - start < _ by lia)
        have hmul := Nat.mul_le_mul_right (entryStep bundle.indicator)
          (show ordinal - start + 1 ≤ bundle.entries.length by lia)
        rw [Nat.succ_mul] at hmul
        have hplace : dword (position + 2 + dword ((ordinal - start) *
            entryStep bundle.indicator)) =
              position + 2 + (ordinal - start) * entryStep bundle.indicator := by
          rw [dword_of_lt (show (ordinal - start) * entryStep bundle.indicator < 4294967296 by
            lia), dword_of_lt (by lia)]
        have hinside : neInBounds image
            (position + 2 + (ordinal - start) * entryStep bundle.indicator)
            (entryStep bundle.indicator) = true := neInBounds_iff.mpr (by lia)
        rw [if_pos hhere, hplace, if_neg (by rw [hinside]; decide), hread, if_pos hhere.1,
          hwithin hhere.2 hhere.1, hentry]
        rfl
      · rw [if_neg hhere, dword_of_lt (by lia), hskip]
        by_cases hle : start ≤ ordinal
        · have hlater : start + bundle.entries.length ≤ ordinal := by lia
          rw [if_pos hle, if_pos hlater, hbehind hlater]
        · rw [if_neg hle, if_neg (by lia)]

theorem length_le_bytes (bundles : List NeBundle) :
    2 * bundles.length ≤ (bundles.flatMap bytes).length := by
  induction bundles with
  | nil => exact Nat.zero_le _
  | cons bundle bundles ih =>
    have htwo : 2 ≤ bundle.bytes.length := by
      unfold bytes
      rw [length_cons, length_cons]
      omega
    rw [flatMap_cons, length_append, length_cons]
    omega

section

variable {module : NeModule} {bundles : List NeBundle} (h : HasEntryTable module bundles)
    (himage : module.image.size + 3 < 4294967296) (ordinal : Nat)

include h himage ordinal

theorem HasEntryTable.lookup : neEntryLookup module ordinal = some (entryMap bundles ordinal) := by
  obtain ⟨rest, hrest, hlength, hholds⟩ := h.stands
  have hinside := h.inside
  have hordinals := h.ordinals
  have hbundles := length_le_bytes bundles
  rw [length_append] at hlength
  have hposition : dword (module.header + module.entryTable) =
      module.header + module.entryTable := dword_of_lt (by lia)
  have hchecked : neInBounds module.image (module.header + module.entryTable)
      module.entryLength = true := neInBounds_iff.mpr hinside
  unfold neEntryLookup entryMap
  rw [hposition]
  by_cases hzero : ordinal = 0
  · rw [if_pos (.inl hzero), if_pos hzero]
  · have hwalk := @neEntryBundles_eq _ himage _ ordinal hinside _ hrest bundles h.wellFormed
      (module.entryLength + 1) _ 1 (by lia) hholds (by rw [length_append, hlength]) (by lia)
    rw [if_neg (by rw [hchecked]; simpa using hzero), dword_of_lt (by lia), if_neg hzero]
    rw [if_pos (Nat.one_le_iff_ne_zero.mpr hzero)] at hwalk
    exact hwalk

theorem HasEntryTable.exportByOrdinal :
    neExportByOrdinal module ordinal =
      some ((entryMap bundles ordinal).filter fun entry => entry.flags &&& neEntExported ≠ 0) := by
  unfold neExportByOrdinal
  rw [h.lookup himage]
  rfl

end

end Ntvdmex.Wow.Ne
