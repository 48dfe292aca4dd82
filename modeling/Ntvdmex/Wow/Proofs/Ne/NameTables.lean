import Ntvdmex.Wow.Proofs.Ne.Lookups

/-!
# The name tables

What the bytes of a name table say, and that a search finds in them the first export of the
name, past the first entry and without regard to case.
-/

namespace Ntvdmex.Wow.Ne

open Foundation List

/-! ## Names and records -/

/-- `length` bytes of the image. -/
def imageText (image : SizedBytes) (position length : Nat) : List UInt8 :=
  (List.range length).map fun i => image.data (position + i)

/-- The image from `position` to its end. -/
def imageFrom (image : SizedBytes) (position : Nat) : List UInt8 :=
  imageText image position (image.size - position)

/-- The characters of a name that fits a buffer, as the C string they make there. -/
def nameOf (characters : List UInt8) : Option (List UInt8) :=
  if characters.length < neMaxName then some (characters.takeWhile (· ≠ 0)) else none

/-- The length-prefixed name at `offset`. -/
def nameAt (image : SizedBytes) (offset : Nat) : Option (List UInt8) :=
  match imageFrom image offset with
  | [] => none
  | length :: rest =>
    if rest.length < length.toNat then none else nameOf (rest.take length.toNat)

structure NameRecord where
  characters : List UInt8
  ordinal : Nat

def firstWord : List UInt8 → Nat
  | low :: high :: _ => wordOf low high
  | _ => 0

/-- The records of a name table, from the bytes behind its start and the number of them that
are the table's: a length, so many characters, an ordinal.  A length of 0, too few bytes left
of the table, or a record cut short by the end of the file ends them. -/
def nameRecords : List UInt8 → Nat → List NameRecord
  | [], _ => []
  | length :: rest, room =>
    if room < 3 ∨ length = 0 ∨ rest.length < length.toNat + 2 then []
    else
      ⟨rest.take length.toNat, firstWord (rest.drop length.toNat)⟩ ::
        nameRecords (rest.drop (length.toNat + 2)) (room - (length.toNat + 3))
termination_by bytes _ => bytes.length
decreasing_by
  rw [List.length_drop, List.length_cons]
  omega

def findName (wanted : List UInt8) (records : List NameRecord) : Option Nat :=
  (records.find? fun record =>
    (nameOf record.characters).any (neEqualIgnoreCase · wanted)).map NameRecord.ordinal

/-- The ordinal of a name in a table of `length` bytes, whose first record is no export. -/
def tableOrdinal (image : SizedBytes) (offset length : Nat) (wanted : List UInt8) : Option Nat :=
  if offset + length ≤ image.size then
    findName wanted (nameRecords (imageFrom image offset) length).tail
  else none

def namedOrdinal (module : NeModule) (wanted : List UInt8) : Option Nat :=
  let residentTable := dword (module.header + module.residentTable)
  (tableOrdinal module.image residentTable (module.image.size - residentTable) wanted).or
    (tableOrdinal module.image module.nonResidentOffset module.nonResidentLength wanted)

/-! ## The image as a list -/

variable {image : SizedBytes}

@[simp]
theorem length_imageText (position length : Nat) :
    (imageText image position length).length = length := by
  simp [imageText]

@[simp]
theorem length_imageFrom (position : Nat) :
    (imageFrom image position).length = image.size - position :=
  length_imageText _ _

variable {module : NeModule} {position : Nat}

theorem imageFrom_of_lt (h : position < image.size) :
    imageFrom image position = image.data position :: imageFrom image (position + 1) := by
  unfold imageFrom imageText
  rw [show image.size - position = image.size - (position + 1) + 1 by lia,
    range_succ_eq_map, map_cons, map_map]
  refine congrArg _ (map_congr_left fun i _ => ?_)
  rw [Function.comp_apply, Nat.succ_eq_add_one, Nat.add_comm i 1, Nat.add_assoc]

theorem imageFrom_of_ge (h : image.size ≤ position) : imageFrom image position = [] := by
  unfold imageFrom
  rw [Nat.sub_eq_zero_of_le h]
  rfl

theorem drop_imageFrom (position count : Nat) :
    (imageFrom image position).drop count = imageFrom image (position + count) := by
  induction count generalizing position with
  | zero => rfl
  | succ count ih =>
    by_cases hlt : position < image.size
    · rw [imageFrom_of_lt hlt, drop_succ_cons, ih, Nat.add_right_comm, Nat.add_assoc]
    · rw [imageFrom_of_ge (Nat.le_of_not_lt hlt), imageFrom_of_ge (by omega), drop_nil]

theorem take_imageFrom {count : Nat} (h : position + count ≤ image.size) :
    (imageFrom image position).take count = imageText image position count := by
  unfold imageFrom imageText
  rw [← map_take, take_range, Nat.min_eq_left (by omega)]

theorem firstWord_imageFrom (h : position + 2 ≤ image.size) :
    image.readWord position = some (firstWord (imageFrom image position)) := by
  rw [imageFrom_of_lt (by omega), imageFrom_of_lt (by omega), SizedBytes.readWord_eq (by omega)]
  rfl

theorem neCopyName_data {offset length : Nat} (himage : image.size < 4294967296)
    (hname : offset + length ≤ image.size) (output : SizedBytes) (houtput : length ≤ output.size) :
    ∃ copied, neCopyName image offset length output = some copied ∧
      copied.size = output.size ∧ ∀ i < length, copied.data i = image.data (offset + i) := by
  induction length with
  | zero => exact ⟨output, rfl, rfl, fun i hi => absurd hi (Nat.not_lt_zero i)⟩
  | succ length ih =>
    obtain ⟨copied, hcopied, hsize, hdata⟩ := ih (by lia) (by lia)
    unfold neCopyName at hcopied ⊢
    have hwrap : dword (offset + length) = offset + length := dword_of_lt (by lia)
    rw [range_succ, foldlM_append, hcopied]
    simp only [foldlM_cons, foldlM_nil, Option.bind_eq_bind, Option.bind_some, hwrap]
    rw [SizedBytes.read_eq (by lia), Option.bind_some, SizedBytes.write_eq (by lia)]
    refine ⟨_, rfl, hsize, fun i hi => ?_⟩
    dsimp only
    by_cases hlast : i = length
    · rw [hlast, ByteMemory.store_same]
    · rw [ByteMemory.store_other _ _ hlast, hdata i (by lia)]

theorem takeWhile_stop {p : UInt8 → Bool} (front : List UInt8) {c : UInt8} (rest : List UInt8)
    (hc : p c = false) : (front ++ c :: rest).takeWhile p = front.takeWhile p := by
  induction front with
  | nil => exact takeWhile_cons_of_neg (by rw [hc]; decide)
  | cons first front ih =>
    rw [cons_append, takeWhile_cons, takeWhile_cons, ih]

theorem cString_of_terminated {output : SizedBytes} {length : Nat} (hlength : length < output.size)
    (hnul : output.data length = 0) :
    cString output = ((range length).map output.data).takeWhile (· ≠ 0) := by
  have hsplit : (range output.size).map output.data =
      (range length).map output.data ++ output.data length ::
        (range (output.size - (length + 1))).map (fun i => output.data (length + 1 + i)) := by
    conv_lhs => rw [show output.size = length + 1 + (output.size - (length + 1)) by omega]
    rw [range_add, map_append, range_succ, map_append, map_map,
      append_assoc]
    rfl
  unfold cString
  rw [hsplit, takeWhile_stop _ _ (by rw [hnul]; rfl)]

/-- `NeNameAt` into a buffer of `NE_MAX_NAME`. -/
theorem neNameAt_eq (himage : image.size + 3 < 4294967296) (offset : Nat) (output : SizedBytes)
    (houtput : output.size = neMaxName) :
    ∃ after, neNameAt image offset output = some ((nameAt image offset).isSome, after) ∧
      ∀ name, nameAt image offset = some name → cString after = name := by
  have hpositive : neMaxName = 32 := rfl
  unfold neNameAt nameAt
  rw [if_neg (by lia), SizedBytes.write_eq (by lia), Option.bind_eq_bind, Option.bind_some]
  by_cases hoffset : offset < image.size
  · have hfirst : neInBounds image offset 1 = true := neInBounds_iff.mpr hoffset
    have hnext : dword (offset + 1) = offset + 1 := dword_of_lt (by lia)
    rw [if_neg (by rw [hfirst]; decide), SizedBytes.read_eq hoffset, Option.bind_eq_bind,
      Option.bind_some, imageFrom_of_lt hoffset, hnext]
    dsimp only
    rw [length_imageFrom]
    by_cases hinside : image.size - (offset + 1) < (image.data offset).toNat
    · have houtside : neInBounds image (offset + 1) (image.data offset).toNat = false := by
        rw [Bool.eq_false_iff]
        intro hin
        have := neInBounds_iff.mp hin
        lia
      rw [if_pos (.inl houtside), if_pos hinside]
      exact ⟨_, rfl, fun name hname => by cases hname⟩
    · have hin : neInBounds image (offset + 1) (image.data offset).toNat = true :=
        neInBounds_iff.mpr (by lia)
      rw [if_neg hinside]
      unfold nameOf
      rw [take_imageFrom (by lia), length_imageText]
      by_cases hshort : (image.data offset).toNat < neMaxName
      · obtain ⟨copied, hcopied, hsize, hdata⟩ := neCopyName_data (by lia)
          (neInBounds_iff.mp hin) { output with data := output.data.store 0 0 }
          (by dsimp only; lia)
        have hroom : (image.data offset).toNat < copied.size := by lia
        have hneither : ¬(neInBounds image (offset + 1) (image.data offset).toNat = false ∨
            output.size ≤ (image.data offset).toNat) := by
          rw [hin]
          rintro (hfalse | hlong)
          · cases hfalse
          · lia
        rw [if_neg hneither, hcopied, Option.bind_some, SizedBytes.write_eq hroom,
          Option.bind_some, if_pos hshort]
        refine ⟨_, rfl, fun name hname => ?_⟩
        have hstring := @cString_of_terminated
          { copied with data := copied.data.store (image.data offset).toNat 0 } _ hroom
          (ByteMemory.store_same _ _ _)
        rw [← Option.some.inj hname, hstring]
        refine congrArg _ (map_congr_left fun i hi => ?_)
        have hlt := mem_range.mp hi
        exact (ByteMemory.store_other _ _ (Nat.ne_of_lt hlt)).trans (hdata i hlt)
      · rw [if_pos (.inr (by lia)), if_neg hshort]
        exact ⟨_, rfl, fun name hname => by cases hname⟩
  · have hfirst : neInBounds image offset 1 = false := by
      rw [Bool.eq_false_iff]
      intro hin
      have := neInBounds_iff.mp hin
      lia
    rw [if_pos hfirst, imageFrom_of_ge (Nat.le_of_not_lt hoffset)]
    exact ⟨_, rfl, fun name hname => by cases hname⟩

/-! ## Searching a table -/

theorem nameRecords_of_short {bytes : List UInt8} {room : Nat} (h : room < 3) :
    nameRecords bytes room = [] := by
  cases bytes with
  | nil => rw [nameRecords]
  | cons length rest => rw [nameRecords, if_pos (.inl h)]

theorem findName_cons (wanted : List UInt8) (record : NameRecord) (records : List NameRecord) :
    findName wanted (record :: records) =
      if (nameOf record.characters).any (neEqualIgnoreCase · wanted) then some record.ordinal
      else findName wanted records := by
  unfold findName
  rw [find?_cons]
  cases (nameOf record.characters).any (neEqualIgnoreCase · wanted) <;> rfl

theorem nameAt_record (hposition : position < image.size)
    (hname : position + 1 + (image.data position).toNat ≤ image.size) : nameAt image position =
      nameOf ((imageFrom image (position + 1)).take (image.data position).toNat) := by
  unfold nameAt
  rw [imageFrom_of_lt hposition]
  dsimp only
  rw [length_imageFrom, if_neg (by omega)]

theorem nameRecords_image {limit : Nat} (hroom : position + 3 ≤ limit)
    (hlimit : limit ≤ image.size) : nameRecords (imageFrom image position) (limit - position) =
      if image.data position = 0 ∨
          image.size < position + 1 + ((image.data position).toNat + 2) then []
      else
        ⟨(imageFrom image (position + 1)).take (image.data position).toNat,
          firstWord (imageFrom image (position + 1 + (image.data position).toNat))⟩ ::
          nameRecords (imageFrom image (position + (1 + (image.data position).toNat + 2)))
            (limit - (position + (1 + (image.data position).toNat + 2))) := by
  have hcondition : (limit - position < 3 ∨ image.data position = 0 ∨
      image.size - (position + 1) < (image.data position).toNat + 2) ↔
        image.data position = 0 ∨
          image.size < position + 1 + ((image.data position).toNat + 2) := by
    rw [or_iff_right (by lia)]
    exact or_congr_right (by lia)
  have hnext : position + 1 + ((image.data position).toNat + 2) =
      position + (1 + (image.data position).toNat + 2) := by lia
  have hrest : limit - position - ((image.data position).toNat + 3) =
      limit - (position + (1 + (image.data position).toNat + 2)) := by lia
  rw [imageFrom_of_lt (by lia), nameRecords, length_imageFrom, if_congr hcondition rfl rfl,
    drop_imageFrom, drop_imageFrom, hnext, hrest]

theorem neNameRecords_eq (himage : image.size + 3 < 4294967296) {limit : Nat}
    (hlimit : limit ≤ image.size) (wanted : List UInt8) :
    ∀ rounds position isFirst, position ≤ image.size → limit < position + 3 * (rounds + 1) →
      neNameRecords image limit wanted rounds position isFirst =
        some (findName wanted (if isFirst then
            (nameRecords (imageFrom image position) (limit - position)).tail
          else nameRecords (imageFrom image position) (limit - position))) := by
  have hthree : neNameMinRecord = 3 := rfl
  have htwo : neOrdinalBytes = 2 := rfl
  intro rounds
  induction rounds with
  | zero =>
    intro position isFirst hposition hrounds
    rw [nameRecords_of_short (by lia), tail_nil, ite_self]
    rfl
  | succ rounds ih =>
    intro position isFirst hposition hrounds
    have hsum : dword (position + neNameMinRecord) = position + 3 := dword_of_lt (by lia)
    have hnext : dword (position + 1) = position + 1 := dword_of_lt (by lia)
    unfold neNameRecords
    rw [hsum]
    by_cases hpast : limit < position + 3
    · rw [if_pos hpast, nameRecords_of_short (by lia), tail_nil, ite_self]
      rfl
    have hread : image.read position = some (image.data position) :=
      SizedBytes.read_eq (by lia)
    have hrecords := @nameRecords_image image position limit (Nat.le_of_not_lt hpast) hlimit
    rw [if_neg hpast, hread, Option.bind_eq_bind, Option.bind_some, hnext]
    by_cases hzero : image.data position = 0
    · rw [if_pos (.inl hzero)] at hrecords
      rw [if_pos hzero, hrecords, tail_nil, ite_self]
      rfl
    rw [if_neg hzero]
    by_cases hshort : image.size < position + 1 + ((image.data position).toNat + 2)
    · have houtside : neInBounds image (position + 1)
          ((image.data position).toNat + neOrdinalBytes) = false := by
        rw [Bool.eq_false_iff]
        intro hin
        have := neInBounds_iff.mp hin
        lia
      rw [if_pos (.inr hshort)] at hrecords
      rw [if_pos houtside, hrecords, tail_nil, ite_self]
      rfl
    have hinside : neInBounds image (position + 1)
        ((image.data position).toNat + neOrdinalBytes) = true := neInBounds_iff.mpr (by lia)
    rw [if_neg (not_or.mpr ⟨hzero, hshort⟩)] at hrecords
    obtain ⟨name, hname, hstring⟩ := neNameAt_eq himage position nameBuffer rfl
    have hrecord := @nameAt_record image position (by lia) (by lia)
    have hordinal : dword (position + 1 + (image.data position).toNat) =
        position + 1 + (image.data position).toNat := dword_of_lt (by lia)
    have hafter : dword (position + (1 + (image.data position).toNat + neOrdinalBytes)) =
        position + (1 + (image.data position).toNat + 2) := dword_of_lt (by lia)
    have hmatch : ((nameAt image position).isSome = true ∧ isFirst = false ∧
        neEqualIgnoreCase (cString name) wanted = true) ↔ isFirst = false ∧
          (nameAt image position).any (neEqualIgnoreCase · wanted) = true := by
      cases hat : nameAt image position with
      | none => simp
      | some characters =>
        rw [hstring characters hat]
        simp
    rw [if_neg (by rw [hinside]; decide), hname, Option.bind_eq_bind, Option.bind_some, hordinal,
      hafter, hrecords]
    dsimp only
    rw [if_congr hmatch rfl rfl, ih _ false (by lia) (by lia)]
    cases isFirst with
    | true => rw [if_neg (by simp), if_pos rfl, tail_cons]; rfl
    | false =>
      rw [if_neg Bool.false_ne_true, if_neg Bool.false_ne_true, findName_cons, ← hrecord]
      by_cases hfound : (nameAt image position).any (neEqualIgnoreCase · wanted) = true
      · rw [if_pos ⟨rfl, hfound⟩, if_pos hfound, firstWord_imageFrom (by lia)]
        rfl
      · rw [if_neg fun hboth => hfound hboth.2, if_neg hfound]

theorem neNamesFind_eq (himage : image.size + 3 < 4294967296) (offset length : Nat)
    (wanted : List UInt8) :
    neNamesFind image offset length wanted = some (tableOrdinal image offset length wanted) := by
  unfold neNamesFind tableOrdinal
  by_cases hinside : offset + length ≤ image.size
  · rw [if_pos hinside]
    by_cases hempty : length = 0
    · rw [if_pos (.inl hempty), nameRecords_of_short (by lia)]
      rfl
    · have hin : neInBounds image offset length = true := neInBounds_iff.mpr hinside
      have hneither : ¬(length = 0 ∨ neInBounds image offset length = false) := by
        rw [hin]
        simpa using hempty
      rw [if_neg hneither, dword_of_lt (by lia),
        neNameRecords_eq himage hinside wanted (length + 1) offset true (by lia) (by lia),
        if_pos rfl, Nat.add_sub_cancel_left]
  · have hout : neInBounds image offset length = false := by
      rw [Bool.eq_false_iff]
      exact fun hin => hinside (neInBounds_iff.mp hin)
    rw [if_pos (.inr hout), if_neg hinside]

theorem neExportByName_eq (himage : module.image.size + 3 < 4294967296) (wanted : List UInt8) :
    neExportByName module wanted = some (namedOrdinal module wanted) := by
  have hresident : neResidentFind module wanted =
      some (tableOrdinal module.image (dword (module.header + module.residentTable))
        (module.image.size - dword (module.header + module.residentTable)) wanted) := by
    unfold neResidentFind
    by_cases hinside : dword (module.header + module.residentTable) < module.image.size
    · rw [if_pos hinside, neNamesFind_eq himage]
    · rw [if_neg hinside, Nat.sub_eq_zero_of_le (Nat.le_of_not_lt hinside)]
      unfold tableOrdinal
      have hnone : findName wanted ([] : List NameRecord) = none := rfl
      rw [nameRecords_of_short (by decide), tail_nil, hnone, ite_self]
  unfold neExportByName namedOrdinal
  rw [hresident, Option.bind_eq_bind, Option.bind_some, neNamesFind_eq himage]
  dsimp only
  cases tableOrdinal module.image (dword (module.header + module.residentTable))
    (module.image.size - dword (module.header + module.residentTable)) wanted <;> rfl

def refName (module : NeModule) (reference : Nat) : Option (List UInt8) :=
  let entry := dword (module.header + module.moduleTable + (reference - 1) * 2)
  if reference = 0 ∨ reference > module.moduleCount ∨ module.image.size < entry + 2 then none
  else
    nameAt module.image
      (dword (module.header + module.importTable + firstWord (imageFrom module.image entry)))

theorem neRefName_eq (himage : module.image.size + 3 < 4294967296) (reference : Nat) :
    ∃ after, neRefName module reference nameBuffer =
        some ((refName module reference).isSome, after) ∧
      ∀ name, refName module reference = some name → cString after = name := by
  have hclear : neClearName nameBuffer =
      some { nameBuffer with data := nameBuffer.data.store 0 0 } := rfl
  unfold neRefName refName
  rw [hclear, Option.bind_eq_bind, Option.bind_some]
  by_cases hreference : reference = 0 ∨ reference > module.moduleCount
  · rw [if_pos hreference, if_pos (hreference.elim .inl fun hlarge => .inr (.inl hlarge))]
    exact ⟨_, rfl, fun name hname => by cases hname⟩
  rw [if_neg hreference]
  by_cases hentry : module.image.size <
      dword (module.header + module.moduleTable + (reference - 1) * 2) + 2
  · have hout : neInBounds module.image
        (dword (module.header + module.moduleTable + (reference - 1) * 2)) 2 = false := by
      rw [Bool.eq_false_iff]
      intro hin
      have := neInBounds_iff.mp hin
      omega
    rw [if_pos hout, if_pos (.inr (.inr hentry))]
    exact ⟨_, rfl, fun name hname => by cases hname⟩
  · have hin : neInBounds module.image
        (dword (module.header + module.moduleTable + (reference - 1) * 2)) 2 = true :=
      neInBounds_iff.mpr (by omega)
    have hneither : ¬(reference = 0 ∨ reference > module.moduleCount ∨ module.image.size <
        dword (module.header + module.moduleTable + (reference - 1) * 2) + 2) := by
      rw [← or_assoc]
      exact not_or.mpr ⟨hreference, hentry⟩
    rw [if_neg (by rw [hin]; decide), firstWord_imageFrom (by omega), Option.bind_eq_bind,
      Option.bind_some, if_neg hneither]
    exact neNameAt_eq himage _ _ rfl

def importedName (module : NeModule) (nameOffset : Nat) : Option (List UInt8) :=
  nameAt module.image (dword (module.header + module.importTable + nameOffset))

theorem neImportedName_eq (himage : module.image.size + 3 < 4294967296) (nameOffset : Nat) :
    ∃ after, neImportedName module nameOffset nameBuffer =
        some ((importedName module nameOffset).isSome, after) ∧
      ∀ name, importedName module nameOffset = some name → cString after = name :=
  neNameAt_eq himage _ nameBuffer rfl

def ownName (module : NeModule) : Option (List UInt8) :=
  nameAt module.image (dword (module.header + module.residentTable))

theorem neOwnName_eq (himage : module.image.size + 3 < 4294967296) :
    ∃ after, neOwnName module nameBuffer = some ((ownName module).isSome, after) ∧
      ∀ name, ownName module = some name → cString after = name :=
  neNameAt_eq himage _ nameBuffer rfl

end Ntvdmex.Wow.Ne
