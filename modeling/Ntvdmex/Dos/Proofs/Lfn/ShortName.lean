import Ntvdmex.Dos.Lfn

/-!
# Short names

A short name is a base of one to eight characters and an extension of at most three, and the
recogniser accepts exactly these.  Both ways of making one end in such a base and extension, and
one that is made of upper-case characters is what it is made into.
-/

namespace Ntvdmex.Dos.Lfn

open Foundation List Option Or

variable {name base extension kept text : List UInt8} {c : UInt8}

/-! ## The grammar -/

def IsNameChar (character : UInt8) : Prop :=
  character ≠ dosLfnExtensionDot ∧ character ≠ 0x20 ∧ dosLfnIsBadShortNameChar character = false
deriving Decidable

structure ShortParts (base extension : List UInt8) : Prop where
  base_ne_nil : base ≠ []
  base_le : base.length ≤ 8
  extension_le : extension.length ≤ 3
  base_chars : ∀ c ∈ base, IsNameChar c
  extension_chars : ∀ c ∈ extension, IsNameChar c

/-- The name without a dot when there is no extension. -/
def joinParts (base extension : List UInt8) : List UInt8 :=
  if extension = [] then base else base ++ dosLfnExtensionDot :: extension

theorem joinParts_cons (c : UInt8) (base extension : List UInt8) :
    joinParts (c :: base) extension = c :: joinParts base extension := by
  unfold joinParts
  split_ifs
  · rfl
  · rfl

theorem joinParts_dot (hname : dosLfnExtensionDot :: name = joinParts base extension)
    (hbase : ∀ c ∈ base, IsNameChar c) : base = [] ∧ name = extension ∧ extension ≠ [] := by
  cases base with
  | nil =>
    unfold joinParts at hname
    split_ifs at hname with hempty
    exact ⟨rfl, (cons.inj hname).2, hempty⟩
  | cons c base =>
    rw [joinParts_cons] at hname
    have hfirst := (hbase c mem_cons_self).1
    exact absurd (cons.inj hname).1.symm hfirst

theorem joinParts_char (hname : c :: name = joinParts base extension)
    (hdot : c ≠ dosLfnExtensionDot) :
    ∃ rest, base = c :: rest ∧ name = joinParts rest extension := by
  cases base with
  | nil =>
    unfold joinParts at hname
    split_ifs at hname
    exact absurd (cons.inj hname).1 hdot
  | cons first base =>
    rw [joinParts_cons] at hname
    obtain ⟨rfl, hrest⟩ := cons.inj hname
    exact ⟨base, rfl, hrest⟩

section Recogniser

theorem not_isNameChar (hbad : c = 0x20 ∨ dosLfnIsBadShortNameChar c = true) : ¬ IsNameChar c := by
  rintro ⟨-, hblank, hgood⟩
  rcases hbad with hbad | hbad
  · exact hblank hbad
  · rw [hgood] at hbad
    cases hbad

theorem shortNameLoop_extension (baseLength : Int) (name : List UInt8) (count : Nat) :
    shortNameLoop baseLength count name = true ↔
      (∀ c ∈ name, IsNameChar c) ∧ (count + name.length ≤ 3 ∨ name = []) ∧
        0 < baseLength ∧ count + name.length ≠ 0 := by
  induction name generalizing count with
  | nil => simp [shortNameLoop]
  | cons c name ih =>
    rw [shortNameLoop, forall_mem_cons]
    by_cases hdot : c = dosLfnExtensionDot
    · rw [if_pos hdot, if_pos (by lia)]
      simp [IsNameChar, hdot]
    · rw [if_neg hdot]
      by_cases hbad : c = 0x20 ∨ dosLfnIsBadShortNameChar c = true
      · rw [if_pos hbad]
        simp [not_isNameChar hbad]
      · rw [if_neg hbad, if_pos (by lia)]
        push Not at hbad
        have hchar : IsNameChar c := ⟨hdot, hbad.1, by simpa using hbad.2⟩
        have hnext : ((count : Int) + 1) = ((count + 1 : Nat) : Int) := by lia
        rw [length_cons, dosLfnExtensionChars]
        by_cases hlong : ((3 : Nat) : Int) < (count : Int) + 1
        · rw [if_pos hlong]
          simp
          lia
        · rw [if_neg hlong, hnext, ih]
          constructor
          · rintro ⟨hchars, hlength, hbase, -⟩
            refine ⟨⟨hchar, hchars⟩, inl ?_, hbase, by lia⟩
            rcases hlength with hlength | hnil
            · lia
            · rw [hnil, length_nil]
              lia
          · rintro ⟨⟨-, hchars⟩, hlength, hbase, -⟩
            rcases hlength with hlength | hnil
            · exact ⟨hchars, inl (by lia), hbase, by lia⟩
            · cases hnil

theorem shortNameLoop_base (name : List UInt8) (count : Nat) (hcount : count ≤ 8) :
    shortNameLoop count dosLfnNoExtension name = true ↔
      ∃ base extension, name = joinParts base extension ∧ (∀ c ∈ base, IsNameChar c) ∧
        (∀ c ∈ extension, IsNameChar c) ∧ 0 < count + base.length ∧ count + base.length ≤ 8 ∧
        extension.length ≤ 3 := by
  induction name generalizing count with
  | nil =>
    rw [shortNameLoop]
    constructor
    · intro h
      exact ⟨[], [], rfl, by simp, by simp, by simp; lia, by simpa using hcount, by simp⟩
    · rintro ⟨base, extension, hname, -, -, hpos, -, -⟩
      have hbase : base = [] := by
        unfold joinParts at hname
        split_ifs at hname
        · exact hname.symm
        · simp at hname
      rw [hbase, length_nil] at hpos
      exact decide_eq_true ⟨by lia, by decide⟩
  | cons c name ih =>
    rw [shortNameLoop]
    by_cases hdot : c = dosLfnExtensionDot
    · rw [if_pos hdot, if_neg (by decide), hdot]
      have hextension := shortNameLoop_extension count name 0
      rw [Nat.cast_zero] at hextension
      rw [hextension]
      constructor
      · rintro ⟨hchars, hlength, hpos, hne⟩
        have hnonempty : name ≠ [] := by
          intro hnil
          rw [hnil] at hne
          exact hne rfl
        refine ⟨[], name, ?_, by simp, hchars, by simp; lia, by simpa using hcount, ?_⟩
        · rw [joinParts, if_neg hnonempty, nil_append]
        · lia
      · rintro ⟨base, extension, hname, hbase, hchars, hpos, -, hle⟩
        have hparts := joinParts_dot hname hbase
        rw [hparts.1, length_nil] at hpos
        rw [hparts.2.1]
        have hlength : extension.length ≠ 0 := fun h => hparts.2.2 (eq_nil_of_length_eq_zero h)
        exact ⟨hchars, inl (by lia), by lia, by lia⟩
    · rw [if_neg hdot]
      by_cases hbad : c = 0x20 ∨ dosLfnIsBadShortNameChar c = true
      · rw [if_pos hbad]
        refine ⟨fun hfalse => ?_, ?_⟩
        · cases hfalse
        · rintro ⟨base, extension, hname, hbase, -⟩
          obtain ⟨rest, rfl, -⟩ := joinParts_char hname hdot
          exact absurd (hbase c mem_cons_self) (not_isNameChar hbad)
      · rw [if_neg hbad, if_neg (by decide)]
        push Not at hbad
        have hchar : IsNameChar c := ⟨hdot, hbad.1, by simpa using hbad.2⟩
        have hnext : (count : Int) + 1 = ((count + 1 : Nat) : Int) := by lia
        rw [dosLfnBaseChars]
        by_cases hlong : ((8 : Nat) : Int) < (count : Int) + 1
        · rw [if_pos hlong]
          refine ⟨fun hfalse => ?_, ?_⟩
          · cases hfalse
          · rintro ⟨base, extension, hname, -, -, -, hle, -⟩
            obtain ⟨rest, rfl, -⟩ := joinParts_char hname hdot
            rw [length_cons] at hle
            lia
        · rw [if_neg hlong, hnext, ih (count + 1) (by lia)]
          constructor
          · rintro ⟨base, extension, hname, hbase, hextension, hpos, hle, hshort⟩
            refine ⟨c :: base, extension, by rw [joinParts_cons, hname], ?_, hextension, ?_, ?_,
              hshort⟩
            · rw [forall_mem_cons]
              exact ⟨hchar, hbase⟩
            · rw [length_cons]
              lia
            · rw [length_cons]
              lia
          · rintro ⟨base, extension, hname, hbase, hextension, hpos, hle, hshort⟩
            obtain ⟨rest, rfl, hrest⟩ := joinParts_char hname hdot
            rw [length_cons] at hle
            rw [forall_mem_cons] at hbase
            exact ⟨rest, extension, hrest, hbase.2, hextension, by lia, by lia, hshort⟩

/-- The recogniser accepts the names of the grammar and no others. -/
theorem dosLfnIsShortName_iff (name : List UInt8) :
    dosLfnIsShortName name = true ↔
      ∃ base extension, name = joinParts base extension ∧ ShortParts base extension := by
  have hloop := shortNameLoop_base name 0 (by decide)
  simp only [Nat.cast_zero, Nat.zero_add] at hloop
  unfold dosLfnIsShortName
  cases name with
  | nil =>
    refine ⟨fun hfalse => ?_, ?_⟩
    · cases hfalse
    · rintro ⟨base, extension, hname, hparts⟩
      have hne := hparts.base_ne_nil
      unfold joinParts at hname
      split_ifs at hname
      · exact absurd hname.symm hne
      · simp at hname
  | cons first name =>
    rw [head?_cons]
    dsimp only
    by_cases hdot : first = dosLfnExtensionDot
    · rw [if_pos hdot]
      refine ⟨fun hfalse => ?_, ?_⟩
      · cases hfalse
      · rintro ⟨base, extension, hname, hparts⟩
        rw [hdot] at hname
        exact absurd (joinParts_dot hname hparts.base_chars).1 hparts.base_ne_nil
    · rw [if_neg hdot, hloop]
      constructor
      · rintro ⟨base, extension, hname, hbase, hextension, hpos, hle, hshort⟩
        exact ⟨base, extension, hname, length_pos_iff.mp hpos, hle, hshort, hbase, hextension⟩
      · rintro ⟨base, extension, hname, hparts⟩
        exact ⟨base, extension, hname, hparts.base_chars, hparts.extension_chars,
          length_pos_iff.mpr hparts.base_ne_nil, hparts.base_le, hparts.extension_le⟩

end Recogniser

/-! ## The parts of a short name -/

section Parts

variable {base extension : List UInt8}

theorem ShortParts.takeWhile_join (hparts : ShortParts base extension) :
    (joinParts base extension).takeWhile (· ≠ dosLfnExtensionDot) = base := by
  have hbase : ∀ c ∈ base, decide (c ≠ dosLfnExtensionDot) = true := fun c hc =>
    decide_eq_true (hparts.base_chars c hc).1
  unfold joinParts
  split_ifs
  · exact takeWhile_eq_self_iff.mpr hbase
  · rw [takeWhile_append_of_pos hbase]
    simp

theorem ShortParts.drop_join (hparts : ShortParts base extension) :
    ((joinParts base extension).dropWhile (· ≠ dosLfnExtensionDot)).drop 1 = extension := by
  have hbase : ∀ c ∈ base, decide (c ≠ dosLfnExtensionDot) = true := fun c hc =>
    decide_eq_true (hparts.base_chars c hc).1
  unfold joinParts
  split_ifs with hempty
  · rw [dropWhile_eq_nil_iff.mpr hbase, hempty, drop_nil]
  · rw [dropWhile_append_of_pos hbase]
    simp

theorem ShortParts.upperParts_eq (hparts : ShortParts base extension) :
    upperParts (joinParts base extension) =
      (base.map dosLfnUpperCase, extension.map dosLfnUpperCase) := by
  unfold upperParts
  dsimp only
  have hbase : base.take dosLfnBaseChars = base := take_of_length_le hparts.base_le
  have hextension : extension.take dosLfnExtensionChars = extension :=
    take_of_length_le hparts.extension_le
  rw [hparts.takeWhile_join, hparts.drop_join, hbase, hextension]

theorem isNameChar_upperCase (c : UInt8) : IsNameChar c → IsNameChar (dosLfnUpperCase c) := by
  revert c
  exact forall_byte (by decide)

theorem upperCase_idem (c : UInt8) :
    dosLfnUpperCase (dosLfnUpperCase c) = dosLfnUpperCase c := by
  revert c
  exact forall_byte (by decide)

theorem isNameChar_clean (c : UInt8) :
    isDroppedChar c = false → IsNameChar (dosLfnCleanShortNameChar c) := by
  revert c
  exact forall_byte (by decide)

theorem upperCase_clean (c : UInt8) : isDroppedChar c = false →
    dosLfnUpperCase (dosLfnCleanShortNameChar c) = dosLfnCleanShortNameChar c := by
  revert c
  exact forall_byte (by decide)

theorem joinParts_map (base extension : List UInt8) :
    joinParts (base.map dosLfnUpperCase) (extension.map dosLfnUpperCase) =
      (joinParts base extension).map dosLfnUpperCase := by
  unfold joinParts
  by_cases hempty : extension = []
  · simp [hempty]
  · rw [if_neg hempty, if_neg (fun h => hempty (map_eq_nil_iff.mp h)), map_append,
      map_cons]
    rfl

/-- The parts of a short name made of characters that are upper-case already. -/
structure UpperParts (base extension : List UInt8) : Prop extends ShortParts base extension where
  base_upper : ∀ c ∈ base, dosLfnUpperCase c = c
  extension_upper : ∀ c ∈ extension, dosLfnUpperCase c = c

theorem ShortParts.upper (hparts : ShortParts base extension) :
    UpperParts (base.map dosLfnUpperCase) (extension.map dosLfnUpperCase) where
  base_ne_nil := fun hnil => hparts.base_ne_nil (map_eq_nil_iff.mp hnil)
  base_le := by
    rw [length_map]
    exact hparts.base_le
  extension_le := by
    rw [length_map]
    exact hparts.extension_le
  base_chars := forall_mem_map.mpr fun c hc => isNameChar_upperCase c (hparts.base_chars c hc)
  extension_chars :=
    forall_mem_map.mpr fun c hc => isNameChar_upperCase c (hparts.extension_chars c hc)
  base_upper := forall_mem_map.mpr fun c _ => upperCase_idem c
  extension_upper := forall_mem_map.mpr fun c _ => upperCase_idem c

/-! ## The generated alias -/

/-- Upper-case characters of a short name. -/
def CleanText (text : List UInt8) : Prop :=
  ∀ c ∈ text, IsNameChar c ∧ dosLfnUpperCase c = c

theorem cleanChars_clean (limit : Nat) (text : List UInt8) (hkept : CleanText kept)
    : CleanText (cleanChars limit text kept) := by
  induction text generalizing kept with
  | nil => exact hkept
  | cons c text ih =>
    rw [cleanChars]
    by_cases hfull : limit ≤ kept.length
    · rw [if_pos hfull]
      exact hkept
    · rw [if_neg hfull]
      by_cases hdropped : isDroppedChar c = true
      · rw [if_pos hdropped]
        exact ih hkept
      · rw [if_neg hdropped]
        have hc : isDroppedChar c = false := by simpa using hdropped
        apply ih
        intro d hd
        rcases mem_append.mp hd with hd | hd
        · exact hkept d hd
        · rw [mem_singleton.mp hd]
          exact ⟨isNameChar_clean c hc, upperCase_clean c hc⟩

theorem length_cleanChars_le (limit : Nat) (text : List UInt8) (hkept : kept.length ≤ limit)
    : (cleanChars limit text kept).length ≤ limit := by
  induction text generalizing kept with
  | nil => exact hkept
  | cons c text ih =>
    rw [cleanChars]
    by_cases hfull : limit ≤ kept.length
    · rw [if_pos hfull]
      exact hkept
    · rw [if_neg hfull]
      by_cases hdropped : isDroppedChar c = true
      · rw [if_pos hdropped]
        exact ih hkept
      · rw [if_neg hdropped]
        apply ih
        rw [length_append, length_singleton]
        omega

theorem CleanText.append {rest : List UInt8} (htext : CleanText text) (hrest : CleanText rest)
    : CleanText (text ++ rest) := by
  intro c hc
  rcases mem_append.mp hc with hc | hc
  · exact htext c hc
  · exact hrest c hc

theorem cleanText_nil : CleanText [] := by
  intro c hc
  cases hc

theorem upperParts_of_clean (hne : base ≠ []) (hbase : CleanText base)
    (hextension : CleanText extension) (hbaseLe : base.length ≤ 8)
    (hextensionLe : extension.length ≤ 3) : UpperParts base extension where
  base_ne_nil := hne
  base_le := hbaseLe
  extension_le := hextensionLe
  base_chars := fun c hc => (hbase c hc).1
  extension_chars := fun c hc => (hextension c hc).1
  base_upper := fun c hc => (hbase c hc).2
  extension_upper := fun c hc => (hextension c hc).2

theorem aliasParts_upper (component : List UInt8) :
    UpperParts (aliasParts component).1 (aliasParts component).2 := by
  have hbaseClean := cleanChars_clean dosLfnAliasBaseChars (aliasFront component) cleanText_nil
  have hbaseLe : (cleanChars dosLfnAliasBaseChars (aliasFront component) []).length ≤ 6 :=
    length_cleanChars_le dosLfnAliasBaseChars _ (Nat.zero_le _)
  have htail : CleanText [dosLfnAliasTilde, dosLfnAliasTail] := by
    unfold CleanText
    decide +kernel
  unfold aliasParts
  apply upperParts_of_clean
  · simp
  · apply CleanText.append _ htail
    split_ifs
    · unfold CleanText
      decide +kernel
    · exact hbaseClean
  · exact cleanChars_clean _ _ cleanText_nil
  · rw [length_append]
    split_ifs
    · decide
    · simp only [length_cons, length_nil]
      omega
  · exact length_cleanChars_le _ _ (Nat.zero_le _)

theorem shortNameParts_upper (component : List UInt8) :
    UpperParts (shortNameParts component).1 (shortNameParts component).2 := by
  unfold shortNameParts
  by_cases hshort : dosLfnIsShortName component = true
  · rw [if_pos hshort]
    obtain ⟨base, extension, rfl, hparts⟩ := (dosLfnIsShortName_iff component).mp hshort
    rw [hparts.upperParts_eq]
    exact hparts.upper
  · rw [if_neg hshort]
    exact aliasParts_upper component

end Parts

section Buffers

def fcbForm (name : List UInt8) : List UInt8 :=
  (name.takeWhile (· ≠ dosLfnExtensionDot)).rightpad dosLfnBaseChars dosLfnFcbPad ++
    ((name.dropWhile (· ≠ dosLfnExtensionDot)).drop 1).rightpad dosLfnExtensionChars dosLfnFcbPad

variable {base extension : List UInt8} {bytes : SizedBytes}

theorem ShortParts.fcbForm_eq (hparts : ShortParts base extension) :
    fcbForm (joinParts base extension) =
      base ++ replicate (8 - base.length) dosLfnFcbPad ++ extension ++
        replicate (3 - extension.length) dosLfnFcbPad := by
  unfold fcbForm
  rw [hparts.takeWhile_join, hparts.drop_join, rightpad, rightpad]
  exact (append_assoc _ _ _).symm

theorem ShortParts.writes_fcb (hparts : ShortParts base extension)
    (hsize : bytes.size = dosFcbNameSize) :
    ∃ after, writeFcbName bytes base extension = some after ∧
      after.StartsWith (fcbForm (joinParts base extension)) := by
  have hbaseLe := hparts.base_le
  have hextensionLe := hparts.extension_le
  have hroom : ([] : List UInt8).length +
      (replicate dosFcbNameSize dosLfnFcbPad).length ≤ bytes.size := by
    rw [length_nil, length_replicate, Nat.zero_add, hsize]
  obtain ⟨blank, hblank, -, hblanks⟩ :=
    (SizedBytes.startsWith_nil bytes).writeAll_append _ hroom
  have hfront : [] ++ replicate dosFcbNameSize dosLfnFcbPad =
      [] ++ replicate base.length dosLfnFcbPad ++
        replicate (11 - base.length) dosLfnFcbPad := by
    rw [nil_append, nil_append, ← replicate_add, dosFcbNameSize]
    congr 1
    lia
  rw [hfront] at hblanks
  obtain ⟨padded, hpadded, -, hbase⟩ := hblanks.writeAll_over base (by simp)
  have hmiddle : [] ++ base ++ replicate (11 - base.length) dosLfnFcbPad =
      base ++ replicate (8 - base.length) dosLfnFcbPad ++
          replicate extension.length dosLfnFcbPad ++
        replicate (3 - extension.length) dosLfnFcbPad := by
    rw [nil_append, append_assoc, append_assoc, ← replicate_add,
      ← replicate_add]
    congr 2
    lia
  rw [hmiddle] at hbase
  obtain ⟨after, hafter, -, hextension⟩ := hbase.writeAll_over extension (by simp)
  have hplace : (base ++ replicate (8 - base.length) dosLfnFcbPad).length =
      dosLfnBaseChars := by
    rw [length_append, length_replicate, dosLfnBaseChars]
    lia
  rw [hplace] at hafter
  refine ⟨after, ?_, ?_⟩
  · rw [length_nil] at hblank hpadded
    unfold writeFcbName
    rw [hblank]
    dsimp only [bind_eq_bind, bind_some]
    rw [hpadded]
    exact hafter
  · rw [hparts.fcbForm_eq]
    exact hextension

theorem ShortParts.writes_name (hparts : ShortParts base extension)
    (hsize : bytes.size = dosShortNameSize) :
    ∃ after, writeShortName bytes base extension = some after ∧
      after.StartsWith (joinParts base extension ++ [0]) := by
  have hbaseLe := hparts.base_le
  have hextensionLe := hparts.extension_le
  unfold dosShortNameSize at hsize
  have hroom : ([] : List UInt8).length + base.length ≤ bytes.size := by
    rw [length_nil]
    lia
  obtain ⟨named, hnamed, hnamedSize, hbase⟩ :=
    (SizedBytes.startsWith_nil bytes).writeAll_append base hroom
  rw [nil_append] at hbase
  rw [length_nil] at hnamed
  have hbaseRoom : base.length < named.size := by lia
  unfold writeShortName joinParts
  rw [hnamed]
  dsimp only [bind_eq_bind, bind_some]
  by_cases hempty : extension = []
  · rw [if_pos hempty, if_neg (by simp [hempty]), SizedBytes.write_eq hbaseRoom]
    exact ⟨_, rfl, hbase.store hbaseRoom 0⟩
  · have hdot := hbase.store hbaseRoom dosLfnExtensionDot
    have hdotRoom : (base ++ [dosLfnExtensionDot]).length + extension.length ≤ named.size := by
      rw [length_append, length_singleton]
      lia
    obtain ⟨extended, hextended, hextendedSize, hall⟩ := hdot.writeAll_append extension hdotRoom
    rw [length_append, length_singleton] at hextended
    have hlength : (base ++ [dosLfnExtensionDot] ++ extension).length =
        base.length + 1 + extension.length := by
      simp only [length_append, length_singleton]
    have hlast : (base ++ [dosLfnExtensionDot] ++ extension).length < extended.size := by
      rw [hlength, hextendedSize]
      lia
    have hnonempty : extension.length ≠ 0 := fun h => hempty (eq_nil_of_length_eq_zero h)
    rw [if_neg hempty, if_pos hnonempty, SizedBytes.write_eq hbaseRoom]
    dsimp only [bind_some]
    rw [hextended]
    dsimp only [bind_some]
    rw [← hlength, SizedBytes.write_eq hlast]
    refine ⟨_, rfl, ?_⟩
    have hclosed := hall.store hlast 0
    simpa using hclosed

end Buffers

def WritesShortName (longName name : CString) : Prop :=
  ∀ shortName fcbName : SizedBytes, shortName.size = dosShortNameSize →
    fcbName.size = dosFcbNameSize →
    ∃ short fcb, dosLfnShortName longName shortName fcbName = some (short, fcb) ∧
      short.StartsWith (name.bytes ++ [0]) ∧ fcb.StartsWith (fcbForm name.bytes)

theorem writesShortName_of_parts {longName name : CString}
    (hname : name.bytes = joinParts
      (shortNameParts (lastComponent longName.bytes longName.bytes)).1
      (shortNameParts (lastComponent longName.bytes longName.bytes)).2) :
    WritesShortName longName name := by
  intro shortName fcbName hshortSize hfcbSize
  have hparts := (shortNameParts_upper (lastComponent longName.bytes longName.bytes)).toShortParts
  obtain ⟨fcb, hfcb, hform⟩ := hparts.writes_fcb hfcbSize
  obtain ⟨short, hshort, htext⟩ := hparts.writes_name hshortSize
  rw [hname]
  refine ⟨short, fcb, ?_, htext, hform⟩
  unfold dosLfnShortName
  dsimp only
  rw [hfcb]
  rw [hshort]
  rfl

/-! ## The call on its own output -/

section Again

theorem isComponentEnd_of_isNameChar (c : UInt8) : IsNameChar c → isComponentEnd c = false := by
  revert c
  exact forall_byte (by decide)

theorem isNameChar_ne_zero (c : UInt8) : IsNameChar c → c ≠ 0 := by
  revert c
  exact forall_byte (by decide)

theorem lastComponent_of_no_end (htext : ∀ c ∈ text, isComponentEnd c = false)
    (component : List UInt8) : lastComponent text component = component := by
  induction text with
  | nil => rfl
  | cons c text ih =>
    rw [forall_mem_cons] at htext
    rw [lastComponent, if_neg (by simp [htext.1])]
    exact ih htext.2

variable {base extension : List UInt8}

theorem ShortParts.mem_join (hparts : ShortParts base extension) (hc : c ∈ joinParts base extension)
    : c = dosLfnExtensionDot ∨ IsNameChar c := by
  unfold joinParts at hc
  split_ifs at hc
  · exact inr (hparts.base_chars c hc)
  · rcases mem_append.mp hc with hc | hc
    · exact inr (hparts.base_chars c hc)
    · rcases mem_cons.mp hc with hdot | hc
      · exact inl hdot
      · exact inr (hparts.extension_chars c hc)

theorem ShortParts.no_end (hparts : ShortParts base extension) :
    ∀ c ∈ joinParts base extension, isComponentEnd c = false := by
  intro c hc
  rcases hparts.mem_join hc with hdot | hchar
  · rw [hdot]
    rfl
  · exact isComponentEnd_of_isNameChar c hchar

theorem UpperParts.map_eq (hparts : UpperParts base extension) :
    base.map dosLfnUpperCase = base ∧ extension.map dosLfnUpperCase = extension :=
  ⟨(map_congr_left hparts.base_upper).trans (map_id' base),
    (map_congr_left hparts.extension_upper).trans (map_id' extension)⟩

theorem UpperParts.shortNameParts_eq (hparts : UpperParts base extension) :
    shortNameParts (joinParts base extension) = (base, extension) := by
  have hshort : dosLfnIsShortName (joinParts base extension) = true :=
    (dosLfnIsShortName_iff _).mpr ⟨base, extension, rfl, hparts.toShortParts⟩
  rw [shortNameParts, if_pos hshort, hparts.upperParts_eq, hparts.map_eq.1, hparts.map_eq.2]

end Again

def shortNameOf (longName : CString) : CString where
  bytes := joinParts (shortNameParts (lastComponent longName.bytes longName.bytes)).1
    (shortNameParts (lastComponent longName.bytes longName.bytes)).2
  noNul := by
    intro hzero
    have hparts := shortNameParts_upper (lastComponent longName.bytes longName.bytes)
    rcases hparts.mem_join hzero with hdot | hchar
    · cases hdot
    · exact isNameChar_ne_zero 0 hchar rfl

theorem dos_lfn_short_name (longName : CString) :
    WritesShortName longName (shortNameOf longName) ∧
      dosLfnIsShortName (shortNameOf longName).bytes = true ∧
      (dosLfnIsShortName (lastComponent longName.bytes longName.bytes) = true →
        (shortNameOf longName).bytes =
          (lastComponent longName.bytes longName.bytes).map dosLfnUpperCase) ∧
      WritesShortName (shortNameOf longName) (shortNameOf longName) := by
  have hparts := shortNameParts_upper (lastComponent longName.bytes longName.bytes)
  refine ⟨writesShortName_of_parts rfl, ?_, ?_, ?_⟩
  · exact (dosLfnIsShortName_iff _).mpr ⟨_, _, rfl, hparts.toShortParts⟩
  · intro hshort
    obtain ⟨base, extension, hname, hgiven⟩ := (dosLfnIsShortName_iff _).mp hshort
    unfold shortNameOf shortNameParts
    dsimp only
    rw [if_pos hshort, hname, hgiven.upperParts_eq, joinParts_map]
  · apply writesShortName_of_parts
    have hsame : lastComponent (shortNameOf longName).bytes (shortNameOf longName).bytes =
        (shortNameOf longName).bytes :=
      lastComponent_of_no_end hparts.no_end _
    rw [hsame]
    unfold shortNameOf
    rw [hparts.shortNameParts_eq]

end Ntvdmex.Dos.Lfn
