import Ntvdmex.Dos.Proofs.Alias.Names

/-!
# Aliases of one directory

What a table holds after a listing is read off the entries in order: the names
taken and the entries in need of an alias.  Fewer names can be refused than there
are numbers, so every entry in the table gets an alias no other name has.
-/

namespace Ntvdmex.Dos.Alias

open Foundation List Or Bool NeedyEntry

variable {entry other : DirectoryEntry} {name : List UInt8} {table : DosAliasTable}
    {needy : NeedyEntry} {baseLength : Nat}

def dosName (entry : DirectoryEntry) : Option (List UInt8) :=
  if isDotName entry.longName then none
  else if entry.shortName ≠ [] then some entry.shortName
  else if dosAliasIsShortName entry.longName then some entry.longName
  else none

def IsNeedy (entry : DirectoryEntry) : Prop :=
  isDotName entry.longName = false ∧ entry.shortName = [] ∧
    dosAliasIsShortName entry.longName = false
deriving Decidable

def IsFull (table : DosAliasTable) (longName : List UInt8) : Prop :=
  dosAliasMaxNeedy ≤ table.needy.length
    ∨ dosAliasPoolSize < table.poolUsed + longName.length + 1
deriving Decidable

theorem note_needy (hneedy : IsNeedy entry) (table : DosAliasTable) :
    dosAliasTableNote table entry.longName entry.shortName =
      if IsFull table entry.longName then { table with isOverflow := true }
      else
        { table with
          needy := table.needy ++ [{ needyName := entry.longName, needyAlias := [] }]
          poolUsed := table.poolUsed + entry.longName.length + 1 } := by
  obtain ⟨hdot, hshort, hlong⟩ := hneedy
  unfold dosAliasTableNote
  rw [if_neg (by simp [hdot]), if_neg (by simp [hshort]), if_neg (by simp [hlong])]
  rfl

theorem note_dosName (hname : dosName entry = some name) (table : DosAliasTable) :
    dosAliasTableNote table entry.longName entry.shortName = dosAliasTake table name := by
  unfold dosName at hname
  unfold dosAliasTableNote
  split_ifs at hname ⊢ <;> simp_all

theorem note_dot (hneedy : ¬ IsNeedy entry) (hname : dosName entry = none) (table : DosAliasTable) :
    dosAliasTableNote table entry.longName entry.shortName = table := by
  unfold dosName at hname
  unfold IsNeedy at hneedy
  unfold dosAliasTableNote
  split_ifs at hname ⊢ <;> simp_all

theorem note_cases (table : DosAliasTable) (entry : DirectoryEntry) :
    (IsNeedy entry ∧ IsFull table entry.longName ∧
      dosAliasTableNote table entry.longName entry.shortName =
        { table with isOverflow := true }) ∨
    (IsNeedy entry ∧ ¬ IsFull table entry.longName ∧
      dosAliasTableNote table entry.longName entry.shortName =
        { table with
          needy := table.needy ++ [{ needyName := entry.longName, needyAlias := [] }]
          poolUsed := table.poolUsed + entry.longName.length + 1 }) ∨
    (∃ name, dosName entry = some name ∧
      dosAliasTableNote table entry.longName entry.shortName = dosAliasTake table name) ∨
    (dosName entry = none ∧ ¬ IsNeedy entry ∧
      dosAliasTableNote table entry.longName entry.shortName = table) := by
  by_cases hneedy : IsNeedy entry
  · have hnote := note_needy hneedy table
    by_cases hfull : IsFull table entry.longName
    · rw [if_pos hfull] at hnote
      exact inl ⟨hneedy, hfull, hnote⟩
    · rw [if_neg hfull] at hnote
      exact inr (inl ⟨hneedy, hfull, hnote⟩)
  · cases hname : dosName entry with
    | none => exact inr (inr (inr ⟨rfl, hneedy, note_dot hneedy hname table⟩))
    | some name => exact inr (inr (inl ⟨name, rfl, note_dosName hname table⟩))

theorem dosName_of_isNeedy (hneedy : IsNeedy entry) : dosName entry = none := by
  obtain ⟨hdot, hshort, hlong⟩ := hneedy
  simp [dosName, hdot, hshort, hlong]

/-! ## Noting a listing -/

/-- The limits of a table, whatever was noted. -/
structure WithinLimits (table : DosAliasTable) : Prop where
  taken_le : table.taken.length ≤ dosAliasMaxTaken
  needy_le : table.needy.length ≤ dosAliasMaxNeedy

theorem WithinLimits.note (hlimits : WithinLimits table) (entry : DirectoryEntry) :
    WithinLimits (dosAliasTableNote table entry.longName entry.shortName) := by
  obtain ⟨htaken, hneedy⟩ := hlimits
  rcases note_cases table entry with ⟨-, -, hnote⟩ | ⟨-, hroom, hnote⟩ | ⟨name, -, hnote⟩ |
    ⟨-, -, hnote⟩
  · rw [hnote]
    exact ⟨htaken, hneedy⟩
  · unfold IsFull at hroom
    push Not at hroom
    rw [hnote]
    refine ⟨htaken, ?_⟩
    simp only [length_append, length_singleton]
    omega
  · rw [hnote, dosAliasTake]
    split_ifs with hfull
    · exact ⟨htaken, hneedy⟩
    · refine ⟨?_, hneedy⟩
      simp only [length_append, length_singleton]
      omega
  · rw [hnote]
    exact ⟨htaken, hneedy⟩

theorem noteEntries_cons (table : DosAliasTable) (entry : DirectoryEntry)
    (entries : List DirectoryEntry) :
    noteEntries table (entry :: entries) =
      noteEntries (dosAliasTableNote table entry.longName entry.shortName) entries := rfl

theorem WithinLimits.noteEntries (hlimits : WithinLimits table) (entries : List DirectoryEntry)
    : WithinLimits (noteEntries table entries) := by
  induction entries generalizing table with
  | nil => exact hlimits
  | cons entry entries ih => exact ih (hlimits.note entry)

theorem note_isOverflow (hover : table.isOverflow = true) (entry : DirectoryEntry) :
    (dosAliasTableNote table entry.longName entry.shortName).isOverflow = true := by
  rcases note_cases table entry with ⟨-, -, hnote⟩ | ⟨-, -, hnote⟩ | ⟨name, -, hnote⟩ |
    ⟨-, -, hnote⟩
  · rw [hnote]
  · rw [hnote]
    exact hover
  · rw [hnote, dosAliasTake]
    split_ifs
    · rfl
    · exact hover
  · rw [hnote]
    exact hover

theorem noteEntries_isOverflow (hover : table.isOverflow = true) (entries : List DirectoryEntry)
    : (noteEntries table entries).isOverflow = true := by
  induction entries generalizing table with
  | nil => exact hover
  | cons entry entries ih => exact ih (note_isOverflow hover entry)

/-- The name a table keeps of a name taken. -/
def takenText (name : List UInt8) : List UInt8 :=
  (name.take (dosAliasNameSize - 1)).map dosAliasUpper

theorem noteEntries_eq {entries : List DirectoryEntry}
    (hfits : (noteEntries table entries).isOverflow = false) :
    (noteEntries table entries).taken =
      table.taken ++ (entries.filterMap dosName).map takenText ∧
    (noteEntries table entries).needy =
      table.needy ++ (entries.filter fun entry => decide (IsNeedy entry)).map fun entry =>
        { needyName := entry.longName, needyAlias := [] } := by
  induction entries generalizing table with
  | nil => simp [noteEntries]
  | cons entry entries ih =>
    rw [noteEntries_cons] at hfits ⊢
    have hrest := ih hfits
    have hfits' : (dosAliasTableNote table entry.longName entry.shortName).isOverflow = false := by
      by_contra hover
      rw [not_eq_false] at hover
      rw [noteEntries_isOverflow hover entries] at hfits
      cases hfits
    rcases note_cases table entry with ⟨-, -, hnote⟩ | ⟨hneedy, -, hnote⟩ | ⟨name, hname, hnote⟩ |
      ⟨hname, hneedy, hnote⟩
    · rw [hnote] at hfits'
      cases hfits'
    · have hname := dosName_of_isNeedy hneedy
      rw [hrest.1, hrest.2, hnote]
      simp [hneedy, hname]
    · have hneedy : ¬ IsNeedy entry := by
        intro hneedy
        rw [dosName_of_isNeedy hneedy] at hname
        cases hname
      rw [hnote, dosAliasTake] at hfits'
      rw [hrest.1, hrest.2, hnote, dosAliasTake]
      split_ifs at hfits' ⊢ with hfull
      simp [hneedy, hname, takenText]
    · rw [hrest.1, hrest.2, hnote]
      simp [hneedy, hname]

theorem mem_noteEntries_needy {entries : List DirectoryEntry}
    (hneedy : needy ∈ (noteEntries table entries).needy) :
    needy ∈ table.needy ∨ ∃ entry ∈ entries, needy.needyName = entry.longName := by
  induction entries generalizing table with
  | nil => exact inl hneedy
  | cons entry entries ih =>
    rw [noteEntries_cons] at hneedy
    rcases ih hneedy with hmem | ⟨other, hother, hname⟩
    · rcases note_cases table entry with ⟨-, -, hnote⟩ | ⟨-, -, hnote⟩ | ⟨name, -, hnote⟩ |
        ⟨-, -, hnote⟩
      · rw [hnote] at hmem
        exact inl hmem
      · rw [hnote] at hmem
        rcases mem_append.mp hmem with hmem | hmem
        · exact inl hmem
        · rw [mem_singleton] at hmem
          exact inr ⟨entry, mem_cons_self, by rw [hmem]⟩
      · rw [hnote, dosAliasTake] at hmem
        split_ifs at hmem
        · exact inl hmem
        · exact inl hmem
      · rw [hnote] at hmem
        exact inl hmem
    · exact inr ⟨other, mem_cons_of_mem entry hother, hname⟩

theorem dosAliasIsTaken_iff (taken : List (List UInt8)) (assigned : List NeedyEntry)
    (candidate : List UInt8) :
    dosAliasIsTaken taken assigned candidate = true ↔
      (∃ name ∈ taken, SameName name candidate) ∨
        ∃ entry ∈ assigned, SameName entry.needyAlias candidate := by
  unfold dosAliasIsTaken
  simp only [or_eq_true, any_eq_true, dosAliasSameText_iff]

theorem chooseAlias_free {taken : List (List UInt8)} {assigned : List NeedyEntry}
    (hlength : taken.length + assigned.length < dosAliasMaxNumber) (longName : List UInt8) :
    dosAliasIsTaken taken assigned (chooseAlias taken assigned longName) = false := by
  set refused := (taken ++ assigned.map needyAlias).map fun name =>
    name.map dosAliasUpper with hrefused
  have hrefusedLength : refused.length < dosAliasMaxNumber := by
    rw [hrefused, length_map, length_append, length_map]
    exact hlength
  have hinjective : ∀ m n, 1 ≤ m → m < 1 + dosAliasMaxNumber → 1 ≤ n →
      n < 1 + dosAliasMaxNumber →
      dosAliasMake longName m = dosAliasMake longName n → m = n := by
    intro m n hm hm' hn hn' heq
    exact dosAliasMake_injective longName hm (by lia) hn (by lia) heq
  obtain ⟨number, hlow, hhigh, hfresh⟩ := exists_candidate_not_mem hinjective hrefusedLength
  have hfree : (!dosAliasIsTaken taken assigned (dosAliasMake longName number)) = true := by
    rw [not_eq_true', ← not_eq_true, dosAliasIsTaken_iff]
    rintro (⟨name, hname, hsame⟩ | ⟨entry, hentry, hsame⟩)
    · refine hfresh (mem_map.mpr ⟨name, mem_append_left _ hname, ?_⟩)
      exact Eq.trans hsame (map_upper_dosAliasMake longName number)
    · refine hfresh (mem_map.mpr ⟨entry.needyAlias, ?_, ?_⟩)
      · exact mem_append_right _ (mem_map.mpr ⟨entry, hentry, rfl⟩)
      · exact Eq.trans hsame (map_upper_dosAliasMake longName number)
  have hcount : number ≤ 1 + (dosAliasMaxNumber - 1) := by lia
  have hfound := @searchNumber_free
    (fun number => !dosAliasIsTaken taken assigned (dosAliasMake longName number))
    (dosAliasMaxNumber - 1) 1 number hlow hcount hfree
  rw [not_eq_true'] at hfound
  exact hfound

/-- The aliases handed out: legal names, not taken, and pairwise different. -/
structure AliasesFree (taken : List (List UInt8)) (assigned : List NeedyEntry) : Prop where
  short : ∀ entry ∈ assigned, dosAliasIsShortName entry.needyAlias = true
  nonempty : ∀ entry ∈ assigned, entry.needyAlias ≠ []
  untaken : ∀ entry ∈ assigned, ∀ name ∈ taken, ¬ SameName name entry.needyAlias
  distinct : assigned.Pairwise fun entry other => ¬ SameName entry.needyAlias other.needyAlias

section

variable {taken : List (List UInt8)} {assigned : List NeedyEntry}
    (hfree : AliasesFree taken assigned)

include hfree

theorem AliasesFree.snoc
    (hlength : taken.length + assigned.length < dosAliasMaxNumber) (entry : NeedyEntry) :
    AliasesFree taken
      (assigned ++ [{ entry with needyAlias := chooseAlias taken assigned entry.needyName }]) := by
  have hchosen := chooseAlias_free hlength entry.needyName
  rw [← not_eq_true, dosAliasIsTaken_iff] at hchosen
  push Not at hchosen
  obtain ⟨hshort, hnonempty, huntaken, hdistinct⟩ := hfree
  refine ⟨?_, ?_, ?_, ?_⟩
  · intro other hother
    rcases mem_append.mp hother with hmem | hmem
    · exact hshort other hmem
    · rw [mem_singleton.mp hmem]
      exact dosAliasIsShortName_make _ _
  · intro other hother
    rcases mem_append.mp hother with hmem | hmem
    · exact hnonempty other hmem
    · rw [mem_singleton.mp hmem]
      exact dosAliasMake_ne_nil _ _
  · intro other hother
    rcases mem_append.mp hother with hmem | hmem
    · exact huntaken other hmem
    · rw [mem_singleton.mp hmem]
      exact hchosen.1
  · refine pairwise_append.mpr ⟨hdistinct, pairwise_singleton _ _, ?_⟩
    intro other hother last hlast
    rw [mem_singleton.mp hlast]
    exact hchosen.2 other hother

theorem AliasesFree.assign (needy : List NeedyEntry)
    (hlength : taken.length + assigned.length + needy.length ≤ dosAliasMaxNumber) :
    AliasesFree taken (assignAliases taken assigned needy) := by
  induction needy generalizing assigned with
  | nil => exact hfree
  | cons entry needy ih =>
    rw [length_cons] at hlength
    refine ih (hfree.snoc (by lia) entry) ?_
    rw [length_append, length_singleton]
    lia

end

theorem map_needyName_assignAliases (taken : List (List UInt8)) (assigned needy : List NeedyEntry) :
    (assignAliases taken assigned needy).map needyName =
      assigned.map needyName ++ needy.map needyName := by
  induction needy generalizing assigned with
  | nil => simp [assignAliases]
  | cons entry needy ih =>
    rw [assignAliases, ih]
    simp

section Listing

variable (directory : List UInt8) (entries : List DirectoryEntry)

theorem withinLimits_begin : WithinLimits (dosAliasTableBegin directory) :=
  ⟨Nat.zero_le _, Nat.zero_le _⟩

theorem aliasesFree_buildTable :
    AliasesFree (buildTable directory entries).taken (buildTable directory entries).needy := by
  have hlimits := (withinLimits_begin directory).noteEntries entries
  have hempty : AliasesFree (noteEntries (dosAliasTableBegin directory) entries).taken [] :=
    ⟨by simp, by simp, by simp, List.Pairwise.nil⟩
  refine hempty.assign _ ?_
  have htaken := hlimits.taken_le
  have hneedy := hlimits.needy_le
  unfold dosAliasMaxTaken at htaken
  unfold dosAliasMaxNeedy at hneedy
  unfold dosAliasMaxNumber
  rw [length_nil]
  omega

/-- Names whose entries are in the table, aliases aside. -/
theorem mem_needyNames_iff (name : List UInt8) :
    (∃ needy ∈ (buildTable directory entries).needy, needy.needyName = name) ↔
      ∃ needy ∈ (noteEntries (dosAliasTableBegin directory) entries).needy,
        needy.needyName = name := by
  have hnames := map_needyName_assignAliases
    (noteEntries (dosAliasTableBegin directory) entries).taken []
    (noteEntries (dosAliasTableBegin directory) entries).needy
  rw [map_nil, nil_append] at hnames
  rw [← mem_map, ← mem_map, ← hnames]
  rfl

theorem longName_of_mem_needy (hneedy : needy ∈ (buildTable directory entries).needy) :
    ∃ entry ∈ entries, needy.needyName = entry.longName := by
  obtain ⟨noted, hnoted, hname⟩ :=
    (mem_needyNames_iff directory entries needy.needyName).mp ⟨needy, hneedy, rfl⟩
  rcases mem_noteEntries_needy hnoted with hbegin | hentry
  · cases hbegin
  · rw [hname] at hentry
    exact hentry

end Listing

theorem eq_of_pairwise_not {α : Type} {same : α → α → Prop}
    (hsymm : ∀ x y, same x y → same y x) {xs : List α}
    (hxs : xs.Pairwise fun x y => ¬ same x y) {x y : α} (hx : x ∈ xs) (hy : y ∈ xs)
    (hsame : same x y) : x = y := by
  have hnotSymm : Std.Symm fun x y => ¬ same x y :=
    { symm := fun a b hab hba => hab (hsymm b a hba) }
  by_contra hne
  exact hxs.forall hx hy hne hsame

section Lookup

variable {table : DosAliasTable}

theorem aliasOf_eq_some {longName : List UInt8}
    (halias : dosAliasTableAliasOf table longName = some name) :
    ∃ needy ∈ table.needy, needy.needyAlias = name ∧ SameName needy.needyName longName := by
  obtain ⟨needy, hfind, hname⟩ := Option.map_eq_some_iff.mp halias
  have hfound := find?_some hfind
  simp only [and_eq_true, dosAliasSameText_iff] at hfound
  exact ⟨needy, mem_of_find?_eq_some hfind, hname, hfound.2⟩

section

variable (hfree : AliasesFree table.taken table.needy)

include hfree

theorem aliasOf_isSome (hneedy : needy ∈ table.needy) :
    ∃ name, dosAliasTableAliasOf table needy.needyName = some name := by
  have hmatch : (!needy.needyAlias.isEmpty
      && dosAliasSameText needy.needyName needy.needyName none) = true := by
    have hne := hfree.nonempty needy hneedy
    simp only [and_eq_true, dosAliasSameText_iff]
    exact ⟨by simpa using hne, rfl⟩
  have hfind : (table.needy.find? fun entry => !entry.needyAlias.isEmpty
      && dosAliasSameText entry.needyName needy.needyName none).isSome :=
    find?_isSome.mpr ⟨needy, hneedy, hmatch⟩
  obtain ⟨found, hfound⟩ := Option.isSome_iff_exists.mp hfind
  exact ⟨found.needyAlias, by rw [dosAliasTableAliasOf, hfound]; rfl⟩

theorem eq_of_same_alias {other : NeedyEntry} (hneedy : needy ∈ table.needy)
    (hother : other ∈ table.needy) (hsame : SameName needy.needyAlias other.needyAlias)
    : needy = other :=
  eq_of_pairwise_not (fun _ _ h => h.symm) hfree.distinct hneedy hother hsame

theorem longOf_eq (hneedy : needy ∈ table.needy) :
    dosAliasTableLongOf table needy.needyAlias needy.needyAlias.length =
      some needy.needyName := by
  have hmatches : ∀ entry : NeedyEntry, (!entry.needyAlias.isEmpty && dosAliasSameText
      needy.needyAlias entry.needyAlias (some needy.needyAlias.length)) = true ↔
      entry.needyAlias ≠ [] ∧ SameName needy.needyAlias entry.needyAlias := by
    intro entry
    rw [dosAliasSameText_length _ _ (Nat.le_refl _), and_eq_true, dosAliasSameText_iff]
    simp
  have hfind : (table.needy.find? fun entry => !entry.needyAlias.isEmpty && dosAliasSameText
      needy.needyAlias entry.needyAlias (some needy.needyAlias.length)).isSome :=
    find?_isSome.mpr
      ⟨needy, hneedy, (hmatches needy).mpr ⟨hfree.nonempty needy hneedy, rfl⟩⟩
  obtain ⟨found, hfound⟩ := Option.isSome_iff_exists.mp hfind
  have hmatch : (!found.needyAlias.isEmpty && dosAliasSameText needy.needyAlias found.needyAlias
      (some needy.needyAlias.length)) = true := by
    simpa only using find?_some hfound
  have hsame := ((hmatches found).mp hmatch).2
  have heq := eq_of_same_alias hfree hneedy (mem_of_find?_eq_some hfound) hsame
  rw [dosAliasTableLongOf, hfound, heq]
  rfl

end

end Lookup

theorem length_of_shortNameRest_extension {extensionLength : Nat}
    (hname : shortNameRest baseLength (some extensionLength) name = true)
    (hextension : extensionLength ≤ dosAliasExtensionLength) :
    extensionLength + name.length ≤ dosAliasExtensionLength := by
  induction name generalizing extensionLength with
  | nil => exact hextension
  | cons c name ih =>
    unfold shortNameRest at hname
    by_cases hdot : c = asciiDot
    · simp [hdot] at hname
    · rw [if_neg hdot] at hname
      dsimp only at hname
      split_ifs at hname with hbad hfull
      have hrest := ih hname (by omega)
      rw [length_cons]
      omega

theorem length_of_shortNameRest_base (hname : shortNameRest baseLength none name = true)
    (hbase : baseLength ≤ dosAliasBaseLength) :
    baseLength + name.length ≤ dosAliasBaseLength + 1 + dosAliasExtensionLength := by
  induction name generalizing baseLength with
  | nil =>
    rw [length_nil]
    lia
  | cons c name ih =>
    unfold shortNameRest at hname
    rw [length_cons]
    by_cases hdot : c = asciiDot
    · rw [if_pos hdot] at hname
      have hrest := length_of_shortNameRest_extension hname (Nat.zero_le _)
      lia
    · rw [if_neg hdot] at hname
      split_ifs at hname with hbad hfull
      have hrest := ih hname (by lia)
      lia

theorem length_le_of_isShortName (hname : dosAliasIsShortName name = true) :
    name.length ≤ dosAliasNameSize - 1 := by
  cases name with
  | nil => exact Nat.zero_le _
  | cons c name =>
    unfold dosAliasIsShortName at hname
    dsimp only at hname
    split_ifs at hname
    have hrest := length_of_shortNameRest_base hname (Nat.zero_le _)
    rw [Nat.zero_add] at hrest
    exact hrest

theorem sameName_takenText (hname : name.length ≤ dosAliasNameSize - 1) :
    SameName (takenText name) name := by
  unfold SameName takenText
  rw [take_of_length_le hname, map_map]
  refine map_congr_left fun c _ => ?_
  exact dosAliasUpper_idem c

theorem length_dosName_le (hname : dosName entry = some name) (hshort : entry.shortName.length ≤ 12) :
    name.length ≤ dosAliasNameSize - 1 := by
  unfold dosName at hname
  split_ifs at hname with hdot hempty hlong
  · rw [← Option.some.inj hname]
    exact hshort
  · rw [← Option.some.inj hname]
    exact length_le_of_isShortName hlong

/-! ## Unique and reversible -/

/-- The entry's alias is a legal name, no other alias, no name DOS already has, and leads back
to the entry. -/
def GetsUniqueAlias (table : DosAliasTable) (entries : List DirectoryEntry)
    (entry : DirectoryEntry) : Prop :=
  ∃ name, dosAliasTableAliasOf table entry.longName = some name ∧
    dosAliasIsShortName name = true ∧
    (∀ other ∈ entries, other ≠ entry → ∀ otherName,
      dosAliasTableAliasOf table other.longName = some otherName → ¬ SameName otherName name) ∧
    (∀ other ∈ entries, ∀ otherName, dosName other = some otherName →
      ¬ SameName otherName name) ∧
    dosAliasTableLongOf table name name.length = some entry.longName

def DistinctNames (entries : List DirectoryEntry) : Prop :=
  entries.Pairwise fun entry other => ¬ SameName entry.longName other.longName
deriving Decidable

theorem DistinctNames.eq {entries : List DirectoryEntry} (hdistinct : DistinctNames entries)
    (hentry : entry ∈ entries) (hother : other ∈ entries)
    (hsame : SameName entry.longName other.longName) : entry = other :=
  eq_of_pairwise_not (fun _ _ h => h.symm) hdistinct hentry hother hsame

section Main

variable {directory : List UInt8} {entries : List DirectoryEntry}

theorem needy_of_aliasOf (hdistinct : DistinctNames entries) (hentry : entry ∈ entries)
    (halias : dosAliasTableAliasOf (buildTable directory entries) entry.longName = some name) :
    ∃ needy ∈ (buildTable directory entries).needy, needy.needyAlias = name ∧
      needy.needyName = entry.longName := by
  obtain ⟨needy, hneedy, hname, hsame⟩ := aliasOf_eq_some halias
  obtain ⟨other, hother, hlong⟩ := longName_of_mem_needy directory entries hneedy
  rw [hlong] at hsame
  have heq := hdistinct.eq hother hentry hsame
  exact ⟨needy, hneedy, hname, by rw [hlong, heq]⟩

theorem aliases_distinct (hdistinct : DistinctNames entries) (hentry : entry ∈ entries)
    (hother : other ∈ entries) (hne : other ≠ entry) {otherName : List UInt8}
    (halias : dosAliasTableAliasOf (buildTable directory entries) entry.longName = some name)
    (hotherAlias : dosAliasTableAliasOf (buildTable directory entries) other.longName =
      some otherName) :
    ¬ SameName otherName name := by
  intro hsame
  obtain ⟨needy, hneedy, hname, hlong⟩ := needy_of_aliasOf hdistinct hentry halias
  obtain ⟨needy', hneedy', hname', hlong'⟩ := needy_of_aliasOf hdistinct hother hotherAlias
  rw [← hname, ← hname'] at hsame
  have heq := eq_of_same_alias (aliasesFree_buildTable directory entries) hneedy' hneedy hsame
  rw [heq, hlong] at hlong'
  exact hne (hdistinct.eq hother hentry (congrArg _ hlong'.symm))

theorem getsUniqueAlias (hdistinct : DistinctNames entries)
    (hshort : ∀ entry ∈ entries, entry.shortName.length ≤ 12)
    (hfits : (buildTable directory entries).isOverflow = false) (hentry : entry ∈ entries)
    (hneedy : IsNeedy entry) : GetsUniqueAlias (buildTable directory entries) entries entry := by
  have hfree := aliasesFree_buildTable directory entries
  obtain ⟨htaken, hnoted⟩ := @noteEntries_eq (dosAliasTableBegin directory) entries hfits
  have hplace : ∃ needy ∈ (buildTable directory entries).needy,
      needy.needyName = entry.longName := by
    rw [mem_needyNames_iff, hnoted]
    refine ⟨{ needyName := entry.longName, needyAlias := [] }, ?_, rfl⟩
    refine mem_append_right _ (mem_map.mpr ⟨entry, ?_, rfl⟩)
    exact mem_filter.mpr ⟨hentry, decide_eq_true hneedy⟩
  obtain ⟨place, hplace, hplaceName⟩ := hplace
  obtain ⟨name, halias⟩ := aliasOf_isSome hfree hplace
  rw [hplaceName] at halias
  obtain ⟨needy, hmem, hname, hlong⟩ := needy_of_aliasOf hdistinct hentry halias
  refine ⟨name, halias, ?_, ?_, ?_, ?_⟩
  · rw [← hname]
    exact hfree.short needy hmem
  · intro other hother hne otherName hotherAlias
    exact aliases_distinct hdistinct hentry hother hne halias hotherAlias
  · intro other hother otherName hotherName hsame
    have htext : takenText otherName ∈ (buildTable directory entries).taken := by
      change takenText otherName ∈ (noteEntries (dosAliasTableBegin directory) entries).taken
      rw [htaken]
      refine mem_append_right _ (mem_map.mpr ⟨otherName, ?_, rfl⟩)
      exact mem_filterMap.mpr ⟨other, hother, hotherName⟩
    have hlength := length_dosName_le hotherName (hshort other hother)
    refine hfree.untaken needy hmem _ htext ?_
    rw [hname]
    exact (sameName_takenText hlength).trans hsame
  · rw [← hname, ← hlong]
    exact longOf_eq hfree hmem

theorem aliasOf_full {before after : List DirectoryEntry}
    (hdistinct : DistinctNames (before ++ entry :: after)) (hneedy : IsNeedy entry)
    (hfull : IsFull (noteEntries (dosAliasTableBegin directory) before) entry.longName) :
    dosAliasTableAliasOf (buildTable directory (before ++ entry :: after)) entry.longName =
      none := by
  rw [Option.eq_none_iff_forall_ne_some]
  intro name halias
  obtain ⟨needy, hmem, -, hsame⟩ := aliasOf_eq_some halias
  obtain ⟨noted, hnoted, hname⟩ :=
    (mem_needyNames_iff directory _ needy.needyName).mp ⟨needy, hmem, rfl⟩
  rw [noteEntries, foldl_append, ← noteEntries, ← noteEntries, noteEntries_cons, note_needy hneedy, if_pos hfull] at hnoted
  unfold DistinctNames at hdistinct
  rw [pairwise_append, pairwise_cons] at hdistinct
  obtain ⟨-, ⟨hafter, -⟩, hbefore⟩ := hdistinct
  rcases mem_noteEntries_needy hnoted with hearlier | ⟨other, hother, hlater⟩
  · rcases mem_noteEntries_needy hearlier with hbegin | ⟨other, hother, hlong⟩
    · cases hbegin
    · rw [← hname, hlong] at hsame
      exact hbefore other hother entry mem_cons_self hsame
  · rw [← hname, hlater] at hsame
    exact hafter other hother hsame.symm

end Main

theorem aliases_unique_and_reversible (directory : List UInt8) (entries : List DirectoryEntry)
    (hdistinct : DistinctNames entries)
    (hshort : ∀ entry ∈ entries, entry.shortName.length ≤ 12) :
    ((buildTable directory entries).isOverflow = false → ∀ entry ∈ entries, IsNeedy entry →
      GetsUniqueAlias (buildTable directory entries) entries entry) ∧
    (∀ before entry after, entries = before ++ entry :: after → IsNeedy entry →
      IsFull (noteEntries (dosAliasTableBegin directory) before) entry.longName →
      dosAliasTableAliasOf (buildTable directory entries) entry.longName = none) ∧
    (∀ entry ∈ entries, ∀ other ∈ entries, other ≠ entry → ∀ name otherName,
      dosAliasTableAliasOf (buildTable directory entries) entry.longName = some name →
      dosAliasTableAliasOf (buildTable directory entries) other.longName = some otherName →
      ¬ SameName otherName name) := by
  refine ⟨?_, ?_, ?_⟩
  · intro hfits entry hentry hneedy
    exact getsUniqueAlias hdistinct hshort hfits hentry hneedy
  · intro before entry after hentries hneedy hfull
    rw [hentries] at hdistinct ⊢
    exact aliasOf_full hdistinct hneedy hfull
  · intro entry hentry other hother hne name otherName halias hotherAlias
    exact aliases_distinct hdistinct hentry hother hne halias hotherAlias

def twoDocuments : List DirectoryEntry :=
  [{ longName := ascii "Documentaries", shortName := [] },
    { longName := ascii "Documents and more", shortName := [] }]

theorem aliases_unique_two_documents :
    GetsUniqueAlias (buildTable [] twoDocuments) twoDocuments
      { longName := ascii "Documentaries", shortName := [] } :=
  (aliases_unique_and_reversible [] twoDocuments (by decide) (by decide)).1
    (by decide) _ mem_cons_self (by decide)

/-- `.` has no short name and is not one, and gets no alias; and an alias can be the 8.3 long
name of an entry that has another short name. -/
theorem aliases_not_for_every_entry :
    (dosAliasIsShortName (ascii ".") = false ∧
      (buildTable [] [{ longName := ascii ".", shortName := [] }]).isOverflow = false ∧
      dosAliasTableAliasOf (buildTable [] [{ longName := ascii ".", shortName := [] }])
        (ascii ".") = none) ∧
    (dosAliasIsShortName (ascii "DOCUME~1") = true ∧
      dosAliasTableAliasOf
        (buildTable [] [{ longName := ascii "Documentaries", shortName := [] },
          { longName := ascii "DOCUME~1", shortName := ascii "X" }])
        (ascii "Documentaries") = some (ascii "DOCUME~1")) := by
  decide

end Ntvdmex.Dos.Alias
