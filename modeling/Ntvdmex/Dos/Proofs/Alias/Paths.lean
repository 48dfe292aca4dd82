import Ntvdmex.Dos.Proofs.Alias.Tables
import Ntvdmex.Foundation.Numbering

/-!
# Aliases across listings and in paths

Every rebuild hands the numbers out afresh, in the order of the listing.  The number an entry
comes to depends on the names in front of it, so an entry that came or went in front of it can
leave its alias to another file.
-/

namespace Ntvdmex.Dos.Alias

open Foundation Foundation.Numbering List

def listedNames (entries : List DirectoryEntry) : List (List UInt8) :=
  ((entries.filterMap dosName).take dosAliasMaxTaken).map takenText

/-- The long names in need of an alias that find room behind `count` names of `pool` bytes. -/
def namesInNeed (count pool : Nat) : List DirectoryEntry → List (List UInt8)
  | [] => []
  | entry :: entries =>
    if IsNeedy entry ∧ count < dosAliasMaxNeedy ∧
        pool + entry.longName.length + 1 ≤ dosAliasPoolSize then
      entry.longName :: namesInNeed (count + 1) (pool + entry.longName.length + 1) entries
    else namesInNeed count pool entries

variable (table : DosAliasTable) (name : List UInt8)

def unaliased : NeedyEntry where
  needyName := name
  needyAlias := []

theorem noteEntries_taken (entries : List DirectoryEntry)
    (hlimit : table.taken.length ≤ dosAliasMaxTaken) : (noteEntries table entries).taken =
      table.taken ++
        ((entries.filterMap dosName).take (dosAliasMaxTaken - table.taken.length)).map takenText := by
  induction entries generalizing table with
  | nil => simp [noteEntries]
  | cons entry entries ih =>
    rw [noteEntries_cons]
    rcases note_cases table entry with ⟨hneedy, -, hnote⟩ | ⟨hneedy, -, hnote⟩ |
      ⟨name, hname, hnote⟩ | ⟨hname, -, hnote⟩
    · rw [hnote, filterMap_cons_none (dosName_of_isNeedy hneedy)]
      exact ih _ hlimit
    · rw [hnote, filterMap_cons_none (dosName_of_isNeedy hneedy)]
      exact ih _ hlimit
    · rw [hnote, filterMap_cons_some hname, dosAliasTake]
      by_cases hfull : dosAliasMaxTaken ≤ table.taken.length
      · have hnone : dosAliasMaxTaken - table.taken.length = 0 := by lia
        rw [if_pos hfull]
        refine (ih { table with isOverflow := true } hlimit).trans ?_
        rw [hnone, take_zero, take_zero]
      · have hroom : dosAliasMaxTaken - table.taken.length =
            dosAliasMaxTaken - (table.taken.length + 1) + 1 := by lia
        have hless : (table.taken ++ [takenText name]).length ≤ dosAliasMaxTaken := by
          rw [length_append, length_singleton]
          lia
        rw [if_neg hfull, hroom, take_succ_cons]
        refine (ih _ hless).trans ?_
        rw [length_append, length_singleton, map_cons, append_assoc]
        rfl
    · rw [hnote, filterMap_cons_none hname]
      exact ih _ hlimit

theorem noteEntries_needy (entries : List DirectoryEntry) : (noteEntries table entries).needy =
      table.needy ++ (namesInNeed table.needy.length table.poolUsed entries).map unaliased := by
  induction entries generalizing table with
  | nil => simp [noteEntries, namesInNeed]
  | cons entry entries ih =>
    rw [noteEntries_cons, namesInNeed]
    rcases note_cases table entry with ⟨-, hfull, hnote⟩ | ⟨hneedy, hfull, hnote⟩ |
      ⟨name, hname, hnote⟩ | ⟨-, hneedy, hnote⟩
    · have hnoRoom : ¬(IsNeedy entry ∧ table.needy.length < dosAliasMaxNeedy ∧
          table.poolUsed + entry.longName.length + 1 ≤ dosAliasPoolSize) := by
        unfold IsFull at hfull
        lia
      rw [hnote, ih, if_neg hnoRoom]
    · have hroom : IsNeedy entry ∧ table.needy.length < dosAliasMaxNeedy ∧
          table.poolUsed + entry.longName.length + 1 ≤ dosAliasPoolSize := by
        unfold IsFull at hfull
        exact ⟨hneedy, by lia, by lia⟩
      rw [hnote, ih, if_pos hroom]
      simp [unaliased]
    · have hneedy : ¬IsNeedy entry := by
        intro hneedy
        rw [dosName_of_isNeedy hneedy] at hname
        cases hname
      rw [hnote, ih, if_neg (fun h => hneedy h.1), dosAliasTake]
      split_ifs <;> rfl
    · rw [hnote, ih, if_neg (fun h => hneedy h.1)]

/-! ## Numbers handed out -/

/-- The entries with their aliases, once those of `before` are done. -/
def handed (taken : List (List UInt8)) (before : List (List UInt8)) : List NeedyEntry :=
  assignAliases taken [] (before.map unaliased)

/-- The number of the alias of `name` behind `before`. -/
def aliasNumber (taken before : List (List UInt8)) (name : List UInt8) : Nat :=
  searchNumber
    (fun number => !dosAliasIsTaken taken (handed taken before) (dosAliasMake name number))
    (dosAliasMaxNumber - 1) 1

def IsListed (taken : List (List UInt8)) (text : List UInt8) : Prop :=
  ∃ name ∈ taken, SameName name text

variable (taken before : List (List UInt8))

theorem assignAliases_append (assigned first second : List NeedyEntry) :
    assignAliases taken assigned (first ++ second) =
      assignAliases taken (assignAliases taken assigned first) second := by
  induction first generalizing assigned with
  | nil => rfl
  | cons entry first ih => exact ih _

theorem handed_snoc : handed taken (before ++ [name]) =
      handed taken before ++
        [{ needyName := name, needyAlias := dosAliasMake name (aliasNumber taken before name) }] := by
  unfold handed
  rw [map_append, assignAliases_append]
  rfl

theorem length_handed : (handed taken before).length = before.length := by
  have hnames := congrArg List.length
    (map_needyName_assignAliases taken [] (before.map unaliased))
  simpa [handed] using hnames

theorem mem_handed {taken before : List (List UInt8)} {entry : NeedyEntry} :
    entry ∈ handed taken before ↔ ∃ pre name post, before = pre ++ name :: post ∧
      entry = { needyName := name, needyAlias := dosAliasMake name (aliasNumber taken pre name) } := by
  induction before using reverseRecOn with
  | nil => simp [handed, assignAliases]
  | append_singleton before last ih =>
    rw [handed_snoc, mem_append, ih, mem_singleton]
    constructor
    · rintro (⟨pre, name, post, rfl, hentry⟩ | hentry)
      · exact ⟨pre, name, post ++ [last], by simp, hentry⟩
      · exact ⟨before, last, [], rfl, hentry⟩
    · rintro ⟨pre, name, post, hbefore, hentry⟩
      cases post using reverseRecOn with
      | nil =>
        obtain ⟨rfl, hlast⟩ := append_inj' hbefore rfl
        cases hlast
        exact .inr hentry
      | append_singleton post other =>
        rw [← cons_append, ← append_assoc] at hbefore
        obtain ⟨rfl, -⟩ := append_inj' hbefore rfl
        exact .inl ⟨pre, name, post, rfl, hentry⟩

theorem sameName_dosAliasMake {first second : List UInt8} {m n : Nat} :
    SameName (dosAliasMake first m) (dosAliasMake second n) ↔
      dosAliasMake first m = dosAliasMake second n := by
  unfold SameName
  rw [map_upper_dosAliasMake, map_upper_dosAliasMake]

theorem unavailable_iff {taken before : List (List UInt8)} {name : List UInt8} {number : Nat} :
    Unavailable dosAliasMake (IsListed taken) (aliasNumber taken) before name number ↔
      dosAliasIsTaken taken (handed taken before) (dosAliasMake name number) = true := by
  rw [dosAliasIsTaken_iff]
  refine or_congr Iff.rfl ?_
  constructor
  · rintro ⟨pre, other, post, hbefore, hsame⟩
    exact ⟨_, mem_handed.mpr ⟨pre, other, post, hbefore, rfl⟩, sameName_dosAliasMake.mpr hsame⟩
  · rintro ⟨entry, hentry, hsame⟩
    obtain ⟨pre, other, post, hbefore, rfl⟩ := mem_handed.mp hentry
    exact ⟨pre, other, post, hbefore, sameName_dosAliasMake.mp hsame⟩

theorem handedOut {taken names : List (List UInt8)}
    (hlength : taken.length + names.length ≤ dosAliasMaxNumber) :
    HandedOut dosAliasMake (IsListed taken) (aliasNumber taken) dosAliasMaxNumber names where
  positive _ := le_searchNumber _ _
  limited _ := searchNumber_le _ _
  lower _ number hpositive hlower :=
    unavailable_iff.mpr (by simpa using searchNumber_lower hpositive hlower)
  available {before entry after} hnames := by
    have hshorter := congrArg List.length hnames
    rw [length_append, length_cons] at hshorter
    rw [unavailable_iff, Bool.not_eq_true]
    refine chooseAlias_free ?_ entry
    rw [length_handed]
    omega

/-! ## The table of a listing -/

/-- The long names of the listing in need of an alias, as many as the table holds. -/
def needyNames (entries : List DirectoryEntry) : List (List UInt8) :=
  namesInNeed 0 0 entries

/-- In the listing, `number` is the first one that is not gone for `name`: every lower number
makes a name the directory has, or one that an entry in front came to as well. -/
def HoldsNumber (entries : List DirectoryEntry) (name : List UInt8) (number : Nat) : Prop :=
  1 ≤ number ∧ number ≤ dosAliasMaxNumber ∧ ∃ before after,
    needyNames entries = before ++ name :: after ∧
      ComesTo dosAliasMake (IsListed (listedNames entries)) number before name

def Gives (text : List UInt8) : Prop :=
  { needyName := name, needyAlias := text } ∈ table.needy

section Listing

variable (directory : List UInt8) (entries : List DirectoryEntry)

theorem buildTable_taken : (buildTable directory entries).taken = listedNames entries := by
  have htaken := noteEntries_taken (dosAliasTableBegin directory) entries (Nat.zero_le _)
  exact htaken

theorem buildTable_needy :
    (buildTable directory entries).needy =
      handed (listedNames entries) (needyNames entries) := by
  have hneedy := noteEntries_needy (dosAliasTableBegin directory) entries
  have htaken := buildTable_taken directory entries
  unfold buildTable dosAliasTableFinish at htaken ⊢
  dsimp only at htaken ⊢
  rw [htaken, hneedy]
  rfl

theorem length_names_le :
    (listedNames entries).length + (needyNames entries).length ≤ dosAliasMaxNumber := by
  have hlimits := (withinLimits_begin []).noteEntries entries
  have hneedy := hlimits.needy_le
  rw [noteEntries_needy, length_append, length_map] at hneedy
  have hlisted : (listedNames entries).length ≤ dosAliasMaxTaken := by
    simp [listedNames]
  have hneeded : (needyNames entries).length ≤ dosAliasMaxNeedy :=
    (Nat.le_add_left _ _).trans hneedy
  unfold dosAliasMaxTaken at hlisted
  unfold dosAliasMaxNeedy at hneeded
  unfold dosAliasMaxNumber
  omega

theorem gives_iff {name text : List UInt8} :
    Gives (buildTable directory entries) name text ↔
      ∃ number, HoldsNumber entries name number ∧ text = dosAliasMake name number := by
  have hout := handedOut (length_names_le entries)
  unfold Gives
  rw [buildTable_needy, mem_handed]
  constructor
  · rintro ⟨before, other, after, hnames, heq⟩
    cases heq
    have hlow := hout.positive hnames
    have hhigh := hout.limited hnames
    refine ⟨_, ⟨hlow, hhigh, before, after, hnames, ?_⟩, rfl⟩
    exact (hout.comesTo_iff dosAliasMake_number hnames hlow hhigh).mpr rfl
  · rintro ⟨number, ⟨hlow, hhigh, before, after, hnames, hcomes⟩, rfl⟩
    have hgiven := (hout.comesTo_iff dosAliasMake_number hnames hlow hhigh).mp hcomes
    exact ⟨before, name, after, hnames, by rw [hgiven]⟩

theorem longOf_iff {name other : List UInt8} {number : Nat} :
    dosAliasTableLongOf (buildTable directory entries) (dosAliasMake other number)
        (dosAliasMake other number).length = some name ↔
      Gives (buildTable directory entries) name (dosAliasMake other number) := by
  have hfree := aliasesFree_buildTable directory entries
  constructor
  · intro hlong
    obtain ⟨entry, hfind, rfl⟩ := Option.map_eq_some_iff.mp hlong
    have hmem := mem_of_find?_eq_some hfind
    have hfound := find?_some hfind
    rw [dosAliasSameText_length _ _ (Nat.le_refl _), Bool.and_eq_true, dosAliasSameText_iff]
      at hfound
    have hgiven := (gives_iff directory entries).mp (show Gives _ entry.needyName entry.needyAlias
      from hmem)
    obtain ⟨found, -, halias⟩ := hgiven
    have hsame := hfound.2
    rw [halias, sameName_dosAliasMake, ← halias] at hsame
    rw [hsame]
    exact hmem
  · intro hgives
    exact longOf_eq hfree hgives

end Listing

/-- No number that a name of both listings comes to in the first one is, with the same text,
another entry's in the second. -/
def KeepsAliases (seen now : List DirectoryEntry) : Prop :=
  ∀ name number, HoldsNumber seen name number → (∃ entry ∈ now, entry.longName = name) →
    ∀ other, HoldsNumber now other number →
      dosAliasMake other number = dosAliasMake name number → other = name

/-- An alias the table of `seen` gave stands for the same file, or for none, in the table of
`now`. -/
def AliasStays (directory : List UInt8) (seen now : List DirectoryEntry) : Prop :=
  ∀ name text, Gives (buildTable directory seen) name text →
    (∃ entry ∈ now, entry.longName = name) →
      dosAliasTableLongOf (buildTable directory now) text text.length = some name ∨
        dosAliasTableLongOf (buildTable directory now) text text.length = none

theorem aliasStays_iff (directory : List UInt8) (seen now : List DirectoryEntry) :
    AliasStays directory seen now ↔ KeepsAliases seen now := by
  constructor
  · intro hstays name number hholds hnow other hother hsame
    have hgives := (gives_iff directory seen).mpr ⟨number, hholds, rfl⟩
    have hgiven : Gives (buildTable directory now) other (dosAliasMake name number) :=
      (gives_iff directory now).mpr ⟨number, hother, hsame.symm⟩
    have hlong := (longOf_iff directory now).mpr hgiven
    rcases hstays name _ hgives hnow with hsome | hnone
    · exact Option.some.inj (hlong.symm.trans hsome)
    · rw [hlong] at hnone
      cases hnone
  · intro hkeeps name text hgives hnow
    obtain ⟨number, hholds, rfl⟩ := (gives_iff directory seen).mp hgives
    cases hlong : dosAliasTableLongOf (buildTable directory now) (dosAliasMake name number)
        (dosAliasMake name number).length with
    | none => exact .inr rfl
    | some other =>
      obtain ⟨again, hother, hsame⟩ :=
        (gives_iff directory now).mp ((longOf_iff directory now).mp hlong)
      have hnumber : again = number :=
        dosAliasMake_number hother.1 hother.2.1 hholds.1 hholds.2.1 hsame.symm
      rw [hnumber] at hother hsame
      rw [hkeeps name number hholds hnow other hother hsame.symm]
      exact .inl rfl

/-!
## Aliases in paths

Every table of the cache was filled from a listing of its directory, at some call of the run.  So
a path's alias is looked up in a listing that some call saw, and stands for the file it was given
to as long as the listings keep it.
-/

/-! ## The tables of a cache -/

def FilledBy (volumes : List AliasVolume) (cache : AliasCache) : Prop :=
  ∀ table ∈ cache.tables, table.directory = [] ∨
    ∃ volume ∈ volumes, ∃ directory,
      table = buildTable directory (directoryListing volume directory)

def ListsDirectory (volumes : List AliasVolume) (directory : List UInt8)
    (table : DosAliasTable) : Prop :=
  ∃ volume ∈ volumes, ∃ listed, SameName (listed.take (dosAliasDirectorySize - 1)) directory ∧
    table = buildTable listed (directoryListing volume listed)

section Tables

variable {volumes : List AliasVolume} {cache : AliasCache} {volume : AliasVolume}
  {directory : List UInt8}

theorem filledBy_empty : FilledBy [] emptyAliasCache := by
  intro table htable
  rw [eq_of_mem_replicate htable]
  exact .inl rfl

theorem FilledBy.mono {more : List AliasVolume} (h : FilledBy volumes cache)
    (hmore : volumes ⊆ more) : FilledBy more cache := by
  intro table htable
  rcases h table htable with hempty | ⟨volume, hvolume, hfilled⟩
  · exact .inl hempty
  · exact .inr ⟨volume, hmore hvolume, hfilled⟩

theorem FilledBy.set (h : FilledBy volumes cache) (hvolume : volume ∈ volumes)
    (index nextTable : Nat) :
    FilledBy volumes
      { tables := cache.tables.set index
          (buildTable directory (directoryListing volume directory))
        nextTable } := by
  intro table htable
  rcases mem_or_eq_of_mem_set htable with hmem | rfl
  · exact h table hmem
  · exact .inr ⟨volume, hvolume, directory, rfl⟩

theorem buildTable_directory (entries : List DirectoryEntry) :
    (buildTable directory entries).directory = directory.take (dosAliasDirectorySize - 1) := by
  have hnote : ∀ table : DosAliasTable, (noteEntries table entries).directory = table.directory := by
    intro table
    induction entries generalizing table with
    | nil => rfl
    | cons entry entries ih =>
      rw [noteEntries_cons, ih]
      rcases note_cases table entry with ⟨-, -, h⟩ | ⟨-, -, h⟩ | ⟨name, -, h⟩ | ⟨-, -, h⟩
      · rw [h]
      · rw [h]
      · rw [h, dosAliasTake]
        split_ifs <;> rfl
      · rw [h]
  exact hnote _

theorem cachedTable_some {index : Nat} (h : cachedTable cache directory = some index) :
    ∃ table, cache.tables[index]? = some table ∧ table.directory ≠ [] ∧
      SameName table.directory directory := by
  have hfound := find?_some h
  cases htable : cache.tables[index]? with
  | none =>
    rw [htable] at hfound
    cases hfound
  | some table =>
    rw [htable] at hfound
    rw [Bool.and_eq_true, dosAliasTableIsFor, dosAliasSameText_iff] at hfound
    exact ⟨table, rfl, by simpa using hfound.1, hfound.2⟩

theorem FilledBy.tableFor (h : FilledBy volumes cache) (hvolume : volume ∈ volumes)
    (directory : List UInt8) (isRebuild : Bool) :
    FilledBy volumes (dosAliasTableFor volume cache directory isRebuild).1 := by
  unfold dosAliasTableFor
  cases cachedTable cache directory with
  | none => exact h.set hvolume _ _
  | some index =>
    cases isRebuild with
    | true => exact h.set hvolume _ _
    | false => exact h

theorem dosAliasTableFor_lists (h : FilledBy volumes cache) (hvolume : volume ∈ volumes)
    (hdirectory : directory.length < dosAliasDirectorySize) (isRebuild : Bool) :
    ListsDirectory volumes directory (dosAliasTableFor volume cache directory isRebuild).2 := by
  have hfresh : ListsDirectory volumes directory
      (buildTable directory (directoryListing volume directory)) := by
    refine ⟨volume, hvolume, directory, ?_, rfl⟩
    rw [take_of_length_le (by omega)]
    rfl
  unfold dosAliasTableFor
  cases hcached : cachedTable cache directory with
  | none => exact hfresh
  | some index =>
    cases isRebuild with
    | true => exact hfresh
    | false =>
      obtain ⟨table, htable, hused, hsame⟩ := cachedTable_some hcached
      have hlookup : cache.tables.getD index
          (buildTable directory (directoryListing volume directory)) = table := by
        rw [getD_eq_getElem?_getD, htable]
        rfl
      obtain ⟨other, hother, listed, hlisted⟩ :=
        (h table (mem_of_getElem? htable)).resolve_left hused
      refine ⟨other, hother, listed, ?_, hlookup.trans hlisted⟩
      rw [hlisted, buildTable_directory] at hsame
      exact hsame

end Tables

/-! ## Calls -/

/-- A call that uses the cache, with the volume as it is then. -/
inductive AliasCall where
  | fill (volume : AliasVolume) (directory : List UInt8) (entry : DirectoryEntry)
      (isListed : Bool)
  | resolvePath (volume : AliasVolume) (path : List UInt8) (capacity : Nat)

def AliasCall.volume : AliasCall → AliasVolume
  | .fill volume _ _ _ => volume
  | .resolvePath volume _ _ => volume

def aliasCall (cache : AliasCache) : AliasCall → AliasCache
  | .fill volume directory entry isListed =>
    (dosAliasFill volume cache directory entry isListed).1
  | .resolvePath volume path capacity => (dosAliasResolvePath volume cache path capacity).1

variable (calls : List AliasCall)

/-- The cache after the calls of a run. -/
def cacheAfter : AliasCache :=
  calls.foldl aliasCall emptyAliasCache

section Calls

variable {volumes : List AliasVolume} {cache : AliasCache} {volume : AliasVolume}

section

variable (h : FilledBy volumes cache) (hvolume : volume ∈ volumes)

include h hvolume

theorem FilledBy.fill (directory : List UInt8) (entry : DirectoryEntry) (isListed : Bool) :
    FilledBy volumes (dosAliasFill volume cache directory entry isListed).1 := by
  unfold dosAliasFill
  split
  · exact h
  · have hfirst := h.tableFor hvolume directory (!isListed)
    dsimp only
    split
    · exact hfirst.tableFor hvolume directory true
    · exact hfirst

theorem FilledBy.component (output component : List UInt8) :
    FilledBy volumes (dosAliasComponent volume cache output component).1 := by
  unfold dosAliasComponent
  split
  · have hfirst := h.tableFor hvolume output false
    dsimp only
    split
    · exact hfirst
    · exact hfirst.tableFor hvolume output true
  · exact h

theorem FilledBy.components
    (output : List UInt8) (isChanged : Bool) (components : List (List UInt8)) :
    FilledBy volumes (dosAliasComponents volume cache output isChanged components).1 := by
  induction components generalizing cache output isChanged with
  | nil => exact h
  | cons component rest ih =>
    have hnext := h.component hvolume output component
    rw [dosAliasComponents]
    split
    · exact h
    · dsimp only
      split
      · exact hnext
      · split
        · exact hnext
        · split
          · exact hnext
          · exact ih hnext _ _

theorem FilledBy.resolvePath (path : List UInt8) (capacity : Nat) :
    FilledBy volumes (dosAliasResolvePath volume cache path capacity).1 := by
  unfold dosAliasResolvePath
  split
  · exact h
  · cases volume.getFullPathName path with
    | none => exact h
    | some fullPath =>
      dsimp only
      split
      · exact h
      · have hwalked := h.components hvolume (fullPath.take (dosAliasRootLength fullPath)) false
          ((fullPath.drop (dosAliasRootLength fullPath)).splitOn asciiBackslash)
        split
        · rename_i heq
          rw [heq] at hwalked
          exact hwalked
        · rename_i heq
          rw [heq] at hwalked
          exact hwalked

end

theorem FilledBy.call (h : FilledBy volumes cache) (call : AliasCall)
    (hvolume : call.volume ∈ volumes) : FilledBy volumes (aliasCall cache call) := by
  cases call with
  | fill volume directory entry isListed => exact h.fill hvolume directory entry isListed
  | resolvePath volume path capacity => exact h.resolvePath hvolume path capacity

theorem filledBy_cacheAfter (calls : List AliasCall) :
    FilledBy (calls.map AliasCall.volume) (cacheAfter calls) := by
  have hrun : ∀ rest cache, FilledBy (calls.map AliasCall.volume) cache → rest ⊆ calls →
      FilledBy (calls.map AliasCall.volume) (rest.foldl aliasCall cache) := by
    intro rest
    induction rest with
    | nil => exact fun cache h _ => h
    | cons call rest ih =>
      intro cache h hrest
      obtain ⟨hcall, hrest⟩ := cons_subset.mp hrest
      exact ih _ (h.call call (mem_map_of_mem hcall)) hrest
  exact hrun calls emptyAliasCache (filledBy_empty.mono (nil_subset _)) (List.Subset.refl _)

end Calls

/-! ## Looking an alias up in a path -/

theorem dosAliasComponent_some {volumes : List AliasVolume} {cache : AliasCache}
    {volume : AliasVolume} {output component found : List UInt8} (h : FilledBy volumes cache)
    (hvolume : volume ∈ volumes)
    (hfound : (dosAliasComponent volume cache output component).2 = some found) :
    ∃ table, ListsDirectory volumes output table ∧
      dosAliasTableLongOf table component component.length = some found := by
  unfold dosAliasComponent at hfound
  split at hfound
  · rename_i hlookup
    have hlength := hlookup.2.2
    dsimp only at hfound
    split at hfound
    · rename_i longName hlong
      exact ⟨_, dosAliasTableFor_lists h hvolume hlength false, hlong.trans hfound⟩
    · have hnext := h.tableFor hvolume output false
      exact ⟨_, dosAliasTableFor_lists hnext hvolume hlength true, hfound⟩
  · cases hfound

/-- An alias of `seen` is looked up as `name`, or not at all, after the calls. -/
def ResolvesTo (volume : AliasVolume) (output name text : List UInt8) : Prop :=
  ∀ found, (dosAliasComponent volume (cacheAfter calls) output text).2 = some found → found = name

/-- Every listing of the directory that the calls or this one can have used keeps the aliases of
`seen`, and has the entry `name`. -/
def ListingsKeep (volume : AliasVolume) (output : List UInt8) (seen : List DirectoryEntry)
    (name : List UInt8) : Prop :=
  ∀ used ∈ volume :: calls.map AliasCall.volume, ∀ directory,
    SameName (directory.take (dosAliasDirectorySize - 1)) output →
      KeepsAliases seen (directoryListing used directory) ∧
        ∃ entry ∈ directoryListing used directory, entry.longName = name

def programFiles : List DirectoryEntry := [{ longName := ascii "Program Files", shortName := [] }]

/-- The same directory with an entry more in front. -/
def programData : List DirectoryEntry :=
  { longName := ascii "Program Data", shortName := [] } :: programFiles

end Ntvdmex.Dos.Alias
