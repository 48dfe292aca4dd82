import Ntvdmex.Dos.Proofs.FatImg.Reads

/-!
# Looking a path up against listing

Listing a directory and finding a name in it go over the same raw entries with the same filter, so
finding is the search of the list for its first match.  The path loop does that for one component
after another, and the separators between them only end a component.
-/

namespace Ntvdmex.Dos.FatImg

open Foundation Option List Or

def FatEntry.text (entry : FatEntry) : List UInt8 :=
  entry.name.takeWhile (· ≠ 0)

def SameLetters (text name : List UInt8) : Prop :=
  text.map upperCase = name.map upperCase
deriving Decidable

theorem fatNameMatches_iff (component name : List UInt8) :
    fatNameMatches component name = true ↔ SameLetters component (name.takeWhile (· ≠ 0)) := by
  unfold SameLetters
  induction component, name using fatNameMatches.induct with
  | case1 => simp [fatNameMatches]
  | case2 n name =>
    by_cases hn : n = 0
    · simp [fatNameMatches, hn]
    · simp [fatNameMatches, hn]
  | case3 c component => simp [fatNameMatches]
  | case4 c component name => simp [fatNameMatches]
  | case5 c component n name hn hletter => simp [fatNameMatches, hn, hletter]
  | case6 c component n name hn hletter ih =>
    have hsame : upperCase c = upperCase n := not_not.mp hletter
    simp [fatNameMatches, hn, hsame, ih]

section Keeps

variable {σ : Type} {image : FatImage} {visit : FatVisit σ} {kept : σ → Prop}

def VisitKeeps (visit : FatVisit σ) (kept : σ → Prop) : Prop :=
  ∀ raw context visited, kept context → visit raw context = some visited → kept visited.1

theorem visitEntries_keeps (hvisit : VisitKeeps visit kept) {count raw : Nat} {context : σ}
    {visited : σ × Bool} (hvisits : visitEntries visit count raw context = some visited)
    (hkept : kept context) : kept visited.1 := by
  induction count generalizing raw context with
  | zero =>
    rw [visitEntries] at hvisits
    rwa [← some.inj hvisits]
  | succ count ih =>
    rw [visitEntries] at hvisits
    obtain ⟨first, hfirst, hvisits⟩ := bind_eq_some_iff.mp hvisits
    have hnext := hvisit raw context first hkept hfirst
    by_cases hmore : first.2 = true
    · rw [if_pos hmore] at hvisits
      exact ih hvisits hnext
    · rw [if_neg hmore] at hvisits
      rwa [← some.inj hvisits]

theorem walkClusters_keeps (hvisit : VisitKeeps visit kept) {steps cluster : Nat}
    {context last : σ} (hwalk : walkClusters image visit steps cluster context = some last)
    (hkept : kept context) : kept last := by
  induction steps generalizing cluster context with
  | zero =>
    rw [walkClusters] at hwalk
    rwa [← some.inj hwalk]
  | succ steps ih =>
    rw [walkClusters] at hwalk
    by_cases hdata : ¬ FatImageIsDataCluster image cluster
    · rw [if_pos hdata] at hwalk
      rwa [← some.inj hwalk]
    · rw [if_neg hdata] at hwalk
      by_cases houtside : ClusterOutside image cluster
      · rw [if_pos houtside] at hwalk
        rwa [← some.inj hwalk]
      · rw [if_neg houtside] at hwalk
        obtain ⟨visited, hvisited, hwalk⟩ := bind_eq_some_iff.mp hwalk
        have hnext := visitEntries_keeps hvisit hvisited hkept
        by_cases hmore : visited.2 = true
        · rw [if_pos hmore] at hwalk
          obtain ⟨next, -, hwalk⟩ := bind_eq_some_iff.mp hwalk
          exact ih hwalk hnext
        · rw [if_neg hmore] at hwalk
          rwa [← some.inj hwalk]

theorem fatWalkDirectory_keeps (hvisit : VisitKeeps visit kept) {firstCluster : Nat}
    {context last : σ} (hwalk : fatWalkDirectory image firstCluster visit context = some last)
    (hkept : kept context) : kept last := by
  unfold fatWalkDirectory at hwalk
  by_cases hroot : firstCluster = 0
  · rw [if_pos hroot] at hwalk
    obtain ⟨visited, hvisited, hwalk⟩ := bind_eq_some_iff.mp hwalk
    rw [← some.inj hwalk]
    exact visitEntries_keeps hvisit hvisited hkept
  · rw [if_neg hroot] at hwalk
    exact walkClusters_keeps hvisit hwalk hkept

end Keeps

/-! ## One directory -/

section Directory

variable {image : FatImage} {capacity : Nat}

def matchesName (component : List UInt8) (entry : FatEntry) : Bool :=
  fatNameMatches component entry.name

section

variable {raw : Nat} {list : FatListContext} {visited : FatListContext × Bool}
    (hlist : fatListVisit image capacity raw list = some visited)

include hlist

theorem visit_cases
    (hfits : visited.1.count ≤ capacity) (component : List UInt8) (found : Option FatEntry) :
    (visited = (list, false) ∧ fatFindVisit image component raw found = some (found, false)) ∨
    (visited = (list, true) ∧ fatFindVisit image component raw found = some (found, true)) ∨
    ∃ entry, visited = ({ entries := list.entries ++ [entry], count := list.count + 1 }, true) ∧
      fatFindVisit image component raw found =
        if matchesName component entry then some (some entry, false) else some (found, true) := by
  obtain ⟨attributes, hattributes, hlist⟩ := bind_eq_some_iff.mp hlist
  obtain ⟨first, hfirst, hlist⟩ := bind_eq_some_iff.mp hlist
  unfold fatFindVisit
  rw [hattributes, hfirst]
  dsimp only [bind_eq_bind, bind_some]
  by_cases hend : first = fatEntryEnd
  · rw [if_pos hend] at hlist ⊢
    exact inl ⟨(some.inj hlist).symm, rfl⟩
  · rw [if_neg hend] at hlist ⊢
    by_cases hhidden : IsHiddenEntry first attributes
    · rw [if_pos hhidden] at hlist ⊢
      exact inr (inl ⟨(some.inj hlist).symm, rfl⟩)
    · rw [if_neg hhidden] at hlist ⊢
      by_cases hroom : list.count < capacity
      · rw [if_pos hroom] at hlist
        obtain ⟨entry, hentry, hlist⟩ := bind_eq_some_iff.mp hlist
        rw [hentry]
        exact inr (inr ⟨entry, (some.inj hlist).symm, rfl⟩)
      · rw [if_neg hroom] at hlist
        rw [← some.inj hlist] at hfits
        dsimp only at hfits
        omega

theorem count_visit :
    list.count ≤ visited.1.count ∧ visited.1.count ≤ list.count + 1 := by
  obtain ⟨attributes, -, hlist⟩ := bind_eq_some_iff.mp hlist
  obtain ⟨first, -, hlist⟩ := bind_eq_some_iff.mp hlist
  by_cases hend : first = fatEntryEnd
  · rw [if_pos hend] at hlist
    rw [← some.inj hlist]
    simp
  · rw [if_neg hend] at hlist
    by_cases hhidden : IsHiddenEntry first attributes
    · rw [if_pos hhidden] at hlist
      rw [← some.inj hlist]
      simp
    · rw [if_neg hhidden] at hlist
      by_cases hroom : list.count < capacity
      · rw [if_pos hroom] at hlist
        obtain ⟨entry, -, hlist⟩ := bind_eq_some_iff.mp hlist
        rw [← some.inj hlist]
        simp
      · rw [if_neg hroom] at hlist
        rw [← some.inj hlist]
        simp

end

theorem listVisit_keepsCount (least : Nat) :
    VisitKeeps (fatListVisit image capacity) fun list => least ≤ list.count :=
  fun _ _ _ hleast hlist => hleast.trans (count_visit hlist).1

variable {entries : List FatEntry} (component : List UInt8) {count steps cluster : Nat}
  {last : FatListContext}

theorem findVisit_keepsMatch : VisitKeeps (fatFindVisit image component) fun found =>
      ∀ entry ∈ found, SameLetters component entry.text := by
  intro raw found visited hmatched hfind
  obtain ⟨attributes, -, hfind⟩ := bind_eq_some_iff.mp hfind
  obtain ⟨first, -, hfind⟩ := bind_eq_some_iff.mp hfind
  by_cases hend : first = fatEntryEnd
  · rw [if_pos hend] at hfind
    rwa [← some.inj hfind]
  · rw [if_neg hend] at hfind
    by_cases hhidden : IsHiddenEntry first attributes
    · rw [if_pos hhidden] at hfind
      rwa [← some.inj hfind]
    · rw [if_neg hhidden] at hfind
      obtain ⟨entry, -, hfind⟩ := bind_eq_some_iff.mp hfind
      by_cases hmatch : fatNameMatches component entry.name = true
      · rw [if_pos hmatch] at hfind
        rw [← some.inj hfind]
        intro other hother
        rw [← mem_some.mp hother]
        exact (fatNameMatches_iff _ _).mp hmatch
      · rw [if_neg hmatch] at hfind
        rwa [← some.inj hfind]

theorem count_le_visitEntries {raw : Nat} {list : FatListContext}
    {visited : FatListContext × Bool}
    (hlist : visitEntries (fatListVisit image capacity) count raw list = some visited) :
    list.count ≤ visited.1.count :=
  visitEntries_keeps (listVisit_keepsCount list.count) hlist le_rfl

theorem count_le_walkClusters {list : FatListContext}
    (hlist : walkClusters image (fatListVisit image capacity) steps cluster list = some last) :
    list.count ≤ last.count :=
  walkClusters_keeps (listVisit_keepsCount list.count) hlist le_rfl

theorem count_visitEntries_le {raw : Nat} {list : FatListContext}
    {visited : FatListContext × Bool}
    (hlist : visitEntries (fatListVisit image capacity) count raw list = some visited) :
    visited.1.count ≤ list.count + count := by
  induction count generalizing raw list with
  | zero =>
    rw [visitEntries] at hlist
    rw [← some.inj hlist]
    simp
  | succ count ih =>
    rw [visitEntries] at hlist
    obtain ⟨first, hfirst, hlist⟩ := bind_eq_some_iff.mp hlist
    have hle := (count_visit hfirst).2
    by_cases hmore : first.2 = true
    · rw [if_pos hmore] at hlist
      have hrest := ih hlist
      lia
    · rw [if_neg hmore] at hlist
      rw [← some.inj hlist]
      lia

theorem count_walkClusters_le {list : FatListContext}
    (hlist : walkClusters image (fatListVisit image capacity) steps cluster list = some last) :
    last.count ≤ list.count + steps * (image.clusterSize / fatImageEntrySize) := by
  obtain ⟨perCluster, hperCluster⟩ : ∃ n, image.clusterSize / fatImageEntrySize = n := ⟨_, rfl⟩
  rw [hperCluster]
  induction steps generalizing cluster list with
  | zero =>
    rw [walkClusters] at hlist
    rw [← some.inj hlist]
    simp
  | succ steps ih =>
    rw [walkClusters] at hlist
    rw [Nat.succ_mul]
    by_cases hdata : ¬ FatImageIsDataCluster image cluster
    · rw [if_pos hdata] at hlist
      rw [← some.inj hlist]
      lia
    · rw [if_neg hdata] at hlist
      by_cases houtside : ClusterOutside image cluster
      · rw [if_pos houtside] at hlist
        rw [← some.inj hlist]
        lia
      · rw [if_neg houtside] at hlist
        obtain ⟨visited, hvisited, hlist⟩ := bind_eq_some_iff.mp hlist
        have hle := count_visitEntries_le hvisited
        rw [hperCluster] at hle
        by_cases hmore : visited.2 = true
        · rw [if_pos hmore] at hlist
          obtain ⟨next, -, hlist⟩ := bind_eq_some_iff.mp hlist
          have hrest := ih hlist
          lia
        · rw [if_neg hmore] at hlist
          rw [← some.inj hlist]
          lia

theorem visitEntries_find {raw : Nat} {list : FatListContext} {visited : FatListContext × Bool}
    (hlist : visitEntries (fatListVisit image capacity) count raw list = some visited)
    (hfits : visited.1.count ≤ capacity) : ∃ added, visited.1.entries = list.entries ++ added ∧
      visitEntries (fatFindVisit image component) count raw none =
        some (added.find? (matchesName component),
          visited.2 && (added.find? (matchesName component)).isNone) := by
  induction count generalizing raw list with
  | zero =>
    rw [visitEntries] at hlist
    rw [← some.inj hlist]
    exact ⟨[], by simp, rfl⟩
  | succ count ih =>
    rw [visitEntries] at hlist ⊢
    obtain ⟨first, hfirst, hlist⟩ := bind_eq_some_iff.mp hlist
    have hfirstFits : first.1.count ≤ capacity := by
      by_cases hmore : first.2 = true
      · rw [if_pos hmore] at hlist
        exact (count_le_visitEntries hlist).trans hfits
      · rw [if_neg hmore] at hlist
        rwa [some.inj hlist]
    rcases visit_cases hfirst hfirstFits component none with
      ⟨rfl, hfind⟩ | ⟨rfl, hfind⟩ | ⟨entry, rfl, hfind⟩
    · rw [if_neg (by simp)] at hlist
      rw [hfind, ← some.inj hlist]
      exact ⟨[], by simp, rfl⟩
    · rw [if_pos rfl] at hlist
      rw [hfind]
      exact ih hlist
    · rw [if_pos rfl] at hlist
      obtain ⟨added, hentries, hsearch⟩ := ih hlist
      refine ⟨entry :: added, by rw [hentries]; simp, ?_⟩
      rw [hfind]
      by_cases hmatch : matchesName component entry = true
      · rw [if_pos hmatch, find?_cons_of_pos hmatch]
        simp
      · rw [if_neg hmatch, find?_cons_of_neg hmatch]
        exact hsearch

theorem walkClusters_find {list : FatListContext}
    (hlist : walkClusters image (fatListVisit image capacity) steps cluster list = some last)
    (hfits : last.count ≤ capacity) : ∃ added, last.entries = list.entries ++ added ∧
      walkClusters image (fatFindVisit image component) steps cluster none =
        some (added.find? (matchesName component)) := by
  induction steps generalizing cluster list with
  | zero =>
    rw [walkClusters] at hlist
    rw [← some.inj hlist]
    exact ⟨[], by simp, rfl⟩
  | succ steps ih =>
    rw [walkClusters] at hlist ⊢
    by_cases hdata : ¬ FatImageIsDataCluster image cluster
    · rw [if_pos hdata] at hlist ⊢
      rw [← some.inj hlist]
      exact ⟨[], by simp, rfl⟩
    · rw [if_neg hdata] at hlist ⊢
      by_cases houtside : ClusterOutside image cluster
      · rw [if_pos houtside] at hlist ⊢
        rw [← some.inj hlist]
        exact ⟨[], by simp, rfl⟩
      · rw [if_neg houtside] at hlist ⊢
        obtain ⟨visited, hvisited, hlist⟩ := bind_eq_some_iff.mp hlist
        by_cases hmore : visited.2 = true
        · rw [if_pos hmore] at hlist
          obtain ⟨next, hnext, hlist⟩ := bind_eq_some_iff.mp hlist
          have hvisitedFits := (count_le_walkClusters hlist).trans hfits
          obtain ⟨added, hentries, hsearch⟩ := visitEntries_find component hvisited hvisitedFits
          obtain ⟨rest, hrest, hgoes⟩ := ih hlist
          refine ⟨added ++ rest, by rw [hrest, hentries, append_assoc], ?_⟩
          rw [hsearch, hmore]
          cases hfound : added.find? (matchesName component) with
          | none => simpa [hfound, hnext] using hgoes
          | some entry => simp [hfound]
        · rw [if_neg hmore] at hlist
          rw [← some.inj hlist] at hfits ⊢
          obtain ⟨added, hentries, hsearch⟩ := visitEntries_find component hvisited hfits
          refine ⟨added, hentries, ?_⟩
          rw [hsearch]
          simp [hmore]

def Lists (image : FatImage) (firstCluster : Nat) (entries : List FatEntry) : Prop :=
  ∃ capacity list, fatImageListDirectory image firstCluster capacity = some list ∧
    list.count ≤ capacity ∧ list.entries = entries

theorem lists_of_map {firstCluster : Nat} (capacity count : Nat)
    (hlist : (fatImageListDirectory image firstCluster capacity).map (fun list => (list.entries,
      list.count)) = some (entries, count))
    (hfits : count ≤ capacity) : Lists image firstCluster entries := by
  obtain ⟨list, hlisted, hpair⟩ := map_eq_some_iff.mp hlist
  cases hpair
  exact ⟨capacity, list, hlisted, hfits, rfl⟩

theorem fatWalkDirectory_find {firstCluster : Nat} (hlists : Lists image firstCluster entries)
    (component : List UInt8) :
    fatWalkDirectory image firstCluster (fatFindVisit image component) none =
      some (entries.find? (matchesName component)) := by
  obtain ⟨capacity, list, hlist, hfits, rfl⟩ := hlists
  unfold fatImageListDirectory fatWalkDirectory at hlist
  unfold fatWalkDirectory
  by_cases hroot : firstCluster = 0
  · rw [if_pos hroot] at hlist ⊢
    obtain ⟨visited, hvisited, hlist⟩ := bind_eq_some_iff.mp hlist
    have hlast := some.inj hlist
    rw [← hlast] at hfits ⊢
    obtain ⟨added, hentries, hsearch⟩ := visitEntries_find component hvisited hfits
    rw [hsearch, hentries]
    rfl
  · rw [if_neg hroot] at hlist ⊢
    obtain ⟨added, hentries, hsearch⟩ := walkClusters_find component hlist hfits
    rw [hsearch, hentries]
    rfl

theorem exists_lists (hlaid : LaidInside image) (firstCluster : Nat) :
    ∃ entries, Lists image firstCluster entries := by
  set capacity :=
    image.rootEntries + (image.clusterCount + 1) * (image.clusterSize / fatImageEntrySize)
    with hcapacity
  obtain ⟨list, hlist⟩ := isSome_iff_exists.mp
    (fatWalkDirectory_isSome hlaid (fatListVisit_inside capacity) firstCluster
      { entries := [], count := 0 })
  refine ⟨list.entries, capacity, list, hlist, ?_, rfl⟩
  unfold fatWalkDirectory at hlist
  by_cases hroot : firstCluster = 0
  · rw [if_pos hroot] at hlist
    obtain ⟨visited, hvisited, hlist⟩ := bind_eq_some_iff.mp hlist
    have hle := count_visitEntries_le hvisited
    rw [← some.inj hlist, hcapacity]
    dsimp only at hle
    omega
  · rw [if_neg hroot] at hlist
    have hle := count_walkClusters_le hlist
    dsimp only at hle
    omega

end Directory

/-! ## Paths -/

section Paths

variable {image : FatImage}

def FatEntry.IsDirectory (entry : FatEntry) : Prop :=
  entry.attributes &&& fatAttributeDirectory ≠ 0
deriving Decidable

theorem linesOf_component {c : UInt8} (hc : ¬ isPathSeparator c = true) (path : List UInt8) :
    linesOf isPathSeparator (c :: path) =
      (c :: path.takeWhile fun c => !isPathSeparator c) ::
        linesOf isPathSeparator (path.dropWhile fun c => !isPathSeparator c) := by
  have hsplit : c :: path = (c :: path.takeWhile fun c => !isPathSeparator c) ++
      path.dropWhile fun c => !isPathSeparator c := by
    rw [cons_append, takeWhile_append_dropWhile]
  conv_lhs => rw [hsplit]
  apply linesOf_append
  · intro letter hletter
    rcases mem_cons.mp hletter with rfl | hletter
    · simpa using hc
    · simpa using mem_takeWhile_imp hletter
  · simp
  · intro separator hseparator
    have hstops := head?_dropWhile_not (fun c => !isPathSeparator c) path
    rw [hseparator] at hstops
    simpa using hstops

/-- The components of a path one after another. -/
def resolveComponents (image : FatImage) (current : FatEntry) :
    List (List UInt8) → Option (Option FatEntry)
  | [] => some (some current)
  | component :: components =>
    if ¬ current.IsDirectory then some none
    else do
      let found ← fatWalkDirectory image current.firstCluster.toNat
        (fatFindVisit image component) none
      match found with
      | none => some none
      | some entry => resolveComponents image entry components

theorem lookupFrom_eq (current : FatEntry) (path : List UInt8) :
    lookupFrom image current path =
      resolveComponents image current (linesOf isPathSeparator path) := by
  induction current, path using lookupFrom.induct with
  | case1 current => simp [lookupFrom, resolveComponents]
  | case2 current c path hseparator ih =>
    rw [lookupFrom, if_pos hseparator, linesOf_separator isPathSeparator hseparator, ih]
  | case3 current c path hseparator hfile =>
    have hsplit := linesOf_component hseparator path
    have hnone : ¬ current.IsDirectory := not_not.mpr hfile
    rw [lookupFrom, if_neg hseparator, if_pos hfile, hsplit, resolveComponents, if_pos hnone]
  | case4 current c path hseparator hdirectory ih =>
    have hsplit := linesOf_component hseparator path
    have hsome : current.IsDirectory := hdirectory
    rw [lookupFrom, if_neg hseparator, if_neg hdirectory, hsplit, resolveComponents,
      if_neg (not_not_intro hsome)]
    refine congrArg (Option.bind _) (funext fun found => ?_)
    cases found with
    | none => rfl
    | some entry => exact ih entry

def FirstOfName (entries : List FatEntry) (entry : FatEntry) : Prop :=
  ∃ before after, entries = before ++ entry :: after ∧
    ∀ other ∈ before, ¬ SameLetters other.text entry.text

theorem FirstOfName.find_eq {entries : List FatEntry} {entry : FatEntry}
    (hfirst : FirstOfName entries entry) {component : List UInt8}
    (hname : SameLetters component entry.text) :
    entries.find? (matchesName component) = some entry := by
  obtain ⟨before, after, rfl, hother⟩ := hfirst
  have hmatch : matchesName component entry = true := (fatNameMatches_iff _ _).mpr hname
  have hbefore : before.find? (matchesName component) = none := by
    rw [find?_eq_none]
    intro other hmem hmatches
    have hsame : SameLetters component other.text := (fatNameMatches_iff _ _).mp hmatches
    exact hother other hmem (hsame.symm.trans hname)
  rw [find?_append, hbefore, find?_cons_of_pos hmatch]
  rfl

/-- A path that spells the entry from the root: separators, then directory after directory
the name of an entry in any letter case, each the first of its name in the directory. -/
inductive SpelledPath (image : FatImage) : FatEntry → List UInt8 → Prop
  | root (separators : List UInt8) (hseparators : ∀ c ∈ separators, isPathSeparator c = true) :
    SpelledPath image rootEntry separators
  | entry {directory entry : FatEntry} {entries : List FatEntry}
      {path separators name : List UInt8} (hpath : SpelledPath image directory path)
      (hdirectory : directory.IsDirectory)
      (hlists : Lists image directory.firstCluster.toNat entries)
      (hfirst : FirstOfName entries entry)
      (hseparators : ∀ c ∈ separators, isPathSeparator c = true)
      (happart : separators ≠ [] ∨ path = [])
      (hname : SameLetters name entry.text) (hne : entry.text ≠ [])
      (hplain : ∀ c ∈ entry.text, isPathSeparator c = false) :
    SpelledPath image entry (path ++ separators ++ name)

/-- Component after component is an entry of the directory in front of it. -/
inductive Resolves (image : FatImage) : FatEntry → List (List UInt8) → FatEntry → Prop
  | done (current : FatEntry) : Resolves image current [] current
  | component {current next last : FatEntry} {name : List UInt8} {names : List (List UInt8)}
      (hdirectory : current.IsDirectory)
      (hlisted : ∀ entries, Lists image current.firstCluster.toNat entries → next ∈ entries)
      (hname : SameLetters name next.text) (hnext : Resolves image next names last) :
    Resolves image current (name :: names) last

theorem resolveComponents_append (current : FatEntry) (names others : List (List UInt8)) :
    resolveComponents image current (names ++ others) =
      (resolveComponents image current names).bind fun found =>
        match found with
        | none => some none
        | some entry => resolveComponents image entry others := by
  induction names generalizing current with
  | nil => rfl
  | cons name names ih =>
    rw [cons_append, resolveComponents, resolveComponents]
    by_cases hfile : ¬ current.IsDirectory
    · rw [if_pos hfile, if_pos hfile]
      rfl
    · rw [if_neg hfile, if_neg hfile, bind_eq_bind, bind_assoc]
      refine congrArg (Option.bind _) (funext fun found => ?_)
      cases found with
      | none => rfl
      | some entry => exact ih entry

theorem isPathSeparator_upperCase (c : UInt8) :
    isPathSeparator (upperCase c) = isPathSeparator c := by
  revert c
  exact forall_byte (by decide)

variable {text name : List UInt8}

theorem SameLetters.plain (hsame : SameLetters text name)
    (hplain : ∀ c ∈ name, isPathSeparator c = false) : ∀ c ∈ text, isPathSeparator c = false := by
  intro c hc
  have hmem : upperCase c ∈ name.map upperCase := by
    rw [← hsame]
    exact mem_map_of_mem hc
  obtain ⟨d, hd, hcase⟩ := mem_map.mp hmem
  rw [← isPathSeparator_upperCase, ← hcase, isPathSeparator_upperCase]
  exact hplain d hd

theorem SameLetters.ne_nil (hsame : SameLetters text name) (hne : name ≠ []) : text ≠ [] := by
  intro hempty
  rw [hempty] at hsame
  exact hne (map_eq_nil_iff.mp hsame.symm)

theorem linesOf_plain (hplain : ∀ c ∈ text, isPathSeparator c = false) (hne : text ≠ []) :
    linesOf isPathSeparator text = [text] := by
  have hnothing : ∀ c ∈ ([] : List UInt8).head?, isPathSeparator c = true := by simp
  have hline := linesOf_append isPathSeparator hplain hne hnothing
  simpa using hline

theorem linesOf_path {path separators : List UInt8}
    (hseparators : ∀ c ∈ separators, isPathSeparator c = true)
    (happart : separators ≠ [] ∨ path = []) (hplain : ∀ c ∈ name, isPathSeparator c = false)
    (hne : name ≠ []) : linesOf isPathSeparator (path ++ separators ++ name) =
      linesOf isPathSeparator path ++ [name] := by
  rw [append_assoc]
  cases separators with
  | nil =>
    have hpath : path = [] := happart.resolve_left fun h => h rfl
    rw [hpath, linesOf_nil, nil_append, nil_append, linesOf_plain hplain hne]
    rfl
  | cons c separators =>
    rw [cons_append, linesOf_append_separator isPathSeparator (hseparators c (by simp)),
      linesOf_separators isPathSeparator fun d hd => hseparators d (mem_cons_of_mem c hd),
      linesOf_plain hplain hne]

theorem SpelledPath.resolve_eq {entry : FatEntry} {path : List UInt8}
    (hpath : SpelledPath image entry path) :
    resolveComponents image rootEntry (linesOf isPathSeparator path) = some (some entry) := by
  induction hpath with
  | root separators hseparators =>
    have hnone := linesOf_separators isPathSeparator hseparators []
    rw [append_nil, linesOf_nil] at hnone
    rw [hnone]
    rfl
  | entry _ hdirectory hlists hfirst hseparators happart hname hne hplain ih =>
    rw [linesOf_path hseparators happart (hname.plain hplain) (hname.ne_nil hne),
      resolveComponents_append, ih]
    dsimp only [bind_eq_bind, bind_some]
    rw [resolveComponents, if_neg (not_not_intro hdirectory),
      fatWalkDirectory_find hlists, hfirst.find_eq hname]
    rfl

theorem resolves_of_resolveComponents {current last : FatEntry} {names : List (List UInt8)}
    (h : resolveComponents image current names = some (some last)) :
    Resolves image current names last := by
  induction names generalizing current with
  | nil =>
    rw [resolveComponents] at h
    rw [← some.inj (some.inj h)]
    exact Resolves.done current
  | cons name names ih =>
    rw [resolveComponents] at h
    by_cases hfile : ¬ current.IsDirectory
    · rw [if_pos hfile] at h
      cases h
    · rw [if_neg hfile] at h
      obtain ⟨found, hfound, h⟩ := bind_eq_some_iff.mp h
      cases found with
      | none => cases h
      | some next =>
        refine Resolves.component (not_not.mp hfile) ?_ ?_ (ih h)
        · intro entries hlists
          rw [fatWalkDirectory_find hlists] at hfound
          exact mem_of_find?_eq_some (some.inj hfound)
        · exact fatWalkDirectory_keeps (findVisit_keepsMatch name) hfound (by simp) next rfl

end Paths

/-- A path that spells a listed entry looks it up, and a path that is looked up resolves through
the lists of the directories on its way. -/
structure LookupAgrees (image : FatImage) : Prop where
  finds : ∀ entry (path : CString), SpelledPath image entry path.bytes →
    fatImageLookup image path = some (some entry)
  resolves : ∀ (path : CString) last, fatImageLookup image path = some (some last) →
    Resolves image rootEntry (linesOf isPathSeparator path.bytes) last

theorem fat_image_lookup_agrees (data : ByteMemory) (size : Nat) (image : FatImage)
    (hmount : fatImageMount data size = some image) :
    LookupAgrees image ∧
      (size < 4294967296 → volumeEnd data < 4294967296 →
        ∀ firstCluster, ∃ entries, Lists image firstCluster entries) := by
  refine ⟨⟨fun entry path hpath => ?_, fun path last hlookup => ?_⟩, fun hsize hend => ?_⟩
  · rw [fatImageLookup, lookupFrom_eq]
    exact hpath.resolve_eq
  · rw [fatImageLookup, lookupFrom_eq] at hlookup
    exact resolves_of_resolveComponents hlookup
  · have hmounted := fatImageMount_cases hmount
    have hsums := (sumsDoNotWrap_iff hmounted hsize).mpr hend
    exact exists_lists (laidInside_of_sumsDoNotWrap hmounted hsize hsums)

/-- The data with some bytes at an offset. -/
def withBytes (data : ByteMemory) (offset : Nat) (bytes : List UInt8) : ByteMemory :=
  fun index =>
    if offset ≤ index ∧ index < offset + bytes.length then bytes.getD (index - offset) 0
    else data index

/-- The floppy with a directory `DIR` in cluster 2 and a file `A.B` in it. -/
def nestedData : ByteMemory :=
  let directory := withBytes floppyData 9728
    [0x44, 0x49, 0x52, 0x20, 0x20, 0x20, 0x20, 0x20, 0x20, 0x20, 0x20, 0x10]
  withBytes (directory.store 9754 2) 16896
    [0x41, 0x20, 0x20, 0x20, 0x20, 0x20, 0x20, 0x20, 0x42, 0x20, 0x20, 0x20]

def nestedImage : FatImage :=
  (fatImageMount nestedData 1474560).get (by decide)

def nestedDirectory : FatEntry where
  name := [0x44, 0x49, 0x52]
  rawName := [0x44, 0x49, 0x52, 0x20, 0x20, 0x20, 0x20, 0x20, 0x20, 0x20, 0x20]
  attributes := 0x10
  time := 0
  date := 0
  firstCluster := 2
  size := 0

def nestedFile : FatEntry where
  name := [0x41, 0x2E, 0x42]
  rawName := [0x41, 0x20, 0x20, 0x20, 0x20, 0x20, 0x20, 0x20, 0x42, 0x20, 0x20]
  attributes := 0x20
  time := 0
  date := 0
  firstCluster := 0
  size := 0

/-- `dir\\/a.b`. -/
def nestedPath : CString where
  bytes := [0x64, 0x69, 0x72, 0x5C, 0x2F, 0x61, 0x2E, 0x62]
  noNul := by decide

theorem spelledPath_nested : SpelledPath nestedImage nestedFile nestedPath.bytes := by
  have hroot : Lists nestedImage 0 [nestedDirectory] :=
    lists_of_map 4 1 (by decide +kernel) (by decide)
  have hinner : Lists nestedImage 2 [nestedFile] :=
    lists_of_map 4 1 (by decide +kernel) (by decide)
  have hdirectory : SpelledPath nestedImage nestedDirectory ([] ++ [] ++ [0x64, 0x69, 0x72]) :=
    SpelledPath.entry (SpelledPath.root [] (by simp)) (by decide) hroot
      ⟨[], [], rfl, by simp⟩ (by simp) (inr rfl) (by decide) (by decide)
      (by decide +kernel)
  have hfile : SpelledPath nestedImage nestedFile
      ([0x64, 0x69, 0x72] ++ [0x5C, 0x2F] ++ [0x61, 0x2E, 0x62]) :=
    SpelledPath.entry hdirectory (by decide) hinner ⟨[], [], rfl, by simp⟩
      (by decide +kernel) (inl (by simp)) (by decide) (by decide) (by decide +kernel)
  exact hfile

theorem fat_image_lookup_nested :
    fatImageMount nestedData 1474560 = some nestedImage ∧ LookupAgrees nestedImage ∧
      fatImageLookup nestedImage nestedPath = some (some nestedFile) := by
  have hmount : fatImageMount nestedData 1474560 = some nestedImage := (some_get _).symm
  have hagrees := (fat_image_lookup_agrees nestedData 1474560 nestedImage hmount).1
  exact ⟨hmount, hagrees, hagrees.finds nestedFile nestedPath spelledPath_nested⟩

/-- The floppy with one file, whose name has a separator in it. -/
def slashedData : ByteMemory :=
  withBytes floppyData 9728
    [0x41, 0x2F, 0x42, 0x20, 0x20, 0x20, 0x20, 0x20, 0x20, 0x20, 0x20, 0x20]

def slashedImage : FatImage :=
  (fatImageMount slashedData 1474560).get (by decide)

def slashedFile : FatEntry where
  name := [0x41, 0x2F, 0x42]
  rawName := [0x41, 0x2F, 0x42, 0x20, 0x20, 0x20, 0x20, 0x20, 0x20, 0x20, 0x20]
  attributes := 0x20
  time := 0
  date := 0
  firstCluster := 0
  size := 0

/-- A separator and the name of the only file of the root directory. -/
def slashedPath : CString where
  bytes := 0x5C :: slashedFile.name
  noNul := by decide

theorem slashed_name_not_found :
    fatImageMount slashedData 1474560 = some slashedImage ∧
      Lists slashedImage 0 [slashedFile] ∧ FirstOfName [slashedFile] slashedFile ∧
      fatImageLookup slashedImage slashedPath = some none := by
  have hroot : Lists slashedImage 0 [slashedFile] :=
    lists_of_map 4 1 (by decide +kernel) (by decide)
  refine ⟨(some_get _).symm, hroot, ⟨[], [], rfl, by simp⟩, ?_⟩
  have hlines : linesOf isPathSeparator slashedPath.bytes = [[0x41], [0x42]] := by decide
  rw [fatImageLookup, lookupFrom_eq, hlines, resolveComponents, if_neg (by decide)]
  have hfind : fatWalkDirectory slashedImage rootEntry.firstCluster.toNat
      (fatFindVisit slashedImage [0x41]) none = some none := fatWalkDirectory_find hroot [0x41]
  rw [hfind]
  rfl

end Ntvdmex.Dos.FatImg
