import Ntvdmex.Wow.Gdi

/-!
# The token map and Win32's objects

Every slot of the map is free or holds one object under the slot's own token, and no object is
held twice.  A token asked for leaves every other entry as it is; where the object is held under
the kind asked for its entry stays too, and where it is held under another kind that entry goes.
-/

namespace Ntvdmex.Wow.Gdi

open List Function Option

def WowGdiObject.cleared (entry : WowGdiObject) : WowGdiObject :=
  { entry with object := 0, handle16 := 0 }

structure MapKept (map : WowGdiMap) : Prop where
  room : map.length ≤ wowGdiMax
  slots : ∀ {index : Nat} {entry : WowGdiObject}, map[index]? = some entry →
    entry.handle16 = 0 ∧ entry.object = 0 ∨
      entry.handle16 = wowGdiToken index ∧ entry.object ≠ 0
  once : ∀ {i j : Nat} {entry other : WowGdiObject}, map[i]? = some entry →
    map[j]? = some other → entry.object = other.object → entry.object ≠ 0 → i = j

theorem mapKept_nil : MapKept [] where
  room := Nat.zero_le _
  slots h := by simp at h
  once h := by simp at h

/-! ## Tokens -/

variable {index object : Nat}

theorem wowGdiToken_eq (h : index < wowGdiMax) : wowGdiToken index = 0x2000 + index * 8 := by
  have hmax : wowGdiMax = 256 := rfl
  have hbase : wowGdiBase = 0x2000 := rfl
  have hstep : wowGdiStep = 8 := rfl
  rw [wowGdiToken, hbase, hstep]
  exact Nat.mod_eq_of_lt (by omega)

theorem wowGdiToken_pos (h : index < wowGdiMax) : wowGdiToken index ≠ 0 := by
  rw [wowGdiToken_eq h]
  omega

theorem wowGdiToken_inj {i j : Nat} (hi : i < wowGdiMax) (hj : j < wowGdiMax)
    (h : wowGdiToken i = wowGdiToken j) : i = j := by
  rw [wowGdiToken_eq hi, wowGdiToken_eq hj] at h
  omega

namespace MapKept

variable {map : WowGdiMap} (h : MapKept map)

include h

variable {index : Nat} {other : WowGdiObject}

theorem index_lt {entry : WowGdiObject} (hentry : map[index]? = some entry) :
    index < wowGdiMax := by
  have hlength : index < map.length := (List.getElem?_eq_some_iff.mp hentry).1
  exact hlength.trans_le h.room

theorem token_of_object {entry : WowGdiObject} (hentry : map[index]? = some entry)
    (hobject : entry.object ≠ 0) : entry.handle16 = wowGdiToken index :=
  ((h.slots hentry).resolve_left fun hfree => hobject hfree.2).1

theorem object_of_token {entry : WowGdiObject} (hentry : map[index]? = some entry)
    (htoken : entry.handle16 ≠ 0) : entry.handle16 = wowGdiToken index ∧ entry.object ≠ 0 :=
  (h.slots hentry).resolve_left fun hfree => htoken hfree.1

theorem token_ne_zero {entry : WowGdiObject} (hentry : entry ∈ map) (hobject : entry.object ≠ 0) :
    entry.handle16 ≠ 0 := by
  obtain ⟨index, hindex⟩ := mem_iff_getElem?.mp hentry
  rw [h.token_of_object hindex hobject]
  exact wowGdiToken_pos (h.index_lt hindex)

theorem index_of_token {i j : Nat} {entry : WowGdiObject} (hi : map[i]? = some entry)
    (hj : map[j]? = some other) (htoken : entry.handle16 = other.handle16)
    (hne : entry.handle16 ≠ 0) : i = j := by
  refine wowGdiToken_inj (h.index_lt hi) (h.index_lt hj) ?_
  rw [← (h.object_of_token hi hne).1, htoken, ← (h.object_of_token hj (htoken ▸ hne)).1]

theorem eq_of_token {entry : WowGdiObject} (hentry : entry ∈ map) (hother : other ∈ map)
    (htoken : entry.handle16 = other.handle16) (hne : entry.handle16 ≠ 0) : entry = other := by
  obtain ⟨i, hi⟩ := mem_iff_getElem?.mp hentry
  obtain ⟨j, hj⟩ := mem_iff_getElem?.mp hother
  have hij := h.index_of_token hi hj htoken hne
  rw [hij, hj] at hi
  exact (some.inj hi).symm

theorem eq_of_object {entry : WowGdiObject} (hentry : entry ∈ map) (hother : other ∈ map)
    (hobject : entry.object = other.object) (hne : entry.object ≠ 0) : entry = other := by
  obtain ⟨i, hi⟩ := mem_iff_getElem?.mp hentry
  obtain ⟨j, hj⟩ := mem_iff_getElem?.mp hother
  have hij := h.once hi hj hobject hne
  rw [hij, hj] at hi
  exact (some.inj hi).symm

theorem h32_of_mem {entry : WowGdiObject} (hentry : entry ∈ map) (hobject : entry.object ≠ 0) :
    wowGdiH32 map entry.handle16 = (entry.object, some entry.kind) := by
  have htoken := h.token_ne_zero hentry hobject
  rw [wowGdiH32, if_neg htoken]
  cases hfind : map.find? fun other => decide (other.handle16 = entry.handle16) with
  | none =>
    have hnone := find?_eq_none.mp hfind entry hentry
    simp at hnone
  | some other =>
    have hsame : other.handle16 = entry.handle16 := by
      have hfound := find?_some hfind
      simpa using hfound
    have heq := h.eq_of_token hentry (mem_of_find?_eq_some hfind) hsame.symm htoken
    rw [heq]

theorem mem_of_h32 {handle16 object : Nat} {kind : WowGdiKind}
    (hfound : wowGdiH32 map handle16 = (object, some kind)) :
    ⟨handle16, object, kind⟩ ∈ map ∧ object ≠ 0 := by
  unfold wowGdiH32 at hfound
  split at hfound
  · cases hfound
  · rename_i hne
    split at hfound
    · rename_i entry hfind
      have hmem := mem_of_find?_eq_some hfind
      have htoken : entry.handle16 = handle16 := by
        have hsame := find?_some hfind
        simpa using hsame
      obtain ⟨hobject, hkind⟩ := Prod.mk.inj hfound
      have hentry : entry = ⟨handle16, object, kind⟩ := by
        cases entry
        simp_all
      rw [hentry] at hmem
      obtain ⟨index, hindex⟩ := mem_iff_getElem?.mp hmem
      exact ⟨hmem, (h.object_of_token hindex hne).2⟩
    · cases hfound

theorem clear {entry : WowGdiObject} (_ : map[index]? = some entry) :
    MapKept (map.set index entry.cleared) where
  room := by
    rw [length_set]
    exact h.room
  slots := by
    intro i other hother
    by_cases hi : index = i
    · rw [getElem?_set, if_pos hi] at hother
      split at hother
      · cases hother
        exact .inl ⟨rfl, rfl⟩
      · cases hother
    · rw [getElem?_set_ne hi] at hother
      exact h.slots hother
  once := by
    intro i j first second hfirst hsecond hobject hne
    have hold : ∀ {k : Nat} {e : WowGdiObject}, (map.set index entry.cleared)[k]? = some e → e.object ≠ 0 →
        map[k]? = some e := by
      intro k e hk he
      by_cases hi : index = k
      · rw [getElem?_set, if_pos hi] at hk
        split at hk
        · cases hk
          exact absurd rfl he
        · cases hk
      · rwa [getElem?_set_ne hi] at hk
    exact h.once (hold hfirst hne) (hold hsecond (hobject ▸ hne)) hobject hne

end MapKept

theorem mem_set_of_ne {map : WowGdiMap} {entry other : WowGdiObject} (new : WowGdiObject)
    (hindex : map[index]? = some entry) (hother : other ∈ map) (hne : other ≠ entry) :
    other ∈ map.set index new := by
  obtain ⟨j, hj⟩ := mem_iff_getElem?.mp hother
  have hij : index ≠ j := by
    rintro rfl
    exact hne (some.inj (hj.symm.trans hindex))
  exact mem_iff_getElem?.mpr ⟨j, by rw [getElem?_set_ne hij, hj]⟩

theorem MapKept.mem_clear {map : WowGdiMap} (h : MapKept map) {entry other : WowGdiObject}
    (hindex : map[index]? = some entry) (hother : other ∈ map.set index entry.cleared)
    (hne : other.object ≠ 0) : other ∈ map ∧ other.object ≠ entry.object := by
  obtain ⟨j, hj⟩ := mem_iff_getElem?.mp hother
  by_cases hij : index = j
  · rw [getElem?_set, if_pos hij] at hj
    split at hj
    · cases hj
      exact absurd rfl hne
    · cases hj
  · rw [getElem?_set_ne hij] at hj
    refine ⟨mem_iff_getElem?.mpr ⟨j, hj⟩, fun hsame => hij ?_⟩
    exact (h.once hj hindex hsame hne).symm

theorem wowGdiForget_at {map : WowGdiMap} {entry : WowGdiObject}
    (hindex : map[index]? = some entry)
    (honly : ∀ j other, map[j]? = some other → other.handle16 = entry.handle16 → j = index) :
    wowGdiForget map entry.handle16 = map.set index entry.cleared := by
  induction map generalizing index with
  | nil => simp at hindex
  | cons first rest ih =>
    cases index with
    | zero =>
      have hfirst : first = entry := by simpa using hindex
      rw [hfirst, wowGdiForget, if_pos rfl]
      rfl
    | succ index =>
      have hne : first.handle16 ≠ entry.handle16 := by
        intro hsame
        have := honly 0 first (by simp) hsame
        lia
      rw [wowGdiForget, if_neg hne, set_cons_succ]
      congr 1
      refine ih (by simpa using hindex) fun j other hother hsame => ?_
      have := honly (j + 1) other (by simpa using hother) hsame
      lia

theorem MapKept.forget {map : WowGdiMap} (h : MapKept map) {entry : WowGdiObject}
    (hentry : entry ∈ map) (hobject : entry.object ≠ 0) :
    ∃ index, map[index]? = some entry ∧
      wowGdiForget map entry.handle16 = map.set index entry.cleared := by
  obtain ⟨index, hindex⟩ := mem_iff_getElem?.mp hentry
  refine ⟨index, hindex, wowGdiForget_at hindex fun j other hother hsame => ?_⟩
  exact (h.index_of_token hindex hother hsame.symm (h.token_ne_zero hentry hobject)).symm

/-! ## `WowGdiH16` -/

theorem wowGdiHeld_absent {map : WowGdiMap} (kind : WowGdiKind)
    (habsent : ∀ entry ∈ map, entry.object ≠ object) :
    wowGdiHeld object kind map = (none, map) := by
  induction map with
  | nil => rfl
  | cons first rest ih =>
    have hrest := ih fun entry hentry => habsent entry (mem_cons_of_mem _ hentry)
    rw [wowGdiHeld, if_neg (habsent first mem_cons_self), hrest]

theorem wowGdiHeld_at {map : WowGdiMap} {entry : WowGdiObject} (kind : WowGdiKind)
    (hindex : map[index]? = some entry)
    (honly : ∀ j other, map[j]? = some other → other.object = entry.object → j = index) :
    wowGdiHeld entry.object kind map =
      if entry.kind = kind then (some entry.handle16, map)
      else (none, map.set index entry.cleared) := by
  induction map generalizing index with
  | nil => simp at hindex
  | cons first rest ih =>
    cases index with
    | zero =>
      have hfirst : first = entry := by simpa using hindex
      have habsent : ∀ other ∈ rest, other.object ≠ entry.object := by
        intro other hother hsame
        obtain ⟨j, hj⟩ := mem_iff_getElem?.mp hother
        have := honly (j + 1) other (by simpa using hj) hsame
        lia
      rw [hfirst, wowGdiHeld, if_pos rfl, wowGdiHeld_absent kind habsent]
      rfl
    | succ index =>
      have hne : first.object ≠ entry.object := by
        intro hsame
        have := honly 0 first (by simp) hsame
        lia
      have hrest := ih (by simpa using hindex : rest[index]? = some entry) fun j other hother hsame => by
        have := honly (j + 1) other (by simpa using hother) hsame
        lia
      rw [wowGdiHeld, if_neg hne, hrest]
      by_cases hkind : entry.kind = kind
      · rw [if_pos hkind, if_pos hkind]
      · rw [if_neg hkind, if_neg hkind, set_cons_succ]

/-- What asking for the token of `object` under `kind` does to the map. -/
structure Given (map : WowGdiMap) (object : Nat) (kind : WowGdiKind) (result : Nat × WowGdiMap) :
    Prop where
  kept : MapKept result.2
  others : ∀ entry ∈ map, entry.object ≠ 0 → entry.object ≠ object → entry ∈ result.2
  same : ∀ entry ∈ map, entry.object = object → entry.kind = kind → entry ∈ result.2
  back : ∀ entry ∈ result.2, entry.object ≠ 0 →
    entry ∈ map ∧ entry.object ≠ object ∨ result.1 ≠ 0 ∧ entry = ⟨result.1, object, kind⟩
  named : result.1 ≠ 0 → ⟨result.1, object, kind⟩ ∈ result.2

theorem wowGdiFreeSlot_spec (map : WowGdiMap) :
    wowGdiFreeSlot map = map.length ∨
      ∃ entry, map[wowGdiFreeSlot map]? = some entry ∧ entry.object = 0 := by
  by_cases hlength : wowGdiFreeSlot map < map.length
  · right
    have hfree := findIdx_getElem (w := hlength)
    exact ⟨map[wowGdiFreeSlot map], getElem?_eq_getElem hlength,
      (of_decide_eq_true hfree).2⟩
  · left
    exact le_antisymm findIdx_le_length (Nat.le_of_not_lt hlength)

/-- A new entry in a slot that is free or the next. -/
theorem MapKept.place {map after : WowGdiMap} (h : MapKept map) {kind : WowGdiKind}
    (hroom : after.length ≤ wowGdiMax)
    (hnew : after[index]? = some ⟨wowGdiToken index, object, kind⟩)
    (hold : ∀ j, j ≠ index → after[j]? = map[j]?)
    (hfree : ∀ entry, map[index]? = some entry → entry.object = 0) (hobject : object ≠ 0)
    (habsent : ∀ entry ∈ map, entry.object ≠ object) :
    Given map object kind (wowGdiToken index, after) where
  kept := by
    refine ⟨hroom, ?_, ?_⟩
    · intro i entry hentry
      by_cases hi : i = index
      · rw [hi, hnew] at hentry
        cases hentry
        exact .inr ⟨by rw [hi], hobject⟩
      · exact h.slots ((hold i hi).symm.trans hentry)
    · intro i j entry other hi hj hsame hne
      have habsent' : ∀ {k : Nat} {e : WowGdiObject}, k ≠ index → after[k]? = some e →
          e.object ≠ object := by
        intro k e hk he
        exact habsent e (mem_iff_getElem?.mpr ⟨k, (hold k hk).symm.trans he⟩)
      by_cases hindexI : i = index
      · by_cases hindexJ : j = index
        · rw [hindexI, hindexJ]
        · rw [hindexI, hnew] at hi
          cases hi
          exact absurd hsame.symm (habsent' hindexJ hj)
      · by_cases hindexJ : j = index
        · rw [hindexJ, hnew] at hj
          cases hj
          exact absurd hsame (habsent' hindexI hi)
        · exact h.once ((hold i hindexI).symm.trans hi) ((hold j hindexJ).symm.trans hj) hsame hne
  others := by
    intro entry hentry hne _
    obtain ⟨j, hj⟩ := mem_iff_getElem?.mp hentry
    have hother : j ≠ index := by
      rintro rfl
      exact hne (hfree entry hj)
    exact mem_iff_getElem?.mpr ⟨j, (hold j hother).trans hj⟩
  same := by
    intro entry hentry hsame
    exact absurd hsame (habsent entry hentry)
  back := by
    intro entry hentry hne
    obtain ⟨j, hj⟩ := mem_iff_getElem?.mp hentry
    by_cases hindex : j = index
    · rw [hindex, hnew] at hj
      have hlt : index < wowGdiMax := by
        have hlength : index < after.length := (List.getElem?_eq_some_iff.mp hnew).1
        exact hlength.trans_le hroom
      exact .inr ⟨wowGdiToken_pos hlt, (some.inj hj).symm⟩
    · have hmem : entry ∈ map := mem_iff_getElem?.mpr ⟨j, (hold j hindex).symm.trans hj⟩
      exact .inl ⟨hmem, habsent entry hmem⟩
  named := fun _ => mem_iff_getElem?.mpr ⟨index, hnew⟩

theorem MapKept.mint {map : WowGdiMap} (h : MapKept map) (kind : WowGdiKind)
    (hobject : object ≠ 0) (habsent : ∀ entry ∈ map, entry.object ≠ object) :
    Given map object kind (wowGdiMint object kind map) := by
  unfold wowGdiMint
  rcases wowGdiFreeSlot_spec map with hnext | ⟨entry, hentry, hfree⟩
  · rw [hnext]
    rw [if_pos rfl]
    by_cases hfull : wowGdiMax ≤ map.length
    · rw [if_pos hfull]
      refine ⟨h, fun _ he _ _ => he, fun _ he _ _ => he, ?_, fun hne => absurd rfl hne⟩
      exact fun entry hentry _ => .inl ⟨hentry, habsent entry hentry⟩
    · rw [if_neg hfull]
      refine h.place ?_ getElem?_concat_length ?_ ?_ hobject habsent
      · rw [length_append]
        exact Nat.lt_of_not_le hfull
      · intro j hj
        by_cases hlt : j < map.length
        · rw [getElem?_append_left hlt]
        · rw [getElem?_eq_none (by lia : map.length ≤ j)]
          refine getElem?_eq_none ?_
          simp only [length_append, length_cons, length_nil]
          lia
      · intro entry hentry
        simp at hentry
  · have hlt : wowGdiFreeSlot map < map.length := (List.getElem?_eq_some_iff.mp hentry).1
    rw [if_neg (by lia)]
    refine h.place ?_ ?_ ?_ ?_ hobject habsent
    · rw [length_set]
      exact h.room
    · rw [getElem?_set_self hlt]
    · intro j hj
      exact getElem?_set_ne (Ne.symm hj)
    · intro other hother
      rw [hentry] at hother
      cases hother
      exact hfree

theorem MapKept.h16 {map : WowGdiMap} (h : MapKept map) (kind : WowGdiKind)
    (hobject : object ≠ 0) : Given map object kind (wowGdiH16 map object kind) := by
  rw [wowGdiH16, if_neg hobject]
  by_cases habsent : ∀ entry ∈ map, entry.object ≠ object
  · rw [wowGdiHeld_absent kind habsent]
    exact h.mint kind hobject habsent
  · push Not at habsent
    obtain ⟨entry, hentry, rfl⟩ := habsent
    obtain ⟨index, hindex⟩ := mem_iff_getElem?.mp hentry
    have honly : ∀ j other, map[j]? = some other → other.object = entry.object → j = index :=
      fun j other hj hsame => h.once hj hindex hsame (hsame ▸ hobject)
    rw [wowGdiHeld_at kind hindex honly]
    by_cases hkind : entry.kind = kind
    · rw [if_pos hkind]
      have hback : ∀ other ∈ map, other.object ≠ 0 →
          other ∈ map ∧ other.object ≠ entry.object ∨
            entry.handle16 ≠ 0 ∧ other = ⟨entry.handle16, entry.object, kind⟩ := by
        intro other hother hne
        by_cases hsame : other.object = entry.object
        · have heq := h.eq_of_object hother hentry hsame hne
          refine .inr ⟨h.token_ne_zero hentry hobject, ?_⟩
          rw [heq, ← hkind]
        · exact .inl ⟨hother, hsame⟩
      exact ⟨h, fun _ he _ _ => he, fun _ he _ _ => he, hback, fun _ => hkind ▸ hentry⟩
    · rw [if_neg hkind]
      have hcleared : ∀ other ∈ map.set index entry.cleared, other.object ≠ entry.object := by
        intro other hother hsame
        exact (h.mem_clear hindex hother (hsame ▸ hobject)).2 hsame
      have hgiven := (h.clear hindex).mint kind hobject hcleared
      refine ⟨hgiven.kept, ?_, ?_, ?_, hgiven.named⟩
      · intro other hother hne hdifferent
        have hstays := mem_set_of_ne entry.cleared hindex hother
          fun heq => hdifferent (heq ▸ rfl)
        exact hgiven.others other hstays hne hdifferent
      · intro other hother hsame hsameKind
        have heq := h.eq_of_object hother hentry hsame (hsame ▸ hobject)
        exact absurd (heq ▸ hsameKind) hkind
      · intro other hother hne
        rcases hgiven.back other hother hne with ⟨hold, hdifferent⟩ | hnew
        · exact .inl ⟨(h.mem_clear hindex hold hne).1, hdifferent⟩
        · exact .inr hnew

/-!
## Win32's objects

Device contexts, created objects and stock objects never share a handle, and no device context has
a device context selected.
-/

structure WinKept (stock : StockObjects) (win : Win32Gdi) : Prop where
  dcs : ∀ dc ∈ win.dcs, win.objects dc = none ∧ stock.classOf dc = none
  objects : ∀ object, (win.objects object).isSome → stock.classOf object = none
  selected : ∀ dc ∈ win.dcs, ∀ cls, win.selected dc cls ∉ win.dcs

def Right (stock : StockObjects) (win : Win32Gdi) (entry : WowGdiObject) : Prop :=
  match entry.kind with
  | .obj => (win.objects entry.object).isSome ∨ (stock.classOf entry.object).isSome
  | .dc => entry.object ∈ win.dcs
  | .windc => False
  | .stock => (stock.classOf entry.object).isSome

variable {stock : StockObjects} {win after : Win32Gdi} {entry : WowGdiObject}

theorem Right.alive (h : Right stock win entry) : win.Alive stock entry.object := by
  unfold Right at h
  split at h
  · exact .inr h
  · exact .inl h
  · exact h.elim
  · exact .inr (.inr h)

theorem Right.mono (h : Right stock win entry) (hdcs : ∀ dc ∈ win.dcs, dc ∈ after.dcs)
    (hobjects : ∀ object, (win.objects object).isSome → (after.objects object).isSome) :
    Right stock after entry := by
  unfold Right at h ⊢
  split at h
  · exact h.imp_left (hobjects _)
  · exact hdcs _ h
  · exact h
  · exact h

theorem right_obj {handle16 object : Nat} (halive : win.Alive stock object)
    (hdc : object ∉ win.dcs) : Right stock win ⟨handle16, object, .obj⟩ :=
  halive.resolve_left hdc

theorem Right.keep (h : Right stock win entry)
    (hdcs : entry.object ∈ win.dcs → entry.object ∈ after.dcs)
    (hobjects : after.objects entry.object = win.objects entry.object) :
    Right stock after entry := by
  unfold Right at h ⊢
  rw [hobjects]
  split at h
  · exact h
  · exact hdcs h
  · exact h
  · exact h

namespace WinKept

variable (h : WinKept stock win)

include h

theorem not_dc_of_class {object : Nat} {cls : GdiClass}
    (hclass : win.classOf stock object = some cls) : object ∉ win.dcs := by
  intro hdc
  obtain ⟨hobject, hstock⟩ := h.dcs object hdc
  rw [Win32Gdi.classOf, hobject, hstock] at hclass
  cases hclass

theorem createObject {answer : Win32Answer} (cls : GdiClass)
    (hlegal : win.MayAnswer stock answer) : WinKept stock (win.createObject cls answer) := by
  unfold Win32Gdi.createObject
  split
  · exact h
  · rename_i hissued
    obtain ⟨hdead, -⟩ := hlegal.1.resolve_left hissued
    simp only [Win32Gdi.Alive, not_or] at hdead
    obtain ⟨hdc, -, hstock⟩ := hdead
    refine ⟨?_, ?_, h.selected⟩
    · intro dc hmem
      have hne : dc ≠ answer.issued := by
        rintro rfl
        exact hdc hmem
      refine ⟨?_, (h.dcs dc hmem).2⟩
      dsimp only
      rw [update_of_ne hne]
      exact (h.dcs dc hmem).1
    · intro object hobject
      dsimp only at hobject
      by_cases hne : object = answer.issued
      · rw [hne]
        simpa using hstock
      · rw [update_of_ne hne] at hobject
        exact h.objects object hobject

theorem createDc {answer : Win32Answer} (hlegal : win.MayAnswer stock answer) :
    WinKept stock (win.createDc answer) := by
  unfold Win32Gdi.createDc
  split
  · exact h
  · rename_i hissued
    obtain ⟨hdead, hselected⟩ := hlegal.1.resolve_left hissued
    simp only [Win32Gdi.Alive, not_or] at hdead
    obtain ⟨hdc, hobject, hstock⟩ := hdead
    refine ⟨?_, h.objects, ?_⟩
    · intro dc hmem
      rcases mem_cons.mp hmem with rfl | hold
      · exact ⟨by simpa using hobject, by simpa using hstock⟩
      · exact h.dcs dc hold
    · intro dc hmem cls hselectedDc
      dsimp only at hselectedDc
      by_cases hnew : dc = answer.issued
      · rw [hnew, update_self] at hselectedDc
        have hclass := hlegal.2 cls
        rcases mem_cons.mp hselectedDc with heq | hold
        · rw [heq] at hclass
          rw [hclass] at hstock
          exact hstock rfl
        · rw [(h.dcs _ hold).2] at hclass
          cases hclass
      · rw [update_of_ne hnew] at hselectedDc
        have hold := (mem_cons.mp hmem).resolve_left hnew
        rcases mem_cons.mp hselectedDc with heq | hin
        · exact hselected dc hold cls heq
        · exact h.selected dc hold cls hin

theorem deleteDc (dc : Nat) (answer : Win32Answer) :
    WinKept stock (win.deleteDc dc answer).2 := by
  unfold Win32Gdi.deleteDc
  split
  · refine ⟨?_, h.objects, ?_⟩
    · intro other hother
      exact h.dcs other (mem_filter.mp hother).1
    · intro other hother cls hselected
      exact h.selected other (mem_filter.mp hother).1 cls (mem_filter.mp hselected).1
  · exact h

theorem deleteObject (object : Nat) (answer : Win32Answer) :
    WinKept stock (win.deleteObject stock object answer).2 := by
  unfold Win32Gdi.deleteObject
  split
  · exact h
  · split
    · have hless : ∀ other, (Function.update win.objects object none other).isSome →
          (win.objects other).isSome := by
        intro other hother
        by_cases hne : other = object
        · rw [hne, update_self] at hother
          cases hother
        · rwa [update_of_ne hne] at hother
      refine ⟨?_, fun other hother => h.objects other (hless other hother), h.selected⟩
      intro dc hdc
      refine ⟨?_, (h.dcs dc hdc).2⟩
      dsimp only
      by_cases hne : dc = object
      · rw [hne, update_self]
      · rw [update_of_ne hne]
        exact (h.dcs dc hdc).1
    · exact h

theorem selectObject (dc object : Nat) (answer : Win32Answer) :
    WinKept stock (win.selectObject stock dc object answer).2 := by
  unfold Win32Gdi.selectObject
  split
  · rename_i cls hclass
    split
    · refine ⟨h.dcs, h.objects, ?_⟩
      intro other hother selectedClass
      dsimp only
      by_cases hdc : other = dc
      · rw [hdc, update_self]
        by_cases hsame : selectedClass = cls
        · rw [hsame, update_self]
          exact h.not_dc_of_class hclass
        · rw [update_of_ne hsame]
          exact h.selected dc (hdc ▸ hother) selectedClass
      · rw [update_of_ne hdc]
        exact h.selected other hother selectedClass
    · exact h
  · exact h

end WinKept

/-! ## What the calls leave alone -/

namespace Win32Gdi

theorem createObject_dcs (win : Win32Gdi) (cls : GdiClass) (answer : Win32Answer) :
    (win.createObject cls answer).dcs = win.dcs := by
  unfold createObject
  split <;> rfl

variable {dc object : Nat}

theorem createObject_objects (win : Win32Gdi) (cls : GdiClass) (answer : Win32Answer)
    (hobject : (win.objects object).isSome) :
    ((win.createObject cls answer).objects object).isSome := by
  unfold createObject
  split
  · exact hobject
  · by_cases hne : object = answer.issued
    · rw [hne]
      simp
    · dsimp only
      rwa [update_of_ne hne]

theorem createObject_issued (win : Win32Gdi) (cls : GdiClass) {answer : Win32Answer}
    (hissued : answer.issued ≠ 0) :
    ((win.createObject cls answer).objects answer.issued).isSome := by
  rw [createObject, if_neg hissued]
  simp

theorem createDc_objects (win : Win32Gdi) (answer : Win32Answer) :
    (win.createDc answer).objects = win.objects := by
  unfold createDc
  split <;> rfl

theorem createDc_dcs (win : Win32Gdi) (answer : Win32Answer) (hdc : dc ∈ win.dcs) :
    dc ∈ (win.createDc answer).dcs := by
  unfold createDc
  split
  · exact hdc
  · exact mem_cons_of_mem _ hdc

theorem createDc_issued (win : Win32Gdi) {answer : Win32Answer} (hissued : answer.issued ≠ 0) :
    answer.issued ∈ (win.createDc answer).dcs := by
  rw [createDc, if_neg hissued]
  exact mem_cons_self

theorem selectObject_dcs (win : Win32Gdi) (dc object : Nat) (answer : Win32Answer) :
    (win.selectObject stock dc object answer).2.dcs = win.dcs := by
  unfold selectObject
  split
  · split <;> rfl
  · rfl

theorem selectObject_objects (win : Win32Gdi) (dc object : Nat) (answer : Win32Answer) :
    (win.selectObject stock dc object answer).2.objects = win.objects := by
  unfold selectObject
  split
  · split <;> rfl
  · rfl

theorem selectObject_previous {win : Win32Gdi} {answer : Win32Answer}
    (hprevious : (win.selectObject stock dc object answer).1 ≠ 0) :
    ∃ cls, win.classOf stock object = some cls ∧ answer.accepts = true ∧ dc ∈ win.dcs ∧
      (win.selectObject stock dc object answer).1 = win.selected dc cls := by
  cases hclass : win.classOf stock object with
  | none => simp [selectObject, hclass] at hprevious
  | some cls =>
    by_cases hdone : answer.accepts = true ∧ dc ∈ win.dcs
    · exact ⟨cls, rfl, hdone.1, hdone.2, by simp [selectObject, hclass, hdone]⟩
    · simp [selectObject, hclass, hdone] at hprevious

theorem deleteDc_objects (win : Win32Gdi) (dc : Nat) (answer : Win32Answer) :
    (win.deleteDc dc answer).2.objects = win.objects := by
  unfold deleteDc
  split <;> rfl

theorem deleteDc_dcs (win : Win32Gdi) {other : Nat} (answer : Win32Answer)
    (hother : other ∈ win.dcs) (hne : other ≠ dc) : other ∈ (win.deleteDc dc answer).2.dcs := by
  unfold deleteDc
  split
  · exact mem_filter.mpr ⟨hother, by simpa using hne⟩
  · exact hother

theorem deleteDc_refused {win : Win32Gdi} {answer : Win32Answer}
    (hrefused : (win.deleteDc dc answer).1 = false) : (win.deleteDc dc answer).2 = win := by
  unfold deleteDc at hrefused ⊢
  split at hrefused
  · cases hrefused
  · rw [if_neg (by assumption)]

theorem deleteDc_done {win : Win32Gdi} {answer : Win32Answer}
    (hdone : (win.deleteDc dc answer).1 = true) :
    dc ∈ win.dcs ∧ dc ∉ (win.deleteDc dc answer).2.dcs := by
  unfold deleteDc at hdone ⊢
  split at hdone
  · rename_i hmem
    rw [if_pos hmem]
    exact ⟨hmem.2, by simp⟩
  · cases hdone

theorem deleteObject_dcs (win : Win32Gdi) (object : Nat) (answer : Win32Answer) :
    (win.deleteObject stock object answer).2.dcs = win.dcs := by
  unfold deleteObject
  split
  · rfl
  · split <;> rfl

theorem deleteObject_objects (win : Win32Gdi) {other : Nat} (answer : Win32Answer)
    (hne : other ≠ object) :
    (win.deleteObject stock object answer).2.objects other = win.objects other := by
  unfold deleteObject
  split
  · rfl
  · split
    · dsimp only
      rw [update_of_ne hne]
    · rfl

theorem deleteObject_refused {win : Win32Gdi} {answer : Win32Answer}
    (hrefused : (win.deleteObject stock object answer).1 = false) :
    (win.deleteObject stock object answer).2 = win := by
  unfold deleteObject at hrefused ⊢
  split
  · rfl
  · rename_i hstock
    rw [if_neg hstock] at hrefused
    split at hrefused
    · cases hrefused
    · rw [if_neg (by assumption)]

theorem deleteObject_done {win : Win32Gdi} {answer : Win32Answer}
    (hstock : stock.classOf object = none)
    (hdone : (win.deleteObject stock object answer).1 = true) : (win.objects object).isSome ∧
      (win.deleteObject stock object answer).2.objects object = none := by
  have hnot : ¬(stock.classOf object).isSome = true := by simp [hstock]
  unfold deleteObject at hdone ⊢
  rw [if_neg hnot] at hdone ⊢
  split at hdone
  · rename_i hlive
    rw [if_pos hlive]
    exact ⟨hlive.2, update_self _ _ _⟩
  · cases hdone

end Win32Gdi

end Ntvdmex.Wow.Gdi
