import Ntvdmex.Foundation.Runs
import Ntvdmex.Wow.Proofs.Gdi.Map

/-!
# A token keeps naming its object

Beside the state stand the promises: every token a call answered, with the object it was given for
and the kind it was asked for under, until Win32 no longer has the object.  The map keeps every
promise exactly as long as no stock object changes its kind: neither is one that the map holds as
stock selected out of a device context, nor one that came out of a device context asked for with
`GetStockObject` or deleted.
-/

namespace Ntvdmex.Wow.Gdi

open Foundation List Prod Win32Gdi GdiReply

variable {event : GdiEvent} {reply : GdiReply} {object : Nat} {kind : WowGdiKind}
    {entry : WowGdiObject}

def GdiReply.promises (reply : GdiReply) : List WowGdiObject :=
  match reply.named with
  | some (object, kind) => if reply.answer = 0 then [] else [⟨reply.answer, object, kind⟩]
  | none => []

structure GdiWorld where
  state : GdiState
  promises : List WowGdiObject

/-- A call with what Win32 decides in it. -/
structure GdiEvent where
  call : WowGdiCall
  answer : Win32Answer

def gdiStart : GdiWorld := ⟨⟨[], ⟨[], fun _ => none, fun _ _ => 0⟩, []⟩, []⟩

def GdiWorld.next (stock : StockObjects) (world : GdiWorld) (event : GdiEvent) : GdiWorld :=
  let result := wowGdiCall stock world.state event.call event.answer
  ⟨result.2, (world.promises ++ result.1.promises).filter fun promise =>
    result.2.win.Alive stock promise.object⟩

def gdiAfter (stock : StockObjects) (events : List GdiEvent) : GdiWorld :=
  events.foldl (GdiWorld.next stock) gdiStart

/-- Win32 issues no handle that names something when it is issued. -/
def Legal (stock : StockObjects) (world : GdiWorld) (event : GdiEvent) : Prop :=
  world.state.win.MayAnswer stock event.answer
deriving Decidable

/-- Every token answered resolves to its object with its right of disposal, the tokens of
different objects differ, and no stock object has reached Win32's `DeleteObject`. -/
structure TokensKeep (stock : StockObjects) (world : GdiWorld) : Prop where
  resolves : ∀ promise ∈ world.promises,
    wowGdiH32 world.state.map promise.handle16 = (promise.object, some promise.kind)
  distinct : ∀ promise ∈ world.promises, ∀ other ∈ world.promises,
    promise.object ≠ other.object → promise.handle16 ≠ other.handle16
  stock : ∀ object ∈ world.state.deletes, stock.classOf object = none

/-- What `SelectObject` takes out of the device context, if it gets that far. -/
def TakesOut (stock : StockObjects) (state : GdiState) (answer : Win32Answer)
    (dc16 object16 previous : Nat) : Prop :=
  ∃ dc dcKind object objectKind cls,
    wowGdiH32 state.map dc16 = (dc, dcKind) ∧ dc ≠ 0 ∧ isDcKind dcKind = true ∧
      wowGdiH32 state.map object16 = (object, objectKind) ∧ object ≠ 0 ∧
        isDcKind objectKind = false ∧ state.win.classOf stock object = some cls ∧
          answer.accepts = true ∧ dc ∈ state.win.dcs ∧ state.win.selected dc cls = previous

def Careful (stock : StockObjects) (world : GdiWorld) (event : GdiEvent) : Prop :=
  match event.call with
  | .getStockObject itemIndex =>
    itemIndex ≤ wowGdiStockObjectLast → ∀ entry ∈ world.state.map, entry.object ≠ 0 →
      entry.object = stock.byIndex itemIndex → entry.kind = .stock
  | .selectObject dc16 object16 =>
    ∀ entry ∈ world.state.map, entry.object ≠ 0 →
      TakesOut stock world.state event.answer dc16 object16 entry.object → entry.kind ≠ .stock
  | .deleteObject handle16 =>
    ∀ object, wowGdiH32 world.state.map handle16 = (object, some .obj) → stock.classOf object = none
  | _ => True

/-- What holds in every run of careful calls. -/
structure GdiKept (stock : StockObjects) (world : GdiWorld) : Prop where
  map : MapKept world.state.map
  win : WinKept stock world.state.win
  listed : ∀ promise ∈ world.promises, promise ∈ world.state.map
  object : ∀ promise ∈ world.promises, promise.object ≠ 0
  right : ∀ promise ∈ world.promises, Right stock world.state.win promise
  promised : ∀ entry ∈ world.state.map, entry.object ≠ 0 →
    (stock.classOf entry.object).isSome → entry ∈ world.promises
  asStock : ∀ entry ∈ world.state.map, entry.object ≠ 0 → entry.kind = .stock →
    (stock.classOf entry.object).isSome
  deletes : ∀ object ∈ world.state.deletes, stock.classOf object = none

/-- What one call has to give. -/
structure Answers (stock : StockObjects) (world : GdiWorld) (result : GdiReply × GdiState) :
    Prop where
  map : MapKept result.2.map
  win : WinKept stock result.2.win
  old : ∀ promise ∈ world.promises, result.2.win.Alive stock promise.object →
    promise ∈ result.2.map ∧ Right stock result.2.win promise
  new : ∀ promise ∈ result.1.promises, promise ∈ result.2.map ∧ promise.object ≠ 0 ∧
    (promise.kind = .stock → (stock.classOf promise.object).isSome)
  newRight : ∀ promise ∈ result.1.promises, result.2.win.Alive stock promise.object →
    Right stock result.2.win promise
  back : ∀ entry ∈ result.2.map, entry.object ≠ 0 →
    entry ∈ world.state.map ∨ entry ∈ result.1.promises
  deletes : ∀ object ∈ result.2.deletes, stock.classOf object = none

variable {stock : StockObjects} {world : GdiWorld}

theorem GdiKept.next (h : GdiKept stock world)
    (hanswers : Answers stock world (wowGdiCall stock world.state event.call event.answer)) :
    GdiKept stock (world.next stock event) := by
  have hmem : ∀ {promise}, promise ∈ (world.next stock event).promises →
      (promise ∈ world.promises ∨
        promise ∈ (wowGdiCall stock world.state event.call event.answer).1.promises) ∧
      (wowGdiCall stock world.state event.call event.answer).2.win.Alive stock promise.object := by
    intro promise hpromise
    obtain ⟨hin, halive⟩ := mem_filter.mp hpromise
    exact ⟨mem_append.mp hin, of_decide_eq_true halive⟩
  refine ⟨hanswers.map, hanswers.win, ?_, ?_, ?_, ?_, ?_, hanswers.deletes⟩
  · intro promise hpromise
    obtain ⟨hold | hnew, halive⟩ := hmem hpromise
    · exact (hanswers.old promise hold halive).1
    · exact (hanswers.new promise hnew).1
  · intro promise hpromise
    obtain ⟨hold | hnew, -⟩ := hmem hpromise
    · exact h.object promise hold
    · exact (hanswers.new promise hnew).2.1
  · intro promise hpromise
    obtain ⟨hold | hnew, halive⟩ := hmem hpromise
    · exact (hanswers.old promise hold halive).2
    · exact hanswers.newRight promise hnew halive
  · intro entry hentry hne hstock
    refine mem_filter.mpr ⟨mem_append.mpr ?_, decide_eq_true (.inr (.inr hstock))⟩
    exact (hanswers.back entry hentry hne).imp_left fun hold => h.promised entry hold hne hstock
  · intro entry hentry hne hkind
    rcases hanswers.back entry hentry hne with hold | hnew
    · exact h.asStock entry hold hne hkind
    · exact (hanswers.new entry hnew).2.2 hkind

theorem GdiKept.tokensKeep (h : GdiKept stock world) : TokensKeep stock world where
  resolves promise hpromise :=
    h.map.h32_of_mem (h.listed promise hpromise) (h.object promise hpromise)
  distinct := by
    intro promise hpromise other hother hne hsame
    have htoken := h.map.token_ne_zero (h.listed promise hpromise) (h.object promise hpromise)
    have heq := h.map.eq_of_token (h.listed promise hpromise) (h.listed other hother) hsame htoken
    exact hne (congrArg WowGdiObject.object heq)
  stock := h.deletes

theorem gdiKept_start (stock : StockObjects) : GdiKept stock gdiStart where
  map := mapKept_nil
  win :=
    { dcs := fun _ hdc => absurd hdc not_mem_nil
      objects := fun _ hobject => absurd hobject (by simp [gdiStart])
      selected := fun _ hdc => absurd hdc not_mem_nil }
  listed _ h := absurd h not_mem_nil
  object _ h := absurd h not_mem_nil
  right _ h := absurd h not_mem_nil
  promised _ h := absurd h not_mem_nil
  asStock _ h := absurd h not_mem_nil
  deletes _ h := absurd h not_mem_nil

/-! ## One call -/

theorem GdiReply.mem_promises {promise : WowGdiObject} (h : promise ∈ reply.promises) :
    reply.answer ≠ 0 ∧ promise.handle16 = reply.answer ∧
      reply.named = some (promise.object, promise.kind) := by
  unfold promises at h
  split at h
  · rename_i hnamed
    split at h
    · cases h
    · rename_i hanswer
      obtain rfl := mem_singleton.mp h
      exact ⟨hanswer, rfl, hnamed⟩
  · cases h

theorem Answers.same (h : GdiKept stock world) (hreply : reply.promises = []) :
    Answers stock world (reply, world.state) where
  map := h.map
  win := h.win
  old promise hpromise _ := ⟨h.listed promise hpromise, h.right promise hpromise⟩
  new promise hpromise := by
    rw [hreply] at hpromise
    cases hpromise
  newRight promise hpromise := by
    rw [hreply] at hpromise
    cases hpromise
  back _ hentry _ := .inl hentry
  deletes := h.deletes

theorem Answers.refused (h : GdiKept stock world) :
    Answers stock world (Gdi.refused, world.state) :=
  .same h rfl

section Asked

variable {win : Win32Gdi} {object : Nat} {kind : WowGdiKind} {deletes : List Nat}

/-- A call that asks for the token of an object, with Win32 left as `win`. -/
theorem Answers.given (h : GdiKept stock world) (hwin : WinKept stock win) (hobject : object ≠ 0)
    (hright : ∀ promise ∈ world.promises, win.Alive stock promise.object → Right stock win promise)
    (hkind : ∀ promise ∈ world.promises, promise.object = object → promise.kind = kind)
    (hnew : ∀ handle16, win.Alive stock object → Right stock win ⟨handle16, object, kind⟩)
    (hstock : kind = .stock → (stock.classOf object).isSome)
    (hdeletes : ∀ deleted ∈ deletes, stock.classOf deleted = none)
    (hreply : reply.promises = promises ⟨(wowGdiH16 world.state.map object kind).1,
      some (object, kind)⟩) :
    Answers stock world (reply, ⟨(wowGdiH16 world.state.map object kind).2, win, deletes⟩) := by
  have hgiven := h.map.h16 kind hobject
  refine ⟨hgiven.kept, hwin, ?_, ?_, ?_, ?_, hdeletes⟩
  · intro promise hpromise halive
    refine ⟨?_, hright promise hpromise halive⟩
    by_cases hsame : promise.object = object
    · exact hgiven.same promise (h.listed promise hpromise) hsame (hkind promise hpromise hsame)
    · exact hgiven.others promise (h.listed promise hpromise) (h.object promise hpromise) hsame
  · intro promise hpromise
    rw [hreply] at hpromise
    obtain ⟨hanswer, htoken, hnamed⟩ := mem_promises hpromise
    have hentry : promise = ⟨(wowGdiH16 world.state.map object kind).1, object, kind⟩ := by
      cases promise
      simp_all
    rw [hentry]
    exact ⟨hgiven.named hanswer, hobject, hstock⟩
  · intro promise hpromise halive
    rw [hreply] at hpromise
    obtain ⟨-, -, hnamed⟩ := mem_promises hpromise
    have hpair : (object, kind) = (promise.object, promise.kind) := Option.some.inj hnamed
    obtain ⟨hsame, hsameKind⟩ := mk.inj hpair
    cases promise
    subst hsame hsameKind
    exact hnew _ halive
  · intro entry hentry hne
    rcases hgiven.back entry hentry hne with ⟨hold, -⟩ | ⟨hanswer, hnewEntry⟩
    · exact .inl hold
    · right
      rw [hreply, promises]
      dsimp only
      rw [if_neg hanswer, hnewEntry]
      exact mem_cons_self

end Asked

theorem GdiKept.fresh (h : GdiKept stock world) {answer : Win32Answer}
    (hlegal : world.state.win.MayAnswer stock answer) (hissued : answer.issued ≠ 0) :
    ∀ promise ∈ world.promises, promise.object ≠ answer.issued := by
  intro promise hpromise hsame
  refine (hlegal.1.resolve_left hissued).1 ?_
  rw [← hsame]
  exact (h.right promise hpromise).alive

theorem promises_refused_of_full {token : Nat} (hfull : token = 0) :
    Gdi.refused.promises = promises ⟨token, some (object, kind)⟩ := by
  rw [hfull]
  rfl

section

variable (h : GdiKept stock world)

include h

variable {answer : Win32Answer}

theorem wowGdiIssueObject_answers (cls : GdiClass)
    (hlegal : world.state.win.MayAnswer stock answer) :
    Answers stock world (wowGdiIssueObject stock world.state cls answer) := by
  unfold wowGdiIssueObject
  dsimp only
  by_cases hissued : answer.issued = 0
  · have hsame : world.state.win.createObject cls answer = world.state.win := by
      rw [createObject, if_pos hissued]
    rw [if_pos hissued, hsame]
    exact .refused h
  rw [if_neg hissued]
  have hfresh := h.fresh hlegal hissued
  have hwin := h.win.createObject cls hlegal
  have hright : ∀ promise ∈ world.promises,
      Right stock (world.state.win.createObject cls answer) promise := by
    intro promise hpromise
    refine (h.right promise hpromise).mono ?_ fun object hobject => ?_
    · rw [createObject_dcs]
      exact fun dc hdc => hdc
    · exact createObject_objects _ cls answer hobject
  have hkind : ∀ promise ∈ world.promises, promise.object = answer.issued →
      promise.kind = .obj := fun promise hpromise hsame =>
    absurd hsame (hfresh promise hpromise)
  have hnot : ¬(stock.classOf answer.issued).isSome := fun hstock =>
    (hlegal.1.resolve_left hissued).1 (.inr (.inr hstock))
  split
  · rename_i hfull
    refine Answers.given h (hwin.deleteObject _ answer) hissued ?_ hkind ?_ (fun hk => by cases hk)
      ?_ (promises_refused_of_full hfull)
    · intro promise hpromise _
      refine (hright promise hpromise).keep ?_ ?_
      · rw [deleteObject_dcs]
        exact id
      · exact deleteObject_objects _ answer (hfresh promise hpromise)
    · intro handle16 halive
      refine right_obj halive ?_
      rw [deleteObject_dcs, createObject_dcs]
      exact fun hdc => (hlegal.1.resolve_left hissued).1 (.inl hdc)
    · intro deleted hdeleted
      rcases mem_append.mp hdeleted with hold | hnew
      · exact h.deletes deleted hold
      · rw [mem_singleton.mp hnew]
        simpa using hnot
  · refine Answers.given h hwin hissued (fun promise hpromise _ => hright promise hpromise) hkind
      ?_ (fun hk => by cases hk) h.deletes rfl
    intro handle16 _
    exact .inl (createObject_issued _ cls hissued)

theorem wowGdiCreateCompatibleDc_answers (sourceDc16 : Nat)
    (hlegal : world.state.win.MayAnswer stock answer) :
    Answers stock world (wowGdiCreateCompatibleDc world.state sourceDc16 answer) := by
  unfold wowGdiCreateCompatibleDc
  dsimp only
  refine iteInduction (fun _ => .refused h) fun _ => ?_
  by_cases hissued : answer.issued = 0
  · have hsame : world.state.win.createDc answer = world.state.win := by
      rw [createDc, if_pos hissued]
    rw [if_pos hissued, hsame]
    exact .refused h
  rw [if_neg hissued]
  have hfresh := h.fresh hlegal hissued
  have hwin := h.win.createDc hlegal
  have hright : ∀ promise ∈ world.promises,
      Right stock (world.state.win.createDc answer) promise := by
    intro promise hpromise
    refine (h.right promise hpromise).mono (fun _ => createDc_dcs _ answer) ?_
    rw [createDc_objects]
    exact fun _ hobject => hobject
  have hkind : ∀ promise ∈ world.promises, promise.object = answer.issued →
      promise.kind = .dc := fun promise hpromise hsame => absurd hsame (hfresh promise hpromise)
  have hdead := (hlegal.1.resolve_left hissued).1
  split
  · rename_i hfull
    refine Answers.given h (hwin.deleteDc _ answer) hissued ?_ hkind ?_ (fun hk => by cases hk)
      h.deletes (promises_refused_of_full hfull)
    · intro promise hpromise _
      refine (hright promise hpromise).keep ?_ ?_
      · exact fun hdc => deleteDc_dcs _ answer hdc (hfresh promise hpromise)
      · rw [deleteDc_objects]
    · intro handle16 halive
      refine halive.resolve_right fun hother => hdead (.inr ?_)
      rwa [deleteDc_objects, createDc_objects] at hother
  · refine Answers.given h hwin hissued (fun promise hpromise _ => hright promise hpromise) hkind
      ?_ (fun hk => by cases hk) h.deletes rfl
    intro handle16 _
    exact createDc_issued _ hissued

theorem wowGdiGetStockObject_answers (itemIndex : Nat)
    (hcareful : itemIndex ≤ wowGdiStockObjectLast → ∀ entry ∈ world.state.map, entry.object ≠ 0 →
      entry.object = stock.byIndex itemIndex → entry.kind = .stock) :
    Answers stock world (wowGdiGetStockObject stock world.state itemIndex) := by
  unfold wowGdiGetStockObject
  by_cases hlast : wowGdiStockObjectLast < itemIndex
  · rw [if_pos hlast]
    exact .refused h
  by_cases hnull : stock.byIndex itemIndex = 0
  · rw [if_neg hlast, if_pos hnull]
    exact .refused h
  rw [if_neg hlast, if_neg hnull]
  have hstock := stock.byIndex_stock itemIndex hnull
  refine Answers.given h h.win hnull (fun promise hpromise _ => h.right promise hpromise) ?_
    (fun _ _ => hstock) (fun _ => hstock) h.deletes rfl
  intro promise hpromise hsame
  exact hcareful (Nat.le_of_not_lt hlast) promise (h.listed promise hpromise)
    (h.object promise hpromise) hsame

theorem wowGdiSelectObject_answers (dc16 object16 : Nat)
    (hcareful : ∀ entry ∈ world.state.map, entry.object ≠ 0 →
      TakesOut stock world.state answer dc16 object16 entry.object → entry.kind ≠ .stock) :
    Answers stock world (wowGdiSelectObject stock world.state dc16 object16 answer) := by
  unfold wowGdiSelectObject
  rcases hdc : wowGdiH32 world.state.map dc16 with ⟨dc, dcKind⟩
  rcases hobject : wowGdiH32 world.state.map object16 with ⟨object, objectKind⟩
  dsimp only
  refine iteInduction (fun _ => .refused h) fun hisDc => ?_
  refine iteInduction (fun _ => .refused h) fun hisObject => ?_
  refine iteInduction (fun _ => .refused h) fun hisNotDc => ?_
  have hwin := h.win.selectObject dc object answer
  have hright : ∀ promise ∈ world.promises,
      Right stock (world.state.win.selectObject stock dc object answer).2 promise := by
    intro promise hpromise
    refine (h.right promise hpromise).mono ?_ ?_
    · rw [selectObject_dcs]
      exact fun _ hmem => hmem
    · rw [selectObject_objects]
      exact fun _ hmem => hmem
  by_cases hprevious : (world.state.win.selectObject stock dc object answer).1 = 0
  · rw [if_pos hprevious]
    exact ⟨h.map, hwin, fun promise hpromise _ => ⟨h.listed promise hpromise,
      hright promise hpromise⟩, fun _ hp => absurd hp not_mem_nil,
      fun _ hp => absurd hp not_mem_nil, fun _ hentry _ => .inl hentry, h.deletes⟩
  rw [if_neg hprevious]
  obtain ⟨cls, hclass, haccepts, hmem, heq⟩ := selectObject_previous hprevious
  have hnotDc : (world.state.win.selectObject stock dc object answer).1 ∉ world.state.win.dcs := by
    rw [heq]
    exact h.win.selected dc hmem cls
  refine Answers.given h hwin hprevious (fun promise hpromise _ => hright promise hpromise) ?_ ?_
    (fun hk => by cases hk) h.deletes rfl
  · intro promise hpromise hsame
    simp only [not_or] at hisDc
    have htaken : TakesOut stock world.state answer dc16 object16 promise.object :=
      ⟨dc, dcKind, object, objectKind, cls, hdc, hisDc.1, by simpa using hisDc.2, hobject,
        hisObject, by simpa using hisNotDc, hclass, haccepts, hmem, (hsame.trans heq).symm⟩
    have hnotStock := hcareful promise (h.listed promise hpromise) (h.object promise hpromise)
      htaken
    have hr := h.right promise hpromise
    cases hkind : promise.kind with
    | obj => rfl
    | dc =>
      rw [Right, hkind, hsame] at hr
      exact absurd hr hnotDc
    | windc =>
      rw [Right, hkind] at hr
      exact hr.elim
    | stock => exact absurd hkind hnotStock
  · intro handle16 halive
    refine right_obj halive ?_
    rw [selectObject_dcs]
    exact hnotDc

theorem Answers.forgotten {win : Win32Gdi} {deletes : List Nat} (hreply : reply.promises = [])
    (hentry : entry ∈ world.state.map) (hobject : entry.object ≠ 0) (hwin : WinKept stock win)
    (hdead : ¬win.Alive stock entry.object)
    (hright : ∀ promise ∈ world.promises, promise.object ≠ entry.object → Right stock win promise)
    (hdeletes : ∀ deleted ∈ deletes, stock.classOf deleted = none) :
    Answers stock world (reply, ⟨wowGdiForget world.state.map entry.handle16, win, deletes⟩) := by
  obtain ⟨index, hindex, hforget⟩ := h.map.forget hentry hobject
  rw [hforget]
  refine ⟨h.map.clear hindex, hwin, ?_, ?_, ?_, ?_, hdeletes⟩
  · intro promise hpromise halive
    have hne : promise.object ≠ entry.object := fun hsame => hdead (hsame ▸ halive)
    exact ⟨mem_set_of_ne _ hindex (h.listed promise hpromise) fun heq => hne (heq ▸ rfl),
      hright promise hpromise hne⟩
  · intro promise hpromise
    rw [hreply] at hpromise
    cases hpromise
  · intro promise hpromise
    rw [hreply] at hpromise
    cases hpromise
  · intro other hother hne
    exact .inl (h.map.mem_clear hindex hother hne).1

theorem wowGdiDeleteDc_answers (handle16 : Nat) (answer : Win32Answer) :
    Answers stock world (wowGdiDeleteDc world.state handle16 answer) := by
  unfold wowGdiDeleteDc
  rcases hfound : wowGdiH32 world.state.map handle16 with ⟨object, kind⟩
  refine iteInduction (fun _ => .refused h) fun _ => ?_
  refine iteInduction (fun _ => .same h rfl) fun _ => ?_
  refine iteInduction (fun _ => .refused h) fun hkind => ?_
  rw [not_not.mp hkind] at hfound
  obtain ⟨hentry, hobject⟩ := h.map.mem_of_h32 hfound
  have hwin := h.win.deleteDc object answer
  rcases hresult : world.state.win.deleteDc object answer with ⟨done, win⟩
  rw [hresult] at hwin
  cases done with
  | false =>
    have hsame := deleteDc_refused (congrArg fst hresult)
    rw [hresult] at hsame
    rw [show win = world.state.win from hsame]
    exact .refused h
  | true =>
    obtain ⟨hdc, hgone⟩ := deleteDc_done (congrArg fst hresult)
    obtain ⟨hnoObject, hnoStock⟩ := h.win.dcs object hdc
    have hobjects := deleteDc_objects world.state.win object answer
    rw [hresult] at hgone hobjects
    refine Answers.forgotten h rfl hentry hobject hwin ?_ ?_ h.deletes
    · have hobjects' : win.objects object = none := (congrFun hobjects object).trans hnoObject
      have hgone' : object ∉ win.dcs := hgone
      simp [Win32Gdi.Alive, hobjects', hgone', hnoStock]
    · intro promise hpromise hne
      refine (h.right promise hpromise).keep (fun hdc => ?_) (by rw [hobjects])
      have hstays := deleteDc_dcs world.state.win answer hdc hne
      rwa [hresult] at hstays

theorem wowGdiDeleteObject_answers (handle16 : Nat)
    (answer : Win32Answer)
    (hcareful : ∀ object, wowGdiH32 world.state.map handle16 = (object, some .obj) →
      stock.classOf object = none) :
    Answers stock world (wowGdiDeleteObject stock world.state handle16 answer) := by
  unfold wowGdiDeleteObject
  rcases hfound : wowGdiH32 world.state.map handle16 with ⟨object, kind⟩
  refine iteInduction (fun _ => .refused h) fun _ => ?_
  refine iteInduction (fun _ => .same h rfl) fun _ => ?_
  refine iteInduction (fun _ => .refused h) fun hkind => ?_
  rw [not_not.mp hkind] at hfound
  have hnoStock := hcareful object hfound
  obtain ⟨hentry, hobject⟩ := h.map.mem_of_h32 hfound
  have hwin := h.win.deleteObject object answer
  have hdeletes : ∀ deleted ∈ world.state.deletes ++ [object], stock.classOf deleted = none := by
    intro deleted hdeleted
    rcases mem_append.mp hdeleted with hold | hnew
    · exact h.deletes deleted hold
    · rw [mem_singleton.mp hnew, hnoStock]
  rcases hresult : world.state.win.deleteObject stock object answer with ⟨done, win⟩
  rw [hresult] at hwin
  cases done with
  | false =>
    have hsame := deleteObject_refused (congrArg fst hresult)
    rw [hresult] at hsame
    rw [show win = world.state.win from hsame]
    exact { Answers.refused h with deletes := hdeletes }
  | true =>
    obtain ⟨hlive, hgone⟩ := deleteObject_done hnoStock (congrArg fst hresult)
    have hdcs := @deleteObject_dcs stock world.state.win object answer
    rw [hresult] at hgone hdcs
    refine Answers.forgotten h rfl hentry hobject hwin ?_ ?_ hdeletes
    · have hnotDc : object ∉ world.state.win.dcs := by
        intro hdc
        rw [(h.win.dcs object hdc).1] at hlive
        cases hlive
      have hdcs' : win.dcs = world.state.win.dcs := hdcs
      have hgone' : win.objects object = none := hgone
      simp [Win32Gdi.Alive, hdcs', hgone', hnotDc, hnoStock]
    · intro promise hpromise hne
      have hother := @deleteObject_objects stock _ world.state.win _ answer hne
      rw [hresult] at hother
      have hdcs' : win.dcs = world.state.win.dcs := hdcs
      exact (h.right promise hpromise).keep (fun hdc => by rwa [hdcs']) hother

theorem wowGdiCall_answers (hlegal : world.state.win.MayAnswer stock event.answer)
    (hcareful : Careful stock world event) :
    Answers stock world (wowGdiCall stock world.state event.call event.answer) := by
  rcases event with ⟨call, answer⟩
  cases call with
  | getStockObject itemIndex => exact wowGdiGetStockObject_answers h itemIndex hcareful
  | createCompatibleDc sourceDc16 =>
    exact wowGdiCreateCompatibleDc_answers h sourceDc16 hlegal
  | createBitmap width height planes bitsPerPixel hasBits =>
    exact iteInduction (fun _ => .refused h) fun _ =>
      wowGdiIssueObject_answers h .bitmap hlegal
  | createCompatibleBitmap dc16 width height =>
    exact iteInduction (fun _ => .refused h) fun _ => iteInduction (fun _ => .refused h) fun _ =>
      wowGdiIssueObject_answers h .bitmap hlegal
  | createSolidBrush => exact wowGdiIssueObject_answers h .brush hlegal
  | selectObject dc16 object16 => exact wowGdiSelectObject_answers h dc16 object16 hcareful
  | deleteDc handle16 => exact wowGdiDeleteDc_answers h handle16 answer
  | deleteObject handle16 => exact wowGdiDeleteObject_answers h handle16 answer hcareful

theorem not_tokensKeep_of_kind (hentry : entry ∈ world.state.map) (hne : entry.object ≠ 0)
    (hsame : entry.object = object) (hkind : entry.kind ≠ kind)
    (hstock : (stock.classOf object).isSome)
    (hmap : (wowGdiCall stock world.state event.call event.answer).2.map =
      (wowGdiH16 world.state.map object kind).2) :
    ¬TokensKeep stock (world.next stock event) := by
  intro hkeep
  subst hsame
  have hpromise : entry ∈ (world.next stock event).promises :=
    mem_filter.mpr ⟨mem_append.mpr (.inl (h.promised entry hentry hne hstock)),
      decide_eq_true (.inr (.inr hstock))⟩
  have hgiven := h.map.h16 kind hne
  have hresolves : wowGdiH32 (wowGdiH16 world.state.map entry.object kind).2 entry.handle16 =
      (entry.object, some entry.kind) := hmap ▸ hkeep.resolves entry hpromise
  obtain ⟨hmem, -⟩ := hgiven.kept.mem_of_h32 hresolves
  rcases hgiven.back _ hmem hne with ⟨-, hdifferent⟩ | ⟨-, hnew⟩
  · exact hdifferent rfl
  · exact hkind (congrArg WowGdiObject.kind hnew)

theorem careful_of_tokensKeep (hkeep : TokensKeep stock (world.next stock event))
    : Careful stock world event := by
  rcases event with ⟨call, answer⟩
  cases call with
  | getStockObject itemIndex =>
    intro hlast entry hentry hne hsame
    by_contra hkind
    have hnull : stock.byIndex itemIndex ≠ 0 := hsame ▸ hne
    refine not_tokensKeep_of_kind h hentry hne hsame hkind (stock.byIndex_stock itemIndex hnull)
      ?_ hkeep
    simp only [wowGdiCall, wowGdiGetStockObject]
    rw [if_neg (Nat.not_lt.mpr hlast), if_neg hnull]
  | selectObject dc16 object16 =>
    intro entry hentry hne htaken hkind
    obtain ⟨dc, dcKind, object, objectKind, cls, hdc, hdcNe, hisDc, hobject, hobjectNe, hnotDc,
      hclass, haccepts, hmem, hselected⟩ := htaken
    have hotherKind : entry.kind ≠ .obj := by
      rw [hkind]
      exact fun heq => by cases heq
    have hprevious : (world.state.win.selectObject stock dc object answer).1 = entry.object := by
      simp only [selectObject, hclass]
      rw [if_pos ⟨haccepts, hmem⟩]
      exact hselected
    refine not_tokensKeep_of_kind h hentry hne rfl hotherKind (h.asStock entry hentry hne hkind)
      ?_ hkeep
    simp only [wowGdiCall, wowGdiSelectObject, hdc, hobject, hdcNe, hisDc, hobjectNe, hnotDc,
      hprevious, hne, if_false, false_or, Bool.true_eq_false, Bool.false_eq_true]
  | deleteObject handle16 =>
    intro object hfound
    obtain ⟨-, hobject⟩ := h.map.mem_of_h32 hfound
    refine hkeep.stock object ?_
    have hreached : object ∈ (wowGdiDeleteObject stock world.state handle16 answer).2.deletes := by
      unfold wowGdiDeleteObject
      rw [hfound]
      dsimp only
      rw [if_neg hobject, if_neg (fun hk => by cases hk), if_neg (fun hk => hk rfl)]
      split <;> simp
    exact hreached
  | createCompatibleDc | createBitmap | createCompatibleBitmap | createSolidBrush | deleteDc =>
    trivial

end

/-! ## Runs -/

/-- In every run, the tokens keep naming their objects throughout exactly if every call is
careful. -/
theorem gdi_tokens_keep_iff (stock : StockObjects) (events : List GdiEvent)
    (hlegal : Throughout (GdiWorld.next stock) gdiStart (Legal stock) events) :
    (∀ before later, events = before ++ later → TokensKeep stock (gdiAfter stock before)) ↔
      Throughout (GdiWorld.next stock) gdiStart (Careful stock) events := by
  refine holds_throughout_iff (GdiKept stock) (gdiKept_start stock) (fun _ => GdiKept.tokensKeep) ?_ ?_ hlegal
  · intro world event hkept hanswer hcareful
    exact hkept.next (wowGdiCall_answers hkept hanswer hcareful)
  · intro world event hkept _ hkeep
    exact careful_of_tokensKeep hkept hkeep

def brushesAndDefaults : StockObjects where
  classOf
    | 100 | 104 => some .brush
    | 107 => some .pen
    | 113 => some .font
    | 115 => some .palette
    | 121 => some .bitmap
    | _ => none
  byIndex
    | 0 => 100
    | 4 => 104
    | 7 => 107
    | 13 => 113
    | 15 => 115
    | _ => 0
  null := rfl
  byIndex_stock index h := by
    split at h <;> first | rfl | exact absurd rfl h

def newDcObjects : GdiClass → Nat
  | .brush => 100
  | .pen => 107
  | .font => 113
  | .palette => 115
  | .bitmap => 121

def issues (call : WowGdiCall) (object : Nat) : GdiEvent := ⟨call, ⟨object, newDcObjects, true⟩⟩

/-- A brush is made in a handle that was a bitmap's, selected, taken out again and deleted. -/
def brushRun : List GdiEvent :=
  [issues (.createCompatibleDc 0) 1,
    issues (.createBitmap 8 8 1 1 false) 2,
    issues (.deleteObject 0x2008) 0,
    issues .createSolidBrush 2,
    issues (.selectObject 0x2000 0x2008) 0,
    issues .createSolidBrush 3,
    issues (.selectObject 0x2000 0x2018) 0,
    issues (.deleteObject 0x2008) 0]

theorem tokens_keep_in_brushRun :
    Throughout (GdiWorld.next brushesAndDefaults) gdiStart (Legal brushesAndDefaults) brushRun ∧
      ((∀ before later, brushRun = before ++ later →
          TokensKeep brushesAndDefaults (gdiAfter brushesAndDefaults before)) ↔
        Throughout (GdiWorld.next brushesAndDefaults) gdiStart (Careful brushesAndDefaults)
          brushRun) :=
  ⟨throughout_of_checkRun (by decide),
    gdi_tokens_keep_iff brushesAndDefaults brushRun (throughout_of_checkRun (by decide))⟩

/-- The white brush is asked for, a memory DC starts with it, and the black brush takes its place;
the token of the white brush is then one that `DeleteObject` passes on. -/
def whiteBrushRun : List GdiEvent :=
  [issues (.getStockObject 0) 0,
    issues (.createCompatibleDc 0) 1,
    issues (.getStockObject 4) 0,
    issues (.selectObject 0x2008 0x2010) 0,
    issues (.deleteObject 0x2000) 0]

theorem white_brush_reaches_win32 :
    Throughout (GdiWorld.next brushesAndDefaults) gdiStart (Legal brushesAndDefaults)
        whiteBrushRun ∧
      (gdiAfter brushesAndDefaults whiteBrushRun).state.deletes = [100] ∧
        wowGdiH32 (gdiAfter brushesAndDefaults whiteBrushRun).state.map 0x2000 = (0, none) ∧
          ¬∀ before later, whiteBrushRun = before ++ later →
            TokensKeep brushesAndDefaults (gdiAfter brushesAndDefaults before) := by
  refine ⟨throughout_of_checkRun (by decide), by decide, by decide, ?_⟩
  intro h
  have hkeep := (h whiteBrushRun [] rfl).stock 100 (by decide)
  cases hkeep

end Ntvdmex.Wow.Gdi
