import Ntvdmex.Foundation.Strings
import Ntvdmex.Vdd.Proofs.Dma.Block

/-!
# Software requests

Every request that can be met is met by one service, and nothing is left for a second.
-/

namespace Ntvdmex.Vdd.Dma

open List DmaState Or

local instance neZero2 : NeZero 2 := ⟨by decide⟩
local instance neZero8 : NeZero 8 := ⟨by decide⟩

variable {n : Fin 8}

variable {m : Fin 8} {s state state' : DmaState}

/-! ## The lines in turn -/

theorem and_not_and (value mask line : UInt8) :
    (value &&& ~~~ mask) &&& line = value &&& (~~~ mask &&& line) :=
  UInt8.and_assoc value (~~~ mask) line

theorem clear_line (n m : Fin 8) (value : UInt8) :
    (value &&& ~~~ lineBit n) &&& lineBit m =
      if m.val % 4 = n.val % 4 then 0 else value &&& lineBit m := by
  have hline : ~~~ lineBit n &&& lineBit m =
      if m.val % 4 = n.val % 4 then 0 else lineBit m := by
    revert n m
    decide
  rw [and_not_and, hline]
  split
  · exact UInt8.and_zero
  · rfl

theorem clear_copy_lines (m : Fin 8) (value : UInt8) :
    (value &&& ~~~ 0x03) &&& lineBit m = if m.val % 4 ≤ 1 then 0 else value &&& lineBit m := by
  have hline : ~~~ 0x03 &&& lineBit m = if m.val % 4 ≤ 1 then 0 else lineBit m := by
    revert m
    decide
  rw [and_not_and, hline]
  split
  · exact UInt8.and_zero
  · rfl

theorem clear_line_high (n : Fin 8) (value : UInt8) :
    (value &&& ~~~ lineBit n) &&& 0xF0 = value &&& 0xF0 := by
  have hline : ~~~ lineBit n &&& 0xF0 = 0xF0 := by
    revert n
    decide
  rw [and_not_and, hline]

theorem clear_copy_lines_high (value : UInt8) : (value &&& ~~~ 0x03) &&& 0xF0 = value &&& 0xF0 := by
  rw [and_not_and]
  rfl

def IsServedBy (lines : List (Fin 8)) (state : DmaState) (m : Fin 8) : Prop :=
  m ∈ lines ∧ IsServable state m ∨ m = 1 ∧ 0 ∈ lines ∧ CopyServed state
deriving Decidable

def servedChannel (state : DmaState) (m : Fin 8) : DmaChannel :=
  if m = 0 ∧ CopyServed state then
    copiedChannel0 state ((state.channels 1).currentCount.toNat + 1)
  else (state.channels m).walk ((state.channels m).currentCount.toNat + 1)

/-- What serving a channel writes. -/
def serveBytes (state : DmaState) (bytes : Nat → UInt8) (m : Fin 8) : Nat → UInt8 :=
  if IsServable state m then
    if m = 0 ∧ IsCopying state then copyBytes state bytes else blockBytes state bytes m
  else bytes

/-- The state and the memory after some lines of `state` have been served. -/
structure ServedLines (state : DmaState) (bytes : Nat → UInt8) (lines : List (Fin 8))
    (served : DmaState × LinearMemory) : Prop where
  command : served.1.command = state.command
  flipFlop : served.1.flipFlop = state.flipFlop
  sparePage : served.1.sparePage = state.sparePage
  channels : ∀ m, served.1.channels m =
    if IsServedBy lines state m then servedChannel state m else state.channels m
  request : ∀ m, served.1.request (controllerOf m) &&& lineBit m =
    if IsServedBy lines state m then 0 else state.request (controllerOf m) &&& lineBit m
  high : ∀ controller, served.1.request controller &&& 0xF0 = state.request controller &&& 0xF0
  memory : served.2.bytes = lines.foldl (serveBytes state) bytes

variable {state : DmaState} {bytes : Nat → UInt8} {lines : List (Fin 8)}
  {served : DmaState × LinearMemory}

theorem isServedBy_snoc (m : Fin 8) :
    IsServedBy (lines ++ [n]) state m ↔
      IsServedBy lines state m ∨ m = n ∧ IsServable state n ∨
        m = 1 ∧ n = 0 ∧ CopyServed state := by
  unfold IsServedBy
  simp only [mem_append, mem_singleton]
  constructor
  · rintro (⟨hm | rfl, h⟩ | ⟨rfl, h0 | rfl, hcopy⟩)
    · exact inl (inl ⟨hm, h⟩)
    · exact inr (inl ⟨rfl, h⟩)
    · exact inl (inr ⟨rfl, h0, hcopy⟩)
    · exact inr (inr ⟨rfl, rfl, hcopy⟩)
  · rintro ((⟨hm, h⟩ | ⟨rfl, h0, hcopy⟩) | ⟨rfl, h⟩ | ⟨rfl, rfl, hcopy⟩)
    · exact inl ⟨inl hm, h⟩
    · exact inr ⟨rfl, inl h0, hcopy⟩
    · exact inl ⟨inr rfl, h⟩
    · exact inr ⟨rfl, inr rfl, hcopy⟩

section

variable (h : ServedLines state bytes lines served)

include h

/-- A line with nothing to serve. -/
theorem ServedLines.skip
    (hservable : ¬IsServable state n) : ServedLines state bytes (lines ++ [n]) served := by
  have hsame : ∀ m, IsServedBy (lines ++ [n]) state m ↔ IsServedBy lines state m := by
    intro m
    rw [isServedBy_snoc]
    refine or_iff_left ?_
    rintro (⟨-, hserves⟩ | ⟨-, rfl, hcopy⟩)
    · exact hservable hserves
    · exact hservable hcopy.1
  refine ⟨h.command, h.flipFlop, h.sparePage, fun m => ?_, fun m => ?_, h.high, ?_⟩
  · rw [h.channels]
    exact if_congr (hsame m).symm rfl rfl
  · rw [h.request]
    exact if_congr (hsame m).symm rfl rfl
  · rw [h.memory, foldl_append, foldl_cons, foldl_nil]
    exact (if_neg hservable).symm

theorem ServedLines.isConnected_iff
    (controller : Fin 2) : IsConnected served.1 controller ↔ IsConnected state controller := by
  have hcascade : served.1.channels dmaCascadeChannel = state.channels dmaCascadeChannel := by
    rw [h.channels]
    apply if_neg
    rintro (⟨-, hserves⟩ | ⟨hone, -⟩)
    · exact hserves.2.2.1 rfl
    · exact absurd hone (by decide)
  unfold IsConnected dmaIsCascadeUp
  rw [h.command, hcascade]

theorem ServedLines.isCopying_iff :
    IsCopying served.1 ↔ IsCopying state := by
  unfold IsCopying
  rw [h.command]

theorem ServedLines.isServable_iff (hn : n ∉ lines) :
    IsServable served.1 n ↔ IsServable state n := by
  by_cases hcopied : n = 1 ∧ 0 ∈ lines ∧ CopyServed state
  · refine iff_of_false (fun hserves => ?_) fun hserves => ?_
    · exact hserves.2.2.2.2 ⟨hcopied.1, h.isCopying_iff.mpr hcopied.2.2.2⟩
    · exact hserves.2.2.2.2 ⟨hcopied.1, hcopied.2.2.2⟩
  · have hnot : ¬IsServedBy lines state n := fun hserved =>
      hserved.elim (fun hmem => hn hmem.1) hcopied
    unfold IsServable isRequested
    rw [h.request, h.channels, if_neg hnot, if_neg hnot, h.isConnected_iff, h.isCopying_iff]

theorem ServedLines.channel_eq (hm : m ∉ lines) (hcopy : m = 1 → 0 ∈ lines → ¬CopyServed state) :
    served.1.channels m = state.channels m := by
  rw [h.channels]
  apply if_neg
  rintro (⟨hmem, -⟩ | ⟨hone, hmem, hcopied⟩)
  · exact hm hmem
  · exact hcopy hone hmem hcopied

end

/-! ## The service loop -/

theorem dmaServiceLine_eq (memory : LinearMemory) (hconnected : IsConnected s (controllerOf n)) :
    dmaServiceLine n s memory =
      if IsServable s n then
        if n = 0 ∧ IsCopying s then dmaMemoryToMemory s memory
        else dmaSoftwareBlock n dmaMaxTransfers s memory
      else (s, memory) := by
  have hrequested : s.request (controllerOf n) &&& lineBit n = 0 ↔ ¬s.isRequested n := by
    exact not_not.symm
  have hlow : IsByteChannel n ∧ s.command 0 &&& dmaCommandMemoryToMemory ≠ 0 ∧ n.val ≤ 1 ↔
      (n = 0 ∨ n = 1) ∧ IsCopying s := by
    unfold IsCopying IsByteChannel
    constructor
    · rintro ⟨-, hcopying, hle⟩
      exact ⟨by lia, hcopying⟩
    · rintro ⟨hn, hcopying⟩
      exact ⟨by lia, hcopying, by lia⟩
  unfold dmaServiceLine
  by_cases hrequest : s.isRequested n
  · rw [if_neg fun h => hrequested.mp h hrequest]
    by_cases hcascade : n = dmaCascadeChannel
    · rw [if_pos hcascade, if_neg fun h => h.2.2.1 hcascade]
    · rw [if_neg hcascade]
      by_cases hmode : (s.channels n).mode &&& dmaModeSelect = dmaModeSelect
      · rw [if_pos hmode, if_neg fun h => h.2.2.2.1 hmode]
      · rw [if_neg hmode, if_congr hlow rfl rfl]
        by_cases hone : n = 1 ∧ IsCopying s
        · rw [if_pos ⟨inr hone.1, hone.2⟩, if_neg (by rw [hone.1]; decide),
            if_neg fun h => h.2.2.2.2 hone]
        · have hserves : IsServable s n := ⟨hrequest, hconnected, hcascade, hmode, hone⟩
          rw [if_pos hserves]
          by_cases hzero : n = 0 ∧ IsCopying s
          · rw [if_pos ⟨inl hzero.1, hzero.2⟩, if_pos hzero, if_pos (by rw [hzero.1]; rfl)]
          · rw [if_neg hzero, if_neg]
            rintro ⟨h0 | h1, hcopying⟩
            · exact hzero ⟨h0, hcopying⟩
            · exact hone ⟨h1, hcopying⟩
  · rw [if_pos (hrequested.mpr hrequest), if_neg fun h => hrequest h.1]

theorem dmaServiceController_skip {controller : Fin 2} (memory : LinearMemory)
    (h : ¬IsConnected s controller) : dmaServiceController controller s memory = (s, memory) := by
  unfold dmaServiceController
  split_ifs with hrequest hdisable hcascade
  · rfl
  · rfl
  · rfl
  · refine absurd ⟨not_not.mp hdisable, fun hzero => ?_⟩ h
    exact Bool.eq_true_of_not_eq_false fun hdown => hcascade ⟨hzero, hdown⟩

theorem line_lt (controller : Fin 2) (line : Nat) : (controller.val * 4 + line) % 8 < 8 :=
  Nat.mod_lt _ (by decide)

def linesOf (controller : Fin 2) : List (Fin 8) :=
  (List.range 4).map fun line => ⟨(controller.val * 4 + line) % 8, line_lt controller line⟩

theorem dmaServiceController_connected {controller : Fin 2} (memory : LinearMemory)
    (h : IsConnected s controller) (hrequest : s.request controller ≠ 0) :
    dmaServiceController controller s memory =
      (linesOf controller).foldl (fun served n => dmaServiceLine n served.1 served.2)
        (s, memory) := by
  unfold dmaServiceController linesOf
  rw [if_neg hrequest, if_neg (not_not.mpr h.1), if_neg, foldl_map]
  rintro ⟨hzero, hdown⟩
  rw [h.2 hzero] at hdown
  exact absurd hdown (by decide)

theorem controllerOf_of_mem {controller : Fin 2} (h : n ∈ linesOf controller) :
    controllerOf n = controller := by
  revert n controller
  decide

theorem blockBytes_congr (h : state'.channels n = state.channels n) (bytes : Nat → UInt8)
    : blockBytes state' bytes n = blockBytes state bytes n := by
  unfold blockBytes
  simp only [h, currentUnit_congr h]

theorem copyBytes_congr (hcommand : state'.command = state.command)
    (h0 : state'.channels 0 = state.channels 0) (h1 : state'.channels 1 = state.channels 1)
    (bytes : Nat → UInt8) : copyBytes state' bytes = copyBytes state bytes := by
  unfold copyBytes copySource
  simp only [hcommand, h1, currentUnit_congr h0, currentUnit_congr h1]

theorem lineBit_eq_iff (h : controllerOf m = controllerOf n) : m.val % 4 = n.val % 4 ↔ m = n := by
  have hdiv : m.val / 4 = n.val / 4 := congrArg Fin.val h
  rw [Fin.ext_iff]
  lia

variable (h : ServedLines state bytes lines served)

include h

theorem ServedLines.block (hn : n ∉ lines) (hserves : IsServable state n)
    (hcopying : ¬(n = 0 ∧ IsCopying state)) : ServedLines state bytes (lines ++ [n])
      (dmaSoftwareBlock n dmaMaxTransfers served.1 served.2) := by
  have hnone : n = 1 → ¬CopyServed state := fun hone hcopied =>
    hserves.2.2.2.2 ⟨hone, hcopied.2⟩
  have hchannel : served.1.channels n = state.channels n :=
    h.channel_eq hn fun hone _ => hnone hone
  have hstate : (dmaSoftwareBlock n dmaMaxTransfers served.1 served.2).1 =
      afterBlock served.1 n := by
    rw [dmaSoftwareBlock_walk n _ _ _ (currentCount_lt_max _), dmaWalk_block]
  have hself : IsServedBy (lines ++ [n]) state n :=
    inl ⟨mem_append_right _ (mem_singleton_self n), hserves⟩
  have hother : ∀ m : Fin 8, m ≠ n →
      (IsServedBy (lines ++ [n]) state m ↔ IsServedBy lines state m) := by
    intro m hm
    rw [isServedBy_snoc]
    refine or_iff_left ?_
    rintro (⟨hself, -⟩ | ⟨-, hzero, hcopied⟩)
    · exact hm hself
    · exact hcopying ⟨hzero, hcopied.2⟩
  refine ⟨?_, ?_, ?_, fun m => ?_, fun m => ?_, fun controller => ?_, ?_⟩
  · rw [hstate]
    exact h.command
  · rw [hstate]
    exact h.flipFlop
  · rw [hstate]
    exact h.sparePage
  · rw [hstate]
    change (served.1.setChannel n _).channels m = _
    by_cases hm : m = n
    · rw [hm, setChannel_self, if_pos hself, hchannel]
      unfold servedChannel
      rw [if_neg fun hzero => hcopying ⟨hzero.1, hzero.2.2⟩]
    · rw [setChannel_of_ne _ hm, h.channels, if_congr (hother m hm) rfl rfl]
  · rw [hstate]
    unfold afterBlock
    by_cases hm : m = n
    · rw [hm, setRequest_self, clear_line, if_pos rfl, if_pos hself]
    · rw [if_congr (hother m hm) rfl rfl, ← h.request]
      by_cases hsame : controllerOf m = controllerOf n
      · rw [hsame, setRequest_self, clear_line,
          if_neg fun hline => hm ((lineBit_eq_iff hsame).mp hline)]
      · rw [setRequest_of_ne _ hsame, setChannel_request]
  · rw [hstate, ← h.high]
    unfold afterBlock
    by_cases hsame : controller = controllerOf n
    · rw [hsame, setRequest_self, clear_line_high]
    · rw [setRequest_of_ne _ hsame, setChannel_request]
  · rw [dmaSoftwareBlock_bytes _ _ _ (currentCount_lt_max _), blockBytes_congr hchannel, h.memory,
      foldl_append, foldl_cons, foldl_nil]
    unfold serveBytes
    rw [if_pos hserves, if_neg hcopying]

theorem ServedLines.copy (h0 : (0 : Fin 8) ∉ lines) (h1 : (1 : Fin 8) ∉ lines)
    (hcopied : CopyServed state) :
    ServedLines state bytes (lines ++ [0]) (dmaMemoryToMemory served.1 served.2) := by
  have hchannel0 : served.1.channels 0 = state.channels 0 :=
    h.channel_eq h0 fun hone => absurd hone (by decide)
  have hchannel1 : served.1.channels 1 = state.channels 1 :=
    h.channel_eq h1 fun _ hmem => absurd hmem h0
  have hcopied0 : copiedChannel0 served.1 ((state.channels 1).currentCount.toNat + 1) =
      servedChannel state 0 := by
    unfold servedChannel
    rw [if_pos ⟨rfl, hcopied⟩]
    unfold copiedChannel0
    rw [h.command, hchannel0]
  obtain ⟨hcommand, hflipFlop, hsparePage, hrequest1, hrequest0, hfirst, hsecond, hothers⟩ :=
    dmaMemoryToMemory_registers served.1 served.2
  rw [hchannel1] at hfirst hsecond
  have hserved0 : IsServedBy (lines ++ [0]) state 0 :=
    inl ⟨mem_append_right _ (mem_singleton_self _), hcopied.1⟩
  have hserved1 : IsServedBy (lines ++ [0]) state 1 :=
    inr ⟨rfl, mem_append_right _ (mem_singleton_self _), hcopied⟩
  have hother : ∀ m : Fin 8, m ≠ 0 → m ≠ 1 →
      (IsServedBy (lines ++ [0]) state m ↔ IsServedBy lines state m) := by
    intro m hm0 hm1
    rw [isServedBy_snoc]
    refine or_iff_left ?_
    rintro (⟨hzero, -⟩ | ⟨hone, -⟩)
    · exact hm0 hzero
    · exact hm1 hone
  refine ⟨hcommand.trans h.command, hflipFlop.trans h.flipFlop, hsparePage.trans h.sparePage,
    fun m => ?_, fun m => ?_, fun controller => ?_, ?_⟩
  · by_cases hm0 : m = 0
    · rw [hm0, hfirst, hcopied0, if_pos hserved0]
    · by_cases hm1 : m = 1
      · rw [hm1, hsecond, if_pos hserved1]
        unfold servedChannel
        rw [if_neg fun hzero => absurd hzero.1 (by decide)]
      · rw [hothers m hm0 hm1, h.channels, if_congr (hother m hm0 hm1) rfl rfl]
  · by_cases hcontroller : controllerOf m = 0
    · rw [hcontroller, hrequest0, clear_copy_lines]
      have hlow : m.val / 4 = 0 := congrArg Fin.val hcontroller
      by_cases hm0 : m = 0
      · rw [hm0, if_pos hserved0]
        rfl
      · by_cases hm1 : m = 1
        · rw [hm1, if_pos hserved1]
          rfl
        · have hline : ¬m.val % 4 ≤ 1 := by
            rw [Fin.ext_iff] at hm0 hm1
            lia
          rw [if_neg hline, if_congr (hother m hm0 hm1) rfl rfl, ← hcontroller, h.request]
    · have hcontroller1 : controllerOf m = 1 := by
        revert hcontroller
        generalize controllerOf m = controller
        revert controller
        decide
      have hm0 : m ≠ 0 := fun hm => hcontroller (hm ▸ rfl)
      have hm1 : m ≠ 1 := fun hm => hcontroller (hm ▸ rfl)
      rw [if_congr (hother m hm0 hm1) rfl rfl, ← h.request, hcontroller1, hrequest1]
  · rw [← h.high]
    have hside : ∀ side : Fin 2, side = 0 ∨ side = 1 := by decide
    rcases hside controller with rfl | rfl
    · rw [hrequest0, clear_copy_lines_high]
    · rw [hrequest1]
  · have hbytes : (dmaMemoryToMemory served.1 served.2).2.bytes =
        copyBytes served.1 served.2.bytes :=
      dmaCopyLoop_bytes _ _ _ (currentCount_lt_max _)
    rw [hbytes, copyBytes_congr h.command hchannel0 hchannel1, h.memory, foldl_append,
      foldl_cons, foldl_nil]
    unfold serveBytes
    rw [if_pos hcopied.1, if_pos ⟨rfl, hcopied.2⟩]

theorem ServedLines.line (hn : n ∉ lines) (horder : n = 0 → (1 : Fin 8) ∉ lines)
    (hconnected : IsConnected state (controllerOf n)) :
    ServedLines state bytes (lines ++ [n]) (dmaServiceLine n served.1 served.2) := by
  rw [dmaServiceLine_eq _ ((h.isConnected_iff _).mpr hconnected),
    if_congr (h.isServable_iff hn) rfl rfl,
    if_congr (and_congr_right fun _ => h.isCopying_iff) rfl rfl]
  by_cases hserves : IsServable state n
  · rw [if_pos hserves]
    by_cases hcopying : n = 0 ∧ IsCopying state
    · rw [if_pos hcopying]
      obtain ⟨rfl, hcopying⟩ := hcopying
      exact h.copy hn (horder rfl) ⟨hserves, hcopying⟩
    · rw [if_neg hcopying]
      exact h.block hn hserves hcopying
  · rw [if_neg hserves]
    exact h.skip hserves

omit h

theorem servedLines_nil (state : DmaState) (memory : LinearMemory) :
    ServedLines state memory.bytes [] (state, memory) := by
  have hnone : ∀ m, ¬IsServedBy [] state m := by
    rintro m (⟨hmem, -⟩ | ⟨-, hmem, -⟩) <;> exact absurd hmem not_mem_nil
  exact ⟨rfl, rfl, rfl, fun m => (if_neg (hnone m)).symm, fun m => (if_neg (hnone m)).symm,
    fun _ => rfl, rfl⟩

theorem ServedLines.skipAll (rest : List (Fin 8)) (h : ServedLines state bytes lines served)
    (hrest : ∀ m ∈ rest, ¬IsServable state m) :
    ServedLines state bytes (lines ++ rest) served := by
  induction rest generalizing lines with
  | nil => rwa [append_nil]
  | cons m rest ih =>
    rw [append_cons]
    exact ih (h.skip (hrest m mem_cons_self))
      fun other hother => hrest other (mem_cons_of_mem _ hother)

theorem ServedLines.serveAll (rest : List (Fin 8)) (h : ServedLines state bytes lines served)
    (hsorted : (lines ++ rest).Pairwise (· < ·))
    (hconnected : ∀ m ∈ rest, IsConnected state (controllerOf m)) :
    ServedLines state bytes (lines ++ rest)
      (rest.foldl (fun served n => dmaServiceLine n served.1 served.2) served) := by
  induction rest generalizing lines served with
  | nil => rwa [append_nil]
  | cons m rest ih =>
    have hbefore : ∀ earlier ∈ lines, earlier < m := fun earlier hmem =>
      (pairwise_append.mp hsorted).2.2 earlier hmem m mem_cons_self
    have hline := h.line (fun hmem => lt_irrefl m (hbefore m hmem))
      (fun hzero hmem => absurd (hzero ▸ hbefore 1 hmem) (by decide))
      (hconnected m mem_cons_self)
    rw [append_cons] at hsorted ⊢
    rw [foldl_cons]
    exact ih hline hsorted fun other hother => hconnected other (mem_cons_of_mem _ hother)

theorem ServedLines.controller (h : ServedLines state bytes lines served) (controller : Fin 2)
    (hsorted : (lines ++ linesOf controller).Pairwise (· < ·)) :
    ServedLines state bytes (lines ++ linesOf controller)
      (dmaServiceController controller served.1 served.2) := by
  by_cases hconnected : IsConnected state controller
  · have hconnected' := (h.isConnected_iff controller).mpr hconnected
    by_cases hrequest : served.1.request controller = 0
    · have hidle : dmaServiceController controller served.1 served.2 = served := by
        unfold dmaServiceController
        rw [if_pos hrequest]
      rw [hidle]
      refine h.skipAll _ fun m hm hserves => ?_
      have hfresh : m ∉ lines := fun hmem =>
        lt_irrefl m ((pairwise_append.mp hsorted).2.2 m hmem m hm)
      have hline := ((h.isServable_iff hfresh).mpr hserves).1
      unfold isRequested at hline
      rw [controllerOf_of_mem hm, hrequest] at hline
      exact hline (UInt8.zero_and)
    · rw [dmaServiceController_connected _ hconnected' hrequest]
      exact h.serveAll _ hsorted fun m hm => by rwa [controllerOf_of_mem hm]
  · rw [dmaServiceController_skip _ fun hserved => hconnected ((h.isConnected_iff _).mp hserved)]
    refine h.skipAll _ fun m hm hserves => hconnected ?_
    rw [← controllerOf_of_mem hm]
    exact hserves.2.1

theorem dmaSoftwareService_lines (state : DmaState) (memory : LinearMemory) :
    ServedLines state memory.bytes (finRange 8) (dmaSoftwareService state memory) :=
  ((servedLines_nil state memory).controller 0 (by decide)).controller 1 (by decide)

theorem ServedLines.none_left (h : ServedLines state bytes (finRange 8) served) (m : Fin 8) :
    ¬IsServable served.1 m := by
  intro hserves
  have hrequested : served.1.request (controllerOf m) &&& lineBit m ≠ 0 := hserves.1
  have hnot : ¬IsServedBy (finRange 8) state m := by
    intro hserved
    rw [h.request, if_pos hserved] at hrequested
    exact hrequested rfl
  rw [h.request, if_neg hnot] at hrequested
  have hmode := hserves.2.2.2.1
  rw [h.channels, if_neg hnot] at hmode
  refine hnot (inl ⟨mem_finRange m, hrequested, (h.isConnected_iff _).mp hserves.2.1,
    hserves.2.2.1, hmode, fun hone => hserves.2.2.2.2 ⟨hone.1, h.isCopying_iff.mpr hone.2⟩⟩)

theorem dmaServiceController_idle (memory : LinearMemory) (hnone : ∀ m, ¬IsServable s m)
    (controller : Fin 2) : dmaServiceController controller s memory = (s, memory) := by
  by_cases hconnected : IsConnected s controller
  · by_cases hrequest : s.request controller = 0
    · unfold dmaServiceController
      rw [if_pos hrequest]
    · rw [dmaServiceController_connected _ hconnected hrequest]
      have hlines : ∀ m ∈ linesOf controller, dmaServiceLine m s memory = (s, memory) := by
        intro m hm
        rw [dmaServiceLine_eq _ (by rwa [controllerOf_of_mem hm]), if_neg (hnone m)]
      revert hlines
      generalize linesOf controller = rest
      intro hlines
      induction rest with
      | nil => rfl
      | cons m rest ih =>
        rw [foldl_cons, hlines m mem_cons_self]
        exact ih fun other hother => hlines other (mem_cons_of_mem _ hother)
  · exact dmaServiceController_skip _ hconnected

theorem dmaSoftwareService_idle (memory : LinearMemory) (hnone : ∀ m, ¬IsServable s m)
    : dmaSoftwareService s memory = (s, memory) := by
  unfold dmaSoftwareService
  rw [dmaServiceController_idle memory hnone 0]
  exact dmaServiceController_idle memory hnone 1

/-- One service meets every request that can be met: the channels it serves have moved their
count and one unit more, their bits are cleared, nothing else has changed, and there is nothing
left for a second one. -/
theorem software_requests_are_served_once (state : DmaState) (memory : LinearMemory) :
    let served := dmaSoftwareService state memory
    (∀ m, IsServable state m ∨ m = 1 ∧ CopyServed state →
      served.1.request (controllerOf m) &&& lineBit m = 0 ∧
        served.1.channels m = servedChannel state m) ∧
    (∀ m, ¬IsServable state m → ¬(m = 1 ∧ CopyServed state) →
      served.1.request (controllerOf m) &&& lineBit m =
          state.request (controllerOf m) &&& lineBit m ∧
        served.1.channels m = state.channels m) ∧
    served.2.bytes = (List.finRange 8).foldl (serveBytes state) memory.bytes ∧
    (CopyServed state → ¬state.command 0 &&& dmaCommandAddressHold = 0 → ∀ bytes,
      serveBytes state bytes 0 =
        (List.range ((state.channels 1).currentCount.toNat + 1)).foldl
          (fun written i => limitedStore written (currentUnit state 1 i)
            (limitedLoad bytes (currentUnit state 0 0))) bytes) ∧
    (∀ m, ¬IsServable served.1 m) ∧
    dmaSoftwareService served.1 served.2 = served := by
  have hlines := dmaSoftwareService_lines state memory
  have hserved : ∀ m, IsServedBy (List.finRange 8) state m ↔
      IsServable state m ∨ m = 1 ∧ CopyServed state := by
    intro m
    unfold IsServedBy
    simp only [mem_finRange, true_and]
  refine ⟨fun m hm => ?_, fun m hservable hcopied => ?_, hlines.memory,
    fun hcopied hheld bytes => ?_, hlines.none_left, dmaSoftwareService_idle _ hlines.none_left⟩
  · rw [hlines.request, hlines.channels, if_pos ((hserved m).mpr hm), if_pos ((hserved m).mpr hm)]
    exact ⟨rfl, rfl⟩
  · have hnot : ¬IsServedBy (List.finRange 8) state m := fun h =>
      ((hserved m).mp h).elim hservable hcopied
    rw [hlines.request, hlines.channels, if_neg hnot, if_neg hnot]
    exact ⟨rfl, rfl⟩
  · unfold serveBytes
    rw [if_pos hcopied.1, if_pos ⟨rfl, hcopied.2⟩]
    exact copyBytes_held hheld bytes

def bothRequested : DmaState where
  channels _ :=
    { baseAddress := 0
      currentAddress := 0
      baseCount := 0
      currentCount := 0
      page := 1
      mode := 0x40
      isMasked := false
      isTerminalCount := false }
  flipFlop _ := false
  sparePage _ := 0
  command controller := if controller = 0 then dmaCommandMemoryToMemory else 0
  request controller := if controller = 0 then 0x03 else 0
  temporary _ := 0

theorem copy_clears_both_requests :
    ¬∀ (state : DmaState) (memory : LinearMemory) (m : Fin 8), ¬IsServable state m →
      (dmaSoftwareService state memory).1.request (controllerOf m) &&& lineBit m =
        state.request (controllerOf m) &&& lineBit m := by
  intro h
  have hkept := h bothRequested (untouched fun _ => 0) 1 (by decide)
  exact absurd hkept (by decide)

end Ntvdmex.Vdd.Dma
