import Ntvdmex.Dos.Proofs.FatImg.Lookup

/-!
# Resolving a path

The components are a stack whose text is kept in the buffer, joined by separators.  A component is
pushed in upper case, `.` is left out, and `..` takes the last one off.  Where the text of every
stack on the way is shorter than the capacity the result is the text of the last one.
-/

namespace Ntvdmex.Dos.FatImg

open Foundation List Option Or

/-! ## The stack machine -/

def pushComponent (stack : List (List UInt8)) (component : List UInt8) : List (List UInt8) :=
  if component = [0x2E] then stack
  else if component = [0x2E, 0x2E] then stack.dropLast
  else stack ++ [component.map upperCase]

/-- The components joined by backslashes. -/
def stackText (stack : List (List UInt8)) : List UInt8 :=
  [fatPathSeparator].intercalate stack

def IsRooted (path : CString) : Prop :=
  path.bytes.head?.any isPathSeparator = true
deriving Decidable

/-- An upper-case component that is neither `.` nor `..`. -/
structure NormalComponent (component : List UInt8) : Prop where
  ne_nil : component ≠ []
  ne_dot : component ≠ [0x2E]
  ne_dots : component ≠ [0x2E, 0x2E]
  plain : ∀ c ∈ component, isPathSeparator c = false
  upper : component.map upperCase = component

/-- The stack a path starts from: the root, or the components of the current directory. -/
noncomputable def startStack (current path : CString) : List (List UInt8) :=
  if IsRooted path then [] else linesOf isPathSeparator current.bytes

/-- The stacks on the way, the first and the last one with them. -/
noncomputable def resolveStacks (current path : CString) : List (List (List UInt8)) :=
  (linesOf isPathSeparator path.bytes).scanl pushComponent (startStack current path)

noncomputable def resolvedStack (current path : CString) : List (List UInt8) :=
  (linesOf isPathSeparator path.bytes).foldl pushComponent (startStack current path)

/-! ## The text of a stack -/

section Text

@[simp] theorem stackText_nil : stackText [] = [] := rfl

theorem stackText_concat (stack : List (List UInt8)) (component : List UInt8) :
    stackText (stack ++ [component]) =
      if stack = [] then component else stackText stack ++ fatPathSeparator :: component := by
  unfold stackText
  induction stack with
  | nil => simp
  | cons first stack ih =>
    cases stack with
    | nil => simp
    | cons second stack =>
      rw [if_neg (by simp)] at ih ⊢
      rw [cons_append, cons_append, intercalate_cons_cons,
        intercalate_cons_cons, ← cons_append, ih]
      simp

/-- The components of a stack hold no separator and are not empty. -/
def PlainStack (stack : List (List UInt8)) : Prop :=
  ∀ component ∈ stack, component ≠ [] ∧ ∀ c ∈ component, isPathSeparator c = false

theorem PlainStack.tail {first : List UInt8} {stack : List (List UInt8)}
    (h : PlainStack (first :: stack)) : PlainStack stack :=
  fun component hmem => h component (mem_cons_of_mem first hmem)

theorem stackText_eq_nil_iff {stack : List (List UInt8)} (hplain : PlainStack stack) :
    stackText stack = [] ↔ stack = [] := by
  constructor
  · intro htext
    cases stack with
    | nil => rfl
    | cons first stack =>
      have hne := (hplain first mem_cons_self).1
      cases stack with
      | nil =>
        rw [stackText, intercalate_singleton] at htext
        exact absurd htext hne
      | cons second stack =>
        rw [stackText, intercalate_cons_cons] at htext
        simp at htext
  · intro hstack
    rw [hstack, stackText_nil]

theorem linesOf_stackText {stack : List (List UInt8)} (hplain : PlainStack stack) :
    linesOf isPathSeparator (stackText stack) = stack := by
  unfold stackText
  induction stack with
  | nil => simp
  | cons first stack ih =>
    have hfirst := hplain first mem_cons_self
    cases stack with
    | nil =>
      rw [intercalate_singleton]
      exact linesOf_plain hfirst.2 hfirst.1
    | cons second stack =>
      have hrest := ih hplain.tail
      have hseparator : ∀ c ∈ (fatPathSeparator ::
          [fatPathSeparator].intercalate (second :: stack)).head?, isPathSeparator c = true := by
        simp [isPathSeparator, fatPathSeparator]
      have hline := linesOf_append isPathSeparator hfirst.2 hfirst.1 hseparator
      rw [linesOf_separator isPathSeparator (by decide), hrest] at hline
      simpa using hline

theorem length_stackText_dropLast (stack : List (List UInt8)) :
    (stackText stack.dropLast).length ≤ (stackText stack).length := by
  induction stack using reverseRecOn with
  | nil => exact le_rfl
  | append_singleton front component =>
    rw [dropLast_concat, stackText_concat]
    by_cases hfront : front = []
    · simp [hfront]
    · simp [hfront]

theorem length_stackText_concat (stack : List (List UInt8)) (component : List UInt8) :
    (stackText stack).length ≤ (stackText (stack ++ [component])).length := by
  rw [stackText_concat]
  by_cases hnil : stack = []
  · simp [hnil]
  · simp [hnil]

end Text

/-! ## The buffer -/

section Buffer

variable {resolved : FatResolved} {capacity : Nat} {text : List UInt8}

/-- The buffer of the capacity begins with the text. -/
structure HoldsText (resolved : FatResolved) (capacity : Nat) (text : List UInt8) : Prop where
  size_eq : resolved.bytes.size = capacity
  length_eq : resolved.length = text.length
  startsWith : resolved.bytes.StartsWith text

/-- The text in the buffer is closed by a NUL. -/
structure HoldsString (resolved : FatResolved) (capacity : Nat) (text : List UInt8) : Prop where
  size_eq : resolved.bytes.size = capacity
  length_eq : resolved.length = text.length
  startsWith : resolved.bytes.StartsWith (text ++ [0])

theorem HoldsString.holdsText (h : HoldsString resolved capacity text) :
    HoldsText resolved capacity text where
  size_eq := h.size_eq
  length_eq := h.length_eq
  startsWith := h.startsWith.of_append

theorem HoldsString.length_lt (h : HoldsString resolved capacity text) :
    text.length < capacity := by
  have hle := h.startsWith.length_le
  rw [length_append, length_singleton, h.size_eq] at hle
  omega

section

variable (h : HoldsText resolved capacity text) (hroom : text.length < capacity)

include h hroom

theorem HoldsText.write (c : UInt8) :
    ∃ bytes, resolved.bytes.write resolved.length c = some bytes ∧
      bytes.size = capacity ∧ bytes.StartsWith (text ++ [c]) := by
  have hsize : text.length < resolved.bytes.size := by
    rw [h.size_eq]
    exact hroom
  rw [h.length_eq]
  exact ⟨_, SizedBytes.write_eq hsize, h.size_eq, h.startsWith.store hsize c⟩

theorem HoldsText.append (c : UInt8) :
    ∃ bytes, resolved.bytes.write resolved.length c = some bytes ∧
      HoldsText { bytes, length := resolved.length + 1 } capacity (text ++ [c]) := by
  obtain ⟨bytes, hwrite, hsize, hstarts⟩ := h.write hroom c
  refine ⟨bytes, hwrite, hsize, ?_, hstarts⟩
  rw [length_append, length_singleton, h.length_eq]

theorem HoldsText.terminate :
    ∃ bytes, resolved.bytes.write resolved.length 0 = some bytes ∧
      HoldsString { resolved with bytes } capacity text := by
  obtain ⟨bytes, hwrite, hsize, hstarts⟩ := h.write hroom 0
  exact ⟨bytes, hwrite, hsize, h.length_eq, hstarts⟩

end

theorem HoldsText.appendUpperCase_eq (h : HoldsText resolved capacity text)
    (component : List UInt8) (hroom : text.length + component.length < capacity) :
    ∃ after, appendUpperCase component resolved = some after ∧
      HoldsText after capacity (text ++ component.map upperCase) := by
  induction component generalizing resolved text with
  | nil => exact ⟨resolved, rfl, by simpa using h⟩
  | cons c component ih =>
    rw [length_cons] at hroom
    obtain ⟨bytes, hwrite, hnext⟩ := h.append (by lia) (upperCase c)
    have hmore : (text ++ [upperCase c]).length + component.length < capacity := by
      rw [length_append, length_singleton]
      lia
    obtain ⟨after, hafter, hlast⟩ := ih hnext hmore
    refine ⟨after, ?_, by simpa using hlast⟩
    rw [appendUpperCase, hwrite]
    exact hafter

/-- Behind the last separator of the text the component begins. -/
theorem scanSeparator_eq {bytes : SizedBytes} {before component : List UInt8}
    (hstarts : bytes.StartsWith (before ++ component))
    (hplain : ∀ c ∈ component, c ≠ fatPathSeparator)
    (hbefore : ∀ c ∈ before.getLast?, c = fatPathSeparator) :
    scanSeparator bytes (before ++ component).length = some before.length := by
  induction component using reverseRecOn with
  | nil =>
    rw [append_nil] at hstarts ⊢
    cases hlast : before.getLast? with
    | none =>
      rw [getLast?_eq_none_iff.mp hlast]
      rfl
    | some last =>
      obtain ⟨front, rfl⟩ := getLast?_eq_some_iff.mp hlast
      have hsame : last = fatPathSeparator := hbefore last (by simp)
      have hread : bytes.read front.length = some last := hstarts.read_eq (by simp)
      rw [length_append, length_singleton, scanSeparator, hread]
      dsimp only [bind_eq_bind, bind_some]
      rw [if_neg (not_not.mpr hsame)]
  | append_singleton component c ih =>
    have hread : bytes.read (before ++ component).length = some c :=
      hstarts.read_eq (by rw [← append_assoc]; simp)
    rw [← append_assoc] at hstarts ⊢
    rw [length_append, length_singleton, scanSeparator, hread]
    dsimp only [bind_eq_bind, bind_some]
    rw [if_pos (hplain c (by simp))]
    exact ih hstarts.of_append fun d hd => hplain d (by simp [hd])

end Buffer

/-! ## One component -/

section Component

variable {resolved : FatResolved} {capacity : Nat} {stack : List (List UInt8)}

/-- The buffer holds the text of a stack of components. -/
structure HoldsStack (resolved : FatResolved) (capacity : Nat) (stack : List (List UInt8)) :
    Prop where
  text : HoldsString resolved capacity (stackText stack)
  plain : PlainStack stack

theorem HoldsStack.length_ne_zero_iff (h : HoldsStack resolved capacity stack) :
    resolved.length ≠ 0 ↔ stack ≠ [] := by
  rw [h.text.length_eq, ne_eq, length_eq_zero_iff, stackText_eq_nil_iff h.plain]

theorem PlainStack.pushComponent (hplain : PlainStack stack) {component : List UInt8}
    (hne : component ≠ []) (hcomponent : ∀ c ∈ component, isPathSeparator c = false) :
    PlainStack (pushComponent stack component) := by
  unfold FatImg.pushComponent
  split_ifs
  · exact hplain
  · exact fun other hmem => hplain other (dropLast_subset stack hmem)
  · intro other hmem
    rcases mem_append.mp hmem with hmem | hmem
    · exact hplain other hmem
    · rw [mem_singleton.mp hmem]
      refine ⟨fun hnil => hne (map_eq_nil_iff.mp hnil), fun c hc => ?_⟩
      obtain ⟨d, hd, rfl⟩ := mem_map.mp hc
      rw [isPathSeparator_upperCase]
      exact hcomponent d hd

theorem ne_fatPathSeparator {c : UInt8} (hc : isPathSeparator c = false) : c ≠ fatPathSeparator := by
  intro heq
  rw [heq] at hc
  cases hc

section

variable (h : HoldsStack resolved capacity stack)

include h

/-- A level up is the last component taken off. -/
theorem HoldsStack.scan_eq :
    ∃ start, scanSeparator resolved.bytes resolved.length = some start ∧
      (if 0 < start then start - 1 else start) = (stackText stack.dropLast).length ∧
      HoldsText { resolved with length := (stackText stack.dropLast).length } capacity
        (stackText stack.dropLast) := by
  have htext := h.text.holdsText
  rw [htext.length_eq]
  induction stack using reverseRecOn with
  | nil => exact ⟨0, rfl, rfl, htext.size_eq, rfl, htext.startsWith⟩
  | append_singleton front component =>
    have hcomponent := h.plain component (by simp)
    have hplain : ∀ c ∈ component, c ≠ fatPathSeparator := fun c hc =>
      ne_fatPathSeparator (hcomponent.2 c hc)
    have hstarts := htext.startsWith
    rw [dropLast_concat]
    rw [stackText_concat] at hstarts ⊢
    by_cases hfront : front = []
    · rw [if_pos hfront] at hstarts ⊢
      rw [hfront, stackText_nil]
      have hscan := @scanSeparator_eq _ [] component hstarts hplain (by simp)
      exact ⟨0, hscan, rfl, htext.size_eq, rfl, SizedBytes.startsWith_nil _⟩
    · rw [if_neg hfront] at hstarts ⊢
      have hsplit : stackText front ++ fatPathSeparator :: component =
          (stackText front ++ [fatPathSeparator]) ++ component := by simp
      rw [hsplit] at hstarts ⊢
      have hscan := scanSeparator_eq hstarts hplain (by simp)
      refine ⟨_, hscan, by simp, htext.size_eq, rfl, ?_⟩
      exact hstarts.of_append.of_append

theorem HoldsStack.fits (component : List UInt8) :
    (capacity : Int) ≤
      ((resolved.length + (if resolved.length ≠ 0 then 1 else 0) + component.length : Nat) : Int) ↔
      ¬ (stackText (stack ++ [component.map upperCase])).length < capacity := by
  have hempty := h.length_ne_zero_iff
  rw [stackText_concat]
  rw [h.text.length_eq] at hempty ⊢
  by_cases hstack : stack = []
  · rw [if_pos hstack, if_neg (hempty.not.mpr (not_not.mpr hstack)), length_map, hstack,
      stackText_nil, length_nil]
    omega
  · rw [if_neg hstack, if_pos (hempty.mpr hstack), length_append, length_cons,
      length_map]
    omega

variable {component : List UInt8}

theorem HoldsStack.appendSeparator_eq
    (hroom : (stackText (stack ++ [component.map upperCase])).length < capacity) :
    ∃ after text, appendSeparator resolved = some after ∧ HoldsText after capacity text ∧
      text ++ component.map upperCase = stackText (stack ++ [component.map upperCase]) := by
  have htext := h.text.holdsText
  rw [stackText_concat] at hroom ⊢
  unfold appendSeparator
  by_cases hstack : stack = []
  · have hzero : resolved.length = 0 := by
      rw [htext.length_eq, hstack]
      rfl
    rw [if_pos hstack, if_neg (not_not.mpr hzero)]
    refine ⟨resolved, stackText stack, rfl, htext, ?_⟩
    rw [hstack, stackText_nil, nil_append]
  · have hpos : resolved.length ≠ 0 := h.length_ne_zero_iff.mpr hstack
    rw [if_neg hstack, length_append, length_cons] at hroom
    obtain ⟨bytes, hwrite, hnext⟩ := htext.append (by omega) fatPathSeparator
    rw [if_pos hpos, hwrite, if_neg hstack]
    exact ⟨_, _, rfl, hnext, by simp⟩

theorem HoldsStack.fatResolveComponent_eq (hne : component ≠ [])
    (hplain : ∀ c ∈ component, isPathSeparator c = false)
    (hfits : (stackText (pushComponent stack component)).length < capacity) :
    ∃ after, fatResolveComponent capacity component resolved = some (true, after) ∧
      HoldsStack after capacity (pushComponent stack component) := by
  have hpushed := h.plain.pushComponent hne hplain
  unfold fatResolveComponent
  unfold pushComponent at hfits hpushed ⊢
  by_cases hdot : component = [0x2E]
  · rw [if_pos hdot] at hfits hpushed ⊢
    rw [if_pos hdot]
    exact ⟨resolved, rfl, h⟩
  · rw [if_neg hdot] at hfits hpushed ⊢
    rw [if_neg hdot]
    by_cases hdots : component = [0x2E, 0x2E]
    · rw [if_pos hdots] at hfits hpushed ⊢
      rw [if_pos hdots]
      obtain ⟨start, hscan, hlength, htext⟩ := h.scan_eq
      obtain ⟨bytes, hwrite, hstring⟩ := htext.terminate hfits
      rw [hscan]
      dsimp only [bind_eq_bind, bind_some] at hwrite ⊢
      rw [hlength, hwrite]
      exact ⟨_, rfl, hstring, hpushed⟩
    · rw [if_neg hdots] at hfits hpushed ⊢
      rw [if_neg hdots, if_neg ((h.fits component).not.mpr (not_not.mpr hfits))]
      obtain ⟨separated, text, hseparated, htext, hjoined⟩ := h.appendSeparator_eq hfits
      rw [← hjoined, length_append, length_map] at hfits
      obtain ⟨appended, hadded, hlast⟩ := htext.appendUpperCase_eq component hfits
      have hroom : (text ++ component.map upperCase).length < capacity := by
        rw [length_append, length_map]
        exact hfits
      obtain ⟨bytes, hwrite, hstring⟩ := hlast.terminate hroom
      rw [hseparated]
      dsimp only [bind_eq_bind, bind_some]
      rw [hadded]
      dsimp only [bind_some]
      rw [hwrite]
      refine ⟨_, rfl, ?_, hpushed⟩
      rw [← hjoined]
      exact hstring

theorem HoldsStack.fatResolveComponent_full
    (hfull : ¬ (stackText (pushComponent stack component)).length < capacity) :
    fatResolveComponent capacity component resolved = some (false, resolved) := by
  have hroom := h.text.length_lt
  unfold pushComponent at hfull
  unfold fatResolveComponent
  by_cases hdot : component = [0x2E]
  · rw [if_pos hdot] at hfull
    exact absurd hroom hfull
  · rw [if_neg hdot] at hfull ⊢
    by_cases hdots : component = [0x2E, 0x2E]
    · rw [if_pos hdots] at hfull
      obtain ⟨_, -, -, htext⟩ := h.scan_eq
      have hshorter : (stackText stack.dropLast).length ≤ (stackText stack).length :=
        length_stackText_dropLast stack
      omega
    · rw [if_neg hdots] at hfull ⊢
      rw [if_pos ((h.fits component).mpr hfull)]

end

end Component

section Append

variable {resolved : FatResolved} {capacity : Nat} {stack : List (List UInt8)}

theorem linesOf_drop_separator (path : List UInt8) :
    linesOf isPathSeparator (path.dropWhile fun c => !isPathSeparator c).tail =
      linesOf isPathSeparator (path.dropWhile fun c => !isPathSeparator c) := by
  cases hrest : path.dropWhile fun c => !isPathSeparator c with
  | nil => rfl
  | cons c rest =>
    have hstops := head?_dropWhile_not (fun c => !isPathSeparator c) path
    rw [hrest] at hstops
    have hc : isPathSeparator c = true := by simpa using hstops
    rw [linesOf_separator isPathSeparator hc, tail_cons]

theorem head_mem_scanl {α β : Type} (f : β → α → β) (b : β) (xs : List α) :
    b ∈ xs.scanl f b := by
  cases xs with
  | nil => simp
  | cons x xs => simp

theorem foldl_mem_scanl {α β : Type} (f : β → α → β) (b : β) (xs : List α) :
    xs.foldl f b ∈ xs.scanl f b := by
  induction xs generalizing b with
  | nil => simp
  | cons x xs ih =>
    rw [foldl_cons, scanl_cons]
    exact mem_cons_of_mem b (ih (f b x))

def StacksFit (capacity : Nat) (passed : List (List (List UInt8))) : Prop :=
  ∀ stack ∈ passed, (stackText stack).length < capacity

theorem HoldsStack.fatResolveAppend_eq (h : HoldsStack resolved capacity stack)
    (path : List UInt8) :
    ∃ fits after last, fatResolveAppend capacity path resolved = some (fits, after) ∧
      HoldsStack after capacity last ∧
      (fits = true ↔
        StacksFit capacity ((linesOf isPathSeparator path).scanl pushComponent stack)) ∧
      (fits = true → last = (linesOf isPathSeparator path).foldl pushComponent stack) := by
  induction path, resolved using fatResolveAppend.induct generalizing stack with
  | case1 resolved =>
    refine ⟨true, resolved, stack, by rw [fatResolveAppend], h, ?_, fun _ => by simp⟩
    have hfirst := h.text.length_lt
    simpa [StacksFit] using hfirst
  | case2 c path resolved component rest hcomponent =>
    rename_i ih
    have hc : isPathSeparator c = true := by
      by_contra hc
      simp [component, hc] at hcomponent
    have hlines : linesOf isPathSeparator rest = linesOf isPathSeparator (c :: path) := by
      simp [rest, hc, linesOf_separator]
    obtain ⟨fits, after, last, hresult, hlast⟩ := ih h
    rw [← hlines]
    refine ⟨fits, after, last, ?_, hlast⟩
    rw [fatResolveAppend, if_pos hcomponent]
    exact hresult
  | case3 c path resolved component rest hcomponent =>
    rename_i ih
    have hc : ¬ isPathSeparator c = true := by
      intro hc
      simp [component, hc] at hcomponent
    have hplain : ∀ d ∈ component, isPathSeparator d = false := by
      intro d hd
      simpa using mem_takeWhile_imp hd
    have hlines : linesOf isPathSeparator (c :: path) =
        component :: linesOf isPathSeparator rest := by
      rw [linesOf_component hc]
      simp [component, rest, hc, linesOf_drop_separator]
    have hhere := h.text.length_lt
    rw [hlines, scanl_cons, foldl_cons, fatResolveAppend,
      if_neg hcomponent]
    by_cases hfits : (stackText (pushComponent stack component)).length < capacity
    · obtain ⟨next, hnext, hholds⟩ := h.fatResolveComponent_eq hcomponent hplain hfits
      obtain ⟨fits, after, last, hresult, hlast, hiff, hstack⟩ := ih (true, next) hholds
      refine ⟨fits, after, last, ?_, hlast, ?_, hstack⟩
      · rw [hnext]
        exact hresult
      · rw [hiff]
        unfold StacksFit
        rw [forall_mem_cons]
        exact ⟨fun hrest => ⟨hhere, hrest⟩, fun hall => hall.2⟩
    · have hfull := h.fatResolveComponent_full hfits
      refine ⟨false, resolved, stack, ?_, h, ?_, (fun hfalse => by cases hfalse)⟩
      · rw [hfull]
        rfl
      · unfold StacksFit
        rw [forall_mem_cons]
        refine ⟨fun hfalse => ?_, fun hall => ?_⟩
        · cases hfalse
        · exact absurd (hall.2 _ (head_mem_scanl _ _ _)) hfits

end Append

/-! ## Normal paths -/

section Normal

def NormalStack (stack : List (List UInt8)) : Prop :=
  ∀ component ∈ stack, NormalComponent component

/-- Upper-case components joined by single backslashes, none of them `.` or `..`. -/
def NormalPath (path : List UInt8) : Prop :=
  ∃ stack, NormalStack stack ∧ path = stackText stack

theorem NormalStack.plain {stack : List (List UInt8)} (hnormal : NormalStack stack) :
    PlainStack stack :=
  fun component hmem => ⟨(hnormal component hmem).ne_nil, (hnormal component hmem).plain⟩

theorem NormalPath.linesOf_normal {path : List UInt8} (hpath : NormalPath path) :
    NormalStack (linesOf isPathSeparator path) ∧ stackText (linesOf isPathSeparator path) = path := by
  obtain ⟨stack, hnormal, rfl⟩ := hpath
  rw [linesOf_stackText hnormal.plain]
  exact ⟨hnormal, rfl⟩

variable {component : List UInt8}

theorem pushComponent_normal (stack : List (List UInt8)) (hnormal : NormalComponent component) :
    pushComponent stack component = stack ++ [component] := by
  rw [pushComponent, if_neg hnormal.ne_dot, if_neg hnormal.ne_dots, hnormal.upper]

theorem foldl_pushComponent_normal {stack : List (List UInt8)} (hnormal : NormalStack stack)
    (below : List (List UInt8)) : stack.foldl pushComponent below = below ++ stack := by
  induction stack generalizing below with
  | nil => simp
  | cons component stack ih =>
    have hrest : NormalStack stack := fun other hmem =>
      hnormal other (mem_cons_of_mem component hmem)
    rw [foldl_cons, pushComponent_normal below (hnormal component mem_cons_self),
      ih hrest, append_assoc, singleton_append]

theorem length_stackText_append (stack rest : List (List UInt8)) :
    (stackText stack).length ≤ (stackText (stack ++ rest)).length := by
  induction rest using reverseRecOn with
  | nil => rw [append_nil]
  | append_singleton rest component ih =>
    rw [← append_assoc]
    exact ih.trans (length_stackText_concat _ component)

theorem stacksFit_normal {stack : List (List UInt8)} (hnormal : NormalStack stack)
    {below : List (List UInt8)} {capacity : Nat}
    (hfits : (stackText (below ++ stack)).length < capacity) :
    StacksFit capacity (stack.scanl pushComponent below) := by
  induction stack generalizing below with
  | nil => simpa [StacksFit] using hfits
  | cons component stack ih =>
    have hrest : NormalStack stack := fun other hmem =>
      hnormal other (mem_cons_of_mem component hmem)
    have hpush := pushComponent_normal below (hnormal component mem_cons_self)
    rw [scanl_cons, hpush]
    unfold StacksFit
    rw [forall_mem_cons]
    refine ⟨(length_stackText_append below (component :: stack)).trans_lt hfits, ih hrest ?_⟩
    rwa [append_assoc, singleton_append]

theorem upperCase_idem (c : UInt8) : upperCase (upperCase c) = upperCase c := by
  revert c
  exact forall_byte (by decide)

theorem upperCase_eq_dot (c : UInt8) : upperCase c = 0x2E → c = 0x2E := by
  revert c
  exact forall_byte (by decide)

theorem upperCase_eq_dots {dots : List UInt8} (hdots : ∀ c ∈ dots, c = 0x2E)
    (heq : component.map upperCase = dots) : component = dots := by
  induction component generalizing dots with
  | nil => simpa using heq
  | cons c component ih =>
    cases dots with
    | nil => cases heq
    | cons d dots =>
      rw [map_cons] at heq
      have hhead : upperCase c = d := (cons.inj heq).1
      have htail := ih (fun e he => hdots e (mem_cons_of_mem d he)) (cons.inj heq).2
      have hd := hdots d mem_cons_self
      rw [hd] at hhead ⊢
      rw [upperCase_eq_dot c hhead, htail]

theorem NormalStack.pushComponent {stack : List (List UInt8)} (hnormal : NormalStack stack)
    (hne : component ≠ []) (hplain : ∀ c ∈ component, isPathSeparator c = false) :
    NormalStack (pushComponent stack component) := by
  unfold FatImg.pushComponent
  split_ifs with hdot hdots
  · exact hnormal
  · exact fun other hmem => hnormal other (dropLast_subset stack hmem)
  · intro other hmem
    rcases mem_append.mp hmem with hmem | hmem
    · exact hnormal other hmem
    · rw [mem_singleton.mp hmem]
      exact
        { ne_nil := fun hnil => hne (map_eq_nil_iff.mp hnil)
          ne_dot := fun heq => hdot (upperCase_eq_dots (by simp) heq)
          ne_dots := fun heq => hdots (upperCase_eq_dots (by simp) heq)
          plain := by
            intro c hc
            obtain ⟨d, hd, rfl⟩ := mem_map.mp hc
            rw [isPathSeparator_upperCase]
            exact hplain d hd
          upper := by
            rw [List.map_map]
            exact map_congr_left fun c _ => upperCase_idem c }

end Normal

/-! ## The whole resolution -/

section Resolution

theorem upperCase_eq_zero (c : UInt8) : upperCase c = 0 → c = 0 := by
  revert c
  exact forall_byte (by decide)

theorem mem_foldl_pushComponent {components below : List (List UInt8)} {component : List UInt8}
    (hmem : component ∈ components.foldl pushComponent below) :
    component ∈ below ∨ ∃ pushed ∈ components, component = pushed.map upperCase := by
  induction components generalizing below with
  | nil => exact inl hmem
  | cons first components ih =>
    rw [foldl_cons] at hmem
    rcases ih hmem with hpushed | ⟨pushed, hpushed, heq⟩
    · unfold pushComponent at hpushed
      split_ifs at hpushed
      · exact inl hpushed
      · exact inl (dropLast_subset below hpushed)
      · rcases mem_append.mp hpushed with hbelow | hfirst
        · exact inl hbelow
        · exact inr ⟨first, mem_cons_self, mem_singleton.mp hfirst⟩
    · exact inr ⟨pushed, mem_cons_of_mem first hpushed, heq⟩

theorem mem_stackText {stack : List (List UInt8)} {c : UInt8} (hc : c ∈ stackText stack) :
    c = fatPathSeparator ∨ ∃ component ∈ stack, c ∈ component := by
  induction stack using reverseRecOn with
  | nil => cases hc
  | append_singleton front component ih =>
    rw [stackText_concat] at hc
    by_cases hfront : front = []
    · rw [if_pos hfront] at hc
      exact inr ⟨component, by simp, hc⟩
    · rw [if_neg hfront] at hc
      rcases mem_append.mp hc with hc | hc
      · rcases ih hc with hseparator | ⟨other, hmem, hother⟩
        · exact inl hseparator
        · exact inr ⟨other, by simp [hmem], hother⟩
      · rcases mem_cons.mp hc with hseparator | hc
        · exact inl hseparator
        · exact inr ⟨component, by simp, hc⟩

/-- What the path resolves to. -/
noncomputable def resolvedPath (current path : CString) : CString where
  bytes := stackText (resolvedStack current path)
  noNul := by
    intro hzero
    rcases mem_stackText hzero with hseparator | ⟨component, hmem, hzero⟩
    · cases hseparator
    · rcases mem_foldl_pushComponent hmem with hstart | ⟨pushed, hpushed, rfl⟩
      · unfold startStack at hstart
        split_ifs at hstart
        · cases hstart
        · exact current.noNul (mem_of_mem_linesOf isPathSeparator hstart hzero)
      · obtain ⟨c, hc, hcase⟩ := List.mem_map.mp hzero
        rw [upperCase_eq_zero c hcase] at hc
        exact path.noNul (mem_of_mem_linesOf isPathSeparator hpushed hc)

variable {current path : CString}

theorem startStack_normal (hcurrent : NormalPath current.bytes) :
    NormalStack (startStack current path) := by
  unfold startStack
  split_ifs
  · intro component hmem
    cases hmem
  · exact hcurrent.linesOf_normal.1

theorem foldl_pushComponent_keepsNormal {components stack : List (List UInt8)}
    (hplain : PlainStack components) (hnormal : NormalStack stack) :
    NormalStack (components.foldl pushComponent stack) := by
  induction components generalizing stack with
  | nil => exact hnormal
  | cons component components ih =>
    have hcomponent := hplain component mem_cons_self
    exact ih hplain.tail (hnormal.pushComponent hcomponent.1 hcomponent.2)

theorem resolvedStack_normal (hcurrent : NormalPath current.bytes) :
    NormalStack (resolvedStack current path) :=
  foldl_pushComponent_keepsNormal (fun _ hmem => plain_of_mem_linesOf isPathSeparator hmem)
    (startStack_normal hcurrent)

/-- The components of the current directory go into the buffer, unless the path is rooted. -/
theorem fatResolveStart_eq (hcurrent : NormalPath current.bytes) {empty : FatResolved} {capacity :
    Nat}
    (hempty : HoldsStack empty capacity []) :
    ∃ fits after stack,
      fatResolveStart current path capacity empty = some (fits, after) ∧
      HoldsStack after capacity stack ∧
      (fits = true ↔ (stackText (startStack current path)).length < capacity) ∧
      (fits = true → stack = startStack current path) := by
  unfold startStack fatResolveStart
  by_cases hrooted : IsRooted path
  · have hhead : path.bytes.head?.any isPathSeparator = true := hrooted
    rw [if_pos hhead, if_pos hrooted]
    have hroom := hempty.text.length_lt
    exact ⟨true, empty, [], rfl, hempty, by simpa using hroom, fun _ => rfl⟩
  · have hhead : ¬ path.bytes.head?.any isPathSeparator = true := hrooted
    have hnormal := hcurrent.linesOf_normal.1
    rw [if_neg hhead, if_neg hrooted]
    obtain ⟨fits, after, stack, hresult, hholds, hiff, hstack⟩ :=
      hempty.fatResolveAppend_eq current.bytes
    refine ⟨fits, after, stack, hresult, hholds, ?_, fun hfits => ?_⟩
    · rw [hiff]
      constructor
      · intro hall
        have hlast := hall _ (foldl_mem_scanl pushComponent [] _)
        rwa [foldl_pushComponent_normal hnormal, nil_append] at hlast
      · intro hfits
        exact stacksFit_normal hnormal hfits
    · rw [hstack hfits, foldl_pushComponent_normal hnormal, nil_append]

/-- What resolving a path does with the buffer. -/
structure ResolvesTo (current path : CString) (resolved : SizedBytes) (capacity : Int)
    (fits : Bool) (after : SizedBytes) : Prop where
  size_eq : after.size = resolved.size
  untouched : capacity < 1 → after = resolved
  terminated : 1 ≤ capacity → ∃ text, after.StartsWith (text ++ [0])
  fits_iff : fits = true ↔ StacksFit capacity.toNat (resolveStacks current path)
  text : fits = true → after.StartsWith ((resolvedPath current path).bytes ++ [0])

theorem fatImageResolvePath_eq (hcurrent : NormalPath current.bytes) {resolved : SizedBytes}
    {capacity : Int} (hsize : resolved.size = capacity.toNat) :
    ∃ fits after, fatImageResolvePath current path resolved capacity = some (fits, after) ∧
      ResolvesTo current path resolved capacity fits after := by
  unfold fatImageResolvePath
  by_cases hsmall : capacity < 1
  · rw [if_pos hsmall]
    refine ⟨false, resolved, rfl, rfl, fun _ => rfl, fun hlarge => ?_, ?_, fun hfalse => ?_⟩
    · lia
    · have hzero : capacity.toNat = 0 := by lia
      rw [hzero]
      refine ⟨fun hfalse => ?_, fun hall => ?_⟩
      · cases hfalse
      · exact absurd (hall _ (head_mem_scanl _ _ _)) (Nat.not_lt_zero _)
    · cases hfalse
  · rw [if_neg hsmall]
    obtain ⟨room, rfl⟩ := Int.eq_ofNat_of_zero_le (Int.not_lt.mp hsmall |>.trans' (by decide))
    rw [Int.toNat_natCast] at hsize
    have hroom : 0 < room := by lia
    have hnothing : HoldsText { bytes := resolved, length := 0 } room [] :=
      ⟨hsize, rfl, SizedBytes.startsWith_nil resolved⟩
    obtain ⟨bytes, hwrite, hstring⟩ := hnothing.terminate hroom
    have hempty : HoldsStack { bytes, length := 0 } room [] :=
      ⟨hstring, fun component hmem => by cases hmem⟩
    obtain ⟨started, start, below, hstart, hbelow, hstarted, hstack⟩ :=
      @fatResolveStart_eq current path hcurrent _ _ hempty
    rw [hwrite]
    dsimp only [bind_eq_bind, bind_some]
    rw [hstart]
    dsimp only [bind_some]
    cases hdone : started with
    | false =>
      rw [hdone] at hstarted
      refine ⟨false, start.bytes, rfl, ?_, ?_, ?_, ?_, ?_⟩
      · rw [hbelow.text.size_eq, hsize]
      · intro hsmall
        lia
      · exact fun _ => ⟨_, hbelow.text.startsWith⟩
      · refine ⟨fun hfalse => ?_, fun hall => ?_⟩
        · cases hfalse
        · rw [hstarted]
          exact hall _ (head_mem_scanl _ _ _)
      · intro hfalse
        cases hfalse
    | true =>
      rw [hstack hdone] at hbelow
      obtain ⟨fits, after, last, hresult, hlast, hiff, hlastEq⟩ :=
        hbelow.fatResolveAppend_eq path.bytes
      rw [if_pos rfl, hresult]
      refine ⟨fits, after.bytes, rfl, ?_, ?_, ?_, hiff, ?_⟩
      · rw [hlast.text.size_eq, hsize]
      · intro hsmall
        lia
      · exact fun _ => ⟨_, hlast.text.startsWith⟩
      · intro hfits
        have htext := hlast.text.startsWith
        rwa [hlastEq hfits] at htext

/-- A normal path from the root resolves to itself. -/
theorem resolvedPath_normal {text : CString} {result : List UInt8} (hresult : NormalPath result)
    (hroot : text.bytes = result ∧ current.bytes = [] ∨ text.bytes = fatPathSeparator :: result) :
    linesOf isPathSeparator text.bytes = linesOf isPathSeparator result ∧
      startStack current text = [] ∧ (resolvedPath current text).bytes = result := by
  have hlines : linesOf isPathSeparator text.bytes = linesOf isPathSeparator result := by
    rcases hroot with ⟨htext, -⟩ | htext
    · rw [htext]
    · rw [htext, linesOf_separator isPathSeparator (by decide)]
  have hstart : startStack current text = [] := by
    unfold startStack
    split_ifs with hrooted
    · rfl
    · rcases hroot with ⟨-, hempty⟩ | htext
      · rw [hempty, linesOf_nil]
      · have hhead : IsRooted text := by
          unfold IsRooted
          rw [htext, head?_cons]
          rfl
        exact absurd hhead hrooted
  obtain ⟨hnormal, htext⟩ := hresult.linesOf_normal
  refine ⟨hlines, hstart, ?_⟩
  unfold resolvedPath resolvedStack
  dsimp only
  rw [hlines, hstart, foldl_pushComponent_normal hnormal, nil_append, htext]

end Resolution

theorem fat_image_resolve_path (current path : CString) (hcurrent : NormalPath current.bytes) :
    (∀ (resolved : SizedBytes) (capacity : Int), resolved.size = capacity.toNat →
      ∃ fits after, fatImageResolvePath current path resolved capacity = some (fits, after) ∧
        ResolvesTo current path resolved capacity fits after) ∧
    NormalPath (resolvedPath current path).bytes ∧
    ∀ root text : CString, NormalPath root.bytes →
      (text.bytes = (resolvedPath current path).bytes ∧ root.bytes = [] ∨
        text.bytes = fatPathSeparator :: (resolvedPath current path).bytes) →
      ∀ (resolved : SizedBytes) (capacity : Int), resolved.size = capacity.toNat →
        (resolvedPath current path).bytes.length < capacity →
        ∃ after, fatImageResolvePath root text resolved capacity = some (true, after) ∧
          after.StartsWith ((resolvedPath current path).bytes ++ [0]) := by
  have hnormal : NormalPath (resolvedPath current path).bytes :=
    ⟨resolvedStack current path, resolvedStack_normal hcurrent, rfl⟩
  refine ⟨fun resolved capacity hsize => fatImageResolvePath_eq hcurrent hsize, hnormal, ?_⟩
  intro root text hroot hfrom resolved capacity hsize hroom
  obtain ⟨hlines, hstart, hsame⟩ := resolvedPath_normal hnormal hfrom
  obtain ⟨hstack, htext⟩ := hnormal.linesOf_normal
  obtain ⟨fits, after, hresult, hto⟩ := @fatImageResolvePath_eq root text hroot _ _ hsize
  have hfits : fits = true := by
    rw [hto.fits_iff, resolveStacks, hlines, hstart]
    apply stacksFit_normal hstack
    rw [nil_append, htext]
    omega
  rw [hfits] at hresult
  refine ⟨after, hresult, ?_⟩
  have hbytes := hto.text hfits
  rwa [hsame] at hbytes

/-- `DIR`. -/
def resolvedFrom : CString where
  bytes := [0x44, 0x49, 0x52]
  noNul := by decide

/-- `..\\/a/./b`. -/
def resolvedText : CString where
  bytes := [0x2E, 0x2E, 0x5C, 0x2F, 0x61, 0x2F, 0x2E, 0x2F, 0x62]
  noNul := by decide

theorem fat_image_resolve_path_up :
    ∃ after, fatImageResolvePath resolvedFrom resolvedText { data := fun _ => 0, size := 4 } 4 =
        some (true, after) ∧ after.StartsWith [0x41, 0x5C, 0x42, 0] := by
  have hcurrent : NormalPath resolvedFrom.bytes := by
    refine ⟨[[0x44, 0x49, 0x52]], fun component hmem => ?_, by decide⟩
    rw [mem_singleton.mp hmem]
    exact ⟨by decide, by decide, by decide, by decide +kernel, by decide⟩
  have hstacks : resolveStacks resolvedFrom resolvedText =
      [[[0x44, 0x49, 0x52]], [], [[0x41]], [[0x41]], [[0x41], [0x42]]] := by decide
  have hpath : (resolvedPath resolvedFrom resolvedText).bytes = [0x41, 0x5C, 0x42] := by
    decide
  obtain ⟨fits, after, hresult, hto⟩ := (fat_image_resolve_path resolvedFrom resolvedText
    hcurrent).1 { data := fun _ => 0, size := 4 } 4 rfl
  have hfits : fits = true := by
    rw [hto.fits_iff, hstacks]
    unfold StacksFit
    decide
  have hbytes := hto.text hfits
  rw [hpath] at hbytes
  rw [hfits] at hresult
  exact ⟨after, hresult, hbytes⟩

end Ntvdmex.Dos.FatImg
