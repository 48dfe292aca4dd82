import Ntvdmex.Dos.Env

/-!
# The environment block, written and read back

Every bounded writer appends a cut of one text, whatever pieces it writes it in.
So the block is four cut texts, the extra lines that fit, the count word and a
cut program path, each closed by a NUL.
-/

namespace Ntvdmex.Dos.Env

open Foundation List CString

variable (out : List UInt8) (stop : Nat) (card : Option DosSbConfig) (value : Nat)

theorem dosEnvPutBounded_eq (text : List UInt8) :
    dosEnvPutBounded out stop text = out ++ text.take (stop - out.length) := by
  induction text generalizing out with
  | nil => simp [dosEnvPutBounded]
  | cons c text ih =>
    unfold dosEnvPutBounded
    by_cases hroom : out.length < stop
    · have hleft : stop - out.length = (stop - (out ++ [c]).length) + 1 := by
        rw [length_append, length_singleton]
        lia
      rw [if_pos hroom, ih, hleft, take_succ_cons, append_assoc,
        singleton_append]
    · have hleft : stop - out.length = 0 := by lia
      rw [if_neg hroom, hleft, take_zero, append_nil]

theorem dosEnvPutBounded_append (text more : List UInt8) :
    dosEnvPutBounded (dosEnvPutBounded out stop text) stop more =
      dosEnvPutBounded out stop (text ++ more) := by
  rw [dosEnvPutBounded_eq, dosEnvPutBounded_eq, dosEnvPutBounded_eq, append_assoc,
    take_append, length_append, length_take]
  have hleft : stop - (out.length + min (stop - out.length) text.length) =
      stop - out.length - text.length := by
    lia
  rw [hleft]

theorem dosEnvPutBounded_singleton (c : UInt8) :
    dosEnvPutBounded out stop [c] = if out.length < stop then out ++ [c] else out := by
  simp [dosEnvPutBounded]

/-! ## The BLASTER text -/

def hexText (value : Nat) : List UInt8 :=
  [8, 4, 0].map fun shift => hexDigitsUpper ((value >>> shift) &&& 0xF)

def blasterText (card : Option DosSbConfig) : List UInt8 :=
  let card := card.getD defaultCard
  ascii "BLASTER=A" ++ hexText card.ioBase.toNat
    ++ ascii " I" ++ decimalText dosEnvDecimalDigitsMax card.irq.toNat
    ++ ascii " D" ++ decimalText dosEnvDecimalDigitsMax card.dma8Channel.toNat
    ++ (if card.dma16Channel ≠ 0 then ascii " H" ++ decimalText dosEnvDecimalDigitsMax card.dma16Channel.toNat else [])
    ++ (if card.mpuBase ≠ 0 then ascii " P" ++ hexText card.mpuBase.toNat else [])
    ++ (if card.emu8kBase ≠ 0 then ascii " E" ++ hexText card.emu8kBase.toNat else [])
    ++ ascii " T" ++ decimalText dosEnvDecimalDigitsMax card.type.toNat

/-- The card this host has always claimed. -/
example : blasterText none = ascii "BLASTER=A220 I5 D1 T3" := by decide

theorem dosEnvPutDecimal_eq :
    dosEnvPutDecimal out stop value = dosEnvPutBounded out stop (decimalText dosEnvDecimalDigitsMax value) := by
  unfold dosEnvPutDecimal decimalText
  by_cases hvalue : value = 0
  · rw [if_pos hvalue, if_pos hvalue, dosEnvPutBounded_singleton]
  · rw [if_neg hvalue, if_neg hvalue]

theorem dosEnvPutThreeHexDigits_eq :
    dosEnvPutThreeHexDigits out stop value = dosEnvPutBounded out stop (hexText value) := by
  unfold dosEnvPutThreeHexDigits hexText
  generalize [8, 4, 0] = shifts
  induction shifts generalizing out with
  | nil => rfl
  | cons shift shifts ih =>
    rw [foldl_cons, ih, map_cons, ← dosEnvPutBounded_singleton,
      dosEnvPutBounded_append, singleton_append]

theorem dosEnvPutBlaster_eq :
    dosEnvPutBlaster out stop card = dosEnvPutBounded out stop (blasterText card) := by
  unfold dosEnvPutBlaster blasterText
  dsimp only
  rw [dosEnvPutDecimal_eq, dosEnvPutThreeHexDigits_eq, dosEnvPutDecimal_eq, dosEnvPutDecimal_eq]
  split_ifs <;>
    simp only [dosEnvPutDecimal_eq, dosEnvPutThreeHexDigits_eq, dosEnvPutBounded_append,
      append_assoc, nil_append]

theorem zero_not_mem_decimalText (count value : Nat) : 0 ∉ decimalText count value := by
  have hdigit : ∀ digit < 10, (0 : UInt8) ≠ UInt8.ofNat (0x30 + digit) := by decide
  intro hmem
  obtain ⟨digit, hlt, hzero⟩ := isDigit_of_mem_decimalText hmem
  exact hdigit digit hlt hzero

theorem zero_not_mem_hexText : 0 ∉ hexText value := by
  have hdigit : ∀ nibble < 16, (0 : UInt8) ≠ hexDigitsUpper nibble := by decide
  have hnibble : ∀ shift, (value >>> shift) &&& 0xF < 16 := by
    intro shift
    exact Nat.lt_succ_of_le Nat.and_le_right
  intro hmem
  obtain ⟨shift, -, hshift⟩ := mem_map.mp hmem
  exact hdigit _ (hnibble shift) hshift.symm

theorem zero_not_mem_blasterText : 0 ∉ blasterText card := by
  have hblaster : (0 : UInt8) ∉ ascii "BLASTER=A" := by decide
  have hirq : (0 : UInt8) ∉ ascii " I" := by decide
  have hdma : (0 : UInt8) ∉ ascii " D" := by decide
  have hhigh : (0 : UInt8) ∉ ascii " H" := by decide
  have hport : (0 : UInt8) ∉ ascii " P" := by decide
  have hemu : (0 : UInt8) ∉ ascii " E" := by decide
  have htype : (0 : UInt8) ∉ ascii " T" := by decide
  have hoptional : ∀ (p : Prop) [Decidable p] (text : List UInt8), 0 ∉ text →
      (0 : UInt8) ∉ if p then text else [] := by
    intro p _ text htext
    by_cases hp : p
    · rwa [if_pos hp]
    · simp [hp]
  have happend : ∀ text more : List UInt8, 0 ∉ text → 0 ∉ more → (0 : UInt8) ∉ text ++ more := by
    intro text more htext hmore
    simp [htext, hmore]
  unfold blasterText
  repeat' apply happend
  all_goals first
    | assumption
    | exact zero_not_mem_decimalText _ _
    | exact zero_not_mem_hexText _
    | apply hoptional
      apply happend
      · assumption
      · first
          | exact zero_not_mem_decimalText _ _
          | exact zero_not_mem_hexText _

theorem length_blasterText_pos : 0 < (blasterText card).length := by
  have hblaster : (ascii "BLASTER=A").length = 9 := by decide
  unfold blasterText
  simp only [length_append, hblaster]
  lia

/-! ## The extra lines -/

/-- The lines, in order, that fit in front of `stop` when the first would be written at
`offset`. -/
def fitLines (stop : Nat) : Nat → List (List UInt8) → List (List UInt8)
  | _, [] => []
  | offset, line :: lines =>
    if offset + line.length + 1 ≤ stop then
      line :: fitLines stop (offset + line.length + 1) lines
    else fitLines stop offset lines

/-- The lines of `extra` that are neither empty nor a comment. -/
noncomputable def variableLines (extra : List UInt8) : List (List UInt8) :=
  (linesOf isLineSeparator extra).filter fun line => line.head? != some 0x23

theorem mem_of_mem_fitLines {stop offset : Nat} {lines : List (List UInt8)} {line : List UInt8}
    (hline : line ∈ fitLines stop offset lines) : line ∈ lines := by
  induction lines generalizing offset with
  | nil => exact hline
  | cons first lines ih =>
    unfold fitLines at hline
    split at hline
    · cases mem_cons.mp hline with
      | inl hfirst => rw [hfirst]; exact mem_cons_self
      | inr hrest => exact mem_cons_of_mem first (ih hrest)
    · exact mem_cons_of_mem first (ih hline)

theorem length_fitLines_le {stop offset bound : Nat} (hoffset : offset ≤ bound)
    (hstop : stop ≤ bound) (lines : List (List UInt8)) :
    offset + (terminate 0 (fitLines stop offset lines)).length ≤ bound := by
  induction lines generalizing offset with
  | nil => simpa [fitLines] using hoffset
  | cons line lines ih =>
    unfold fitLines
    by_cases hfit : offset + line.length + 1 ≤ stop
    · have hnext : offset + line.length + 1 ≤ bound := by lia
      have hrest := ih hnext
      rw [if_pos hfit, terminate_cons, length_append, length_cons]
      lia
    · rw [if_neg hfit]
      exact ih hoffset

/-- One step of the loop: the line at hand and the separators behind it. -/
theorem variableLines_cons (c : UInt8) (remaining : List UInt8) :
    variableLines (c :: remaining) =
      (if isVariable ((c :: remaining).takeWhile fun c => !isLineSeparator c) then
        [(c :: remaining).takeWhile fun c => !isLineSeparator c] else []) ++
      variableLines (skipLine (c :: remaining)) := by
  set text := c :: remaining with htext
  set line := text.takeWhile fun c => !isLineSeparator c with hline
  set rest := text.dropWhile fun c => !isLineSeparator c with hrest
  have hsplit : line ++ rest = text := takeWhile_append_dropWhile
  have hskip : linesOf isLineSeparator (skipLine text) = linesOf isLineSeparator rest :=
    linesOf_dropWhile isLineSeparator rest
  unfold variableLines
  rw [hskip]
  by_cases hempty : line = []
  · have hrest' : rest = text := by rw [← hsplit, hempty, nil_append]
    rw [hempty, hrest']
    simp [isVariable]
  · have hchars : ∀ c ∈ line, isLineSeparator c = false := by
      intro c hc
      simpa using mem_takeWhile_imp hc
    have hhead : ∀ c ∈ rest.head?, isLineSeparator c = true := by
      intro c hc
      have hnot := head?_dropWhile_not (fun c => !isLineSeparator c) text
      rw [← hrest, Option.mem_def.mp hc] at hnot
      simpa using hnot
    have hlines := linesOf_append isLineSeparator hchars hempty hhead
    rw [hsplit] at hlines
    rw [hlines, filter_cons]
    by_cases hcomment : line.head? = some 0x23
    · simp [isVariable, hcomment]
    · simp [isVariable, hcomment, hempty]

theorem putLines_eq (extra : List UInt8) : putLines out stop extra =
      out ++ terminate 0 (fitLines stop out.length (variableLines extra)) := by
  induction out, extra using putLines.induct stop with
  | case1 out => simp [putLines, variableLines, fitLines]
  | case2 out c remaining ih =>
    rw [putLines, ih, variableLines_cons]
    set line := (c :: remaining).takeWhile fun c => !isLineSeparator c
    unfold putLine
    by_cases hvariable : isVariable line = true
    · rw [if_pos hvariable, singleton_append, fitLines]
      by_cases hfit : out.length + line.length + 1 ≤ stop
      · rw [if_pos ⟨hvariable, hfit⟩, if_pos hfit, terminate_cons]
        simp [Nat.add_assoc]
      · rw [if_neg fun h => hfit h.2, if_neg hfit]
    · rw [if_neg hvariable, if_neg fun h => hvariable h.1, nil_append]

theorem putExtra_eq (extra : Option CString) : putExtra out stop extra =
      out ++ terminate 0 (fitLines stop out.length
        (variableLines ((extra.map bytes).getD []))) := by
  cases extra with
  | none => simp [putExtra, variableLines, fitLines]
  | some extra => exact putLines_eq out stop extra.bytes

/-!
## Reading the environment block back

The block parses into the four variables, the extra lines that fit, the count
and the program path exactly when the path variable leaves a byte for BLASTER.
A longer one makes the string of BLASTER empty, so the list ends in front of it.
-/

/-! ## The four variables -/

/-- Each text cut at `stop`, when the first is written at `offset` and each is closed by
a NUL. -/
def cutTexts (stop : Nat) : Nat → List (List UInt8) → List (List UInt8)
  | _, [] => []
  | offset, text :: texts =>
    text.take (stop - offset) ::
      cutTexts stop (offset + (text.take (stop - offset)).length + 1) texts

def pathText (pathVariable : Option CString) : List UInt8 :=
  dosEnvPathVariable ++ textOr pathVariable dosEnvDefaultPath

def fixedTexts (pathVariable : Option CString) (card : Option DosSbConfig) :
    List (List UInt8) :=
  [dosEnvComspec, pathText pathVariable, dosEnvPrompt, blasterText card]

def fixedStrings (pathVariable : Option CString) (card : Option DosSbConfig) :
    List (List UInt8) :=
  cutTexts variablesEnd 0 (fixedTexts pathVariable card)

/-- The extra lines that fit behind `strings`, in order. -/
noncomputable def extraStrings (strings : List (List UInt8)) (extra : Option CString) :
    List (List UInt8) :=
  fitLines variablesEnd (terminate 0 strings).length
    (variableLines ((extra.map CString.bytes).getD []))

def programText (programPath : Option CString) : List UInt8 :=
  textOr programPath dosEnvDefaultProgram

/-- The program path cut in front of the last byte of the block. -/
def programString (written : Nat) (programPath : Option CString) : List UInt8 :=
  (programText programPath).take (dosEnvCap - 1 - written)

theorem length_cutTexts_le {stop offset bound : Nat} (hoffset : offset ≤ bound)
    (hstop : stop ≤ bound) (texts : List (List UInt8)) :
    offset + (terminate 0 (cutTexts stop offset texts)).length ≤ bound + texts.length := by
  induction texts generalizing offset bound with
  | nil => simpa [cutTexts] using hoffset
  | cons text texts ih =>
    have hlen : (text.take (stop - offset)).length ≤ stop - offset := length_take_le _ _
    have hnext : offset + (text.take (stop - offset)).length + 1 ≤ bound + 1 := by lia
    have hrest := ih hnext (Nat.le_succ_of_le hstop)
    rw [cutTexts, terminate_cons, length_append, length_cons, length_cons]
    lia

/-- Writing each text up to `stop` and closing it. -/
theorem foldl_putTexts_eq (out : List UInt8) (stop : Nat) (texts : List (List UInt8)) :
    texts.foldl (fun out text => dosEnvPutBounded out stop text ++ [0]) out =
      out ++ terminate 0 (cutTexts stop out.length texts) := by
  induction texts generalizing out with
  | nil => simp [cutTexts]
  | cons text texts ih =>
    rw [foldl_cons, ih, dosEnvPutBounded_eq, cutTexts, terminate_cons]
    simp [Nat.add_assoc]

/-- The bytes in front of the program path. -/
noncomputable def blockHead (pathVariable : Option CString) (card : Option DosSbConfig)
    (extra : Option CString) : List UInt8 :=
  terminate 0 (fixedStrings pathVariable card
      ++ extraStrings (fixedStrings pathVariable card) extra)
    ++ [0, dosEnvStringCountLow, dosEnvStringCountHigh]

variable {environment : Environment} (programPath pathVariable : Option CString)
  (card : Option DosSbConfig) (extra : Option CString)

theorem dosEnvBuildWithCard_eq : dosEnvBuildWithCard programPath pathVariable card extra =
      blockHead pathVariable card extra
        ++ programString (blockHead pathVariable card extra).length programPath ++ [0] := by
  have hfixed := foldl_putTexts_eq [] variablesEnd (fixedTexts pathVariable card)
  simp only [fixedTexts, pathText, foldl_cons, foldl_nil, nil_append,
    length_nil] at hfixed
  unfold dosEnvBuildWithCard blockHead programString
  dsimp only
  rw [dosEnvPutBlaster_eq, dosEnvPutBounded_append, hfixed, putExtra_eq, dosEnvPutBounded_eq,
    terminate_append]
  simp [fixedStrings, fixedTexts, pathText, extraStrings, programText]

theorem length_dosEnvBuildWithCard_le :
    (dosEnvBuildWithCard programPath pathVariable card extra).length ≤ dosEnvCap := by
  have hend : variablesEnd = 248 := rfl
  have hcap : dosEnvCap = 256 := rfl
  have hfixed := length_cutTexts_le (Nat.zero_le variablesEnd) (Nat.le_refl variablesEnd)
    (fixedTexts pathVariable card)
  have hextra := @length_fitLines_le variablesEnd _ _ hfixed (Nat.le_add_right _ _)
    (variableLines ((extra.map bytes).getD []))
  have hprogram : (programString (blockHead pathVariable card extra).length programPath).length ≤
      dosEnvCap - 1 - (blockHead pathVariable card extra).length := length_take_le _ _
  have hhead : (blockHead pathVariable card extra).length ≤ 255 := by
    have hfour : (fixedTexts pathVariable card).length = 4 := rfl
    rw [Nat.zero_add] at hextra
    simp only [blockHead, terminate_append, length_append, length_cons, length_nil,
      fixedStrings, extraStrings]
    lia
  rw [dosEnvBuildWithCard_eq, length_append, length_append, length_singleton]
  lia

/-! ## Parsing -/

/-- The block stays in its bytes, and reading it gives the four variables, each perhaps
cut but not empty, the extra lines that fit, the count 1 and a cut of the program path. -/
def ParsesBack (programPath pathVariable : Option CString) (card : Option DosSbConfig)
    (extra : Option CString) : Prop :=
  (dosEnvBuildWithCard programPath pathVariable card extra).length ≤ dosEnvCap ∧
  ∃ comspec path prompt blaster program,
    parseEnvironment (dosEnvBuildWithCard programPath pathVariable card extra) =
      some
        { strings := [comspec, path, prompt, blaster]
            ++ extraStrings [comspec, path, prompt, blaster] extra
          count := 1
          program } ∧
    (comspec ≠ [] ∧ comspec <+: dosEnvComspec) ∧
    (path ≠ [] ∧ path <+: pathText pathVariable) ∧
    (prompt ≠ [] ∧ prompt <+: dosEnvPrompt) ∧
    (blaster ≠ [] ∧ blaster <+: blasterText card) ∧
    program <+: programText programPath

theorem zero_not_mem_textOr (text : Option CString) {fallback : List UInt8}
    (hfallback : 0 ∉ fallback) : 0 ∉ textOr text fallback := by
  unfold textOr
  cases text with
  | none => exact hfallback
  | some text =>
    by_cases hempty : text.bytes = []
    · simpa [hempty] using hfallback
    · simpa [hempty] using text.noNul

theorem zero_not_mem_fixedTexts : ∀ text ∈ fixedTexts pathVariable card, 0 ∉ text := by
  have hcomspec : (0 : UInt8) ∉ dosEnvComspec := by decide
  have hname : (0 : UInt8) ∉ dosEnvPathVariable := by decide
  have hdefault : (0 : UInt8) ∉ dosEnvDefaultPath := by decide
  have hprompt : (0 : UInt8) ∉ dosEnvPrompt := by decide
  have hpath : 0 ∉ pathText pathVariable := by
    rw [pathText, mem_append, not_or]
    exact ⟨hname, zero_not_mem_textOr pathVariable hdefault⟩
  intro text htext
  simp only [fixedTexts, mem_cons, not_mem_nil, or_false] at htext
  rcases htext with rfl | rfl | rfl | rfl
  · exact hcomspec
  · exact hpath
  · exact hprompt
  · exact zero_not_mem_blasterText card

theorem mem_cutTexts {stop offset : Nat} {texts : List (List UInt8)} {string : List UInt8}
    (hstring : string ∈ cutTexts stop offset texts) : ∃ text ∈ texts, string <+: text := by
  induction texts generalizing offset with
  | nil => cases hstring
  | cons text texts ih =>
    rw [cutTexts, mem_cons] at hstring
    rcases hstring with rfl | hstring
    · exact ⟨text, mem_cons_self, take_prefix _ text⟩
    · obtain ⟨other, hother, hcut⟩ := ih hstring
      exact ⟨other, mem_cons_of_mem text hother, hcut⟩

theorem zero_not_mem_fixedStrings : ∀ string ∈ fixedStrings pathVariable card, 0 ∉ string := by
  intro string hstring hmem
  obtain ⟨text, htext, hcut⟩ := mem_cutTexts hstring
  exact zero_not_mem_fixedTexts pathVariable card text htext (hcut.subset hmem)

theorem extraStrings_readable (strings : List (List UInt8)) (extra : Option CString) :
    ∀ line ∈ extraStrings strings extra, line ≠ [] ∧ 0 ∉ line := by
  intro line hline
  have hlines := mem_of_mem_filter (mem_of_mem_fitLines hline)
  have hnul : 0 ∉ (extra.map bytes).getD [] := by
    cases extra with
    | none => simp
    | some extra => exact extra.noNul
  refine ⟨?_, fun hmem => hnul (mem_of_mem_linesOf isLineSeparator hlines hmem)⟩
  have hkept := of_mem_filter hlines
  simpa using hkept

theorem parseEnvironment_of_ne_nil (hne : ∀ string ∈ fixedStrings pathVariable card, string ≠ []) :
    parseEnvironment (dosEnvBuildWithCard programPath pathVariable card extra) =
      some
        { strings := fixedStrings pathVariable card
            ++ extraStrings (fixedStrings pathVariable card) extra
          count := 1
          program := programString (blockHead pathVariable card extra).length programPath } := by
  have hreadable : ∀ string ∈ fixedStrings pathVariable card
      ++ extraStrings (fixedStrings pathVariable card) extra, string ≠ [] ∧ 0 ∉ string := by
    intro string hstring
    rcases mem_append.mp hstring with hfixed | hextra
    · exact ⟨hne string hfixed, zero_not_mem_fixedStrings pathVariable card string hfixed⟩
    · exact extraStrings_readable _ extra string hextra
  have hdefault : (0 : UInt8) ∉ dosEnvDefaultProgram := by decide
  have hprogram : 0 ∉ programString (blockHead pathVariable card extra).length programPath :=
    fun hmem => zero_not_mem_textOr programPath hdefault (mem_of_mem_take hmem)
  generalize hwritten : (blockHead pathVariable card extra).length = written at hprogram ⊢
  have hstrings := readStrings_terminate 0 hreadable
    (dosEnvStringCountLow :: dosEnvStringCountHigh
      :: (programString written programPath ++ [0]))
  have hread := readString_append 0 hprogram []
  have hblock : dosEnvBuildWithCard programPath pathVariable card extra =
      terminate 0 (fixedStrings pathVariable card
        ++ extraStrings (fixedStrings pathVariable card) extra)
      ++ 0 :: dosEnvStringCountLow :: dosEnvStringCountHigh
        :: (programString written programPath ++ [0]) := by
    rw [dosEnvBuildWithCard_eq, hwritten]
    simp [blockHead]
  rw [hblock, parseEnvironment, hstrings]
  simp only [hread]
  rfl

/-! ## The room for BLASTER -/

/-- The longest path variable that leaves a byte for BLASTER. -/
def pathRoom : Nat := 206

def effectivePath (pathVariable : Option CString) : List UInt8 :=
  textOr pathVariable dosEnvDefaultPath

theorem length_pathText :
    (pathText pathVariable).length = 5 + (effectivePath pathVariable).length := by
  have hname : dosEnvPathVariable.length = 5 := by decide
  rw [pathText, length_append, hname, effectivePath]

theorem fixedStrings_eq : fixedStrings pathVariable card =
      [dosEnvComspec, (pathText pathVariable).take 225,
        dosEnvPrompt.take (224 - min 225 (pathText pathVariable).length),
        (blasterText card).take (223 - min 225 (pathText pathVariable).length
          - min (224 - min 225 (pathText pathVariable).length) 11)] := by
  have hcomspec : dosEnvComspec.take 248 = dosEnvComspec := by decide
  have hlength : dosEnvComspec.length = 22 := by decide
  have hprompt : dosEnvPrompt.length = 11 := by decide
  have hend : variablesEnd = 248 := rfl
  simp only [fixedStrings, fixedTexts, cutTexts, hend, Nat.sub_zero, hcomspec, hlength,
    length_take, hprompt]
  congr 4
  · lia
  · congr 1
    lia

theorem fixedStrings_ne_nil {pathVariable : Option CString}
    (hpath : (effectivePath pathVariable).length ≤ pathRoom) :
    ∀ string ∈ fixedStrings pathVariable card, string ≠ [] := by
  have htext := length_pathText pathVariable
  have hblaster := length_blasterText_pos card
  have hprompt : dosEnvPrompt.length = 11 := by decide
  have hcomspec : dosEnvComspec ≠ [] := by decide
  unfold pathRoom at hpath
  intro string hstring
  simp only [fixedStrings_eq, mem_cons, not_mem_nil, or_false] at hstring
  rcases hstring with rfl | rfl | rfl | rfl
  · exact hcomspec
  · rw [← length_pos_iff, length_take]
    lia
  · rw [← length_pos_iff, length_take, hprompt]
    lia
  · rw [← length_pos_iff, length_take]
    lia

theorem fixedStrings_of_lt {pathVariable : Option CString}
    (hpath : pathRoom < (effectivePath pathVariable).length) :
    ∃ path prompt, fixedStrings pathVariable card = [dosEnvComspec, path, prompt, []] ∧
      path ≠ [] := by
  have htext := length_pathText pathVariable
  unfold pathRoom at hpath
  have hleft : 223 - min 225 (pathText pathVariable).length
      - min (224 - min 225 (pathText pathVariable).length) 11 = 0 := by
    lia
  have hfixed := fixedStrings_eq pathVariable card
  rw [hleft, take_zero] at hfixed
  refine ⟨_, _, hfixed, ?_⟩
  rw [← length_pos_iff, length_take]
  lia

theorem parseEnvironment_strings {block : List UInt8} {strings : List (List UInt8)}
    {rest : List UInt8} (hparse : parseEnvironment block = some environment)
    (hread : readStrings 0 [] block = some (strings, rest)) : environment.strings = strings := by
  unfold parseEnvironment at hparse
  rw [hread] at hparse
  match rest, hparse with
  | low :: high :: rest, hparse =>
    rw [Option.map_eq_some_iff] at hparse
    obtain ⟨read, -, rfl⟩ := hparse
    rfl

theorem length_strings_le_of_lt {programPath pathVariable : Option CString}
    {card : Option DosSbConfig} {extra : Option CString}
    (hpath : pathRoom < (effectivePath pathVariable).length)
    (hparse : parseEnvironment (dosEnvBuildWithCard programPath pathVariable card extra) =
      some environment) :
    environment.strings.length ≤ 3 := by
  obtain ⟨path, prompt, hfixed, hne⟩ := fixedStrings_of_lt card hpath
  have hcomspec : dosEnvComspec ≠ [] := by decide
  have hnul := zero_not_mem_fixedStrings pathVariable card
  rw [hfixed] at hnul
  have hblock : ∃ rest, dosEnvBuildWithCard programPath pathVariable card extra =
      dosEnvComspec ++ 0 :: (path ++ 0 :: (prompt ++ 0 :: 0 :: rest)) := by
    rw [dosEnvBuildWithCard_eq, blockHead, hfixed]
    simp
  obtain ⟨rest, hblock⟩ := hblock
  by_cases hprompt : prompt = []
  · have htexts : ∀ text ∈ [dosEnvComspec, path], text ≠ [] ∧ 0 ∉ text := by simp_all
    have hread := readStrings_terminate (0 : UInt8) htexts (0 :: rest)
    have hstrings := parseEnvironment_strings hparse (by simpa [hblock, hprompt] using hread)
    simp [hstrings]
  · have htexts : ∀ text ∈ [dosEnvComspec, path, prompt], text ≠ [] ∧ 0 ∉ text := by simp_all
    have hread := readStrings_terminate (0 : UInt8) htexts rest
    have hstrings := parseEnvironment_strings hparse (by simpa [hblock] using hread)
    simp [hstrings]

theorem env_block_parses_back_iff (programPath pathVariable : Option CString)
    (card : Option DosSbConfig) (extra : Option CString) :
    ParsesBack programPath pathVariable card extra ↔
      (effectivePath pathVariable).length ≤ pathRoom := by
  constructor
  · intro hparses
    by_contra hpath
    obtain ⟨-, comspec, path, prompt, blaster, program, hparse, -⟩ := hparses
    have hle := length_strings_le_of_lt (Nat.lt_of_not_le hpath) hparse
    rw [List.length_append] at hle
    simp only [List.length_cons, List.length_nil] at hle
    omega
  · intro hpath
    have hne := fixedStrings_ne_nil card hpath
    have hparse := parseEnvironment_of_ne_nil programPath pathVariable card extra hne
    have hlength := length_dosEnvBuildWithCard_le programPath pathVariable card extra
    rw [fixedStrings_eq] at hne hparse
    simp only [List.mem_cons, List.not_mem_nil, or_false, forall_eq_or_imp, forall_eq] at hne
    obtain ⟨hcomspec, hpathText, hprompt, hblaster⟩ := hne
    exact ⟨hlength, _, _, _, _, _, hparse, ⟨hcomspec, List.prefix_refl _⟩,
      ⟨hpathText, List.take_prefix _ _⟩, ⟨hprompt, List.take_prefix _ _⟩,
      ⟨hblaster, List.take_prefix _ _⟩, List.take_prefix _ _⟩

def longPath : CString where
  bytes := List.replicate 207 0x41
  noNul := fun hmem => absurd (List.eq_of_mem_replicate hmem) (by decide)

theorem env_block_not_always_parses_back : ¬ ParsesBack none (some longPath) none none := by
  rintro ⟨-, comspec, path, prompt, blaster, program, hparse, -⟩
  have hlong : pathRoom < (effectivePath (some longPath)).length := by
    have hne : longPath.bytes ≠ [] := List.cons_ne_nil _ _
    rw [effectivePath, textOr, if_neg hne, longPath, List.length_replicate]
    decide
  have hle := length_strings_le_of_lt hlong hparse
  rw [List.length_append] at hle
  simp only [List.length_cons, List.length_nil] at hle
  omega

end Ntvdmex.Dos.Env
