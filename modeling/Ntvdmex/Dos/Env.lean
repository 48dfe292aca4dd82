import Ntvdmex.Foundation.Decimal
import Ntvdmex.Foundation.Strings

/-!
# The environment block (`dos_env.h`)

The block is written by one cursor from its first byte on, so it is modelled as
the list of the bytes written so far: the cursor is the length of the list, and
a write is bounded by comparing the length with where the writing must stop.
-/

namespace Ntvdmex.Dos.Env

open Foundation List

def dosEnvCap : Nat := 0x100

def dosSbDefaultType : UInt8 := 3
def dosSbDefaultIoBase : UInt16 := 0x220
def dosSbDefaultIrq : UInt8 := 5
def dosSbDefaultDma8 : UInt8 := 1
def dosSbNotAdvertised : UInt8 := 0

def dosEnvDecimalDigitsMax : Nat := 12
def dosEnvTailReserve : Nat := 8
def dosEnvStringCountLow : UInt8 := 0x01
def dosEnvStringCountHigh : UInt8 := 0x00

def dosEnvComspec : List UInt8 := ascii "COMSPEC=C:\\COMMAND.COM"
def dosEnvPathVariable : List UInt8 := ascii "PATH="
def dosEnvDefaultPath : List UInt8 := ascii "C:\\"
def dosEnvPrompt : List UInt8 := ascii "PROMPT=$p$g"
def dosEnvDefaultProgram : List UInt8 := ascii "C:\\PROGRAM.COM"

/-- A 16-bit DMA channel, an MPU base or an EMU8000 base of zero is not advertised. -/
structure DosSbConfig where
  ioBase : UInt16
  irq : UInt8
  dma8Channel : UInt8
  dma16Channel : UInt8
  type : UInt8
  mpuBase : UInt16
  emu8kBase : UInt16
  deriving DecidableEq, Repr

def defaultCard : DosSbConfig where
  ioBase := dosSbDefaultIoBase
  irq := dosSbDefaultIrq
  dma8Channel := dosSbDefaultDma8
  dma16Channel := dosSbNotAdvertised
  type := dosSbDefaultType
  mpuBase := dosSbNotAdvertised.toUInt16
  emu8kBase := dosSbNotAdvertised.toUInt16

def dosEnvPutBounded (out : List UInt8) (stop : Nat) : List UInt8 → List UInt8
  | [] => out
  | c :: text =>
    if out.length < stop then dosEnvPutBounded (out ++ [c]) stop text else out

variable (out : List UInt8) (stop : Nat)

def dosEnvPutDecimal (value : Nat) : List UInt8 :=
  if value = 0 then
    if out.length < stop then out ++ [0x30] else out
  else
    dosEnvPutBounded out stop (decimalDigits dosEnvDecimalDigitsMax value).reverse

def hexDigitsUpper (nibble : Nat) : UInt8 :=
  (ascii "0123456789ABCDEF").getD nibble 0

def dosEnvPutThreeHexDigits (value : Nat) : List UInt8 :=
  [8, 4, 0].foldl
    (fun out shift =>
      if out.length < stop then out ++ [hexDigitsUpper ((value >>> shift) &&& 0xF)] else out)
    out

def dosEnvPutBlaster (card : Option DosSbConfig) : List UInt8 :=
  let card := card.getD defaultCard
  let out := dosEnvPutBounded out stop (ascii "BLASTER=A")
  let out := dosEnvPutThreeHexDigits out stop card.ioBase.toNat
  let out := dosEnvPutBounded out stop (ascii " I")
  let out := dosEnvPutDecimal out stop card.irq.toNat
  let out := dosEnvPutBounded out stop (ascii " D")
  let out := dosEnvPutDecimal out stop card.dma8Channel.toNat
  let out :=
    if card.dma16Channel ≠ 0 then
      dosEnvPutDecimal (dosEnvPutBounded out stop (ascii " H")) stop card.dma16Channel.toNat
    else out
  let out :=
    if card.mpuBase ≠ 0 then
      dosEnvPutThreeHexDigits (dosEnvPutBounded out stop (ascii " P")) stop card.mpuBase.toNat
    else out
  let out :=
    if card.emu8kBase ≠ 0 then
      dosEnvPutThreeHexDigits (dosEnvPutBounded out stop (ascii " E")) stop card.emu8kBase.toNat
    else out
  let out := dosEnvPutBounded out stop (ascii " T")
  dosEnvPutDecimal out stop card.type.toNat

/-! ## The extra variables -/

/-- `'\n'`, `'\r'` or `';'`. -/
def isLineSeparator (c : UInt8) : Bool :=
  c == 0x0A || c == 0x0D || c == 0x3B

/-- `lineLength > 0 && line[0] != '#'`. -/
def isVariable (line : List UInt8) : Bool :=
  !line.isEmpty && line.head? != some 0x23

/-- An entry that does not fit is dropped whole. -/
def putLine (line : List UInt8) : List UInt8 :=
  if isVariable line ∧ out.length + line.length + 1 ≤ stop then out ++ line ++ [0] else out

def skipLine (remaining : List UInt8) : List UInt8 :=
  (remaining.dropWhile fun c => !isLineSeparator c).dropWhile isLineSeparator

theorem length_skipLine_lt (c : UInt8) (remaining : List UInt8) :
    (skipLine (c :: remaining)).length < (c :: remaining).length := by
  have hline : ∀ text : List UInt8, ((text.dropWhile fun c => !isLineSeparator c).dropWhile
      isLineSeparator).length ≤ text.length := by
    intro text
    exact ((dropWhile_sublist _).trans (dropWhile_sublist _)).length_le
  unfold skipLine
  by_cases hc : isLineSeparator c = true
  · rw [dropWhile_cons_of_neg (by simpa using hc), dropWhile_cons_of_pos hc]
    have hle := (dropWhile_sublist (l := remaining) isLineSeparator).length_le
    simp only [length_cons]
    omega
  · rw [dropWhile_cons_of_pos (by simpa using hc)]
    have hle := hline remaining
    simp only [length_cons]
    omega

def putLines (out : List UInt8) (stop : Nat) : List UInt8 → List UInt8
  | [] => out
  | c :: remaining =>
    putLines (putLine out stop ((c :: remaining).takeWhile fun c => !isLineSeparator c)) stop
      (skipLine (c :: remaining))
  termination_by remaining => remaining.length
  decreasing_by exact length_skipLine_lt c remaining

def putExtra (extra : Option CString) : List UInt8 :=
  match extra with
  | some extra => putLines out stop extra.bytes
  | none => out

/-- `(text && text[0]) ? text : fallback`. -/
def textOr (text : Option CString) (fallback : List UInt8) : List UInt8 :=
  match text with
  | some text => if text.bytes = [] then fallback else text.bytes
  | none => fallback

def variablesEnd : Nat := dosEnvCap - dosEnvTailReserve

/-- The bytes written at the environment segment.  The count of them is returned. -/
def dosEnvBuildWithCard (programPath pathVariable : Option CString)
    (card : Option DosSbConfig) (extra : Option CString) : List UInt8 :=
  let out := dosEnvPutBounded [] variablesEnd dosEnvComspec
  let out := out ++ [0]
  let out := dosEnvPutBounded out variablesEnd dosEnvPathVariable
  let out := dosEnvPutBounded out variablesEnd (textOr pathVariable dosEnvDefaultPath)
  let out := out ++ [0]
  let out := dosEnvPutBounded out variablesEnd dosEnvPrompt
  let out := out ++ [0]
  let out := dosEnvPutBlaster out variablesEnd card
  let out := out ++ [0]
  let out := putExtra out variablesEnd extra
  let out := out ++ [0]
  let out := out ++ [dosEnvStringCountLow]
  let out := out ++ [dosEnvStringCountHigh]
  let out := dosEnvPutBounded out (dosEnvCap - 1) (textOr programPath dosEnvDefaultProgram)
  out ++ [0]

structure Environment where
  strings : List (List UInt8)
  count : Nat
  program : List UInt8
  deriving DecidableEq, Repr

/-- NUL-terminated strings up to the first empty one, a WORD, a NUL-terminated path. -/
def parseEnvironment (block : List UInt8) : Option Environment :=
  match readStrings 0 [] block with
  | some (strings, low :: high :: rest) =>
    (readString 0 rest).map fun read =>
      { strings, count := low.toNat + 256 * high.toNat, program := read.1 }
  | _ => none

end Ntvdmex.Dos.Env
