import Ntvdmex.Foundation.Decimal
import Ntvdmex.Foundation.Search
import Ntvdmex.Foundation.Strings

/-!
# Aliases for names that have no short name (`dos_alias.c`)

A name is the list of its bytes in front of the NUL.  A table is the names taken
and the entries in need of an alias, in the order they were noted; the pool only
counts the bytes their long names occupy.
-/

namespace Ntvdmex.Dos.Alias

open Foundation

def dosAliasNameSize : Nat := 13
def dosAliasBaseLength : Nat := 8
def dosAliasExtensionLength : Nat := 3
def dosAliasDirectorySize : Nat := 300
def dosAliasMaxTaken : Nat := 4096
def dosAliasMaxNeedy : Nat := 2048
def dosAliasPoolSize : Nat := 65536
def dosAliasMaxNumber : Nat := 999999
def dosAliasDecimalDigits : Nat := 7

def asciiSpace : UInt8 := 0x20
def asciiDot : UInt8 := 0x2E
def asciiTilde : UInt8 := 0x7E
/-- What Windows puts for a character DOS refuses. -/
def dosAliasSubstitute : UInt8 := 0x5F
def dosAliasAsciiLimit : UInt8 := 0x80

variable (character : UInt8) (table : DosAliasTable) (name : List UInt8)

def dosAliasUpper : UInt8 :=
  if 0x61 ≤ character ∧ character ≤ 0x7A then character - 0x20 else character

/-- Controls, the space, and `"*+,/:;<=>?[\]|`. -/
def dosAliasIsBadCharacter : Bool :=
  decide (character ≤ asciiSpace) || (ascii "\"*+,/:;<=>?[\\]|").contains character

def dosAliasCharacter : UInt8 :=
  if dosAliasAsciiLimit ≤ character ∨ dosAliasIsBadCharacter character then dosAliasSubstitute
  else dosAliasUpper character

/-- The first `length` characters of `first`, or all of it, against the whole of `second`. -/
def dosAliasSameText : List UInt8 → List UInt8 → Option Nat → Bool
  | [], second, _ => second.isEmpty
  | character :: first, second, length =>
    if length = some 0 then second.isEmpty
    else
      match second with
      | [] => false
      | other :: second =>
        if dosAliasUpper character ≠ dosAliasUpper other then false
        else dosAliasSameText first second (length.map (· - 1))

/-- The rest of a name behind `baseLength` characters, or in its extension. -/
def shortNameRest (baseLength : Nat) (extensionLength : Option Nat) : List UInt8 → Bool
  | [] => decide (0 < baseLength)
  | character :: name =>
    if character = asciiDot then
      if extensionLength.isSome then false else shortNameRest baseLength (some 0) name
    else if dosAliasIsBadCharacter character then false
    else
      match extensionLength with
      | some extensionLength =>
        if dosAliasExtensionLength < extensionLength + 1 then false
        else shortNameRest baseLength (some (extensionLength + 1)) name
      | none =>
        if dosAliasBaseLength < baseLength + 1 then false
        else shortNameRest (baseLength + 1) none name

def dosAliasIsShortName : Bool :=
  match name with
  | [] => false
  | character :: _ => if character = asciiDot then false else shortNameRest 0 none name

/-! ## Making an alias -/

def isBlank : Bool :=
  character == asciiSpace || character == asciiDot

def lastDot : Option Nat :=
  (List.range name.length).foldl
    (fun last index => if name[index]? = some asciiDot then some index else last) none

/-- The first characters of `text` that DOS allows, at most `limit` of them. -/
def aliasText (text : List UInt8) (limit : Nat) : List UInt8 :=
  ((text.filter fun character => !isBlank character).take limit).map dosAliasCharacter

def aliasBase (longName : List UInt8) : List UInt8 :=
  let name := longName.dropWhile isBlank
  let text :=
    match lastDot name with
    | some dot => name.take dot
    | none => name
  let base := aliasText text dosAliasBaseLength
  if base = [] then [dosAliasSubstitute] else base

def aliasExtension (longName : List UInt8) : List UInt8 :=
  let name := longName.dropWhile isBlank
  match lastDot name with
  | some dot => aliasText (name.drop (dot + 1)) dosAliasExtensionLength
  | none => []

/-- `~` and the digits of the number. -/
def aliasSuffix (number : Nat) : List UInt8 :=
  asciiTilde ::
    decimalText dosAliasDecimalDigits (if dosAliasMaxNumber < number then dosAliasMaxNumber else number)

def dosAliasMake (longName : List UInt8) (number : Nat) : List UInt8 :=
  let suffix := aliasSuffix number
  let stem := (aliasBase longName).take (dosAliasBaseLength - suffix.length)
  let extension := aliasExtension longName
  stem ++ suffix ++ if extension = [] then [] else asciiDot :: extension

/-! ## Tables -/

structure NeedyEntry where
  needyName : List UInt8
  needyAlias : List UInt8
  deriving DecidableEq, Repr

structure DosAliasTable where
  directory : List UInt8
  taken : List (List UInt8)
  needy : List NeedyEntry
  poolUsed : Nat
  isOverflow : Bool
  deriving DecidableEq, Repr

def dosAliasTableBegin (directory : List UInt8) : DosAliasTable where
  directory := directory.take (dosAliasDirectorySize - 1)
  taken := []
  needy := []
  poolUsed := 0
  isOverflow := false

def dosAliasTake : DosAliasTable :=
  if dosAliasMaxTaken ≤ table.taken.length then { table with isOverflow := true }
  else
    { table with taken := table.taken ++ [(name.take (dosAliasNameSize - 1)).map dosAliasUpper] }

/-- `"."` or `".."`. -/
def isDotName : Bool :=
  name == [asciiDot] || name == [asciiDot, asciiDot]

def dosAliasTableNote (longName shortName : List UInt8) : DosAliasTable :=
  if isDotName longName then table
  else if shortName ≠ [] then dosAliasTake table shortName
  else if dosAliasIsShortName longName then dosAliasTake table longName
  else if dosAliasMaxNeedy ≤ table.needy.length
      ∨ dosAliasPoolSize < table.poolUsed + longName.length + 1 then
    { table with isOverflow := true }
  else
    { table with
      needy := table.needy ++ [{ needyName := longName, needyAlias := [] }]
      poolUsed := table.poolUsed + longName.length + 1 }

/-- `candidate` is a name the directory already has, or one handed out to an entry of
`assigned`. -/
def dosAliasIsTaken (taken : List (List UInt8)) (assigned : List NeedyEntry)
    (candidate : List UInt8) : Bool :=
  taken.any (fun name => dosAliasSameText name candidate none)
    || assigned.any fun entry => dosAliasSameText entry.needyAlias candidate none

def chooseAlias (taken : List (List UInt8)) (assigned : List NeedyEntry)
    (longName : List UInt8) : List UInt8 :=
  dosAliasMake longName
    (searchNumber (fun number => !dosAliasIsTaken taken assigned (dosAliasMake longName number))
      (dosAliasMaxNumber - 1) 1)

def assignAliases (taken : List (List UInt8)) (assigned : List NeedyEntry) :
    List NeedyEntry → List NeedyEntry
  | [] => assigned
  | entry :: needy =>
    assignAliases taken
      (assigned ++ [{ entry with needyAlias := chooseAlias taken assigned entry.needyName }])
      needy

def dosAliasTableFinish : DosAliasTable :=
  { table with needy := assignAliases table.taken [] table.needy }

def dosAliasTableAliasOf (longName : List UInt8) : Option (List UInt8) :=
  (table.needy.find? fun entry =>
    !entry.needyAlias.isEmpty && dosAliasSameText entry.needyName longName none).map
    NeedyEntry.needyAlias

/-- The long name behind the first `length` characters of `name`. -/
def dosAliasTableLongOf (length : Nat) : Option (List UInt8) :=
  (table.needy.find? fun entry =>
    !entry.needyAlias.isEmpty && dosAliasSameText name entry.needyAlias (some length)).map
    NeedyEntry.needyName

/-! ## One directory -/

structure DirectoryEntry where
  longName : List UInt8
  shortName : List UInt8
  deriving DecidableEq, Repr

def noteEntries (entries : List DirectoryEntry) : DosAliasTable :=
  entries.foldl (fun table entry => dosAliasTableNote table entry.longName entry.shortName) table

def buildTable (directory : List UInt8) (entries : List DirectoryEntry) : DosAliasTable :=
  dosAliasTableFinish (noteEntries (dosAliasTableBegin directory) entries)

/-!
## Aliases in searches and paths (`dos_int21.c`)

The tables of the last directories are kept, and each is filled from one enumeration.  A search
puts an alias where the volume has no short name; a path that names an entry by its alias has the
long name put back.  What Win32 answers is the volume.
-/

def dosInt21PathSize : Nat := 300
def dosAliasCacheTables : Nat := 4
def dosInt21DriveRootSize : Nat := 3

def asciiBackslash : UInt8 := 0x5C
def asciiColon : UInt8 := 0x3A

/-- What the volume answers during one call. -/
structure AliasVolume where
  /-- `GetFullPathNameA`, without a result where it fails. -/
  getFullPathName : List UInt8 → Option (List UInt8)
  /-- `GetFileAttributesA` knows the path. -/
  isPresent : List UInt8 → Bool
  /-- The entries `FindFirstFileA` and `FindNextFileA` give for a directory. -/
  findFiles : List UInt8 → List DirectoryEntry

/-- The tables kept, and the one to be used next. -/
structure AliasCache where
  tables : List DosAliasTable
  nextTable : Nat

def emptyAliasCache : AliasCache where
  tables := List.replicate dosAliasCacheTables (dosAliasTableBegin [])
  nextTable := 0

def dosAliasLooksLikeAlias : List UInt8 → Bool
  | first :: second :: component =>
    (first == asciiTilde && decide (0x30 ≤ second ∧ second ≤ 0x39)) ||
      dosAliasLooksLikeAlias (second :: component)
  | _ => false

def dosAliasTableIsFor (table : DosAliasTable) (directory : List UInt8) : Bool :=
  dosAliasSameText table.directory directory none

variable (volume : AliasVolume) (cache : AliasCache)

/-- The listing a table is filled from: nothing, if the pattern does not fit. -/
def directoryListing (directory : List UInt8) : List DirectoryEntry :=
  if directory.length + 2 ≤ dosAliasDirectorySize + 2 then volume.findFiles directory else []

def cachedTable (directory : List UInt8) : Option Nat :=
  (List.range cache.tables.length).reverse.find? fun index =>
    match cache.tables[index]? with
    | some table => !table.directory.isEmpty && dosAliasTableIsFor table directory
    | none => false

def dosAliasTableFor (directory : List UInt8) (isRebuild : Bool) : AliasCache × DosAliasTable :=
  let table := buildTable directory (directoryListing volume directory)
  match cachedTable cache directory with
  | some index =>
    if isRebuild then ({ cache with tables := cache.tables.set index table }, table)
    else (cache, cache.tables.getD index table)
  | none =>
    ({ tables := cache.tables.set cache.nextTable table
       nextTable := (cache.nextTable + 1) % dosAliasCacheTables }, table)

def dosAliasFill (directory : List UInt8) (entry : DirectoryEntry) (isListed : Bool) :
    AliasCache × DirectoryEntry × Bool :=
  if directory = [] ∨ entry.shortName ≠ [] ∨ dosAliasIsShortName entry.longName ∨
      isDotName entry.longName then
    (cache, entry, isListed)
  else
    let (cache, table) := dosAliasTableFor volume cache directory (!isListed)
    match dosAliasTableAliasOf table entry.longName, isListed with
    | none, true =>
      let (cache, table) := dosAliasTableFor volume cache directory true
      let text := dosAliasTableAliasOf table entry.longName
      (cache, { entry with shortName := text.getD entry.shortName }, true)
    | text, _ => (cache, { entry with shortName := text.getD entry.shortName }, true)

/-- The long name a component of the path stands for, behind the path `output`. -/
def dosAliasComponent (output component : List UInt8) : AliasCache × Option (List UInt8) :=
  if dosAliasLooksLikeAlias component ∧ ¬volume.isPresent (output ++ component) ∧
      output.length < dosAliasDirectorySize then
    let (cache, table) := dosAliasTableFor volume cache output false
    match dosAliasTableLongOf table component component.length with
    | some longName => (cache, some longName)
    | none =>
      let (cache, table) := dosAliasTableFor volume cache output true
      (cache, dosAliasTableLongOf table component component.length)
  else (cache, none)

/-- The components from `output` on; without a result where the path outgrows its buffer. -/
def dosAliasComponents (volume : AliasVolume) (cache : AliasCache) (output : List UInt8)
    (isChanged : Bool) : List (List UInt8) → AliasCache × Option (List UInt8 × Bool)
  | [] => (cache, some (output, isChanged))
  | component :: rest =>
    if dosAliasLooksLikeAlias component ∧
        dosInt21PathSize ≤ output.length + component.length then (cache, none)
    else
      let (cache, longName) := dosAliasComponent volume cache output component
      let text := longName.getD component
      if dosInt21PathSize ≤ output.length + text.length then (cache, none)
      else if rest.isEmpty then
        (cache, some (output ++ text, isChanged || longName.isSome))
      else if dosInt21PathSize ≤ output.length + text.length + 1 then (cache, none)
      else
        dosAliasComponents volume cache (output ++ text ++ [asciiBackslash])
          (isChanged || longName.isSome) rest

/-- Behind `"X:\"`, or behind `"\\server\share\"`. -/
def dosAliasRootLength (path : List UInt8) : Nat :=
  if path[1]? = some asciiColon then
    if path[2]? = some asciiBackslash then dosInt21DriveRootSize else dosInt21DriveRootSize - 1
  else if path[0]? = some asciiBackslash ∧ path[1]? = some asciiBackslash then
    let server := (path.drop 2).takeWhile (· != asciiBackslash)
    let share := (path.drop (2 + server.length + 1)).takeWhile (· != asciiBackslash)
    min path.length (2 + server.length + 1 + share.length + 1)
  else 0

def dosAliasResolvePath (path : List UInt8) (capacity : Nat) : AliasCache × List UInt8 :=
  if ¬dosAliasLooksLikeAlias path then (cache, path)
  else
    match volume.getFullPathName path with
    | none => (cache, path)
    | some fullPath =>
      if fullPath = [] ∨ dosInt21PathSize ≤ fullPath.length then (cache, path)
      else
        let position := dosAliasRootLength fullPath
        match dosAliasComponents volume cache (fullPath.take position) false
            ((fullPath.drop position).splitOn asciiBackslash) with
        | (cache, some (output, isChanged)) =>
          (cache, if isChanged ∧ output.length < capacity then output else path)
        | (cache, none) => (cache, path)

end Ntvdmex.Dos.Alias
