/-!
# Object files

A library that can be loaded is an object file.  Its header says for which machines it
is and where its segments are described; every field is a number with the least
significant byte first.
-/

namespace CompileServer.ObjectFile

/-- Why an object file cannot be loaded. -/
inductive Defect where
  | tooShort
  /-- It is no object file at all. -/
  | otherFormat
  | otherWordSize
  /-- It is for machines of another kind, which makes it as good as missing. -/
  | otherMachine
  | otherByteOrder
  | otherFormatVersion
  | otherConventions
  | otherConventionsVersion
  | usedPadding
  | otherVersion
  | notLoadable
  | otherEntrySize
  /-- The descriptions of the segments lie beyond the end. -/
  | truncated
  /-- No file is as large as the place where the descriptions of the segments should be. -/
  | badOffset
  | misalignedSegment
  | noSegments
  /-- It is a program, not a library. -/
  | program
  | noDynamicPart
deriving DecidableEq, Repr

/-- The message of a defect. -/
def Defect.message : Defect → String
  | .tooShort => "file too short"
  | .otherFormat => "invalid ELF header"
  | .otherWordSize => "wrong ELF class: ELFCLASS32"
  | .otherMachine => "cannot open shared object file: No such file or directory"
  | .otherByteOrder => "ELF file data encoding not little-endian"
  | .otherFormatVersion => "ELF file version ident does not match current one"
  | .otherConventions => "ELF file OS ABI invalid"
  | .otherConventionsVersion => "ELF file ABI version invalid"
  | .usedPadding => "nonzero padding in e_ident"
  | .otherVersion => "ELF file version does not match current one"
  | .notLoadable => "only ET_DYN and ET_EXEC can be loaded"
  | .otherEntrySize => "ELF file's phentsize not the expected size"
  | .truncated => "cannot read file data"
  | .badOffset => "cannot read file data: Invalid argument"
  | .misalignedSegment => "ELF load command address/offset not page-aligned"
  | .noSegments => "object file has no loadable segments"
  | .program => "cannot dynamically load executable"
  | .noDynamicPart => "object file has no dynamic section"

/-- The number in `count` bytes from an offset on. -/
def numberAt (content : ByteArray) (offset count : Nat) : Nat :=
  (List.range count).foldr (fun i value => 256 * value + (content[offset + i]?.getD 0).toNat) 0

/-- The number of bytes of the header. -/
def headerSize : Nat := 64

/-- The number of bytes that describe a segment. -/
def entrySize : Nat := 56

/-- The number of bytes that every file stays below. -/
def sizeLimit : Nat := 0x8000000000000000

/-- The number of bytes of a page of memory. -/
def pageSize : Nat := 4096

/-- The first bytes of every object file. -/
def magic : List Nat := [0x7f, 0x45, 0x4c, 0x46]

/-- The number for the kind of the machine. -/
def machine : Nat := 62

/-- The number for the conventions of the machine that have versions. -/
def versionedConventions : Nat := 3

/-- The first defect in how the header says that its fields are to be read. -/
def formatDefect? (content : ByteArray) : Option Defect :=
  let field := numberAt content
  let conventions := field 7 1
  if field 5 1 ≠ 1 then some .otherByteOrder
  else if field 6 1 ≠ 1 then some .otherFormatVersion
  else if conventions ≠ 0 && conventions ≠ versionedConventions then some .otherConventions
  else if (if conventions = 0 then 0 else 3) < field 8 1 then some .otherConventionsVersion
  else if field 9 7 ≠ 0 then some .usedPadding
  else none

/-- A segment, as far as loading depends on it. -/
structure Segment where
  kind : Nat
  offset : Nat
  address : Nat
  size : Nat
deriving DecidableEq, Repr

namespace Segment

/-- Whether the segment is to be put into memory. -/
def isLoaded (segment : Segment) : Bool :=
  segment.kind = 1

/-- Whether the segment tells how the library is linked. -/
def isDynamic (segment : Segment) : Bool :=
  segment.kind = 2 && segment.size ≠ 0

/-- Whether the segment lies at the same place of a page in the file and in memory. -/
def isAligned (segment : Segment) : Bool :=
  segment.offset % pageSize = segment.address % pageSize

end Segment

/-- The segment that is described from an offset on. -/
def segmentAt (content : ByteArray) (offset : Nat) : Segment :=
  ⟨numberAt content offset 4, numberAt content (offset + 8) 8, numberAt content (offset + 16) 8,
    numberAt content (offset + 32) 8⟩

/-- The first defect of the header, if it has one. -/
def headerDefect? (content : ByteArray) : Option Defect :=
  let field := numberAt content
  if content.size < headerSize then some .tooShort
  else if magic != (List.range 4).map (field · 1) then some .otherFormat
  else if field 4 1 ≠ 2 then some .otherWordSize
  else if let some defect := formatDefect? content then
    if field 18 2 ≠ machine then some .otherMachine else some defect
  else if field 20 4 ≠ 1 then some .otherVersion
  else if field 18 2 ≠ machine then some .otherMachine
  else if field 16 2 ≠ 3 && field 16 2 ≠ 2 then some .notLoadable
  else if field 54 2 ≠ entrySize then some .otherEntrySize
  else if content.size < field 32 8 + field 56 2 * entrySize then
    some (if field 32 8 < sizeLimit then .truncated else .badOffset)
  else none

/-- The segments that a header without defects describes. -/
def segments (content : ByteArray) : List Segment :=
  (List.range (numberAt content 56 2)).map fun i =>
    segmentAt content (numberAt content 32 8 + i * entrySize)

/-- The first defect, if there is one. -/
def defect? (content : ByteArray) : Option Defect :=
  match headerDefect? content with
  | some defect => some defect
  | none =>
    let segments := segments content
    let loaded := segments.filter Segment.isLoaded
    if loaded.any fun segment => !segment.isAligned then some .misalignedSegment
    else if loaded.isEmpty then some .noSegments
    else if numberAt content 16 2 = 2 then some .program
    else if !segments.any Segment.isDynamic then some .noDynamicPart
    else none

end CompileServer.ObjectFile
