import Std.Data.HashMap
import Velvt.ExactReaders
import Velvt.WindowKeys

/-!
# Prototype files

The embedding tier reads its prototypes from a binary file: a magic, the versions, the dimensions
and so many records of a category and a vector, each text after its length and each number with
its low byte first.  The older magic has one vector a category and no version of its own.
-/

namespace Velvt.Prototypes

open ExactReaders
open Velvt.Rules (utf8Bytes)

/-- `u32::from_le_bytes`, of the four bytes. -/
def fromLeBytes : List UInt8 → Option UInt32
  | [first, second, third, fourth] =>
    some (UInt32.ofNat (first.toNat + 256 * second.toNat + 65536 * third.toNat +
      16777216 * fourth.toNat))
  | _ => none

def toLeBytes (number : UInt32) : List UInt8 :=
  [UInt8.ofNat number.toNat, UInt8.ofNat (number.toNat / 256),
    UInt8.ofNat (number.toNat / 65536), UInt8.ofNat (number.toNat / 16777216)]

/-- An `f32`, by its bits. -/
structure F32 where
  bits : UInt32

/-- `f32::is_finite`: the exponent is not the one of infinities and NaNs. -/
def F32.isFinite (value : F32) : Bool := value.bits &&& 0x7F800000 != 0x7F800000

inductive CentroidError
  | read
  | invalid

/-- `Cursor`. -/
structure Cursor where
  bytes : List UInt8
  position : Nat
  inside : position ≤ bytes.length

namespace Cursor

def new (bytes : List UInt8) : Cursor := ⟨bytes, 0, Nat.zero_le _⟩

def remaining (cursor : Cursor) : List UInt8 := cursor.bytes.drop cursor.position

end Cursor

abbrev CursorReader := StateT Cursor (Except CentroidError)

namespace CursorReader

def take (length : Nat) : CursorReader (List UInt8) := fun cursor =>
  if fits : cursor.position + length ≤ cursor.bytes.length then
    .ok ((cursor.bytes.drop cursor.position).take length,
      ⟨cursor.bytes, cursor.position + length, fits⟩)
  else
    .error .invalid

/-- `map_err(|_| CentroidError::Invalid)`. -/
def orInvalid {Value : Type} : Option Value → CursorReader Value
  | some value => pure value
  | none => throw .invalid

def u32 : CursorReader UInt32 := do
  orInvalid (fromLeBytes (← take 4))

def string : CursorReader String := do
  let length ← u32
  orInvalid (String.fromUTF8? ⟨(← take length.toNat).toArray⟩)

def f32 : CursorReader F32 := do
  pure ⟨← orInvalid (fromLeBytes (← take 4))⟩

end CursorReader

/-- `VELVTC01`. -/
def legacyMagic : List UInt8 := utf8Bytes "VELVTC01"

/-- `VELVTP02`. -/
def prototypeMagic : List UInt8 := utf8Bytes "VELVTP02"

def legacyArtifactVersion : String := "centroids-v1"

abbrev PrototypeMap := Std.HashMap String (List (List F32))

structure CategoryCentroids where
  taxonomyVersion : String
  artifactVersion : String
  prototypes : PrototypeMap

def pushPrototype (prototypes : PrototypeMap) (category : String) (vector : List F32) :
    PrototypeMap :=
  prototypes.insert category (prototypes.getD category [] ++ [vector])

def readMagic : CursorReader Bool := do
  let magic ← CursorReader.take 8
  if magic = legacyMagic then pure false
  else if magic = prototypeMagic then pure true
  else throw .invalid

def readArtifactVersion (hasArtifactVersion : Bool) : CursorReader String :=
  if hasArtifactVersion then CursorReader.string else pure legacyArtifactVersion

def readRecords (hasArtifactVersion : Bool) (dimensions : Nat) :
    Nat → PrototypeMap → CursorReader PrototypeMap
  | 0, prototypes => pure prototypes
  | count + 1, prototypes => do
      let category ← CursorReader.string
      let vector ← repeated CursorReader.f32 dimensions
      let pushed := pushPrototype prototypes category vector
      if category.isEmpty || vector.any (fun value => !value.isFinite) then throw .invalid
      else if !hasArtifactVersion && !(prototypes.getD category []).isEmpty then throw .invalid
      else readRecords hasArtifactVersion dimensions count pushed

/-- What comes before the records. -/
structure FileHeader where
  hasArtifactVersion : Bool
  taxonomyVersion : String
  artifactVersion : String
  dimensions : UInt32
  count : UInt32

def readHeader : CursorReader FileHeader := do
  let hasArtifactVersion ← readMagic
  let taxonomyVersion ← CursorReader.string
  let artifactVersion ← readArtifactVersion hasArtifactVersion
  let dimensions ← CursorReader.u32
  let count ← CursorReader.u32
  pure { hasArtifactVersion, taxonomyVersion, artifactVersion, dimensions, count }

def readFile : CursorReader CategoryCentroids := do
  let header ← readHeader
  if header.taxonomyVersion.isEmpty || header.artifactVersion.isEmpty ||
      header.dimensions == 0 || header.count == 0 then throw .invalid
  else do
    let prototypes ← readRecords header.hasArtifactVersion header.dimensions.toNat
      header.count.toNat ∅
    pure ⟨header.taxonomyVersion, header.artifactVersion, prototypes⟩

def fromBytes (bytes : List UInt8) : Except CentroidError CategoryCentroids := do
  let (centroids, cursor) ← readFile.run (.new bytes)
  if !cursor.remaining.isEmpty then throw .invalid
  pure centroids

/-- The magic of a file, with the version that goes with it. -/
inductive FileFormat
  | legacy
  | prototype (artifactVersion : String)

structure PrototypeRecord where
  category : String
  vector : List F32

/-- What a prototype file says. -/
structure PrototypeFile where
  format : FileFormat
  taxonomyVersion : String
  dimensions : Nat
  records : List PrototypeRecord

def encodeU32 (number : Nat) : List UInt8 := toLeBytes (UInt32.ofNat number)

def encodeString (text : String) : List UInt8 :=
  encodeU32 (utf8Bytes text).length ++ utf8Bytes text

def PrototypeRecord.encode (record : PrototypeRecord) : List UInt8 :=
  encodeString record.category ++ record.vector.flatMap fun value => toLeBytes value.bits

namespace PrototypeFile

variable (file : PrototypeFile)

def artifactVersion : String :=
  match file.format with
  | .legacy => legacyArtifactVersion
  | .prototype artifactVersion => artifactVersion

def encode : List UInt8 :=
  (match file.format with
    | .legacy => legacyMagic ++ encodeString file.taxonomyVersion
    | .prototype artifactVersion =>
      prototypeMagic ++ encodeString file.taxonomyVersion ++ encodeString artifactVersion) ++
    encodeU32 file.dimensions ++ encodeU32 file.records.length ++
      file.records.flatMap PrototypeRecord.encode

def vectors (category : String) : List (List F32) :=
  (file.records.filter fun record => record.category = category).map PrototypeRecord.vector

end PrototypeFile

/-- A length that is written with four bytes. -/
def Short (text : String) : Prop := (utf8Bytes text).length < 2 ^ 32

structure PrototypeRecord.WellFormed (dimensions : Nat) (record : PrototypeRecord) : Prop where
  short : Short record.category
  named : record.category ≠ ""
  length : record.vector.length = dimensions
  finite : ∀ value ∈ record.vector, value.isFinite = true

/-- A file that may be loaded. -/
structure PrototypeFile.WellFormed (file : PrototypeFile) : Prop where
  shortTaxonomy : Short file.taxonomyVersion
  shortArtifact : Short file.artifactVersion
  fewDimensions : file.dimensions < 2 ^ 32
  fewRecords : file.records.length < 2 ^ 32
  taxonomy : file.taxonomyVersion ≠ ""
  artifact : file.artifactVersion ≠ ""
  dimensions : 1 ≤ file.dimensions
  nonempty : file.records ≠ []
  records : ∀ record ∈ file.records, record.WellFormed file.dimensions
  distinct : file.format = .legacy → (file.records.map PrototypeRecord.category).Nodup

/-- The centroids are those of the file. -/
structure CategoryCentroids.Holds (centroids : CategoryCentroids) (file : PrototypeFile) :
    Prop where
  taxonomy : centroids.taxonomyVersion = file.taxonomyVersion
  artifact : centroids.artifactVersion = file.artifactVersion
  prototypes : ∀ category, centroids.prototypes[category]? =
    if file.vectors category = [] then none else some (file.vectors category)

end Velvt.Prototypes
