import Velvt.PrototypeFiles

/-!
# Prototype files are parsed exactly

Each reader of the cursor is exact for the codes of what it reads, so a file is accepted just when
its bytes are the layout of a file that may be loaded.
-/

namespace Velvt.Prototypes

open ExactReaders List
open Velvt.Rules (utf8Bytes utf8Bytes_eq utf8Bytes_injective)

theorem fromLeBytes_eq_some {bytes : List UInt8} {number : UInt32} :
    fromLeBytes bytes = some number ↔ bytes = toLeBytes number := by
  constructor
  · intro read
    rcases bytes with _ | ⟨first, _ | ⟨second, _ | ⟨third, _ | ⟨fourth, _ | ⟨fifth, rest⟩⟩⟩⟩⟩
    all_goals try cases read
    have first_lt := first.toNat_lt
    have second_lt := second.toNat_lt
    have third_lt := third.toNat_lt
    have fourth_lt := fourth.toNat_lt
    simp only [toLeBytes, UInt32.toNat_ofNat', List.cons.injEq, and_true, ← UInt8.toNat_inj,
      UInt8.toNat_ofNat']
    omega
  · rintro rfl
    have number_lt := number.toNat_lt
    simp only [toLeBytes, fromLeBytes, Option.some.injEq, ← UInt32.toNat_inj, UInt32.toNat_ofNat',
      UInt8.toNat_ofNat']
    omega

theorem toLeBytes_length (number : UInt32) : (toLeBytes number).length = 4 := rfl

theorem fromUTF8?_eq_some {bytes : List UInt8} {text : String} :
    String.fromUTF8? ⟨bytes.toArray⟩ = some text ↔ bytes = utf8Bytes text := by
  rw [String.fromUTF8?, utf8Bytes_eq]
  constructor
  · intro read
    split at read
    · cases read
      rfl
    · cases read
  · intro written
    have same : (⟨bytes.toArray⟩ : ByteArray) = text.toByteArray := by
      refine ByteArray.ext ?_
      rw [written, Array.toArray_toList]
    rw [same, dif_pos text.isValidUTF8]
    rfl

section Cursors

open CursorReader

/-- What a cursor has left to read. -/
abbrev ReadsLeft {Value : Type} (read : CursorReader Value)
    (codes : Value → List UInt8 → Prop) : Prop := Reads Cursor.remaining read codes

theorem reads_take (length : Nat) :
    ReadsLeft (take length) fun bytes code => bytes.length = length ∧ code = bytes where
  sound {cursor bytes next} isRead := by
    change (if fits : cursor.position + length ≤ cursor.bytes.length then _ else _) = _ at isRead
    split at isRead
    · rename_i fits
      cases isRead
      refine ⟨_, ⟨?_, rfl⟩, ?_⟩
      · rw [length_take, length_drop]
        omega
      · change cursor.bytes.drop cursor.position =
          _ ++ cursor.bytes.drop (cursor.position + length)
        rw [← drop_drop, take_append_drop]
    · cases isRead
  complete {cursor bytes code rest} isCode isLeft := by
    obtain ⟨rfl, rfl⟩ := isCode
    have fits : cursor.position + code.length ≤ cursor.bytes.length := by
      have length := congrArg List.length isLeft
      rw [Cursor.remaining, length_drop, length_append] at length
      have inside := cursor.inside
      omega
    rw [Cursor.remaining] at isLeft
    refine ⟨⟨cursor.bytes, cursor.position + code.length, fits⟩, ?_, ?_⟩
    · change (if fits : cursor.position + code.length ≤ cursor.bytes.length then _ else _) = _
      rw [dif_pos fits, isLeft, take_left']
      rfl
    · rw [Cursor.remaining, ← drop_drop, isLeft, drop_left']
      rfl

theorem reads_orInvalid {Value : Type} (value : Option Value) :
    ReadsLeft (orInvalid value) fun found code => value = some found ∧ code = [] := by
  cases value with
  | none => exact (Reads.throw _).congr fun found code => by simp
  | some value => exact (Reads.pure value).congr fun found code => by simp [eq_comm]

theorem reads_u32 : ReadsLeft u32 fun number code => code = toLeBytes number := by
  refine ((reads_take 4).bind fun bytes => reads_orInvalid (fromLeBytes bytes)).congr
    fun number code => ?_
  constructor
  · rintro ⟨bytes, _, _, ⟨-, rfl⟩, ⟨read, rfl⟩, rfl⟩
    rw [append_nil]
    exact fromLeBytes_eq_some.mp read
  · rintro rfl
    exact ⟨_, _, _, ⟨toLeBytes_length number, rfl⟩, ⟨fromLeBytes_eq_some.mpr rfl, rfl⟩,
      (append_nil _).symm⟩

theorem reads_f32 : ReadsLeft f32 fun value code => True ∧ code = toLeBytes value.bits := by
  refine ((reads_take 4).bind fun bytes => (reads_orInvalid (fromLeBytes bytes)).bind
    fun bits => Reads.pure (F32.mk bits)).congr fun value code => ?_
  constructor
  · rintro ⟨bytes, _, _, ⟨-, rfl⟩, ⟨bits, _, _, ⟨read, rfl⟩, ⟨rfl, rfl⟩, rfl⟩, rfl⟩
    rw [append_nil, append_nil]
    exact ⟨trivial, fromLeBytes_eq_some.mp read⟩
  · rintro ⟨-, rfl⟩
    exact ⟨_, _, _, ⟨toLeBytes_length value.bits, rfl⟩, ⟨value.bits, _, _,
      ⟨fromLeBytes_eq_some.mpr rfl, rfl⟩, ⟨rfl, rfl⟩, rfl⟩, by simp⟩

theorem reads_string :
    ReadsLeft string fun text code => Short text ∧ code = encodeString text := by
  refine (reads_u32.bind fun length => (reads_take length.toNat).bind
    fun bytes => reads_orInvalid (String.fromUTF8? ⟨bytes.toArray⟩)).congr fun text code => ?_
  constructor
  · rintro ⟨length, _, _, rfl, ⟨bytes, _, _, ⟨isLength, rfl⟩, ⟨read, rfl⟩, rfl⟩, rfl⟩
    rw [fromUTF8?_eq_some] at read
    subst read
    have length_lt := length.toNat_lt
    refine ⟨by rw [Short, isLength]; exact length_lt, ?_⟩
    rw [append_nil, encodeString, encodeU32, isLength, UInt32.ofNat_toNat]
  · rintro ⟨short, rfl⟩
    refine ⟨UInt32.ofNat (utf8Bytes text).length, _, _, rfl, ⟨utf8Bytes text, _, _, ⟨?_, rfl⟩,
      ⟨fromUTF8?_eq_some.mpr rfl, rfl⟩, rfl⟩, ?_⟩
    · rw [UInt32.toNat_ofNat', Nat.mod_eq_of_lt short]
    · rw [append_nil, encodeString, encodeU32]

end Cursors

section Records

open CursorReader

def pushRecord (prototypes : PrototypeMap) (record : PrototypeRecord) : PrototypeMap :=
  pushPrototype prototypes record.category record.vector

/-- The records that may come when some are in place. -/
def Admitted (hasArtifactVersion : Bool) (dimensions : Nat) :
    PrototypeMap → List PrototypeRecord → Prop
  | _, [] => True
  | prototypes, record :: records =>
    record.WellFormed dimensions ∧
      (hasArtifactVersion = false → prototypes.getD record.category [] = []) ∧
      Admitted hasArtifactVersion dimensions (pushRecord prototypes record) records

theorem reads_records (hasArtifactVersion : Bool) (dimensions count : Nat)
    (prototypes : PrototypeMap) :
    ReadsLeft (readRecords hasArtifactVersion dimensions count prototypes) fun found code =>
      ∃ records, records.length = count ∧ Admitted hasArtifactVersion dimensions prototypes records ∧
        found = records.foldl pushRecord prototypes ∧
        code = records.flatMap PrototypeRecord.encode := by
  induction count generalizing prototypes with
  | zero =>
    refine (Reads.pure prototypes).congr fun found code => ?_
    constructor
    · rintro ⟨rfl, rfl⟩
      exact ⟨[], rfl, trivial, rfl, rfl⟩
    · rintro ⟨records, length, -, rfl, rfl⟩
      rw [length_eq_zero_iff.mp length]
      exact ⟨rfl, rfl⟩
  | succ count ih =>
    refine (reads_string.bind fun category => ((reads_f32.repeated dimensions).bind fun vector =>
      ((ih (pushPrototype prototypes category vector)).guarded.guarded))).congr fun found code => ?_
    constructor
    · rintro ⟨category, _, _, ⟨short, rfl⟩, ⟨vector, _, _, ⟨⟨length, -⟩, rfl⟩,
        ⟨admitted, fresh, records, isCount, areAdmitted, rfl, rfl⟩, rfl⟩, rfl⟩
      simp only [Bool.or_eq_true, String.isEmpty_iff, any_eq_true, Bool.not_eq_true', not_or,
        not_exists, not_and, Bool.not_eq_false] at admitted
      refine ⟨⟨category, vector⟩ :: records, by rw [length_cons, isCount],
        ⟨⟨short, admitted.1, length, admitted.2⟩, ?_, areAdmitted⟩, rfl, ?_⟩
      · intro legacy
        simpa [legacy] using fresh
      · rw [flatMap_cons, PrototypeRecord.encode, append_assoc]
    · rintro ⟨records, length, admitted, rfl, rfl⟩
      cases records with
      | nil => cases length
      | cons record records =>
        obtain ⟨wellFormed, fresh, areAdmitted⟩ := admitted
        refine ⟨record.category, _, _, ⟨wellFormed.short, rfl⟩, ⟨record.vector, _, _,
          ⟨⟨wellFormed.length, fun _ _ => trivial⟩, rfl⟩, ⟨?_, ?_, records,
            Nat.succ.inj length, areAdmitted, rfl, rfl⟩, rfl⟩, ?_⟩
        · simp only [Bool.or_eq_true, String.isEmpty_iff, any_eq_true, Bool.not_eq_true',
            not_or, not_exists, not_and, Bool.not_eq_false]
          exact ⟨wellFormed.named, wellFormed.finite⟩
        · simpa using fresh
        · rw [flatMap_cons, PrototypeRecord.encode, append_assoc]

variable {hasArtifactVersion : Bool} {dimensions : Nat} {prototypes : PrototypeMap}
  {records : List PrototypeRecord}

def recordVectors (records : List PrototypeRecord) (category : String) : List (List F32) :=
  (records.filter fun record => record.category = category).map PrototypeRecord.vector

theorem getD_pushRecord (prototypes : PrototypeMap) (record : PrototypeRecord) (category : String) :
    (pushRecord prototypes record).getD category [] =
      prototypes.getD category [] ++ recordVectors [record] category := by
  rw [pushRecord, pushPrototype, Std.HashMap.getD_insert, recordVectors]
  by_cases same : record.category = category
  · simp [same]
  · simp [same]

theorem getElem?_foldl (prototypes : PrototypeMap) (records : List PrototypeRecord)
    (category : String) :
    (records.foldl pushRecord prototypes)[category]? =
      if recordVectors records category = [] then prototypes[category]?
      else some (prototypes.getD category [] ++ recordVectors records category) := by
  induction records generalizing prototypes with
  | nil => rfl
  | cons record records ih =>
    have split : recordVectors (record :: records) category =
        recordVectors [record] category ++ recordVectors records category := by
      rw [recordVectors, ← singleton_append, filter_append, map_append]
      rfl
    rw [foldl_cons, ih, getD_pushRecord, split, append_assoc]
    by_cases same : record.category = category
    · have own : recordVectors [record] category = [record.vector] := by
        simp [recordVectors, same]
      rw [own, pushRecord, pushPrototype, Std.HashMap.getElem?_insert]
      by_cases last : recordVectors records category = []
      · simp [last, same]
      · simp [last]
    · have other : recordVectors [record] category = [] := by simp [recordVectors, same]
      rw [other, pushRecord, pushPrototype, Std.HashMap.getElem?_insert]
      simp [same]

theorem admitted_iff : Admitted hasArtifactVersion dimensions prototypes records ↔
    (∀ record ∈ records, record.WellFormed dimensions) ∧
      (hasArtifactVersion = false → (records.map PrototypeRecord.category).Nodup ∧
        ∀ record ∈ records, prototypes.getD record.category [] = []) := by
  induction records generalizing prototypes with
  | nil => simp [Admitted]
  | cons record records ih =>
    rw [Admitted, ih, forall_mem_cons, map_cons, nodup_cons, forall_mem_cons]
    have later (other : PrototypeRecord) :
        (pushRecord prototypes record).getD other.category [] = [] ↔
          prototypes.getD other.category [] = [] ∧ record.category ≠ other.category := by
      rw [getD_pushRecord, append_eq_nil_iff, recordVectors]
      by_cases same : record.category = other.category
      · simp [same]
      · simp [same]
    simp only [later]
    constructor
    · rintro ⟨wellFormed, fresh, areWellFormed, others⟩
      refine ⟨⟨wellFormed, areWellFormed⟩, fun legacy => ?_⟩
      obtain ⟨distinct, absent⟩ := others legacy
      refine ⟨⟨?_, distinct⟩, fresh legacy, fun other isOther => (absent other isOther).1⟩
      intro listed
      obtain ⟨other, isOther, same⟩ := mem_map.mp listed
      exact (absent other isOther).2 same.symm
    · rintro ⟨⟨wellFormed, areWellFormed⟩, others⟩
      refine ⟨wellFormed, fun legacy => (others legacy).2.1, areWellFormed, fun legacy => ?_⟩
      obtain ⟨⟨notListed, distinct⟩, -, absent⟩ := others legacy
      refine ⟨distinct, fun other isOther => ⟨absent other isOther, fun same => notListed ?_⟩⟩
      exact same ▸ mem_map_of_mem isOther

end Records

def PrototypeFile.centroids (file : PrototypeFile) : CategoryCentroids where
  taxonomyVersion := file.taxonomyVersion
  artifactVersion := file.artifactVersion
  prototypes := file.records.foldl pushRecord ∅

theorem holds_centroids (file : PrototypeFile) : file.centroids.Holds file where
  taxonomy := rfl
  artifact := rfl
  prototypes category := by
    rw [PrototypeFile.centroids, getElem?_foldl]
    simp [recordVectors, PrototypeFile.vectors]

theorem legacyMagic_ne : legacyMagic ≠ prototypeMagic := by
  intro same
  exact absurd (utf8Bytes_injective same) (by decide)

theorem reads_magic : ReadsLeft readMagic fun hasArtifactVersion code =>
    code = if hasArtifactVersion then prototypeMagic else legacyMagic := by
  have reads_choice (magic : List UInt8) : ReadsLeft
      (if magic = legacyMagic then pure false else if magic = prototypeMagic then pure true
        else throw .invalid) fun hasArtifactVersion code =>
      (magic = if hasArtifactVersion then prototypeMagic else legacyMagic) ∧ code = [] := by
    split
    · rename_i legacy
      refine (Reads.pure false).congr fun hasArtifactVersion code => ?_
      cases hasArtifactVersion <;> simp [legacy, legacyMagic_ne]
    · rename_i notLegacy
      split
      · rename_i current
        refine (Reads.pure true).congr fun hasArtifactVersion code => ?_
        cases hasArtifactVersion <;> simp [current, legacyMagic_ne.symm]
      · rename_i notCurrent
        refine (Reads.throw _).congr fun hasArtifactVersion code => ?_
        cases hasArtifactVersion <;> simp [notLegacy, notCurrent]
  refine ((reads_take 8).bind reads_choice).congr fun hasArtifactVersion code => ?_
  constructor
  · rintro ⟨magic, _, _, ⟨-, rfl⟩, ⟨isMagic, rfl⟩, rfl⟩
    rw [append_nil]
    exact isMagic
  · rintro rfl
    refine ⟨_, _, _, ⟨?_, rfl⟩, ⟨rfl, rfl⟩, (append_nil _).symm⟩
    cases hasArtifactVersion <;> rfl

theorem reads_artifactVersion (hasArtifactVersion : Bool) :
    ReadsLeft (readArtifactVersion hasArtifactVersion) fun text code =>
      if hasArtifactVersion then Short text ∧ code = encodeString text
      else text = legacyArtifactVersion ∧ code = [] := by
  cases hasArtifactVersion with
  | true => exact reads_string
  | false => exact Reads.pure _

def FileHeader.encode (header : FileHeader) : List UInt8 :=
  (if header.hasArtifactVersion then prototypeMagic else legacyMagic) ++
    encodeString header.taxonomyVersion ++
      (if header.hasArtifactVersion then encodeString header.artifactVersion else []) ++
        toLeBytes header.dimensions ++ toLeBytes header.count

structure FileHeader.WellFormed (header : FileHeader) : Prop where
  shortTaxonomy : Short header.taxonomyVersion
  shortArtifact : Short header.artifactVersion
  legacy : header.hasArtifactVersion = false → header.artifactVersion = legacyArtifactVersion

theorem short_legacyArtifactVersion : Short legacyArtifactVersion := by
  unfold Short
  decide

theorem reads_header :
    ReadsLeft readHeader fun header code => header.WellFormed ∧ code = header.encode := by
  refine (reads_magic.bind fun hasArtifactVersion => reads_string.bind fun taxonomyVersion =>
    (reads_artifactVersion hasArtifactVersion).bind fun artifactVersion =>
      reads_u32.bind fun dimensions => reads_u32.bind fun count =>
        Reads.pure (FileHeader.mk hasArtifactVersion taxonomyVersion artifactVersion dimensions
          count)).congr fun header code => ?_
  constructor
  · rintro ⟨hasArtifactVersion, _, _, rfl, ⟨taxonomyVersion, _, _, ⟨short, rfl⟩,
      ⟨artifactVersion, versionCode, _, version, ⟨dimensions, _, _, rfl, ⟨count, _, _, rfl,
        ⟨rfl, rfl⟩, rfl⟩, rfl⟩, rfl⟩, rfl⟩, rfl⟩
    cases hasArtifactVersion with
    | true =>
      obtain ⟨shortVersion, rfl⟩ := version
      exact ⟨⟨short, shortVersion, fun legacy => by cases legacy⟩,
        by simp [FileHeader.encode, append_assoc]⟩
    | false =>
      obtain ⟨rfl, rfl⟩ := version
      exact ⟨⟨short, short_legacyArtifactVersion, fun _ => rfl⟩,
        by simp [FileHeader.encode, append_assoc]⟩
  · rintro ⟨wellFormed, rfl⟩
    obtain ⟨hasArtifactVersion, taxonomyVersion, artifactVersion, dimensions, count⟩ := header
    refine ⟨hasArtifactVersion, _, _, rfl, ⟨taxonomyVersion, _, _, ⟨wellFormed.shortTaxonomy, rfl⟩,
      ⟨artifactVersion, if hasArtifactVersion then encodeString artifactVersion else [], _, ?_,
        ⟨dimensions, _, _, rfl, ⟨count, _, _, rfl, ⟨rfl, rfl⟩, rfl⟩, rfl⟩, rfl⟩, rfl⟩, ?_⟩
    · cases hasArtifactVersion with
      | true => exact ⟨wellFormed.shortArtifact, rfl⟩
      | false => exact ⟨wellFormed.legacy rfl, rfl⟩
    · simp [FileHeader.encode, append_assoc]

/-- What the parser accepts is the encoding of a well-formed file. -/
theorem reads_file : ReadsLeft readFile fun centroids code =>
    ∃ file : PrototypeFile, file.WellFormed ∧ centroids = file.centroids ∧ code = file.encode := by
  refine (reads_header.bind fun header =>
    Reads.guarded ((reads_records header.hasArtifactVersion header.dimensions.toNat
      header.count.toNat ∅).bind fun prototypes => Reads.pure
        (CategoryCentroids.mk header.taxonomyVersion header.artifactVersion prototypes))).congr
          fun centroids code => ?_
  constructor
  · rintro ⟨header, _, _, ⟨wellFormed, rfl⟩, ⟨admitted, prototypes, _, _,
      ⟨records, isCount, areAdmitted, rfl, rfl⟩, ⟨rfl, rfl⟩, rfl⟩, rfl⟩
    obtain ⟨hasArtifactVersion, taxonomyVersion, artifactVersion, dimensions, count⟩ := header
    simp only [Bool.or_eq_true, String.isEmpty_iff, beq_iff_eq, not_or] at admitted
    obtain ⟨⟨⟨taxonomy, artifact⟩, someDimensions⟩, someRecords⟩ := admitted
    obtain ⟨areWellFormed, distinct⟩ := admitted_iff.mp areAdmitted
    have positive : 1 ≤ dimensions.toNat := by
      rw [Nat.one_le_iff_ne_zero]
      exact fun zero => someDimensions (UInt32.toNat_inj.mp zero)
    have nonempty : records ≠ [] := by
      rintro rfl
      exact someRecords (UInt32.toNat_inj.mp isCount.symm)
    have dimensions_lt := dimensions.toNat_lt
    have count_lt : records.length < 2 ^ 32 := isCount ▸ count.toNat_lt
    have dimensionsCode : encodeU32 dimensions.toNat = toLeBytes dimensions := by
      rw [encodeU32, UInt32.ofNat_toNat]
    have countCode : encodeU32 records.length = toLeBytes count := by
      rw [encodeU32, isCount, UInt32.ofNat_toNat]
    cases hasArtifactVersion with
    | true =>
      refine ⟨⟨.prototype artifactVersion, taxonomyVersion, dimensions.toNat, records⟩,
        ⟨wellFormed.shortTaxonomy, wellFormed.shortArtifact, dimensions_lt, count_lt, taxonomy,
          artifact, positive, nonempty, areWellFormed, fun legacy => by cases legacy⟩, rfl, ?_⟩
      simp [PrototypeFile.encode, FileHeader.encode, dimensionsCode, countCode]
    | false =>
      obtain rfl : artifactVersion = legacyArtifactVersion := wellFormed.legacy rfl
      refine ⟨⟨.legacy, taxonomyVersion, dimensions.toNat, records⟩,
        ⟨wellFormed.shortTaxonomy, wellFormed.shortArtifact, dimensions_lt, count_lt, taxonomy,
          artifact, positive, nonempty, areWellFormed, fun _ => (distinct rfl).1⟩, rfl, ?_⟩
      simp [PrototypeFile.encode, FileHeader.encode, dimensionsCode, countCode]
  · rintro ⟨file, wellFormed, rfl, rfl⟩
    obtain ⟨format, taxonomyVersion, dimensions, records⟩ := file
    have dimensionsBack : (UInt32.ofNat dimensions).toNat = dimensions := by
      rw [UInt32.toNat_ofNat', Nat.mod_eq_of_lt wellFormed.fewDimensions]
    have countBack : (UInt32.ofNat records.length).toNat = records.length := by
      rw [UInt32.toNat_ofNat', Nat.mod_eq_of_lt wellFormed.fewRecords]
    have someDimensions : UInt32.ofNat dimensions ≠ 0 := by
      intro zero
      have positive : 1 ≤ dimensions := wellFormed.dimensions
      rw [zero] at dimensionsBack
      exact absurd dimensionsBack.symm (Nat.one_le_iff_ne_zero.mp positive)
    have someRecords : UInt32.ofNat records.length ≠ 0 := by
      intro zero
      rw [zero] at countBack
      exact wellFormed.nonempty (length_eq_zero_iff.mp countBack.symm)
    have areAdmitted (hasArtifactVersion : Bool)
        (distinct : hasArtifactVersion = false → (records.map PrototypeRecord.category).Nodup) :
        Admitted hasArtifactVersion (UInt32.ofNat dimensions).toNat ∅ records := by
      rw [dimensionsBack, admitted_iff]
      exact ⟨wellFormed.records, fun legacy =>
        ⟨distinct legacy, fun record _ => Std.HashMap.getD_empty⟩⟩
    have taxonomy : taxonomyVersion ≠ "" := wellFormed.taxonomy
    have artifact := wellFormed.artifact
    cases format with
    | prototype artifactVersion =>
      refine ⟨⟨true, taxonomyVersion, artifactVersion, UInt32.ofNat dimensions,
        UInt32.ofNat records.length⟩, _, _, ⟨⟨wellFormed.shortTaxonomy, wellFormed.shortArtifact,
          fun legacy => by cases legacy⟩, rfl⟩, ⟨?_, _, _, _, ⟨records, countBack.symm,
            areAdmitted true (fun legacy => by cases legacy), rfl, rfl⟩, ⟨rfl, rfl⟩, rfl⟩, ?_⟩
      · have named : artifactVersion ≠ "" := artifact
        simp [taxonomy, named, someDimensions, someRecords]
      · simp [PrototypeFile.encode, FileHeader.encode, encodeU32]
    | legacy =>
      refine ⟨⟨false, taxonomyVersion, legacyArtifactVersion, UInt32.ofNat dimensions,
        UInt32.ofNat records.length⟩, _, _, ⟨⟨wellFormed.shortTaxonomy, wellFormed.shortArtifact,
          fun _ => rfl⟩, rfl⟩, ⟨?_, _, _, _, ⟨records, countBack.symm,
            areAdmitted false (fun _ => wellFormed.distinct rfl), rfl, rfl⟩, ⟨rfl, rfl⟩, rfl⟩, ?_⟩
      · have named : legacyArtifactVersion ≠ "" := artifact
        simp [taxonomy, named, someDimensions, someRecords]
      · simp [PrototypeFile.encode, FileHeader.encode, encodeU32]

theorem fromBytes_eq_ok {bytes : List UInt8} {centroids : CategoryCentroids} :
    fromBytes bytes = .ok centroids ↔ ∃ file : PrototypeFile,
      file.WellFormed ∧ centroids = file.centroids ∧ bytes = file.encode := by
  have start : (Cursor.new bytes).remaining = bytes := drop_zero
  constructor
  · intro accepted
    rw [fromBytes] at accepted
    cases isRead : readFile.run (.new bytes) with
    | error error =>
      rw [isRead] at accepted
      cases accepted
    | ok found =>
      obtain ⟨centroids, cursor⟩ := found
      rw [isRead] at accepted
      change (if (!cursor.remaining.isEmpty) = true then _ else _) = _ at accepted
      split at accepted
      · cases accepted
      · rename_i nothing
        cases accepted
        obtain ⟨code, ⟨file, wellFormed, same, rfl⟩, taken⟩ := reads_file.sound isRead
        refine ⟨file, wellFormed, same, ?_⟩
        have none : cursor.remaining = [] := by simpa using nothing
        rw [← start, taken, none, append_nil]
  · rintro ⟨file, wellFormed, rfl, rfl⟩
    obtain ⟨cursor, isRead, none⟩ := reads_file.complete ⟨file, wellFormed, rfl, rfl⟩
      (start.trans (append_nil _).symm)
    rw [fromBytes, isRead]
    change (if (!cursor.remaining.isEmpty) = true then _ else _) = _
    rw [none]
    rfl

/-- A file is accepted just when its bytes are the layout of a file that may be loaded; it is read
as what that file says, and no accepted file is the front of another. -/
theorem fromBytes_exact (bytes : List UInt8) :
    ((∃ centroids, fromBytes bytes = .ok centroids) ↔
        ∃ file : PrototypeFile, file.WellFormed ∧ bytes = file.encode) ∧
      (∀ file : PrototypeFile, file.WellFormed → bytes = file.encode →
        ∃ centroids, fromBytes bytes = .ok centroids ∧ centroids.Holds file) ∧
      ∀ extra, (∃ centroids, fromBytes bytes = .ok centroids) →
        (∃ centroids, fromBytes (bytes ++ extra) = .ok centroids) → extra = [] := by
  refine ⟨⟨?_, ?_⟩, ?_, ?_⟩
  · rintro ⟨centroids, accepted⟩
    obtain ⟨file, wellFormed, -, same⟩ := fromBytes_eq_ok.mp accepted
    exact ⟨file, wellFormed, same⟩
  · rintro ⟨file, wellFormed, same⟩
    exact ⟨file.centroids, fromBytes_eq_ok.mpr ⟨file, wellFormed, rfl, same⟩⟩
  · intro file wellFormed same
    exact ⟨file.centroids, fromBytes_eq_ok.mpr ⟨file, wellFormed, rfl, same⟩, holds_centroids file⟩
  · rintro extra ⟨centroids, accepted⟩ ⟨others, longer⟩
    obtain ⟨file, wellFormed, rfl, rfl⟩ := fromBytes_eq_ok.mp accepted
    obtain ⟨other, wellFormedToo, rfl, same⟩ := fromBytes_eq_ok.mp longer
    have start : (Cursor.new (file.encode ++ extra)).remaining = file.encode ++ extra :=
      drop_zero
    exact (reads_file.code_unique ⟨file, wellFormed, rfl, rfl⟩ ⟨other, wellFormedToo, rfl, rfl⟩
      start (start.trans (same.trans (append_nil _).symm))).2

end Velvt.Prototypes
