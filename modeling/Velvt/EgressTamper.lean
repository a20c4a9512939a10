import Mathlib
import Velvt.EgressRetention

/-!
# Tamper evidence of the egress chain

The hashed line of an entry can be read back field by field, so two lines are equal only when their
entries agree in every field.
-/

namespace Velvt

open List

theorem fields_injective {separator : Char} {first second : List (List Char)}
    (firstFree : ∀ field ∈ first, separator ∉ field)
    (secondFree : ∀ field ∈ second, separator ∉ field)
    (firstSome : first ≠ []) (secondSome : second ≠ [])
    (same : [separator].intercalate first = [separator].intercalate second) :
    first = second := by
  rw [← splitOn_intercalate separator firstFree firstSome, same,
    splitOn_intercalate separator secondFree secondSome]

theorem bar_not_mem_nat (number : Nat) : '|' ∉ (toString number).toList := by
  intro member
  rw [Nat.toString_eq_repr, Nat.toList_repr] at member
  have isDigit := Nat.isDigit_of_mem_toDigits (by decide) (by decide) member
  revert isDigit
  decide

theorem bar_not_mem_int (number : Int) : '|' ∉ (toString number).toList := by
  intro member
  rw [Int.toString_eq_repr, Int.repr_eq_if] at member
  split at member
  · exact bar_not_mem_nat _ (by rwa [Nat.toString_eq_repr])
  · rw [String.toList_append, mem_append] at member
    rcases member with sign | digits
    · revert sign
      decide
    · exact bar_not_mem_nat _ (by rwa [Nat.toString_eq_repr])

theorem bar_not_mem_percentEncoded (byte : UInt8) : '|' ∉ percentEncoded byte := by
  have notDigit : ∀ digit < 16, (Nat.digitChar digit).toUpper ≠ '|' := by decide
  have isByte := byte.toNat_lt
  intro member
  simp only [percentEncoded, mem_cons, not_mem_nil, or_false] at member
  rcases member with percent | high | low
  · revert percent
    decide
  · exact notDigit _ (by omega) high.symm
  · exact notDigit _ (by omega) low.symm

theorem bar_not_mem_ledgerEndpoint (url : String) : '|' ∉ (ledgerEndpoint url).toList := by
  unfold ledgerEndpoint
  rw [String.toList_ofList, mem_flatMap]
  rintro ⟨character, -, member⟩
  split at member
  · obtain ⟨byte, -, encoded⟩ := mem_flatMap.mp member
    exact bar_not_mem_percentEncoded byte encoded
  next plain =>
    rw [mem_singleton] at member
    subst member
    exact plain rfl

def isHexDigit (digit : Char) : Bool :=
  digit.isDigit || (0x61 ≤ digit.toNat && digit.toNat ≤ 0x66)

/-- A SHA-256 digest in hex: 64 lowercase digits. -/
def IsHexDigest (text : String) : Prop :=
  text.length = 64 ∧ text.toList.all isHexDigit = true
  deriving Decidable

theorem isHexDigest_ofList {digits : List Char} (hasLength : digits.length = 64)
    (isHex : digits.all isHexDigit = true) : IsHexDigest (String.ofList digits) := by
  constructor
  · rw [String.length_ofList, hasLength]
  · rw [String.toList_ofList, isHex]

theorem IsHexDigest.bar_not_mem {text : String} (digest : IsHexDigest text) :
    '|' ∉ text.toList := by
  intro member
  have isDigit := all_eq_true.mp digest.2 _ member
  revert isDigit
  decide

namespace EgressLedgerEntry

/-- An entry with the fields that the ledger writes. -/
structure WellFormed (entry : EgressLedgerEntry) : Prop where
  endpoint : ∃ url, entry.endpoint = ledgerEndpoint url
  method : '|' ∉ entry.method.toList
  bodySha256 : IsHexDigest entry.bodySha256
  prevHash : IsHexDigest entry.prevHash

def fields (entry : EgressLedgerEntry) : List (List Char) :=
  [ledgerHashDomain.toList, (toString entry.seq).toList, (toString entry.recordedAt).toList,
    entry.method.toList, entry.endpoint.toList, (toString entry.bodyBytes).toList,
    entry.bodySha256.toList, (toString (u8From entry.bodyRedacted)).toList,
    (toString (u8From entry.bearer)).toList, entry.prevHash.toList]

theorem line_toList (entry : EgressLedgerEntry) :
    entry.line.toList = ['|'].intercalate entry.fields := by
  have separator : "|".toList = ['|'] := by decide
  have text (string : String) : toString string = string := rfl
  unfold line chainLine fields
  generalize ledgerHashDomain = domain
  simp only [String.toList_append, intercalate_cons_cons, intercalate_singleton, append_assoc]
  simp only [text, separator]

theorem WellFormed.bar_not_mem {entry : EgressLedgerEntry} (formed : entry.WellFormed) :
    ∀ field ∈ entry.fields, '|' ∉ field := by
  obtain ⟨url, isEndpoint⟩ := formed.endpoint
  intro field member
  simp only [fields, mem_cons, not_mem_nil, or_false] at member
  rcases member with rfl | rfl | rfl | rfl | rfl | rfl | rfl | rfl | rfl | rfl
  · decide
  · exact bar_not_mem_int _
  · exact bar_not_mem_int _
  · exact formed.method
  · rw [isEndpoint]
    exact bar_not_mem_ledgerEndpoint url
  · exact bar_not_mem_int _
  · exact formed.bodySha256.bar_not_mem
  · exact bar_not_mem_nat _
  · exact bar_not_mem_nat _
  · exact formed.prevHash.bar_not_mem

theorem u8From_injective {first second : Bool} (same : u8From first = u8From second) :
    first = second := by
  cases first <;> cases second <;> simp_all [u8From]

theorem line_injective {first second : EgressLedgerEntry} (firstFormed : first.WellFormed)
    (secondFormed : second.WellFormed) (same : first.line = second.line) :
    first = { second with entryHash := first.entryHash } := by
  have sameFields : first.fields = second.fields := by
    apply fields_injective firstFormed.bar_not_mem secondFormed.bar_not_mem (by simp [fields])
      (by simp [fields])
    rw [← line_toList, ← line_toList, same]
  simp only [fields, List.cons.injEq, String.toList_inj, Int.toString_eq_repr, Int.repr_inj,
    Nat.toString_eq_repr, Nat.repr_inj, and_true, true_and] at sameFields
  obtain ⟨seq, recordedAt, method, endpoint, bodyBytes, bodySha256, redacted, bearer, prevHash⟩ :=
    sameFields
  have sameRedacted := u8From_injective redacted
  have sameBearer := u8From_injective bearer
  cases first
  cases second
  simp_all

end EgressLedgerEntry

/-- Lists that verify from one anchor to one head are equal, if no two of their lines
collide. -/
theorem egress_chain_tamper_evident (sha256Hex : String → String) :
    (∀ first second : EgressLedgerEntry, first.WellFormed → second.WellFormed →
        first.line = second.line → first = { second with entryHash := first.entryHash }) ∧
      ∀ (anchor : Option EgressCheckpoint) (first second : List EgressLedgerEntry)
        (firstSummary secondSummary : ChainSummary),
        (∀ left ∈ first, ∀ right ∈ second,
          sha256Hex left.line = sha256Hex right.line → left.line = right.line) →
        (∀ entry ∈ first, entry.WellFormed) → (∀ entry ∈ second, entry.WellFormed) →
        verifyChain sha256Hex anchor first = .ok firstSummary →
        verifyChain sha256Hex anchor second = .ok secondSummary →
        firstSummary.headSeq = secondSummary.headSeq →
        firstSummary.headHash = secondSummary.headHash → first = second := by
  constructor
  · intro first second firstFormed secondFormed same
    exact EgressLedgerEntry.line_injective firstFormed secondFormed same
  · intro anchor first second firstSummary secondSummary collisionFree firstFormed secondFormed
      firstVerified secondVerified sameSeq sameHash
    obtain ⟨firstChained, rfl⟩ := (verifyChain_eq_ok sha256Hex).mp firstVerified
    obtain ⟨secondChained, rfl⟩ := (verifyChain_eq_ok sha256Hex).mp secondVerified
    have sameLength : first.length = second.length := by
      simp only at sameSeq
      omega
    apply HashChain.eq_of_head_eq _ _ _ firstChained.linked secondChained.linked sameLength
      sameHash
    intro left leftMem right rightMem sameDigest
    have sameLine : left.line = right.line := by
      apply collisionFree left leftMem right rightMem
      rw [← EgressLedgerEntry.computedHash_eq sha256Hex left,
        ← EgressLedgerEntry.computedHash_eq sha256Hex right,
        firstChained.hashed left leftMem, secondChained.hashed right rightMem, sameDigest]
    rw [EgressLedgerEntry.line_injective (firstFormed left leftMem) (secondFormed right rightMem)
      sameLine, sameDigest]

/-- The two sample requests verify, and nothing else does behind their head. -/
theorem egress_chain_tamper_evident_sample :
    ∃ entries, verifyChain sampleSha256Hex none entries = .ok
        ⟨2, 0, 2, "13d26b0929779155dec8a8ac582ef7bbff2eaec157524d3e91404d073b19651b"⟩ ∧
      entries = sampleEntries := by
  have bodySha256 : IsHexDigest sampleRecord.bodySha256 := isHexDigest_ofList rfl rfl
  have genesis : IsHexDigest genesisHash := isHexDigest_ofList rfl rfl
  have first : IsHexDigest "7c11962f6eaf6acadaa7e47c35a97b39fe0ddbb0965ed6bb61401ea7b3eb890f" :=
    isHexDigest_ofList rfl rfl
  have endpoint : sampleRecord.endpoint = ledgerEndpoint sampleRecord.endpoint := by
    decide +kernel
  have formed : ∀ entry ∈ sampleEntries, entry.WellFormed := by
    intro entry member
    simp only [sampleEntries, mem_cons, not_mem_nil, or_false] at member
    rcases member with rfl | rfl
    · exact ⟨⟨_, endpoint⟩, by decide +kernel, bodySha256, genesis⟩
    · exact ⟨⟨_, endpoint⟩, by decide +kernel, bodySha256, first⟩
  have verified : verifyChain sampleSha256Hex none sampleEntries = .ok
      ⟨2, 0, 2, "13d26b0929779155dec8a8ac582ef7bbff2eaec157524d3e91404d073b19651b"⟩ :=
    (verifyChain_eq_ok sampleSha256Hex).mpr ⟨sampleEntries_sound.chained, rfl⟩
  have collisionFree : ∀ left ∈ sampleEntries, ∀ right ∈ sampleEntries,
      sampleSha256Hex left.line = sampleSha256Hex right.line → left.line = right.line := by
    intro left leftMem right rightMem same
    rw [sampleSha256Hex_line left leftMem, sampleSha256Hex_line right rightMem] at same
    simp only [sampleEntries, mem_cons, not_mem_nil, or_false] at leftMem rightMem
    rcases leftMem with rfl | rfl <;> rcases rightMem with rfl | rfl
    · rfl
    · exact absurd same (by simp)
    · exact absurd same (by simp)
    · rfl
  exact ⟨_, verified, (egress_chain_tamper_evident sampleSha256Hex).2 none sampleEntries
    sampleEntries _ _ collisionFree formed formed verified verified rfl rfl⟩

end Velvt
