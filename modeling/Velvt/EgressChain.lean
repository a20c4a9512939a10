import Mathlib.Tactic.Linarith
import Velvt.HashChain

/-!
# The egress chain

An entry of the egress ledger is hashed over one line of its fields, and names the hash
of the entry before it.  This file holds the line, the hash and the verifier.  The hash
function is a parameter: `sha256Hex` stands for the digest of a text's bytes, in hex.
-/

namespace Velvt

open List

def ledgerHashDomain : String := "velvt-egress-v1"

/-- `prev_hash` of the first entry ever written. -/
def genesisHash : String :=
  "0000000000000000000000000000000000000000000000000000000000000000"

/-- One outbound request, as the ledger records it. -/
structure EgressRecord where
  method : String
  endpoint : String
  bodyBytes : Nat
  bodySha256 : String
  bodyRedacted : Bool
  bearer : Bool

/-- One row of `egress_ledger`. -/
structure EgressLedgerEntry where
  seq : Int
  recordedAt : Int
  method : String
  endpoint : String
  bodyBytes : Int
  bodySha256 : String
  bodyRedacted : Bool
  bearer : Bool
  prevHash : String
  entryHash : String
  deriving DecidableEq

/-- The last entry that retention removed. -/
structure EgressCheckpoint where
  throughSeq : Int
  throughHash : String

/-- `u8::from`, of a flag. -/
def u8From (flag : Bool) : Nat := if flag then 1 else 0

def chainLine (seq recordedAt : Int) (method endpoint : String) (bodyBytes : Int)
    (bodySha256 : String) (bodyRedacted bearer : Bool) (prevHash : String) : String :=
  s!"{ledgerHashDomain}|{seq}|{recordedAt}|{method}|{endpoint}|{bodyBytes}|{bodySha256}|{u8From bodyRedacted}|{u8From bearer}|{prevHash}"

/-- `char::is_control`: the characters of category Cc. -/
def isControl (character : Char) : Bool :=
  character.toNat < 0x20 || (0x7f ≤ character.toNat && character.toNat ≤ 0x9f)

/-- `%{byte:02X}`. -/
def percentEncoded (byte : UInt8) : List Char :=
  ['%', (Nat.digitChar (byte.toNat / 16)).toUpper, (Nat.digitChar (byte.toNat % 16)).toUpper]

/-- A URL as the ledger stores it: `|` and control characters percent-encoded. -/
def ledgerEndpoint (url : String) : String :=
  String.ofList (url.toList.flatMap fun character =>
    if character == '|' || isControl character then
      (String.utf8EncodeChar character).flatMap percentEncoded
    else
      [character])

section Hashing

variable (sha256Hex : String → String)

def entryHash (seq recordedAt : Int) (method endpoint : String) (bodyBytes : Int)
    (bodySha256 : String) (bodyRedacted bearer : Bool) (prevHash : String) : String :=
  sha256Hex (chainLine seq recordedAt method endpoint bodyBytes bodySha256 bodyRedacted
    bearer prevHash)

namespace EgressLedgerEntry

def line (entry : EgressLedgerEntry) : String :=
  chainLine entry.seq entry.recordedAt entry.method entry.endpoint entry.bodyBytes
    entry.bodySha256 entry.bodyRedacted entry.bearer entry.prevHash

/-- The hash an entry's fields produce, whatever `entry_hash` says. -/
def computedHash (entry : EgressLedgerEntry) : String :=
  Velvt.entryHash sha256Hex entry.seq entry.recordedAt entry.method entry.endpoint
    entry.bodyBytes entry.bodySha256 entry.bodyRedacted entry.bearer entry.prevHash

theorem computedHash_eq (entry : EgressLedgerEntry) :
    entry.computedHash sha256Hex = sha256Hex entry.line :=
  rfl

end EgressLedgerEntry

/-- What a verified chain covers. -/
structure ChainSummary where
  entries : Nat
  anchorSeq : Int
  headSeq : Int
  headHash : String

/-- The first place a chain stops being one. -/
inductive ChainBreak
  | gap (seq expectedSeq : Int)
  | link (seq : Int)
  | hash (seq : Int)

/-- The loop of `verify_chain`, with its two running values. -/
def verifyEntries : Int → String → List EgressLedgerEntry → Except ChainBreak (Int × String)
  | expectedSeq, expectedPrev, [] => .ok (expectedSeq, expectedPrev)
  | expectedSeq, expectedPrev, entry :: entries =>
    if entry.seq ≠ expectedSeq then
      .error (.gap entry.seq expectedSeq)
    else if entry.prevHash ≠ expectedPrev then
      .error (.link entry.seq)
    else if entry.computedHash sha256Hex ≠ entry.entryHash then
      .error (.hash entry.seq)
    else
      verifyEntries (expectedSeq + 1) entry.entryHash entries

def verifyChain (anchor : Option EgressCheckpoint) (entries : List EgressLedgerEntry) :
    Except ChainBreak ChainSummary :=
  let anchorSeq := (anchor.map (·.throughSeq)).getD 0
  let anchorHash := (anchor.map (·.throughHash)).getD genesisHash
  match verifyEntries sha256Hex (anchorSeq + 1) anchorHash entries with
  | .error chainBreak => .error chainBreak
  | .ok (expectedSeq, expectedPrev) =>
    .ok {
      entries := entries.length
      anchorSeq := anchorSeq
      headSeq := expectedSeq - 1
      headHash := expectedPrev }

/-- Entries are numbered one by one from a first number. -/
def Numbered : Int → List EgressLedgerEntry → Prop
  | _, [] => True
  | first, entry :: entries => entry.seq = first ∧ Numbered (first + 1) entries

/-- Entries as a chain: numbered from the anchor on, linked to it, each with its own
hash. -/
structure Chained (anchorSeq : Int) (anchorHash : String) (entries : List EgressLedgerEntry) :
    Prop where
  numbered : Numbered (anchorSeq + 1) entries
  linked : HashChain.Linked EgressLedgerEntry.prevHash EgressLedgerEntry.entryHash anchorHash
    entries
  hashed : ∀ entry ∈ entries, entry.computedHash sha256Hex = entry.entryHash

theorem numbered_append (first : Int) (older newer : List EgressLedgerEntry) :
    Numbered first (older ++ newer) ↔
      Numbered first older ∧ Numbered (first + older.length) newer := by
  induction older generalizing first with
  | nil => simp [Numbered]
  | cons entry entries ih =>
    simp only [cons_append, Numbered, ih, length_cons, and_assoc, Nat.cast_add, Nat.cast_one]
    rw [add_right_comm, add_assoc]

/-- The chain is verified exactly where every entry follows the one before it. -/
theorem verifyEntries_eq_ok {anchorSeq : Int} {anchorHash : String}
    {entries : List EgressLedgerEntry} {ends : Int × String} :
    verifyEntries sha256Hex (anchorSeq + 1) anchorHash entries = .ok ends ↔
      Chained sha256Hex anchorSeq anchorHash entries ∧ ends = (anchorSeq + entries.length + 1,
          HashChain.head EgressLedgerEntry.entryHash anchorHash entries) := by
  induction entries generalizing anchorSeq anchorHash with
  | nil =>
    simp only [verifyEntries, Except.ok.injEq, length_nil, Nat.cast_zero, add_zero,
      HashChain.head_nil]
    constructor
    · rintro rfl
      exact ⟨⟨trivial, trivial, by simp⟩, rfl⟩
    · rintro ⟨-, rfl⟩
      rfl
  | cons entry entries ih =>
    simp only [verifyEntries]
    split
    next skipped =>
      simp only [reduceCtorEq, false_iff]
      rintro ⟨chained, -⟩
      exact skipped chained.numbered.1
    next inOrder =>
      split
      next unlinked =>
        simp only [reduceCtorEq, false_iff]
        rintro ⟨chained, -⟩
        exact unlinked chained.linked.1
      next isLinked =>
        split
        next edited =>
          simp only [reduceCtorEq, false_iff]
          rintro ⟨chained, -⟩
          exact edited (chained.hashed entry mem_cons_self)
        next intact =>
          simp only [not_not] at inOrder isLinked intact
          rw [ih]
          constructor
          · rintro ⟨chained, rfl⟩
            refine ⟨⟨⟨inOrder, chained.numbered⟩, ⟨isLinked, chained.linked⟩, ?_⟩, ?_⟩
            · intro other member
              rcases mem_cons.mp member with rfl | later
              · exact intact
              · exact chained.hashed other later
            · rw [HashChain.head_cons, length_cons, Nat.cast_add, Nat.cast_one]
              congr 1
              omega
          · rintro ⟨chained, rfl⟩
            refine ⟨⟨chained.numbered.2, chained.linked.2, fun other member =>
              chained.hashed other (mem_cons_of_mem _ member)⟩, ?_⟩
            rw [HashChain.head_cons, length_cons, Nat.cast_add, Nat.cast_one]
            congr 1
            omega

theorem verifyChain_eq_ok {anchor : Option EgressCheckpoint}
    {entries : List EgressLedgerEntry} {summary : ChainSummary} :
    verifyChain sha256Hex anchor entries = .ok summary ↔
      Chained sha256Hex ((anchor.map (·.throughSeq)).getD 0)
        ((anchor.map (·.throughHash)).getD genesisHash) entries ∧
      summary = {
        entries := entries.length
        anchorSeq := (anchor.map (·.throughSeq)).getD 0
        headSeq := (anchor.map (·.throughSeq)).getD 0 + entries.length
        headHash := HashChain.head EgressLedgerEntry.entryHash
          ((anchor.map (·.throughHash)).getD genesisHash) entries } := by
  simp only [verifyChain]
  cases verified : verifyEntries sha256Hex ((anchor.map (·.throughSeq)).getD 0 + 1)
      ((anchor.map (·.throughHash)).getD genesisHash) entries with
  | error chainBreak =>
    simp only [reduceCtorEq, false_iff]
    rintro ⟨chained, -⟩
    have accepted := (verifyEntries_eq_ok sha256Hex).mpr ⟨chained, rfl⟩
    rw [verified] at accepted
    cases accepted
  | ok ends =>
    obtain ⟨chained, rfl⟩ := (verifyEntries_eq_ok sha256Hex).mp verified
    simp only [Except.ok.injEq, add_sub_cancel_right]
    constructor
    · rintro rfl
      exact ⟨chained, rfl⟩
    · rintro ⟨-, rfl⟩
      rfl

end Hashing

end Velvt
