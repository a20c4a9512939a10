import Mathlib.Data.List.TakeWhile
import Velvt.Lexing
import Velvt.MigrationRunner

/-!
# The pieces of a migration

A migration is cut into the pieces that the tokenizer of SQLite sees: space, comments, quoted
strings and identifiers, and the bytes between them.
-/

namespace Velvt

open List

inductive SqlKind
  | space
  | comment
  | quoted
  | plain
  deriving DecidableEq

/-- A piece of a text: one character of space, a comment, a quoted token with its quotes, or
one other byte. -/
structure SqlPiece where
  kind : SqlKind
  bytes : List UInt8

/-- How far a `--` comment goes on: to the end of its line. -/
def lineLength (bytes : List UInt8) : Nat := (bytes.takeWhile fun byte => byte != 10).length

/-- How far a block comment goes on: to its close, or to the end of the text. -/
def blockLength : List UInt8 → Nat
  | [] => 0
  | [_] => 1
  | byte :: next :: rest =>
    if byte = 42 ∧ next = 47 then 2 else blockLength (next :: rest) + 1

/-- How far a quoted token goes on: to its close, or to the end of the text.  A doubled quote
is one escaped quote; `]` has no escape. -/
def quotedLength (close : UInt8) : List UInt8 → Nat
  | [] => 0
  | [_] => 1
  | byte :: next :: rest =>
    if byte ≠ close then quotedLength close (next :: rest) + 1
    else if close ≠ 93 ∧ next = close then quotedLength close rest + 2
    else 1

section QuotedLength

variable {close byte next : UInt8} {rest : List UInt8}

theorem quotedLength_inside (inside : byte ≠ close) :
    quotedLength close (byte :: next :: rest) = quotedLength close (next :: rest) + 1 := by
  rw [quotedLength, if_pos inside]

theorem quotedLength_doubled (isClose : ¬byte ≠ close) (doubled : close ≠ 93 ∧ next = close) :
    quotedLength close (byte :: next :: rest) = quotedLength close rest + 2 := by
  rw [quotedLength, if_neg isClose, if_pos doubled]

theorem quotedLength_closes (isClose : ¬byte ≠ close) (closes : ¬(close ≠ 93 ∧ next = close)) :
    quotedLength close (byte :: next :: rest) = 1 := by
  rw [quotedLength, if_neg isClose, if_neg closes]

end QuotedLength

/-- The kind of the piece that a byte starts, and how far the piece goes on after it. -/
def scanPiece (byte : UInt8) (rest : List UInt8) : SqlKind × Nat :=
  if byte = 45 ∧ rest.head? = some 45 then
    (.comment, lineLength rest)
  else if byte = 47 ∧ rest.head? = some 42 then
    (.comment, blockLength rest.tail + 1)
  else if isSqlSpace byte then
    (.space, 0)
  else
    match sqlClose byte with
    | some close => (.quoted, quotedLength close rest)
    | none => (.plain, 0)

theorem blockLength_le (bytes : List UInt8) : blockLength bytes ≤ bytes.length := by
  induction bytes using blockLength.induct with
  | case1 => exact le_rfl
  | case2 byte => exact le_rfl
  | case3 byte next rest closes => simp [blockLength, closes]
  | case4 byte next rest goesOn induction =>
    rw [blockLength, if_neg goesOn]
    exact Nat.succ_le_succ induction

theorem quotedLength_le (close : UInt8) (bytes : List UInt8) :
    quotedLength close bytes ≤ bytes.length := by
  induction bytes using quotedLength.induct close with
  | case1 => exact le_rfl
  | case2 byte => exact le_rfl
  | case3 byte next rest inside induction =>
    rw [quotedLength_inside inside]
    exact Nat.succ_le_succ induction
  | case4 byte next rest isClose doubled induction =>
    rw [quotedLength_doubled isClose doubled]
    exact Nat.succ_le_succ (Nat.succ_le_succ induction)
  | case5 byte next rest isClose closes =>
    rw [quotedLength_closes isClose closes]
    simp

theorem scanPiece_le (byte : UInt8) (rest : List UInt8) :
    (scanPiece byte rest).2 ≤ rest.length := by
  rw [scanPiece]
  split
  next => exact (takeWhile_sublist _).length_le
  next =>
    split
    next opens =>
      have tail := blockLength_le rest.tail
      have nonempty : rest ≠ [] := by
        rintro rfl
        simp at opens
      have positive := length_pos_iff.mpr nonempty
      rw [length_tail] at tail
      show blockLength rest.tail + 1 ≤ rest.length
      omega
    next =>
      split
      next => exact Nat.zero_le _
      next =>
        split
        next close _ => exact quotedLength_le close rest
        next => exact Nat.zero_le _

def firstPiece : List UInt8 → Option (SqlPiece × List UInt8)
  | [] => none
  | byte :: rest =>
    let scanned := scanPiece byte rest
    some ({ kind := scanned.1, bytes := byte :: rest.take scanned.2 }, rest.drop scanned.2)

def sqlLexer : Lexer UInt8 SqlPiece where
  first := firstPiece
  symbols := SqlPiece.bytes
  first_ne_none := by simp [firstPiece]
  tiles := by
    intro text piece rest cut
    cases text with
    | nil => cases cut
    | cons byte later =>
      cases cut
      simp
  symbols_ne_nil := by
    intro text piece rest cut
    cases text with
    | nil => cases cut
    | cons byte later =>
      cases cut
      simp

def sqlPieces (sql : List UInt8) : List SqlPiece := sqlLexer.pieces sql

def sqlText (pieces : List SqlPiece) : List UInt8 := sqlLexer.text pieces

theorem sqlPieces_eq_iff {sql : List UInt8} {pieces : List SqlPiece} :
    sqlPieces sql = pieces ↔ sqlText pieces = sql ∧ sqlLexer.Lexes pieces :=
  Lexer.pieces_eq_iff

theorem sqlPieces_cons (byte : UInt8) (rest : List UInt8) : sqlPieces (byte :: rest) =
      { kind := (scanPiece byte rest).1, bytes := byte :: rest.take (scanPiece byte rest).2 } ::
        sqlPieces (rest.drop (scanPiece byte rest).2) :=
  sqlLexer.pieces_of_first rfl

theorem fits_iff {piece : SqlPiece} {rest : List UInt8} : sqlLexer.Fits piece rest ↔
      ∃ byte body, piece.bytes = byte :: body ∧
        scanPiece byte (body ++ rest) = (piece.kind, body.length) := by
  obtain ⟨kind, bytes⟩ := piece
  cases bytes with
  | nil =>
    simp only [reduceCtorEq, false_and, exists_false, iff_false]
    exact fun fits => fits.symbols_ne_nil rfl
  | cons byte body =>
    have isFirst : sqlLexer.Fits { kind := kind, bytes := byte :: body } rest ↔
        (scanPiece byte (body ++ rest)).1 = kind ∧
          (body ++ rest).take (scanPiece byte (body ++ rest)).2 = body ∧
          (body ++ rest).drop (scanPiece byte (body ++ rest)).2 = rest := by
      simp [Lexer.Fits, sqlLexer, firstPiece, and_assoc]
    rw [isFirst]
    simp only [List.cons.injEq, Prod.ext_iff]
    constructor
    · rintro ⟨isKind, taken, dropped⟩
      refine ⟨byte, body, ⟨rfl, rfl⟩, isKind, ?_⟩
      have takenLength := congrArg List.length taken
      rwa [length_take, min_eq_left (scanPiece_le byte _)] at takenLength
    · rintro ⟨_, _, ⟨rfl, rfl⟩, isKind, isLength⟩
      rw [isLength]
      exact ⟨isKind, take_left, drop_left⟩

/-- The piece is a `--` comment. -/
def SqlPiece.IsLine (piece : SqlPiece) : Prop :=
  piece.kind = .comment ∧ piece.bytes.head? = some 45

/-- What follows a piece may be exchanged for something else: it keeps its first byte, or gets
a character of space there, and then a line comment still has the end of its line. -/
structure MayFollow (isLine : Prop) (rest other : List UInt8) : Prop where
  ends : rest = [] → other = []
  next : ∀ byte, other.head? = some byte →
    rest.head? = some byte ∨ (isSqlSpace byte ∧ (rest.head? = some 10 → ¬isLine))

theorem lineLength_stops {body rest : List UInt8}
    (stops : lineLength (body ++ rest) = body.length) {byte : UInt8}
    (next : rest.head? = some byte) : byte = 10 := by
  induction body with
  | nil =>
    cases rest with
    | nil => cases next
    | cons first rest =>
      cases next
      by_contra inside
      simp [lineLength, inside] at stops
  | cons first body induction =>
    apply induction
    unfold lineLength at stops ⊢
    by_cases isEnd : first = 10
    · simp [isEnd] at stops
    · simpa [takeWhile_cons, isEnd] using stops

variable {body rest other : List UInt8}

theorem lineLength_exchange (stops : lineLength (body ++ rest) = body.length)
    (ends : ∀ byte, other.head? = some byte → byte = 10) :
    lineLength (body ++ other) = body.length := by
  induction body with
  | nil =>
    cases other with
    | nil => rfl
    | cons byte other => simp [lineLength, ends byte rfl]
  | cons byte body induction =>
    unfold lineLength at stops induction ⊢
    by_cases isEnd : byte = 10
    · simp [isEnd] at stops
    · simp only [cons_append, takeWhile_cons, bne_iff_ne, ne_eq, isEnd,
        not_false_eq_true, if_true, length_cons, Nat.add_right_cancel_iff] at stops ⊢
      exact induction stops

theorem blockLength_pos (byte : UInt8) (rest : List UInt8) : 0 < blockLength (byte :: rest) := by
  cases rest with
  | nil => exact Nat.one_pos
  | cons next rest =>
    rw [blockLength]
    split <;> omega

theorem blockLength_exchange
    (stops : blockLength (body ++ rest) = body.length) (ends : rest = [] → other = []) :
    blockLength (body ++ other) = body.length := by
  induction body using blockLength.induct with
  | case1 =>
    cases rest with
    | nil => rw [ends rfl]; rfl
    | cons byte rest => exact absurd stops (blockLength_pos byte rest).ne'
  | case2 byte =>
    cases rest with
    | nil => rw [ends rfl]; rfl
    | cons next rest =>
      -- A close needs two bytes, so the comment would go on.
      have goesOn := blockLength_pos next rest
      simp only [cons_append, nil_append, blockLength, length_singleton] at stops
      split at stops <;> omega
  | case3 byte next body closes =>
    simp only [cons_append, blockLength, closes, and_self, if_true, length_cons]
      at stops ⊢
    exact stops
  | case4 byte next body goesOn induction =>
    simp only [cons_append, blockLength, goesOn, if_false, length_cons,
      Nat.add_right_cancel_iff] at stops induction ⊢
    exact induction stops

theorem quotedLength_pos (close byte : UInt8) (rest : List UInt8) :
    0 < quotedLength close (byte :: rest) := by
  cases rest with
  | nil => exact Nat.one_pos
  | cons next rest =>
    rw [quotedLength]
    repeat' split
    all_goals omega

theorem quotedLength_exchange {close : UInt8}
    (stops : quotedLength close (body ++ rest) = body.length) (ends : rest = [] → other = [])
    (single : close ≠ 93 → other.head? = some close → rest.head? = some close) :
    quotedLength close (body ++ other) = body.length := by
  induction body using quotedLength.induct close with
  | case1 =>
    cases rest with
    | nil => rw [ends rfl]; rfl
    | cons byte rest => exact absurd stops (quotedLength_pos close byte rest).ne'
  | case2 byte =>
    cases rest with
    | nil => rw [ends rfl]; rfl
    | cons next rest =>
      have goesOn := quotedLength_pos close next rest
      simp only [cons_append, nil_append, quotedLength, length_singleton] at stops
      split at stops
      next => omega
      next isClose =>
        split at stops
        next => omega
        next closes =>
          cases other with
          | nil => rfl
          | cons after other =>
            have stillCloses : ¬(close ≠ 93 ∧ after = close) := by
              rintro ⟨escapes, rfl⟩
              exact closes ⟨escapes, Option.some.inj (single escapes rfl)⟩
            simp [quotedLength, isClose, stillCloses]
  | case3 byte next body inside induction =>
    rw [cons_append, cons_append, quotedLength_inside inside] at stops ⊢
    rw [length_cons, Nat.add_right_cancel_iff] at stops ⊢
    exact induction stops
  | case4 byte next body isClose doubled induction =>
    rw [cons_append, cons_append, quotedLength_doubled isClose doubled] at stops ⊢
    simp only [length_cons] at stops ⊢
    have inner := induction (by omega)
    omega
  | case5 byte next body isClose closes =>
    rw [cons_append, cons_append, quotedLength_closes isClose closes] at stops
    simp only [length_cons] at stops
    omega

theorem MayFollow.head {isLine : Prop} {rest other : List UInt8}
    (follow : MayFollow isLine rest other) {byte : UInt8} (solid : isSqlSpace byte = false)
    (body : List UInt8) (next : (body ++ other).head? = some byte) :
    (body ++ rest).head? = some byte := by
  cases body with
  | cons first body => exact next
  | nil =>
    rcases follow.next byte next with same | ⟨space, -⟩
    · exact same
    · rw [solid] at space
      cases space

theorem isSqlSpace_of_sqlClose {byte close : UInt8} (opens : sqlClose byte = some close) :
    isSqlSpace close = false := by
  rw [sqlClose] at opens
  split at opens
  next quotes =>
    obtain rfl := Option.some.inj opens
    simp only [contains_iff_mem, mem_cons, not_mem_nil, or_false] at quotes
    rcases quotes with rfl | rfl | rfl <;> decide
  next =>
    split at opens
    next =>
      obtain rfl := Option.some.inj opens
      decide
    next => cases opens

/-- A piece does not depend on the text that comes after it. -/
theorem scanPiece_exchange {byte : UInt8} {kind : SqlKind}
    (scanned : scanPiece byte (body ++ rest) = (kind, body.length))
    (follow : MayFollow (kind = .comment ∧ byte = 45) rest other) :
    scanPiece byte (body ++ other) = (kind, body.length) := by
  unfold scanPiece at scanned ⊢
  by_cases line : byte = 45 ∧ (body ++ rest).head? = some 45
  · rw [if_pos line] at scanned
    obtain ⟨rfl, stops⟩ := Prod.mk.inj scanned
    have nonempty : body ≠ [] := by
      rintro rfl
      exact absurd (lineLength_stops stops line.2) (by decide)
    obtain ⟨first, body, rfl⟩ := exists_cons_of_ne_nil nonempty
    rw [if_pos ⟨line.1, line.2⟩, lineLength_exchange stops]
    intro next isNext
    rcases follow.next next isNext with same | ⟨-, apart⟩
    · exact lineLength_stops stops same
    · cases rest with
      | nil =>
        rw [follow.ends rfl] at isNext
        cases isNext
      | cons old rest =>
        rw [lineLength_stops stops rfl] at apart
        exact absurd ⟨rfl, line.1⟩ (apart rfl)
  · rw [if_neg line] at scanned
    rw [if_neg fun other => line ⟨other.1, follow.head (by decide) body other.2⟩]
    by_cases block : byte = 47 ∧ (body ++ rest).head? = some 42
    · rw [if_pos block] at scanned
      obtain ⟨rfl, stops⟩ := Prod.mk.inj scanned
      cases body with
      | nil => cases stops
      | cons first body =>
        rw [if_pos ⟨block.1, block.2⟩]
        exact congrArg (fun length => (SqlKind.comment, length + 1))
          (blockLength_exchange (Nat.add_right_cancel stops) follow.ends)
    · rw [if_neg block] at scanned
      rw [if_neg fun other => block ⟨other.1, follow.head (by decide) body other.2⟩]
      by_cases space : isSqlSpace byte
      · rw [if_pos space] at scanned ⊢
        exact scanned
      · rw [if_neg space] at scanned ⊢
        cases opens : sqlClose byte with
        | none =>
          rw [opens] at scanned
          exact scanned
        | some close =>
          rw [opens] at scanned
          obtain ⟨rfl, stops⟩ := Prod.mk.inj scanned
          exact congrArg (Prod.mk SqlKind.quoted) (quotedLength_exchange stops follow.ends
            fun _ isNext => follow.head (isSqlSpace_of_sqlClose opens) [] isNext)

theorem fits_exchange {piece : SqlPiece} {rest other : List UInt8}
    (fits : sqlLexer.Fits piece rest) (follow : MayFollow piece.IsLine rest other) :
    sqlLexer.Fits piece other := by
  obtain ⟨byte, body, isBytes, scanned⟩ := fits_iff.mp fits
  refine fits_iff.mpr ⟨byte, body, isBytes, scanPiece_exchange scanned ?_⟩
  rw [SqlPiece.IsLine, isBytes] at follow
  simpa using follow

theorem sqlLexer_oneAhead : sqlLexer.OneAhead := by
  intro piece rest other same fits
  apply fits_exchange fits
  refine ⟨?_, fun byte next => Or.inl (same.trans next)⟩
  rintro rfl
  exact List.head?_eq_none_iff.mp same.symm

end Velvt
