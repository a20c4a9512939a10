import Velvt.SqlPieces

/-!
# What a migration checksum covers

What `normalized_sql` writes are the pieces of a migration that separate nothing, with one space
where some piece in between separated two of them.
-/

namespace Velvt

open List

section Normal

/-- The piece separates the pieces on its two sides, and is not copied. -/
def SqlPiece.separates (piece : SqlPiece) : Bool :=
  piece.kind == .space || piece.kind == .comment

def blank : SqlPiece where
  kind := .space
  bytes := [32]

def normalPieces : Bool → Bool → List SqlPiece → List SqlPiece
  | _, _, [] => []
  | separated, started, piece :: later =>
    if piece.separates then
      normalPieces true started later
    else
      (if separated && started then [blank, piece] else [piece]) ++ normalPieces false true later

variable {separated started : Bool} {piece : SqlPiece} {pieces later : List SqlPiece}

theorem normalPieces_separator (separates : piece.separates = true) :
    normalPieces separated started (piece :: later) = normalPieces true started later := by
  rw [normalPieces, if_pos separates]

theorem normalPieces_copied (copied : piece.separates = false) :
    normalPieces separated started (piece :: later) =
      (if separated && started then [blank, piece] else [piece]) ++
        normalPieces false true later := by
  rw [normalPieces, copied]
  rfl

theorem normalizedSqlFrom_line (bytes : List UInt8) :
    normalizedSqlFrom .lineComment true started bytes =
      normalizedSqlFrom .text true started (bytes.drop (lineLength bytes)) := by
  induction bytes with
  | nil => simp [normalizedSqlFrom]
  | cons byte bytes induction =>
    by_cases isEnd : byte = 10
    · subst isEnd
      have space : isSqlSpace 10 = true := by decide
      simp [normalizedSqlFrom, lineLength, space]
    · rw [normalizedSqlFrom, if_neg isEnd, induction]
      simp [lineLength, isEnd]

theorem normalizedSqlFrom_block (bytes : List UInt8) :
    normalizedSqlFrom .blockComment separated started bytes =
      normalizedSqlFrom .text separated started (bytes.drop (blockLength bytes)) := by
  induction bytes using blockLength.induct with
  | case1 => simp [normalizedSqlFrom]
  | case2 byte => simp [normalizedSqlFrom, blockLength]
  | case3 byte next rest closes => simp [normalizedSqlFrom, blockLength, closes]
  | case4 byte next rest goesOn induction =>
    rw [normalizedSqlFrom, if_neg goesOn, induction, blockLength, if_neg goesOn, drop_succ_cons]

theorem normalizedSqlFrom_quoted (close : UInt8) (bytes : List UInt8) :
    normalizedSqlFrom (.quoted close) separated started bytes =
      bytes.take (quotedLength close bytes) ++
        normalizedSqlFrom .text separated started (bytes.drop (quotedLength close bytes)) := by
  induction bytes using quotedLength.induct close with
  | case1 => simp [normalizedSqlFrom]
  | case2 byte => simp [normalizedSqlFrom, quotedLength]
  | case3 byte next rest inside induction =>
    rw [normalizedSqlFrom, if_pos inside, quotedLength_inside inside, induction]
    rfl
  | case4 byte next rest isClose doubled induction =>
    rw [normalizedSqlFrom, if_neg isClose, if_pos doubled, quotedLength_doubled isClose doubled,
      induction]
    rfl
  | case5 byte next rest isClose closes =>
    rw [normalizedSqlFrom, if_neg isClose, if_neg closes, quotedLength_closes isClose closes]
    rfl

theorem sqlText_cons (piece : SqlPiece) (later : List SqlPiece) :
    sqlText (piece :: later) = piece.bytes ++ sqlText later :=
  sqlLexer.text_cons piece later

theorem sqlText_append (pieces later : List SqlPiece) :
    sqlText (pieces ++ later) = sqlText pieces ++ sqlText later :=
  sqlLexer.text_append pieces later

theorem sqlText_copied (copied : piece.separates = false) :
    sqlText (normalPieces separated started (piece :: later)) =
      (if separated && started then [32] else []) ++ piece.bytes ++
        sqlText (normalPieces false true later) := by
  rw [normalPieces_copied copied, sqlText_append]
  split <;> simp [sqlText, blank, sqlLexer]

/-- The scan of the characters is one of the pieces. -/
theorem normalizedSqlFrom_eq (sql : List UInt8) : normalizedSqlFrom .text separated started sql =
      sqlText (normalPieces separated started (sqlPieces sql)) := by
  induction sql using sqlLexer.piece_induction generalizing separated started with
  | nil =>
    rw [sqlPieces, Lexer.pieces_nil]
    simp [normalizedSqlFrom, normalPieces, sqlText]
  | cons text piece rest cut induction =>
    cases text with
    | nil => cases cut
    | cons byte bytes =>
      cases cut
      have written : (if separated && started then [32, byte] else [byte]) =
          (if separated && started then [32] else []) ++ [byte] := by
        split <;> rfl
      rw [sqlPieces_cons, normalizedSqlFrom]
      by_cases line : byte = 45 ∧ bytes.head? = some 45
      · have scanned : scanPiece byte bytes = (.comment, lineLength bytes) := by
          rw [scanPiece, if_pos line]
        rw [scanned] at induction ⊢
        rw [if_pos line, normalizedSqlFrom_line, induction, normalPieces_separator rfl]
      rw [if_neg line]
      by_cases block : byte = 47 ∧ bytes.head? = some 42
      · have scanned : scanPiece byte bytes = (.comment, blockLength bytes.tail + 1) := by
          rw [scanPiece, if_neg line, if_pos block]
        rw [scanned] at induction ⊢
        rw [if_pos block, normalizedSqlFrom_block, normalPieces_separator rfl, ← induction,
          drop_tail]
      rw [if_neg block]
      by_cases space : isSqlSpace byte
      · have scanned : scanPiece byte bytes = (.space, 0) := by
          rw [scanPiece, if_neg line, if_neg block, if_pos space]
        rw [scanned] at induction ⊢
        rw [if_pos space, normalPieces_separator rfl, ← induction, drop_zero]
      rw [if_neg space, written]
      cases opens : sqlClose byte with
      | none =>
        have scanned : scanPiece byte bytes = (.plain, 0) := by
          rw [scanPiece, if_neg line, if_neg block, if_neg space, opens]
        rw [scanned] at induction ⊢
        rw [sqlText_copied rfl, ← induction, drop_zero]
        simp
      | some close =>
        have scanned : scanPiece byte bytes = (.quoted, quotedLength close bytes) := by
          rw [scanPiece, if_neg line, if_neg block, if_neg space, opens]
        rw [scanned] at induction ⊢
        rw [sqlText_copied rfl, ← induction]
        simp [normalizedSqlFrom_quoted]

theorem normalizedSql_eq (sql : List UInt8) :
    normalizedSql sql = sqlText (normalPieces false false (sqlPieces sql)) :=
  normalizedSqlFrom_eq sql

theorem fits_blank (rest : List UInt8) : sqlLexer.Fits blank rest := by
  refine fits_iff.mpr ⟨32, [], rfl, ?_⟩
  have space : isSqlSpace 32 = true := by decide
  simp [scanPiece, space, blank]

theorem normalPieces_separated (pieces : List SqlPiece) : normalPieces true true pieces = [] ∨
      ∃ later, normalPieces true true pieces = blank :: later := by
  induction pieces with
  | nil => exact Or.inl rfl
  | cons piece later induction =>
    cases separates : piece.separates with
    | true =>
      rw [normalPieces_separator separates]
      exact induction
    | false =>
      rw [normalPieces_copied separates]
      exact Or.inr ⟨_, rfl⟩

theorem mayFollow_normalPieces (copied : piece.separates = false) (lexes : sqlLexer.Lexes later) :
    MayFollow piece.IsLine (sqlText later) (sqlText (normalPieces false true later)) := by
  cases later with
  | nil => exact ⟨fun _ => rfl, fun byte next => Or.inl next⟩
  | cons next later =>
    obtain ⟨first, bytes, isNext⟩ :=
      exists_cons_of_ne_nil (Lexer.lexes_cons.mp lexes).1.symbols_ne_nil
    have isNext : next.bytes = first :: bytes := isNext
    refine ⟨?_, ?_⟩
    · rw [sqlText_cons, isNext]
      rintro ⟨⟩
    · intro byte isHead
      cases separates : next.separates with
      | false =>
        rw [sqlText_copied separates, isNext] at isHead
        rw [sqlText_cons, isNext]
        exact Or.inl isHead
      | true =>
        rw [normalPieces_separator separates] at isHead
        rcases normalPieces_separated later with none | ⟨rest, written⟩
        · rw [none] at isHead
          cases isHead
        · rw [written] at isHead
          cases isHead
          refine Or.inr ⟨by decide, fun _ isLine => ?_⟩
          rw [SqlPiece.separates, isLine.1] at copied
          cases copied

theorem lexes_normalPieces (lexes : sqlLexer.Lexes pieces) :
    sqlLexer.Lexes (normalPieces separated started pieces) := by
  induction pieces generalizing separated started with
  | nil => exact lexes
  | cons piece later induction =>
    obtain ⟨fits, lexesLater⟩ := Lexer.lexes_cons.mp lexes
    cases separates : piece.separates with
    | true =>
      rw [normalPieces_separator separates]
      exact induction lexesLater
    | false =>
      rw [normalPieces_copied separates]
      have copied : sqlLexer.Lexes (piece :: normalPieces false true later) :=
        Lexer.lexes_cons.mpr ⟨fits_exchange fits (mayFollow_normalPieces separates lexesLater),
          induction lexesLater⟩
      split
      · exact Lexer.lexes_cons.mpr ⟨fits_blank _, copied⟩
      · exact copied

theorem sqlPieces_normalizedSql (sql : List UInt8) :
    sqlPieces (normalizedSql sql) = normalPieces false false (sqlPieces sql) := by
  rw [normalizedSql_eq]
  exact lexes_normalPieces (sqlLexer.lexes_pieces sql)

theorem normalPieces_normalPieces (pieces : List SqlPiece) :
    normalPieces false started (normalPieces separated started pieces) =
      normalPieces separated started pieces := by
  induction pieces generalizing separated started with
  | nil => rfl
  | cons piece later induction =>
    cases separates : piece.separates with
    | true => rw [normalPieces_separator separates, induction]
    | false =>
      rw [normalPieces_copied separates]
      split
      next spaced =>
        obtain ⟨rfl, rfl⟩ := (Bool.and_eq_true _ _).mp spaced
        rw [cons_append, normalPieces_separator rfl, singleton_append,
          normalPieces_copied separates, induction]
        rfl
      next => rw [singleton_append, normalPieces_copied separates, induction]; rfl

theorem normalizedSql_normalizedSql (sql : List UInt8) :
    normalizedSql (normalizedSql sql) = normalizedSql sql := by
  rw [normalizedSql_eq, sqlPieces_normalizedSql, normalPieces_normalPieces, normalizedSql_eq]

end Normal

section Replacing

variable {before separators others after : List SqlPiece}

theorem normalPieces_separators {separated started : Bool} (nonempty : separators ≠ [])
    (separate : ∀ piece ∈ separators, piece.separates = true) :
    normalPieces separated started (separators ++ after) = normalPieces true started after := by
  induction separators generalizing separated with
  | nil => exact absurd rfl nonempty
  | cons piece separators induction =>
    rw [forall_mem_cons] at separate
    rw [cons_append, normalPieces_separator separate.1]
    cases separators with
    | nil => rfl
    | cons next separators => exact induction (cons_ne_nil _ _) separate.2

theorem normalPieces_replace {separated started : Bool} (nonempty : separators ≠ [])
    (separate : ∀ piece ∈ separators, piece.separates = true) (othersNonempty : others ≠ [])
    (othersSeparate : ∀ piece ∈ others, piece.separates = true) :
    normalPieces separated started (before ++ (separators ++ after)) =
      normalPieces separated started (before ++ (others ++ after)) := by
  induction before generalizing separated started with
  | nil =>
    rw [nil_append, nil_append, normalPieces_separators nonempty separate,
      normalPieces_separators othersNonempty othersSeparate]
  | cons piece before induction =>
    rw [cons_append, cons_append, normalPieces, normalPieces, induction, induction]

def spacePieces (run : List UInt8) : List SqlPiece :=
  run.map fun byte => { kind := .space, bytes := [byte] }

theorem sqlText_spacePieces (run : List UInt8) : sqlText (spacePieces run) = run := by
  induction run with
  | nil => rfl
  | cons byte run induction =>
    rw [spacePieces, map_cons, sqlText_cons]
    exact congrArg (byte :: ·) induction

theorem separates_spacePieces (run : List UInt8) :
    ∀ piece ∈ spacePieces run, piece.separates = true := by
  intro piece member
  obtain ⟨byte, -, rfl⟩ := mem_map.mp member
  rfl

theorem spacePieces_ne_nil {run : List UInt8} (nonempty : run ≠ []) : spacePieces run ≠ [] :=
  fun empty => nonempty (map_eq_nil_iff.mp empty)

theorem lexes_spacePieces {run : List UInt8} (spaces : ∀ byte ∈ run, isSqlSpace byte = true)
    (lexes : sqlLexer.Lexes after) : sqlLexer.Lexes (spacePieces run ++ after) := by
  induction run with
  | nil => exact lexes
  | cons byte run induction =>
    rw [forall_mem_cons] at spaces
    apply Lexer.lexes_cons.mpr
    refine ⟨fits_iff.mpr ⟨byte, [], rfl, ?_⟩, induction spaces.2⟩
    have notLine : byte ≠ 45 := by
      rintro rfl
      exact absurd spaces.1 (by decide)
    have notBlock : byte ≠ 47 := by
      rintro rfl
      exact absurd spaces.1 (by decide)
    simp [scanPiece, notLine, notBlock, spaces.1]

variable {run : List UInt8}

theorem normalizedSql_replace (lexes : sqlLexer.Lexes (before ++ (separators ++ after)))
    (nonempty : separators ≠ []) (separate : ∀ piece ∈ separators, piece.separates = true)
    (runNonempty : run ≠ []) (spaces : ∀ byte ∈ run, isSqlSpace byte = true)
    (alike : ∀ piece ∈ before.getLast?, sqlLexer.Fits piece (sqlText (separators ++ after)) →
      sqlLexer.Fits piece (run ++ sqlText after)) :
    normalizedSql (sqlText before ++ (run ++ sqlText after)) =
      normalizedSql (sqlText (before ++ (separators ++ after))) := by
  have isText : sqlText (spacePieces run ++ after) = run ++ sqlText after := by
    rw [sqlText_append, sqlText_spacePieces]
  have replaced : sqlLexer.Lexes (before ++ (spacePieces run ++ after)) := by
    apply Lexer.Lexes.replace sqlLexer_oneAhead lexes
    · exact lexes_spacePieces spaces lexes.of_append.of_append
    · intro piece isLast fits
      show sqlLexer.Fits piece (sqlText (spacePieces run ++ after))
      rw [isText]
      exact alike piece isLast fits
  rw [← isText, ← sqlText_append, normalizedSql_eq, normalizedSql_eq]
  have cut : sqlPieces (sqlText (before ++ (spacePieces run ++ after))) =
      before ++ (spacePieces run ++ after) := replaced
  have cutBefore : sqlPieces (sqlText (before ++ (separators ++ after))) =
      before ++ (separators ++ after) := lexes
  rw [cut, cutBefore, normalPieces_replace (spacePieces_ne_nil runNonempty)
    (separates_spacePieces run) nonempty separate]

variable {piece : SqlPiece} {init : List SqlPiece}

theorem comment_head {rest : List UInt8} (fits : sqlLexer.Fits piece rest)
    (isComment : piece.kind = .comment) :
    piece.bytes.head? = some 45 ∨ piece.bytes.head? = some 47 := by
  obtain ⟨byte, body, isBytes, scanned⟩ := fits_iff.mp fits
  rw [isBytes]
  rw [isComment, scanPiece] at scanned
  split at scanned
  next line => exact Or.inl (congrArg some line.1)
  next =>
    split at scanned
    next block => exact Or.inr (congrArg some block.1)
    next =>
      split at scanned
      next => cases scanned
      next => split at scanned <;> cases scanned

theorem normalizedSql_comment {sql : List UInt8} {comment : SqlPiece}
    (cut : sqlPieces sql = before ++ comment :: after) (isComment : comment.kind = .comment)
    (nonempty : run ≠ []) (spaces : ∀ byte ∈ run, isSqlSpace byte = true) :
    normalizedSql (sqlText before ++ (run ++ sqlText after)) = normalizedSql sql := by
  obtain ⟨isText, lexes⟩ := sqlPieces_eq_iff.mp cut
  have separates : comment.separates = true := by
    rw [SqlPiece.separates, isComment]
    rfl
  have head := comment_head (Lexer.lexes_cons.mp lexes.of_append).1 isComment
  obtain ⟨first, run, rfl⟩ := exists_cons_of_ne_nil nonempty
  rw [← isText]
  have split : sqlLexer.Lexes (before ++ ([comment] ++ after)) := lexes
  refine normalizedSql_replace split (cons_ne_nil _ _) (by simpa using separates) nonempty spaces ?_
  intro piece _ fits
  apply fits_exchange fits
  rw [singleton_append, sqlText_cons]
  obtain ⟨opening, bytes, isBytes⟩ : ∃ opening bytes, comment.bytes = opening :: bytes := by
    cases isBytes : comment.bytes with
    | nil => simp [isBytes] at head
    | cons opening bytes => exact ⟨opening, bytes, rfl⟩
  rw [isBytes] at head ⊢
  refine ⟨by simp, ?_⟩
  intro byte next
  cases next
  refine Or.inr ⟨spaces first mem_cons_self, ?_⟩
  intro endsLine
  cases endsLine
  simp at head

theorem lineLength_append {body rest : List UInt8} (within : 10 ∉ body) :
    lineLength (body ++ 10 :: rest) = body.length := by
  induction body with
  | nil => rfl
  | cons byte body induction =>
    rw [mem_cons, not_or] at within
    have goesOn : (byte != 10) = true := bne_iff_ne.mpr (Ne.symm within.1)
    unfold lineLength at induction ⊢
    rw [cons_append, takeWhile_cons, if_pos goesOn, length_cons, induction within.2, length_cons]

theorem not_mem_of_lineLength {body rest : List UInt8}
    (stops : lineLength (body ++ 10 :: rest) = body.length) : 10 ∉ body := by
  intro member
  obtain ⟨line, later, rfl, within⟩ := eq_append_cons_of_mem member
  rw [append_assoc, cons_append, lineLength_append within, length_append] at stops
  simp at stops

theorem fits_line_iff {byte : UInt8} {rest : List UInt8} (isLine : piece.IsLine) :
    sqlLexer.Fits piece (byte :: rest) ↔
      byte = 10 ∧ ∃ body, piece.bytes = 45 :: 45 :: body ∧ 10 ∉ body := by
  obtain ⟨isComment, isMinus⟩ := isLine
  rw [fits_iff, isComment]
  constructor
  · rintro ⟨first, body, isBytes, scanned⟩
    rw [isBytes] at isMinus
    obtain rfl := Option.some.inj isMinus
    by_cases line : (body ++ byte :: rest).head? = some 45
    · rw [scanPiece, if_pos ⟨rfl, line⟩] at scanned
      have stops := (Prod.mk.inj scanned).2
      obtain rfl := lineLength_stops stops rfl
      cases body with
      | nil => exact absurd (Option.some.inj line) (by decide)
      | cons second body =>
        obtain rfl := Option.some.inj line
        have within := not_mem_of_lineLength stops
        rw [mem_cons, not_or] at within
        exact ⟨rfl, body, isBytes, within.2⟩
    · have plain : scanPiece 45 (body ++ byte :: rest) = (.plain, 0) := by
        rw [scanPiece, if_neg fun both => line both.2]
        rfl
      rw [plain] at scanned
      cases scanned
  · rintro ⟨rfl, body, isBytes, within⟩
    refine ⟨45, 45 :: body, isBytes, ?_⟩
    rw [scanPiece, if_pos ⟨rfl, rfl⟩, lineLength_append]
    rw [mem_cons, not_or]
    exact ⟨by decide, within⟩

def SqlPiece.goingOn (piece : SqlPiece) (extra : List UInt8) : SqlPiece where
  kind := .comment
  bytes := piece.bytes ++ extra

theorem fits_of_lexes {first : UInt8}
    (lexes : sqlLexer.Lexes (init ++ (piece :: (spacePieces (first :: run) ++ after)))) :
    sqlLexer.Fits piece (first :: (run ++ sqlText after)) := by
  have fits := (Lexer.lexes_cons.mp lexes.of_append).1
  have text : sqlText (spacePieces (first :: run) ++ after) = first :: (run ++ sqlText after) := by
    rw [sqlText_append, sqlText_spacePieces, cons_append]
  rwa [← text]

theorem lexes_goingOn {extra tail : List UInt8} (isLine : piece.IsLine)
    (lexes : sqlLexer.Lexes (init ++ (piece :: (spacePieces (10 :: run) ++ after))))
    (withoutEnd : 10 ∉ extra) (spaces : ∀ byte ∈ tail, isSqlSpace byte = true) :
    sqlLexer.Lexes (init ++ (piece.goingOn extra :: (spacePieces (10 :: tail) ++ after))) := by
  obtain ⟨-, body, isBytes, within⟩ := (fits_line_iff isLine).mp (fits_of_lexes lexes)
  have lexesSpaces := (Lexer.lexes_cons.mp lexes.of_append).2
  have newLine : (piece.goingOn extra).IsLine := by
    rw [SqlPiece.IsLine, SqlPiece.goingOn, isBytes]
    exact ⟨rfl, rfl⟩
  apply Lexer.Lexes.replace sqlLexer_oneAhead lexes
  · apply Lexer.lexes_cons.mpr
    refine ⟨?_, lexes_spacePieces (forall_mem_cons.mpr ⟨rfl, spaces⟩) lexesSpaces.of_append⟩
    show sqlLexer.Fits _ (sqlText (spacePieces (10 :: tail) ++ after))
    rw [sqlText_append, sqlText_spacePieces, cons_append, fits_line_iff newLine]
    refine ⟨rfl, body ++ extra, ?_, ?_⟩
    · rw [SqlPiece.goingOn, isBytes]
      rfl
    · rw [mem_append, not_or]
      exact ⟨within, withoutEnd⟩
  · intro last _
    apply sqlLexer_oneAhead
    show (sqlText _).head? = (sqlText _).head?
    rw [sqlText_cons, sqlText_cons, SqlPiece.goingOn, isBytes]
    rfl

theorem normalizedSql_after_line {longer : List UInt8} (isLine : piece.IsLine)
    (lexes : sqlLexer.Lexes (init ++ (piece :: (spacePieces run ++ after)))) (nonempty : run ≠ [])
    (contained : run.Sublist longer) (spaces : ∀ byte ∈ longer, isSqlSpace byte = true) :
    normalizedSql (sqlText init ++ (piece.bytes ++ (longer ++ sqlText after))) =
      normalizedSql (sqlText (init ++ (piece :: (spacePieces run ++ after)))) := by
  obtain ⟨first, run, rfl⟩ := exists_cons_of_ne_nil nonempty
  obtain rfl := ((fits_line_iff isLine).mp (fits_of_lexes lexes)).1
  -- The run that is put there has an end of line as well.
  obtain ⟨extra, tail, rfl, withoutEnd⟩ :=
    eq_append_cons_of_mem (contained.subset mem_cons_self)
  have replaced := lexes_goingOn isLine lexes withoutEnd fun byte member =>
    spaces byte (mem_append_right _ (mem_cons_of_mem _ member))
  have text : sqlText init ++ (piece.bytes ++ (extra ++ 10 :: tail ++ sqlText after)) =
      sqlText (init ++ (piece.goingOn extra :: (spacePieces (10 :: tail) ++ after))) := by
    rw [sqlText_append, sqlText_cons, sqlText_append, sqlText_spacePieces, SqlPiece.goingOn]
    simp only [append_assoc, cons_append]
  have cut : sqlPieces (sqlText (init ++
      (piece.goingOn extra :: (spacePieces (10 :: tail) ++ after)))) =
        init ++ (piece.goingOn extra :: (spacePieces (10 :: tail) ++ after)) := replaced
  have cutBefore : sqlPieces (sqlText (init ++ (piece :: (spacePieces (10 :: run) ++ after)))) =
      init ++ (piece :: (spacePieces (10 :: run) ++ after)) := lexes
  have separates : piece.separates = true := by
    rw [SqlPiece.separates, isLine.1]
    rfl
  rw [text, normalizedSql_eq, normalizedSql_eq, cut, cutBefore]
  have same := @normalPieces_replace init (piece.goingOn extra :: spacePieces (10 :: tail))
    (piece :: spacePieces (10 :: run)) after false false (cons_ne_nil _ _)
    (forall_mem_cons.mpr ⟨rfl, separates_spacePieces _⟩) (cons_ne_nil _ _)
    (forall_mem_cons.mpr ⟨separates, separates_spacePieces _⟩)
  exact congrArg sqlText same

theorem normalizedSql_lengthened {sql longer : List UInt8}
    (cut : sqlPieces sql = before ++ (spacePieces run ++ after)) (nonempty : run ≠ [])
    (contained : run.Sublist longer) (spaces : ∀ byte ∈ longer, isSqlSpace byte = true) :
    normalizedSql (sqlText before ++ (longer ++ sqlText after)) = normalizedSql sql := by
  obtain ⟨isText, lexes⟩ := sqlPieces_eq_iff.mp cut
  rw [← isText]
  by_cases afterLine : ∃ piece ∈ before.getLast?, piece.IsLine
  · obtain ⟨piece, isLast, isLine⟩ := afterLine
    obtain ⟨init, rfl⟩ := List.getLast?_eq_some_iff.mp isLast
    rw [append_assoc, singleton_append] at lexes ⊢
    rw [← normalizedSql_after_line isLine lexes nonempty contained spaces, sqlText_append,
      sqlText_cons, append_assoc]
    simp [sqlText]
  · obtain ⟨opening, rest, rfl⟩ : ∃ opening rest, longer = opening :: rest := by
      apply exists_cons_of_ne_nil
      rintro rfl
      exact nonempty (sublist_nil.mp contained)
    refine normalizedSql_replace lexes (spacePieces_ne_nil nonempty) (separates_spacePieces _)
      (cons_ne_nil _ _) spaces ?_
    intro piece isLast fits
    apply fits_exchange fits
    refine ⟨?_, ?_⟩
    · rw [sqlText_append, sqlText_spacePieces, append_eq_nil_iff]
      exact fun empty => absurd empty.1 nonempty
    · intro byte next
      cases next
      exact Or.inr ⟨spaces opening mem_cons_self, fun _ isLine => afterLine ⟨piece, isLast, isLine⟩⟩

end Replacing

section Tokens

/-- What a migration consists of: quoted strings and identifiers with their quotes, and words
of other bytes. -/
inductive SqlToken
  | quoted (bytes : List UInt8)
  | word (bytes : List UInt8)
  deriving DecidableEq

def wordEnd (word : List UInt8) : List SqlToken := if word = [] then [] else [.word word]

/-- The tokens of some pieces, after the bytes of a word that has started. -/
def tokensFrom : List UInt8 → List SqlPiece → List SqlToken
  | word, [] => wordEnd word
  | word, piece :: later =>
    match piece.kind with
    | .plain => tokensFrom (word ++ piece.bytes) later
    | .quoted => wordEnd word ++ .quoted piece.bytes :: tokensFrom [] later
    | .space => wordEnd word ++ tokensFrom [] later
    | .comment => wordEnd word ++ tokensFrom [] later

def sqlTokens (sql : List UInt8) : List SqlToken := tokensFrom [] (sqlPieces sql)

/-- The quoted strings and identifiers of a migration, with their quotes. -/
def quotedTokens (sql : List UInt8) : List (List UInt8) :=
  ((sqlPieces sql).filter fun piece => piece.kind == .quoted).map (·.bytes)

variable {separated started : Bool}

theorem tokensFrom_separator {word : List UInt8} {piece : SqlPiece} {later : List SqlPiece}
    (separates : piece.separates = true) :
    tokensFrom word (piece :: later) = wordEnd word ++ tokensFrom [] later := by
  obtain ⟨kind, bytes⟩ := piece
  cases kind with
  | space => rfl
  | comment => rfl
  | quoted => cases separates
  | plain => cases separates

theorem tokensFrom_normalPieces {word : List UInt8} {pieces : List SqlPiece}
    (unstarted : started = false → word = []) :
    tokensFrom word (normalPieces separated started pieces) =
      if separated then wordEnd word ++ tokensFrom [] pieces else tokensFrom word pieces := by
  induction pieces generalizing separated started word with
  | nil => cases separated <;> simp [normalPieces, tokensFrom, wordEnd]
  | cons piece later induction =>
    cases separates : piece.separates with
    | true =>
      rw [normalPieces_separator separates, induction unstarted, if_pos rfl,
        tokensFrom_separator separates, tokensFrom_separator separates]
      split <;> simp [wordEnd]
    | false =>
      have same (word : List UInt8) : tokensFrom word (piece :: normalPieces false true later) =
            tokensFrom word (piece :: later) := by
        rw [tokensFrom, tokensFrom]
        have none (word : List UInt8) :
            tokensFrom word (normalPieces false true later) = tokensFrom word later :=
          induction fun unstarted => absurd unstarted (by decide)
        rw [none, none]
      rw [normalPieces_copied separates]
      cases separated with
      | false => exact same word
      | true =>
        cases started with
        | true => exact congrArg (wordEnd word ++ ·) (same [])
        | false =>
          rw [unstarted rfl]
          exact same []

theorem quotedTokens_normalizedSql (sql : List UInt8) :
    quotedTokens (normalizedSql sql) = quotedTokens sql := by
  have copied (separated started : Bool) (pieces : List SqlPiece) :
      ((normalPieces separated started pieces).filter fun piece => piece.kind == .quoted) =
        pieces.filter fun piece => piece.kind == .quoted := by
    induction pieces generalizing separated started with
    | nil => rfl
    | cons piece later induction =>
      cases separates : piece.separates with
      | true =>
        have unquoted : (piece.kind == .quoted) = false := by
          obtain ⟨kind, bytes⟩ := piece
          cases kind <;> first | rfl | cases separates
        rw [normalPieces_separator separates, induction, filter_cons, unquoted]
        rfl
      | false =>
        have blankUnquoted : (blank.kind == SqlKind.quoted) = false := rfl
        rw [normalPieces_copied separates, filter_append, induction, filter_cons]
        split <;> simp [filter_cons, blankUnquoted] <;> split <;> rfl
  rw [quotedTokens, sqlPieces_normalizedSql, copied, quotedTokens]

theorem sqlTokens_normalizedSql (sql : List UInt8) :
    sqlTokens (normalizedSql sql) = sqlTokens sql := by
  rw [sqlTokens, sqlPieces_normalizedSql, tokensFrom_normalPieces fun _ => rfl]
  rfl

theorem normalizedSql_of_comments {first second : List UInt8} {before after : List SqlPiece}
    {comment other : SqlPiece} (cut : sqlPieces first = before ++ comment :: after)
    (otherCut : sqlPieces second = before ++ other :: after) (isComment : comment.kind = .comment)
    (otherIsComment : other.kind = .comment) : normalizedSql first = normalizedSql second := by
  have separates {piece : SqlPiece} (isComment : piece.kind = .comment) :
      ∀ single ∈ [piece], single.separates = true := by
    simp [SqlPiece.separates, isComment]
  have same := @normalPieces_replace before [comment] [other] after false false
    (cons_ne_nil _ _) (separates isComment) (cons_ne_nil _ _) (separates otherIsComment)
  rw [normalizedSql_eq, normalizedSql_eq, cut, otherCut]
  exact congrArg sqlText same

/-- A migration checksum ignores comments and the length of space, and nothing else. -/
theorem normalized_sql_ignores_layout {Schema : Type*} (engine : MigrationEngine Schema)
    (original edited : List UInt8)
    (noCollision : engine.sha256 (normalizedSql original) = engine.sha256 (normalizedSql edited) →
      normalizedSql original = normalizedSql edited) :
    (∀ sql, normalizedSql (normalizedSql sql) = normalizedSql sql) ∧
      (∀ sql before comment after run, sqlPieces sql = before ++ comment :: after →
        comment.kind = .comment → run ≠ [] → (∀ byte ∈ run, isSqlSpace byte = true) →
        normalizedSql (sqlText before ++ (run ++ sqlText after)) = normalizedSql sql) ∧
      (∀ first second before comment other after,
        sqlPieces first = before ++ comment :: after →
        sqlPieces second = before ++ other :: after → comment.kind = .comment →
        other.kind = .comment → normalizedSql first = normalizedSql second) ∧
      (∀ sql before run after longer, sqlPieces sql = before ++ (spacePieces run ++ after) →
        run ≠ [] → run.Sublist longer → (∀ byte ∈ longer, isSqlSpace byte = true) →
        normalizedSql (sqlText before ++ (longer ++ sqlText after)) = normalizedSql sql) ∧
      (∀ sql, quotedTokens (normalizedSql sql) = quotedTokens sql) ∧
      (∀ first second, normalizedSql first = normalizedSql second →
        sqlTokens first = sqlTokens second) ∧
      (engine.migrationChecksum original = engine.migrationChecksum edited →
        sqlTokens original = sqlTokens edited) := by
  have tokens (first second : List UInt8) (same : normalizedSql first = normalizedSql second) :
      sqlTokens first = sqlTokens second := by
    rw [← sqlTokens_normalizedSql first, same, sqlTokens_normalizedSql]
  refine ⟨normalizedSql_normalizedSql, ?_, ?_, ?_, quotedTokens_normalizedSql, tokens, ?_⟩
  · intro sql before comment after run cut isComment nonempty spaces
    exact normalizedSql_comment cut isComment nonempty spaces
  · intro first second before comment other after cut otherCut isComment otherIsComment
    exact normalizedSql_of_comments cut otherCut isComment otherIsComment
  · intro sql before run after longer cut nonempty contained spaces
    exact normalizedSql_lengthened cut nonempty contained spaces
  · exact fun same => tokens original edited (noCollision same)

/-- An engine with the digests of the texts `a` and `b`. -/
def sampleEngine : MigrationEngine Unit where
  executeBatch := fun _ _ => none
  rekeyStoredDigests := some
  sha256 := fun bytes =>
    if bytes = [97] then "ca978112ca1bbdcafac231b39a23dc4da786eff8147c4e72b9807785afee48bb"
    else if bytes = [98] then "3e23e8160039594a33894f6564e1b1348bbd7a0088d42c4acb73eeaed59c009d"
    else ""

/-- Two words of one letter, with their real digests. -/
theorem normalized_sql_tells_words_apart :
    sampleEngine.migrationChecksum [97] ≠ sampleEngine.migrationChecksum [98] := by
  have first : normalizedSql [97] = [97] := by
    simp [normalizedSql, normalizedSqlFrom]; decide
  have second : normalizedSql [98] = [98] := by
    simp [normalizedSql, normalizedSqlFrom]; decide
  have apart : sampleEngine.sha256 (normalizedSql [97]) =
      sampleEngine.sha256 (normalizedSql [98]) → normalizedSql [97] = normalizedSql [98] := by
    rw [first, second]
    decide
  have ignores := normalized_sql_ignores_layout sampleEngine [97] [98] apart
  intro same
  have tokens := ignores.2.2.2.2.2.2 same
  have word (byte : UInt8) (isPlain : scanPiece byte [] = (.plain, 0)) :
      sqlTokens [byte] = [.word [byte]] := by
    rw [sqlTokens, sqlPieces_cons, isPlain]
    simp [sqlPieces, tokensFrom, wordEnd]
  rw [word 97 (by decide), word 98 (by decide)] at tokens
  exact absurd tokens (by decide)

end Tokens

end Velvt
