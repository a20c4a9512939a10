import Mathlib.Data.List.Basic

/-!
# Cutting a text into pieces

A lexer cuts the first piece from a text, and then from what is left.  The pieces tile the text.  A
list of pieces is how some text is cut exactly when each is the first piece of the text that starts
with it; when that depends on the next symbol alone, a stretch of pieces can be replaced by another
one that starts alike.
-/

namespace Velvt

/-- How the first piece is cut from a text.  Only the empty text has no first piece. -/
structure Lexer (Symbol Piece : Type*) where
  first : List Symbol → Option (Piece × List Symbol)
  symbols : Piece → List Symbol
  first_ne_none : ∀ symbol text, first (symbol :: text) ≠ none
  tiles : ∀ {text piece rest}, first text = some (piece, rest) → symbols piece ++ rest = text
  symbols_ne_nil : ∀ {text piece rest}, first text = some (piece, rest) → symbols piece ≠ []

namespace Lexer

variable {Symbol Piece : Type*} (lexer : Lexer Symbol Piece)

variable {rest : List Symbol}

variable {piece : Piece}

theorem length_lt {text : List Symbol}
    (cut : lexer.first text = some (piece, rest)) : rest.length < text.length := by
  have tiled := congrArg List.length (lexer.tiles cut)
  have positive := List.length_pos_iff.mpr (lexer.symbols_ne_nil cut)
  rw [List.length_append] at tiled
  omega

def pieces (text : List Symbol) : List Piece :=
  match _cut : lexer.first text with
  | none => []
  | some (piece, rest) => piece :: pieces rest
termination_by text.length
decreasing_by exact lexer.length_lt _cut

def text (pieces : List Piece) : List Symbol := pieces.flatMap lexer.symbols

@[simp]
theorem text_nil : lexer.text [] = [] := rfl

@[simp]
theorem text_cons (piece : Piece) (later : List Piece) :
    lexer.text (piece :: later) = lexer.symbols piece ++ lexer.text later :=
  List.flatMap_cons

@[simp]
theorem text_append (pieces later : List Piece) :
    lexer.text (pieces ++ later) = lexer.text pieces ++ lexer.text later :=
  List.flatMap_append

theorem first_nil : lexer.first [] = none := by
  cases cut : lexer.first [] with
  | none => rfl
  | some cutPiece => exact absurd (lexer.length_lt cut) (Nat.not_lt_zero _)

@[simp]
theorem pieces_nil : lexer.pieces [] = [] := by
  rw [pieces]
  split
  next => rfl
  next piece rest cut =>
    rw [first_nil] at cut
    cases cut

theorem pieces_of_first {text : List Symbol}
    (cut : lexer.first text = some (piece, rest)) :
    lexer.pieces text = piece :: lexer.pieces rest := by
  rw [pieces]
  split
  next none =>
    rw [none] at cut
    cases cut
  next otherPiece otherRest other =>
    rw [other] at cut
    cases cut
    rfl

theorem piece_induction {motive : List Symbol → Prop} (nil : motive [])
    (cons : ∀ text piece rest, lexer.first text = some (piece, rest) → motive rest → motive text)
    (text : List Symbol) : motive text := by
  induction size : text.length using Nat.strongRecOn generalizing text with
  | ind size induction =>
    cases text with
    | nil => exact nil
    | cons symbol later =>
      obtain ⟨⟨piece, rest⟩, cut⟩ :=
        Option.ne_none_iff_exists'.mp (lexer.first_ne_none symbol later)
      apply cons _ piece rest cut
      exact induction _ (size ▸ lexer.length_lt cut) rest rfl

@[simp]
theorem text_pieces (text : List Symbol) : lexer.text (lexer.pieces text) = text := by
  induction text using lexer.piece_induction with
  | nil => simp
  | cons text piece rest cut induction =>
    rw [lexer.pieces_of_first cut, text_cons, induction, lexer.tiles cut]

/-- A piece is the first one before some rest of a text. -/
def Fits (piece : Piece) (rest : List Symbol) : Prop :=
  lexer.first (lexer.symbols piece ++ rest) = some (piece, rest)

/-- Some pieces are how the text that they tile is cut. -/
def Lexes (pieces : List Piece) : Prop := lexer.pieces (lexer.text pieces) = pieces

theorem lexes_pieces (text : List Symbol) : lexer.Lexes (lexer.pieces text) := by
  rw [Lexes, text_pieces]

variable {lexer}

theorem Fits.symbols_ne_nil (fits : lexer.Fits piece rest) :
    lexer.symbols piece ≠ [] :=
  lexer.symbols_ne_nil fits

theorem lexes_cons {later : List Piece} : lexer.Lexes (piece :: later) ↔
      lexer.Fits piece (lexer.text later) ∧ lexer.Lexes later := by
  constructor
  · intro lexes
    rw [Lexes, text_cons] at lexes
    cases cut : lexer.first (lexer.symbols piece ++ lexer.text later) with
    | none =>
      rw [pieces] at lexes
      split at lexes
      next => cases lexes
      next found =>
        rw [cut] at found
        cases found
    | some found =>
      obtain ⟨other, rest⟩ := found
      rw [lexer.pieces_of_first cut] at lexes
      obtain ⟨rfl, isLater⟩ := List.cons.inj lexes
      have same : rest = lexer.text later := List.append_cancel_left (lexer.tiles cut)
      subst same
      exact ⟨cut, isLater⟩
  · rintro ⟨fits, lexes⟩
    rw [Lexes, text_cons, lexer.pieces_of_first fits, lexes]

theorem pieces_eq_iff {text : List Symbol} {pieces : List Piece} :
    lexer.pieces text = pieces ↔ lexer.text pieces = text ∧ lexer.Lexes pieces := by
  constructor
  · rintro rfl
    exact ⟨lexer.text_pieces text, lexer.lexes_pieces text⟩
  · rintro ⟨rfl, lexes⟩
    exact lexes

theorem Lexes.of_append {pieces later : List Piece} (lexes : lexer.Lexes (pieces ++ later)) :
    lexer.Lexes later := by
  induction pieces with
  | nil => exact lexes
  | cons piece pieces induction => exact induction (lexes_cons.mp lexes).2

/-- Whether a piece fits depends on the next symbol alone. -/
def OneAhead (lexer : Lexer Symbol Piece) : Prop :=
  ∀ piece rest other, rest.head? = other.head? → lexer.Fits piece rest → lexer.Fits piece other

theorem Lexes.replace (oneAhead : lexer.OneAhead) {before old new : List Piece}
    (lexes : lexer.Lexes (before ++ old)) (replaced : lexer.Lexes new)
    (alike : ∀ piece ∈ before.getLast?,
      lexer.Fits piece (lexer.text old) → lexer.Fits piece (lexer.text new)) :
    lexer.Lexes (before ++ new) := by
  induction before with
  | nil => exact replaced
  | cons piece before induction =>
    rw [List.cons_append, lexes_cons] at lexes ⊢
    cases before with
    | nil => exact ⟨alike piece rfl lexes.1, replaced⟩
    | cons next before =>
      refine ⟨oneAhead _ _ _ ?_ lexes.1, induction lexes.2 alike⟩
      -- The next piece has a symbol, and it stays.
      have nonempty := (lexes_cons.mp lexes.2).1.symbols_ne_nil
      obtain ⟨symbol, symbols, isNext⟩ := List.exists_cons_of_ne_nil nonempty
      simp [isNext]

end Lexer

end Velvt
