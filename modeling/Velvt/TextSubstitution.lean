import Mathlib.Data.List.Nodup
import Mathlib.Data.List.Infix
import Mathlib.Data.List.Find
import Mathlib.Data.List.Lattice
import Mathlib.Data.List.Pairwise
import Mathlib.Data.Option.Basic

/-!
# Replacing patterns in a text, one after another or all at once

A text is a list of cells, each with a letter.  Replacing a pattern looks for it from the left, and
goes on behind each match.  So that it can be told where the letters of a match come from, the cells
of a template know their place in it, and those of a replacement know that they have none.
-/

namespace Velvt.TextSubstitution

open List

section Replacing

variable {α β : Type*} [DecidableEq α] (letter : β → α)

def beginsWith (pattern : List α) (text : List β) : Bool := pattern.isPrefixOf (text.map letter)

/-- Replaces every match behind so many cells that belong to the last one. -/
def replaceFrom (pattern : List α) (replacement : List β) : Nat → List β → List β
  | _, [] => []
  | passed + 1, _ :: text => replaceFrom pattern replacement passed text
  | 0, first :: text =>
    if beginsWith letter pattern (first :: text) then
      replacement ++ replaceFrom pattern replacement (pattern.length - 1) text
    else
      first :: replaceFrom pattern replacement 0 text

def foundFrom (pattern : List α) : Nat → List β → List (List β)
  | _, [] => []
  | passed + 1, _ :: text => foundFrom pattern passed text
  | 0, first :: text =>
    if beginsWith letter pattern (first :: text) then
      (first :: text).take pattern.length :: foundFrom pattern (pattern.length - 1) text
    else
      foundFrom pattern 0 text

def replace (pattern : List α) (replacement text : List β) : List β :=
  replaceFrom letter pattern replacement 0 text

def found (pattern : List α) (text : List β) : List (List β) := foundFrom letter pattern 0 text

/-- Every place where the pattern stands, whether these overlap or not. -/
def occurrences (pattern : List α) (text : List β) : List (List β) :=
  (text.tails.filter (beginsWith letter pattern)).map (List.take pattern.length)

theorem matches_induction {motive : List β → Prop} (pattern : List α) (nil : motive [])
    (hit : ∀ first text, beginsWith letter pattern (first :: text) = true →
      motive (text.drop (pattern.length - 1)) → motive (first :: text))
    (miss : ∀ first text, beginsWith letter pattern (first :: text) = false →
      motive text → motive (first :: text)) (text : List β) : motive text := by
  induction size : text.length using Nat.strong_induction_on generalizing text with
  | _ size ih =>
    cases text with
    | nil => exact nil
    | cons first text =>
      rw [length_cons] at size
      cases begins : beginsWith letter pattern (first :: text) with
      | true =>
        refine hit first text begins (ih _ ?_ _ rfl)
        rw [length_drop]
        omega
      | false => exact miss first text begins (ih _ (by omega) _ rfl)

variable {letter} {pattern : List α} {replacement text : List β} {first : β}

theorem replaceFrom_eq_drop (passed : Nat) : replaceFrom letter pattern replacement passed text =
      replace letter pattern replacement (text.drop passed) := by
  induction text generalizing passed with
  | nil => cases passed <;> rfl
  | cons first text ih =>
    cases passed with
    | zero => rfl
    | succ passed => exact ih passed

theorem foundFrom_eq_drop (passed : Nat) :
    foundFrom letter pattern passed text = found letter pattern (text.drop passed) := by
  induction text generalizing passed with
  | nil => cases passed <;> rfl
  | cons first text ih =>
    cases passed with
    | zero => rfl
    | succ passed => exact ih passed

theorem replace_cons : replace letter pattern replacement (first :: text) =
      if beginsWith letter pattern (first :: text) then
        replacement ++ replace letter pattern replacement (text.drop (pattern.length - 1))
      else
        first :: replace letter pattern replacement text := by
  rw [replace, replaceFrom, replaceFrom_eq_drop]
  rfl

theorem found_cons : found letter pattern (first :: text) =
      if beginsWith letter pattern (first :: text) then
        (first :: text).take pattern.length :: found letter pattern (text.drop (pattern.length - 1))
      else
        found letter pattern text := by
  rw [found, foundFrom, foundFrom_eq_drop]
  rfl

theorem map_replace (text : List β) : (replace letter pattern replacement text).map letter =
      replace id pattern (replacement.map letter) (text.map letter) := by
  induction text using matches_induction letter pattern with
  | nil => rfl
  | hit first text begins ih =>
    have letters : beginsWith id pattern (letter first :: text.map letter) = true := by
      rwa [beginsWith, map_id]
    rw [replace_cons, if_pos begins, map_append, ih, map_drop, map_cons,
      replace_cons, if_pos letters]
  | miss first text begins ih =>
    have letters : beginsWith id pattern (letter first :: text.map letter) = false := by
      rwa [beginsWith, map_id]
    rw [replace_cons, if_neg (by simp [begins]), map_cons, ih, map_cons, replace_cons,
      if_neg (by simp [letters])]

omit [DecidableEq α] in
theorem take_cons_of_ne_nil (nonempty : pattern ≠ []) (first : β) (text : List β) :
    (first :: text).take pattern.length = first :: text.take (pattern.length - 1) := by
  cases pattern with
  | nil => exact absurd rfl nonempty
  | cons letter pattern => simp

variable (letter) in
theorem flatten_found_sublist (nonempty : pattern ≠ []) (text : List β) :
    (found letter pattern text).flatten.Sublist text := by
  induction text using matches_induction letter pattern with
  | nil => exact List.Sublist.refl _
  | hit first text begins ih =>
    rw [found_cons, if_pos begins, flatten_cons, take_cons_of_ne_nil nonempty, cons_append]
    have behind := (List.Sublist.refl (text.take (pattern.length - 1))).append ih
    rw [take_append_drop] at behind
    exact behind.cons_cons first
  | miss first text begins ih =>
    rw [found_cons, if_neg (by simp [begins])]
    exact ih.cons first

variable [DecidableEq β]

/-- What becomes of a cell when some pieces of its text are replaced: the first cell of a piece
gives way to the replacement, and the others to nothing. -/
def imageIn (pieces : List (List β)) (replacement : List β) (cell : β) : List β :=
  if cell ∈ pieces.filterMap List.head? then replacement
  else if cell ∈ pieces.flatten then []
  else [cell]

variable {pieces : List (List β)}

omit [DecidableEq β] in
theorem mem_flatten_of_head {cell : β}
    (head : cell ∈ pieces.filterMap List.head?) : cell ∈ pieces.flatten := by
  obtain ⟨piece, member, begins⟩ := mem_filterMap.mp head
  exact mem_flatten.mpr ⟨piece, member, mem_of_mem_head? begins⟩

theorem imageIn_of_not_mem {cell : β} (outside : cell ∉ pieces.flatten) :
    imageIn pieces replacement cell = [cell] := by
  rw [imageIn, if_neg fun head => outside (mem_flatten_of_head head), if_neg outside]

omit [DecidableEq α] in
theorem flatMap_imageIn_cons {block rest : List β} (within : ∀ cell ∈ pieces.flatten, cell ∈ rest)
    (single : ∀ cell ∈ ((first :: block) :: pieces).flatten,
      (first :: (block ++ rest)).count cell = 1) :
    (first :: (block ++ rest)).flatMap (imageIn ((first :: block) :: pieces) replacement) =
      replacement ++ rest.flatMap (imageIn pieces replacement) := by
  have apart {cell : β} (inPiece : cell ∈ first :: block) : cell ∉ rest := by
    intro inRest
    have once := single cell (mem_flatten.mpr ⟨_, mem_cons_self, inPiece⟩)
    rw [← cons_append, count_append] at once
    have here := count_pos_iff.mpr inPiece
    have there := count_pos_iff.mpr inRest
    omega
  have front : imageIn ((first :: block) :: pieces) replacement first = replacement := by
    simp [imageIn]
  have middle : block.flatMap (imageIn ((first :: block) :: pieces) replacement) = [] := by
    rw [flatMap_eq_nil_iff]
    intro cell inBlock
    have inPiece : cell ∈ first :: block := mem_cons_of_mem _ inBlock
    have differs : cell ≠ first := by
      rintro rfl
      have once := single cell (by simp)
      rw [count_cons_self, count_append] at once
      have here := count_pos_iff.mpr inBlock
      omega
    have notHead : cell ∉ ((first :: block) :: pieces).filterMap List.head? := by
      intro head
      obtain ⟨piece, member, begins⟩ := mem_filterMap.mp head
      rcases mem_cons.mp member with rfl | later
      · exact differs (Option.some.inj begins).symm
      · exact apart inPiece (within cell (mem_flatten.mpr ⟨piece, later, mem_of_mem_head? begins⟩))
    rw [imageIn, if_neg notHead, if_pos (by simp [inBlock])]
  have behind : ∀ cell ∈ rest, imageIn ((first :: block) :: pieces) replacement cell =
      imageIn pieces replacement cell := by
    intro cell inRest
    have outside : cell ∉ first :: block := fun inPiece => apart inPiece inRest
    have differs : first ≠ cell := fun same => outside (same ▸ mem_cons_self)
    have notIn : cell ∉ block := fun inBlock => outside (mem_cons_of_mem _ inBlock)
    simp only [imageIn, filterMap_cons, List.head?_cons, mem_cons, differs.symm,
      false_or, flatten_cons, mem_append, notIn]
  rw [flatMap_cons, front, flatMap_append, middle, nil_append, flatMap_congr behind]

/-- Where the letters found stand once each, the replacement goes letter by letter. -/
theorem replace_eq_flatMap (nonempty : pattern ≠ []) (text : List β)
    (single : ∀ cell ∈ (found letter pattern text).flatten, text.count cell = 1) :
    replace letter pattern replacement text =
      text.flatMap (imageIn (found letter pattern text) replacement) := by
  induction text using matches_induction letter pattern with
  | nil => rfl
  | hit first text begins ih =>
    rw [found_cons, if_pos begins, take_cons_of_ne_nil nonempty] at single ⊢
    rw [replace_cons, if_pos begins]
    have split := take_append_drop (pattern.length - 1) text
    have within := (flatten_found_sublist letter nonempty (text.drop (pattern.length - 1))).subset
    generalize text.take (pattern.length - 1) = block at single split ⊢
    generalize text.drop (pattern.length - 1) = rest at single split within ih ⊢
    rw [← split] at single ⊢
    rw [flatMap_imageIn_cons (fun _ => @within _) single, ih]
    intro cell member
    have once := single cell (by
      rw [flatten_cons]
      exact mem_append_right _ member)
    have here := count_pos_iff.mpr (within member)
    rw [count_cons, count_append] at once
    omega
  | miss first text begins ih =>
    rw [found_cons, if_neg (by simp [begins])] at single ⊢
    rw [replace_cons, if_neg (by simp [begins]), flatMap_cons]
    have within := (flatten_found_sublist letter nonempty text).subset
    have outside : first ∉ (found letter pattern text).flatten := by
      intro member
      have once := single first member
      rw [count_cons_self] at once
      have behind := count_pos_iff.mpr (within member)
      omega
    rw [imageIn_of_not_mem outside, singleton_append, ih]
    intro cell member
    have once := single cell member
    have behind := count_pos_iff.mpr (within member)
    rw [count_cons] at once
    omega

end Replacing

section Provenance

/-- A letter, and its place in the template if it has one. -/
structure Cell (α : Type*) where
  letter : α
  place : Option Nat
  deriving DecidableEq

/-- A pattern, and what it gives way to. -/
structure Rule (α : Type*) where
  pattern : List α
  replacement : List α
  nonempty : pattern ≠ []

variable {α : Type*}

def marked (template : List α) : List (Cell α) :=
  template.zipIdx.map fun (letter, place) => { letter := letter, place := some place }

def inserted (replacement : List α) : List (Cell α) :=
  replacement.map fun letter => { letter := letter, place := none }

theorem letters_marked (template : List α) : (marked template).map Cell.letter = template := by
  rw [marked, map_map]
  exact zipIdx_map_fst 0 template

theorem letters_inserted (replacement : List α) :
    (inserted replacement).map Cell.letter = replacement := by
  rw [inserted, map_map]
  exact map_id _

theorem nodup_marked (template : List α) : (marked template).Nodup := by
  have places : (marked template).map Cell.place = (List.range' 0 template.length).map some := by
    rw [marked, map_map, ← zipIdx_map_snd 0 template, map_map]
    rfl
  apply List.Nodup.of_map Cell.place
  rw [places]
  exact (nodup_range' ..).map (Option.some_injective _)

theorem place_of_mem_marked {template : List α} {cell : Cell α} (member : cell ∈ marked template) :
    cell.place.isSome = true := by
  obtain ⟨entry, -, rfl⟩ := mem_map.mp member
  rfl

theorem place_of_mem_inserted {replacement : List α} {cell : Cell α}
    (member : cell ∈ inserted replacement) : cell.place = none := by
  obtain ⟨letter, -, rfl⟩ := mem_map.mp member
  rfl

variable [DecidableEq α] (template : List α)

def standing (pattern : List α) : List (List (Cell α)) :=
  occurrences Cell.letter pattern (marked template)

/-- Whether the pattern of a rule begins at a cell of the template. -/
def beginsAt (cell : Cell α) (rule : Rule α) : Bool :=
  decide (cell ∈ (standing template rule.pattern).filterMap List.head?)

def belongsTo (cell : Cell α) (rule : Rule α) : Bool :=
  decide (cell ∈ (standing template rule.pattern).flatten)

/-- What becomes of a cell of the template under all rules at once: the first cell of a pattern
gives way to its replacement, the others of a pattern to nothing, and every other cell stays. -/
def fillCell (rules : List (Rule α)) (cell : Cell α) : List (Cell α) :=
  match rules.find? (beginsAt template cell) with
  | some rule => inserted rule.replacement
  | none => if rules.any (belongsTo template cell) then [] else [cell]

def fill (rules : List (Rule α)) : List (Cell α) :=
  (marked template).flatMap (fillCell template rules)

def atOnce (rules : List (Rule α)) : List α := (fill template rules).map Cell.letter

def oneByOne (rules : List (Rule α)) : List α :=
  rules.foldl (fun text rule => replace id rule.pattern rule.replacement text) template

def cellsOneByOne (rules : List (Rule α)) : List (Cell α) :=
  rules.foldl (fun cells rule =>
    replace Cell.letter rule.pattern (inserted rule.replacement) cells) (marked template)

/-- No cell of the template belongs to the patterns of both. -/
def StandApart (rule other : Rule α) : Prop :=
  (standing template rule.pattern).flatten.Disjoint (standing template other.pattern).flatten

instance : Std.Symm (StandApart template) where
  symm _ _ apart := apart.symm

/-- In the text that the rules before it make, what is found of each rule's pattern is what stands
in the template. -/
def FindsOwn (made : List (Rule α) → List (Cell α)) (rules : List (Rule α)) : Prop :=
  ∀ before rule after, rules = before ++ rule :: after →
    found Cell.letter rule.pattern (made before) = standing template rule.pattern

variable {template} {rules before : List (Rule α)} {rule : Rule α} {cell : Cell α}

theorem cellsOneByOne_concat : cellsOneByOne template (before ++ [rule]) =
      replace Cell.letter rule.pattern (inserted rule.replacement)
        (cellsOneByOne template before) := by
  simp [cellsOneByOne]

theorem letters_cellsOneByOne :
    (cellsOneByOne template rules).map Cell.letter = oneByOne template rules := by
  induction rules using List.reverseRecOn with
  | nil => exact letters_marked template
  | append_singleton before rule ih =>
    rw [cellsOneByOne_concat, map_replace, ih, letters_inserted, oneByOne, oneByOne, foldl_concat]

theorem mem_marked_of_standing {pattern : List α}
    (member : cell ∈ (standing template pattern).flatten) : cell ∈ marked template := by
  obtain ⟨piece, isPiece, inPiece⟩ := mem_flatten.mp member
  obtain ⟨suffix, isSuffix, rfl⟩ := mem_map.mp isPiece
  have tail := (mem_tails _ _).mp (mem_of_mem_filter isSuffix)
  exact tail.subset (mem_of_mem_take inPiece)

theorem own_of_standing {pattern : List α}
    (stands : cell ∈ (standing template pattern).flatten) : cell.place.isSome = true :=
  place_of_mem_marked (mem_marked_of_standing stands)

theorem mem_fill (own : cell.place.isSome = true) (member : cell ∈ fill template rules) :
    cell ∈ marked template ∧ ∀ rule ∈ rules, cell ∉ (standing template rule.pattern).flatten := by
  obtain ⟨source, inTemplate, image⟩ := mem_flatMap.mp member
  rw [fillCell] at image
  split at image
  · rw [place_of_mem_inserted image] at own
    cases own
  · split at image
    · cases image
    · rename_i outside
      obtain rfl := mem_singleton.mp image
      refine ⟨inTemplate, fun rule isRule inPiece => outside ?_⟩
      exact any_eq_true.mpr ⟨rule, isRule, decide_eq_true inPiece⟩

theorem filter_flatMap_sublist {β : Type*} {kept : β → Bool} {image : β → List β} {cells : List β}
    (single : ∀ cell ∈ cells, ((image cell).filter kept).Sublist [cell]) :
    ((cells.flatMap image).filter kept).Sublist cells := by
  induction cells with
  | nil => exact List.Sublist.refl _
  | cons cell cells ih =>
    rw [flatMap_cons, filter_append]
    exact (single cell mem_cons_self).append
      (ih fun other member => single other (mem_cons_of_mem _ member))

omit [DecidableEq α] in
theorem filter_place_inserted (replacement : List α) :
    (inserted replacement).filter (fun cell => cell.place.isSome) = [] := by
  rw [filter_eq_nil_iff]
  intro cell member
  rw [place_of_mem_inserted member]
  decide

variable (template rules) in
theorem filter_fill_sublist :
    ((fill template rules).filter fun cell => cell.place.isSome).Sublist (marked template) := by
  apply filter_flatMap_sublist
  intro cell _
  rw [fillCell]
  split
  · rw [filter_place_inserted]
    exact nil_sublist _
  · split
    · exact nil_sublist _
    · exact filter_sublist

variable (template rules) in
theorem count_fill (own : cell.place.isSome = true) : (fill template rules).count cell ≤ 1 := by
  have kept : ((fill template rules).filter fun cell => cell.place.isSome).count cell =
      (fill template rules).count cell := count_filter own
  have once := nodup_iff_count_le_one.mp (nodup_marked template) cell
  have fewer := (filter_fill_sublist template rules).count_le cell
  omega

theorem fillCell_of_begins (begins : rules.find? (beginsAt template cell) = some rule) :
    fillCell template rules cell = inserted rule.replacement := by
  rw [fillCell, begins]

theorem fillCell_of_not_begins (begins : rules.find? (beginsAt template cell) = none) :
    fillCell template rules cell = if rules.any (belongsTo template cell) then [] else [cell] := by
  rw [fillCell, begins]

theorem flatMap_imageIn_inserted (pattern replacement : List α) (cells : List (Cell α)) :
    (inserted replacement).flatMap (imageIn (standing template pattern) cells) =
      inserted replacement := by
  have single : ∀ cell ∈ inserted replacement,
      imageIn (standing template pattern) cells cell = [cell] := by
    intro cell member
    apply imageIn_of_not_mem
    intro stands
    have own := own_of_standing stands
    rw [place_of_mem_inserted member] at own
    cases own
  rw [flatMap_congr single, flatMap_singleton']

theorem fillCell_concat (apart : ∀ other ∈ before, StandApart template other rule) (cell : Cell α) :
    (fillCell template before cell).flatMap
        (imageIn (standing template rule.pattern) (inserted rule.replacement)) =
      fillCell template (before ++ [rule]) cell := by
  cases earlier : before.find? (beginsAt template cell) with
  | some other =>
    have begins : (before ++ [rule]).find? (beginsAt template cell) = some other := by
      rw [List.find?_append, earlier, Option.some_or]
    rw [fillCell_of_begins earlier, fillCell_of_begins begins, flatMap_imageIn_inserted]
  | none =>
    have begins : (before ++ [rule]).find? (beginsAt template cell) =
        [rule].find? (beginsAt template cell) := by
      rw [List.find?_append, earlier, Option.none_or]
    rw [fillCell_of_not_begins earlier]
    by_cases within : before.any (belongsTo template cell)
    · obtain ⟨other, isRule, inOther⟩ := any_eq_true.mp within
      have outside : cell ∉ (standing template rule.pattern).flatten :=
        fun inRule => apart other isRule (of_decide_eq_true inOther) inRule
      have last : [rule].find? (beginsAt template cell) = none := by
        simp [beginsAt, mt mem_flatten_of_head outside]
      rw [fillCell_of_not_begins (begins.trans last), any_append, within, Bool.true_or]
      rfl
    · rw [if_neg within, flatMap_singleton]
      by_cases head : beginsAt template cell rule
      · have last : [rule].find? (beginsAt template cell) = some rule := by
          rw [List.find?_singleton, if_pos head]
        rw [fillCell_of_begins (begins.trans last), imageIn, if_pos (of_decide_eq_true head)]
      · have last : [rule].find? (beginsAt template cell) = none := by
          rw [List.find?_singleton, if_neg head]
        rw [fillCell_of_not_begins (begins.trans last), any_append,
          eq_false_of_ne_true within, Bool.false_or, any_cons, any_nil,
          Bool.or_false, imageIn, if_neg (fun isHead => head (decide_eq_true isHead))]
        simp only [belongsTo, decide_eq_true_eq]

section Found

variable (own : found Cell.letter rule.pattern (fill template before) =
  standing template rule.pattern)

include own

theorem mem_fill_of_standing (stands : cell ∈ (standing template rule.pattern).flatten) :
    cell ∈ fill template before := by
  rw [← own] at stands
  exact (flatten_found_sublist Cell.letter rule.nonempty (fill template before)).subset stands

theorem standApart_of_found {other : Rule α} (earlier : other ∈ before) :
    StandApart template other rule := by
  intro cell inOther stands
  exact (mem_fill (own_of_standing stands) (mem_fill_of_standing own stands)).2 other earlier
    inOther

theorem fill_concat :
    replace Cell.letter rule.pattern (inserted rule.replacement) (fill template before) =
      fill template (before ++ [rule]) := by
  rw [replace_eq_flatMap rule.nonempty, own, fill, fill, flatMap_assoc]
  · apply flatMap_congr
    intro cell _
    exact fillCell_concat (fun other earlier => standApart_of_found own earlier) cell
  · rw [own]
    intro cell stands
    have here := count_pos_iff.mpr (mem_fill_of_standing own stands)
    have once := count_fill template before (own_of_standing stands)
    omega

end Found

theorem findsOwn_concat {made : List (Rule α) → List (Cell α)} :
    FindsOwn template made (before ++ [rule]) ↔ FindsOwn template made before ∧
      found Cell.letter rule.pattern (made before) = standing template rule.pattern := by
  constructor
  · intro own
    refine ⟨fun earlier other after split => own earlier other (after ++ [rule]) ?_,
      own before rule [] rfl⟩
    rw [split, append_assoc, cons_append]
  · rintro ⟨own, last⟩ earlier other after split
    rcases eq_nil_or_concat after with rfl | ⟨between, final, rfl⟩
    · obtain ⟨rfl, same⟩ := append_inj' split rfl
      obtain rfl := singleton_inj.mp same
      exact last
    · rw [concat_eq_append, ← cons_append, ← append_assoc] at split
      obtain ⟨rfl, -⟩ := append_inj' split rfl
      exact own earlier other between rfl

variable (template rules) in
theorem findsOwn_iff :
    (FindsOwn template (cellsOneByOne template) rules ↔ FindsOwn template (fill template) rules) ∧
      (FindsOwn template (fill template) rules →
        cellsOneByOne template rules = fill template rules) := by
  induction rules using List.reverseRecOn with
  | nil =>
    have none_to_find (made : List (Rule α) → List (Cell α)) : FindsOwn template made [] := by
      intro before rule after split
      simp at split
    refine ⟨iff_of_true (none_to_find _) (none_to_find _), fun _ => ?_⟩
    rw [fill, flatMap_congr fun cell _ => fillCell_of_not_begins rfl]
    exact (flatMap_singleton' _).symm
  | append_singleton before rule ih =>
    obtain ⟨same, made⟩ := ih
    rw [findsOwn_concat, findsOwn_concat, same]
    constructor
    · apply and_congr_right
      intro own
      rw [made own]
    · rintro ⟨own, last⟩
      rw [cellsOneByOne_concat, made own, fill_concat last]

theorem pairwise_of_findsOwn (own : FindsOwn template (fill template) rules) :
    rules.Pairwise (StandApart template) := by
  induction rules using List.reverseRecOn with
  | nil => exact List.Pairwise.nil
  | append_singleton before rule ih =>
    obtain ⟨earlier, last⟩ := findsOwn_concat.mp own
    refine pairwise_append.mpr ⟨ih earlier, pairwise_singleton _ _, ?_⟩
    intro other isRule final isLast
    obtain rfl := mem_singleton.mp isLast
    exact standApart_of_found last isRule

theorem fill_perm {others : List (Rule α)} (apart : rules.Pairwise (StandApart template))
    (perm : rules.Perm others) : fill template rules = fill template others := by
  apply flatMap_congr
  intro cell _
  have alone : {rule ∈ rules | beginsAt template cell rule}.Subsingleton := by
    rintro rule ⟨isRule, begins⟩ other ⟨isOther, otherBegins⟩
    by_contra differ
    exact apart.forall isRule isOther differ (mem_flatten_of_head (of_decide_eq_true begins))
      (mem_flatten_of_head (of_decide_eq_true otherBegins))
  rw [fillCell, fillCell, List.find?_eq_find?_of_perm perm alone, perm.any_eq]

theorem oneByOne_eq_atOnce (own : FindsOwn template (fill template) rules) :
    oneByOne template rules = atOnce template rules := by
  rw [atOnce, ← (findsOwn_iff template rules).2 own, letters_cellsOneByOne]

theorem atOnce_perm {others : List (Rule α)} (apart : rules.Pairwise (StandApart template))
    (perm : rules.Perm others) : atOnce template rules = atOnce template others := by
  rw [atOnce, atOnce, fill_perm apart perm]

end Provenance

end Velvt.TextSubstitution
