import Velvt.PluginOrder
import Velvt.SketchCache

/-!
# The fidelity of cached sketches

A cached sketch stands for the text that it was made from.
-/

namespace Velvt.Sketches

open StepMachine TaskPrograms List
open Velvt.Rules (ClassificationResult EmbeddingSimilarityPlugin F32
  PersonalSemanticPrototype normalizeClassifierText exactF32)

section Conduct

/-- How far a task has got. -/
structure Sketching (F : Type) where
  /-- The key that it observes. -/
  key : Option String
  /-- The text that it sketches. -/
  text : Option String
  /-- The map has vouched for the row. -/
  trusts : Bool
  sketch : Option (List F)
  /-- It has written the row, and not yet the map's entry. -/
  wrote : Bool

def Sketching.idle {F : Type} : Sketching F where
  key := none
  text := none
  trusts := false
  sketch := none
  wrote := false

def Sketching.observing {F : Type} (keyHash input : String) (trusts : Bool)
    (sketch : Option (List F)) : Sketching F where
  key := some keyHash
  text := some input
  trusts := trusts
  sketch := sketch
  wrote := false

def Sketching.classifying {F : Type} (input : String) (sketch : Option (List F)) : Sketching F where
  key := none
  text := some input
  trusts := false
  sketch := sketch
  wrote := false

variable {F : Type} [F32 F] (tier : SketchTier F)

namespace SketchCall

variable {Answer : Type}

/-- The calls that a task may make. -/
def Conducted (state : Sketching F) : SketchCall F Answer → Prop
  | .rowHoldsInput _ _ => state = .idle
  | .embedding keyHash input =>
    state.key = some keyHash ∧ state.text = some input ∧ state.trusts = true
  | .infer input => state.text = some input
  | .putObserved input sketch => state.text = some input ∧ state.sketch = some sketch
  | .takeObserved _ => state = .idle
  | .recordEmbedding keyHash sketch =>
    state.key = some keyHash ∧ state.sketch = some sketch ∧ state.wrote = false
  | .putRecorded keyHash input =>
    state.key = some keyHash ∧ state.text = some input ∧ state.wrote = true
  | .personalPrototypes => True
  | .answer given =>
    state.wrote = false ∧ state.text = some given.input ∧
      given.sketched = state.sketch.isSome ∧
      given.result = tier.verdict given.prototypes state.sketch
  | .returnObserve => state.wrote = false

def conducts {F : Type} (state : Sketching F) : SketchCall F Answer → Answer → Sketching F
  | .rowHoldsInput keyHash input, holds => .observing keyHash input holds none
  | .embedding _ _, found => { state with sketch := found }
  | .infer _, inferred => { state with sketch := inferred }
  | .takeObserved input, found => .classifying input found
  | .recordEmbedding _ _, stored => { state with wrote := stored }
  | .putRecorded _ _, () => { state with wrote := false }
  | .answer _, () => .idle
  | .returnObserve, () => .idle
  | _, _ => state

end SketchCall

def sketchConduct : Protocol (SketchCall F) (Sketching F) where
  allowed state operation := operation.Conducted tier state
  possible _ _ := True
  track state operation answer := operation.conducts state answer

variable {tier}

theorem observeInput_follows (keyHash input : String) :
    Follows (sketchConduct tier) (fun _ _ => True) (observeInput tier keyHash input) .idle := by
  refine ⟨rfl, fun holds _ => ?_⟩
  change Follows _ _ (cachedSketch tier keyHash input holds >>= _)
    (Sketching.observing keyHash input holds none)
  rw [follows_bind]
  have cached : Follows (sketchConduct tier)
      (fun cached last => last = Sketching.observing keyHash input holds cached)
      (cachedSketch tier keyHash input holds) (.observing keyHash input holds none) := by
    unfold cachedSketch
    split
    next looks =>
      rw [Bool.and_eq_true] at looks
      exact ⟨⟨rfl, rfl, looks.1⟩, fun _ _ => rfl⟩
    next => rfl
  refine cached.mono _ ?_
  rintro found _ rfl
  rw [follows_bind]
  have sketched : Follows (sketchConduct tier)
      (fun sketch last => last = Sketching.observing keyHash input holds sketch)
      (sketchOrInfer input found) (.observing keyHash input holds found) := by
    cases found with
    | some embedding => rfl
    | none => exact ⟨rfl, fun _ _ => rfl⟩
  refine sketched.mono _ ?_
  rintro (_ | embedding) _ rfl
  · exact ⟨rfl, fun _ _ => trivial⟩
  · refine ⟨⟨rfl, rfl⟩, fun _ _ => ?_⟩
    change Follows _ _ (recordSketchOf tier keyHash input embedding >>= _) _
    rw [follows_bind]
    have recorded : Follows (sketchConduct tier) (fun _ last => last.wrote = false)
        (recordSketchOf tier keyHash input embedding)
        (.observing keyHash input holds (some embedding)) := by
      unfold recordSketchOf
      split
      · refine ⟨⟨rfl, rfl, rfl⟩, fun stored _ => ?_⟩
        cases stored with
        | true => exact ⟨⟨rfl, rfl, rfl⟩, fun _ _ => rfl⟩
        | false => rfl
      · rfl
    refine recorded.mono _ ?_
    intro _ last unwritten
    exact ⟨unwritten, fun _ _ => trivial⟩

theorem classifyInput_follows (input : String) :
    Follows (sketchConduct tier) (fun _ _ => True) (classifyInput tier input) .idle := by
  refine ⟨rfl, fun taken _ => ?_⟩
  change Follows _ _ (sketchOrInfer input taken >>= _) (Sketching.classifying input taken)
  rw [follows_bind]
  have sketched : Follows (sketchConduct tier)
      (fun sketch last => last = Sketching.classifying input sketch)
      (sketchOrInfer input taken) (.classifying input taken) := by
    cases taken with
    | some embedding => rfl
    | none => exact ⟨rfl, fun _ _ => rfl⟩
  refine sketched.mono _ ?_
  rintro (_ | embedding) _ rfl
  · exact ⟨⟨rfl, rfl, rfl, rfl⟩, fun _ _ => trivial⟩
  · change Follows _ _ (readPrototypes tier >>= _) _
    rw [follows_bind]
    have reads : Follows (sketchConduct tier)
        (fun _ last => last = Sketching.classifying input (some embedding))
        (readPrototypes tier) (.classifying input (some embedding)) := by
      unfold readPrototypes
      split
      · exact ⟨trivial, fun _ _ => rfl⟩
      · rfl
    refine reads.mono _ ?_
    rintro prototypes _ rfl
    exact ⟨⟨rfl, rfl, rfl, rfl⟩, fun _ _ => trivial⟩

end Conduct

section Fidelity

variable {F : Type} [F32 F] {tier : SketchTier F}

/-- The embedding is the sketch of a text that is filed under the digest. -/
def SketchesDigest (model : SketchModel F) (digest : String) (embedding : List F) : Prop :=
  ∃ input, digest = model.inputHash input ∧ model.embed input = some embedding

/-- The row of the task's key, if there is one, holds the sketch of the task's text. -/
def Sketching.OwnsRow (model : SketchModel F) (state : Sketching F) (rows : List (SketchRow F)) :
    Prop :=
  ∀ row ∈ rows, state.key = some row.keyHash →
    ∃ input, state.text = some input ∧ model.embed input = some row.embedding

/-- What the tier answers without a cache: by inference, if it comes to a result. -/
def SketchTier.uncached (tier : SketchTier F) (answer : SketchAnswer F) :
    Option ClassificationResult :=
  tier.verdict answer.prototypes (if answer.sketched then tier.model.embed answer.input else none)

/-- Every cached sketch that is used is that of the text, and every answer is the one that the
tier gives without a cache. -/
structure Faithful (tier : SketchTier F) (shared : SketchShared F) : Prop where
  uses : ∀ use ∈ shared.uses, tier.model.embed use.input = some use.embedding
  answers : ∀ answer ∈ shared.answers, answer.result = tier.uncached answer

/-- What is cached is what it is filed as, but for a row whose entry in the map is still to be
written; and no two tasks observe one key with different texts. -/
structure Fidelity (tier : SketchTier F) (shared : SketchShared F) (standings : List (Sketching F)) :
    Prop where
  faithful : Faithful tier shared
  observed : ∀ entry ∈ shared.observed, SketchesDigest tier.model entry.1 entry.2
  sketches : ∀ state ∈ standings, ∀ embedding ∈ state.sketch,
    ∃ input, state.text = some input ∧ tier.model.embed input = some embedding
  alone : ∀ state ∈ standings, ∀ other ∈ standings, state.key ≠ none → other.key = state.key →
    other.text = state.text
  trusted : ∀ state ∈ standings, state.trusts = true → state.OwnsRow tier.model shared.rows
  written : ∀ state ∈ standings, state.wrote = true → state.OwnsRow tier.model shared.rows
  recorded : ∀ entry ∈ shared.recordedInputs,
    (∀ row ∈ shared.rows, row.keyHash = entry.1 → SketchesDigest tier.model entry.2 row.embedding) ∨
    ∃ state ∈ standings, state.wrote = true ∧ state.key = some entry.1

/-- No observation begins while one of the same key with another text is under way. -/
def BeginsAlone (standings : List (Sketching F)) :
    CallCondition (SketchCall F) (SketchShared F) (SketchInput F)
  | _, _, _, .rowHoldsInput keyHash input =>
    ∀ other ∈ standings, other.key = some keyHash → other.text = some input
  | _, _, _, _ => True

variable {shared after : SketchShared F} {standings : List (Sketching F)} {index : Nat}
  {state next : Sketching F} {Answer : Type} {decided : SketchInput F}

omit [F32 F] in
theorem Sketching.OwnsRow.mono {model : SketchModel F} {rows fewer : List (SketchRow F)}
    (owns : state.OwnsRow model rows) (subset : ∀ row ∈ fewer, row ∈ rows) :
    state.OwnsRow model fewer :=
  fun row member isKey => owns row (subset row member) isKey

omit [F32 F] in
theorem alone_set (alone : ∀ state ∈ standings, ∀ other ∈ standings, state.key ≠ none →
      other.key = state.key → other.text = state.text)
    (isAlone : next.key ≠ none → ∀ other ∈ standings, other.key = next.key →
      other.text = next.text) :
    ∀ first ∈ standings.set index next, ∀ second ∈ standings.set index next, first.key ≠ none →
      second.key = first.key → second.text = first.text := by
  intro first isFirst second isSecond keyed same
  rcases mem_or_eq_of_mem_set isFirst with before | rfl
  · rcases mem_or_eq_of_mem_set isSecond with other | rfl
    · exact alone first before second other keyed same
    · rw [← same] at keyed
      exact (isAlone keyed first before same.symm).symm
  · rcases mem_or_eq_of_mem_set isSecond with other | rfl
    · exact isAlone keyed second other same
    · rfl

section

variable (fidelity : Fidelity tier shared standings) (isState : standings[index]? = some state)
  (faithful : Faithful tier after) (rows : after.rows = shared.rows)
  (recorded : after.recordedInputs = shared.recordedInputs)

include fidelity isState faithful rows recorded

theorem Fidelity.kept
    (observed : ∀ entry ∈ after.observed, SketchesDigest tier.model entry.1 entry.2)
    (sketches : ∀ embedding ∈ next.sketch,
      ∃ input, next.text = some input ∧ tier.model.embed input = some embedding)
    (alone : next.key ≠ none → ∀ other ∈ standings, other.key = next.key → other.text = next.text)
    (trusted : next.trusts = true → next.OwnsRow tier.model shared.rows)
    (written : next.wrote = true → next.OwnsRow tier.model shared.rows)
    (wrote : state.wrote = true → next.wrote = true ∧ next.key = state.key) :
    Fidelity tier after (standings.set index next) := by
  refine ⟨faithful, observed, forall_mem_set fidelity.sketches sketches,
    alone_set fidelity.alone alone, ?_, ?_, ?_⟩
  · rw [rows]
    exact forall_mem_set fidelity.trusted trusted
  · rw [rows]
    exact forall_mem_set fidelity.written written
  · rw [rows, recorded]
    intro entry member
    refine (fidelity.recorded entry member).imp_right fun writer => ?_
    refine exists_mem_set isState writer ?_
    rintro ⟨had, isKey⟩
    exact ⟨(wrote had).1, (wrote had).2.trans isKey⟩

theorem Fidelity.sketched
    (observed : ∀ entry ∈ after.observed, SketchesDigest tier.model entry.1 entry.2)
    (sketch : Option (List F)) (sketches : ∀ embedding ∈ sketch,
      ∃ input, state.text = some input ∧ tier.model.embed input = some embedding) :
    Fidelity tier after (standings.set index { state with sketch := sketch }) := by
  have known := mem_of_getElem? isState
  exact fidelity.kept isState faithful rows recorded observed sketches
    (fun keyed other member same => fidelity.alone state known other member keyed same)
    (fidelity.trusted state known) (fidelity.written state known) fun had => ⟨had, rfl⟩

theorem Fidelity.idles
    (observed : after.observed = shared.observed) (unwritten : state.wrote = false) :
    Fidelity tier after (standings.set index .idle) := by
  refine fidelity.kept isState faithful rows recorded ?_ ?_ ?_ ?_ ?_ ?_
  · rw [observed]
    exact fidelity.observed
  · simp [Sketching.idle]
  · simp [Sketching.idle]
  · simp [Sketching.idle]
  · simp [Sketching.idle]
  · rw [unwritten]
    simp

end

omit [F32 F] in
theorem mem_recordSketch {keyHash : String} {embedding : List F} {now : Int}
    {rows : List (SketchRow F)} {row : SketchRow F}
    (member : row ∈ recordSketch keyHash embedding now rows) :
    (row.keyHash = keyHash ∧ row.embedding = embedding) ∨ (row.keyHash ≠ keyHash ∧ row ∈ rows) := by
  have kept := TableRows.keepFirst_sublist.subset member
  rcases TableRows.mem_upsert.mp kept with ⟨before, other⟩ | ⟨old, -, same, rfl⟩ | ⟨-, rfl⟩
  · exact Or.inr ⟨other, before⟩
  · exact Or.inl ⟨same, rfl⟩
  · exact Or.inl ⟨rfl, rfl⟩

theorem mem_insertBounded {Value : Type} {key : String} {value : Value}
    {entries : List (String × Value)} {entry : String × Value}
    (member : entry ∈ insertBounded key value entries) :
    entry = (key, value) ∨ entry.1 ≠ key ∧ entry ∈ entries := by
  unfold insertBounded at member
  rcases mem_cons.mp member with same | kept
  · exact Or.inl same
  · obtain ⟨before, other⟩ := mem_filter.mp kept
    refine Or.inr ⟨by simpa using other, ?_⟩
    split at before
    · cases before
    · exact before

theorem mem_of_lookup {Value : Type} {key : String} {value : Value}
    {entries : List (String × Value)} (found : entries.lookup key = some value) :
    (key, value) ∈ entries := by
  induction entries with
  | nil => cases found
  | cons entry entries ih =>
    rw [lookup_cons] at found
    split at found
    next same =>
      rw [eq_of_beq same]
      cases found
      exact mem_cons_self
    next => exact mem_cons_of_mem _ (ih found)

theorem Fidelity.writesRow (fidelity : Fidelity tier shared standings)
    (isState : standings[index]? = some state) {keyHash : String} {embedding : List F} {now : Int}
    (isKey : state.key = some keyHash) (isSketch : state.sketch = some embedding) :
    Fidelity tier { shared with rows := recordSketch keyHash embedding now shared.rows }
      (standings.set index { state with wrote := true }) := by
  have known := mem_of_getElem? isState
  obtain ⟨input, isText, isEmbedding⟩ := fidelity.sketches state known embedding isSketch
  have owns : ∀ other ∈ standings, other.OwnsRow tier.model shared.rows →
      other.OwnsRow tier.model (recordSketch keyHash embedding now shared.rows) := by
    intro other member owned row isRow isOther
    rcases mem_recordSketch isRow with ⟨same, written⟩ | ⟨-, before⟩
    · have sameKey : other.key = state.key := by rw [isOther, same, isKey]
      have sameText := fidelity.alone state known other member (by simp [isKey]) sameKey
      exact ⟨input, sameText.trans isText, by rw [written]; exact isEmbedding⟩
    · exact owned row before isOther
  have ownsAnew : state.OwnsRow tier.model (recordSketch keyHash embedding now shared.rows) := by
    intro row isRow isOther
    rcases mem_recordSketch isRow with ⟨-, written⟩ | ⟨other, -⟩
    · exact ⟨input, isText, by rw [written]; exact isEmbedding⟩
    · rw [isKey] at isOther
      exact absurd (Option.some.inj isOther).symm other
  refine ⟨⟨fidelity.faithful.uses, fidelity.faithful.answers⟩, fidelity.observed,
    forall_mem_set fidelity.sketches (fidelity.sketches state known),
    alone_set fidelity.alone fun keyed other member same =>
      fidelity.alone state known other member keyed same, ?_, ?_, ?_⟩
  · exact forall_mem_set (fun other member trusts => owns other member
      (fidelity.trusted other member trusts)) fun _ => ownsAnew
  · exact forall_mem_set (fun other member wrote => owns other member
      (fidelity.written other member wrote)) fun _ => ownsAnew
  · intro entry member
    by_cases same : entry.1 = keyHash
    · refine Or.inr ⟨{ state with wrote := true }, mem_of_getElem? (List.getElem?_set_self ?_),
        rfl, by rw [same]; exact isKey⟩
      exact (List.getElem?_eq_some_iff.mp isState).1
    · refine (fidelity.recorded entry member).imp ?_ ?_
      · intro filed row isRow isEntry
        rcases mem_recordSketch isRow with ⟨isRowKey, -⟩ | ⟨-, before⟩
        · exact absurd (isEntry.symm.trans isRowKey) same
        · exact filed row before isEntry
      · intro writer
        exact exists_mem_set isState writer fun had => ⟨rfl, had.2⟩

theorem Fidelity.writesEntry (fidelity : Fidelity tier shared standings)
    (isState : standings[index]? = some state) {keyHash input : String}
    (isKey : state.key = some keyHash) (isText : state.text = some input)
    (wrote : state.wrote = true) :
    Fidelity tier { shared with
        recordedInputs :=
          insertBounded keyHash (tier.model.inputHash input) shared.recordedInputs }
      (standings.set index { state with wrote := false }) := by
  have known := mem_of_getElem? isState
  refine ⟨⟨fidelity.faithful.uses, fidelity.faithful.answers⟩, fidelity.observed,
    forall_mem_set fidelity.sketches (fidelity.sketches state known),
    alone_set fidelity.alone fun keyed other member same =>
      fidelity.alone state known other member keyed same,
    forall_mem_set fidelity.trusted (fidelity.trusted state known),
    forall_mem_set fidelity.written (by simp), ?_⟩
  intro entry member
  rcases mem_insertBounded member with rfl | ⟨other, before⟩
  · refine Or.inl fun row isRow isRowKey => ?_
    obtain ⟨text, same, isEmbedding⟩ :=
      fidelity.written state known wrote row isRow (by rw [isKey, isRowKey])
    rw [isText] at same
    cases same
    exact ⟨input, rfl, isEmbedding⟩
  · refine (fidelity.recorded entry before).imp_right ?_
    rintro ⟨writer, isWriter, had, isEntry⟩
    obtain ⟨place, isPlace⟩ := mem_iff_getElem?.mp isWriter
    by_cases same : place = index
    · subst same
      rw [isState] at isPlace
      cases isPlace
      rw [isKey] at isEntry
      exact absurd (Option.some.inj isEntry).symm other
    · refine ⟨writer, mem_of_getElem? (i := place) ?_, had, isEntry⟩
      rw [List.getElem?_set_ne (Ne.symm same)]
      exact isPlace

theorem Faithful.used (faithful : Faithful tier shared) {input : String} {found : Option (List F)}
    (own : ∀ embedding ∈ found, tier.model.embed input = some embedding)
    (uses : after.uses = found.toList.map (fun embedding => ⟨input, embedding⟩) ++ shared.uses)
    (answers : after.answers = shared.answers) : Faithful tier after := by
  refine ⟨?_, by rw [answers]; exact faithful.answers⟩
  rw [uses]
  intro use member
  rcases mem_append.mp member with isNew | before
  · obtain ⟨embedding, isFound, rfl⟩ := mem_map.mp isNew
    exact own embedding (Option.mem_toList.mp isFound)
  · exact faithful.uses use before

theorem Fidelity.vouched (fidelity : Fidelity tier shared standings)
    (collisionFree : Function.Injective tier.model.inputHash) {keyHash input : String}
    (alone : ∀ other ∈ standings, other.key = some keyHash → other.text = some input)
    (vouches : shared.recordedInputs.lookup keyHash = some (tier.model.inputHash input))
    {row : SketchRow F} (isRow : row ∈ shared.rows) (isKey : row.keyHash = keyHash) :
    tier.model.embed input = some row.embedding := by
  rcases fidelity.recorded _ (mem_of_lookup vouches) with filed | ⟨writer, member, wrote, isWriter⟩
  · obtain ⟨text, same, isEmbedding⟩ := filed row isRow isKey
    rwa [collisionFree same]
  · obtain ⟨text, isText, isEmbedding⟩ :=
      fidelity.written writer member wrote row isRow (by rw [isWriter, isKey])
    rw [alone writer member isWriter] at isText
    cases isText
    exact isEmbedding

/-- By the calls: each sketch that is held or written is of the text it names. -/
theorem Fidelity.step (fidelity : Fidelity tier shared standings)
    (collisionFree : Function.Injective tier.model.inputHash)
    (isState : standings[index]? = some state) {operation : SketchCall F Answer} {answer : Answer}
    (conducted : operation.Conducted tier state)
    (admitted : BeginsAlone standings Answer decided shared operation)
    (handled : performSketch tier.model Answer decided shared operation = some (answer, after)) :
    Fidelity tier after (standings.set index (operation.conducts state answer)) := by
  have known := mem_of_getElem? isState
  cases operation with
  | rowHoldsInput keyHash input =>
    cases handled
    have idle : state = .idle := conducted
    refine fidelity.kept isState fidelity.faithful rfl rfl fidelity.observed ?_ (fun _ => ?_) ?_ ?_ ?_
    · simp [SketchCall.conducts, Sketching.observing]
    · intro other member same
      exact admitted other member same
    · intro vouches row isRow isKey
      refine ⟨input, rfl, fidelity.vouched collisionFree admitted ?_ isRow ?_⟩
      · exact eq_of_beq vouches
      · exact (Option.some.inj isKey).symm
    · simp [SketchCall.conducts, Sketching.observing]
    · simp [idle, Sketching.idle]
  | embedding keyHash input =>
    cases handled
    obtain ⟨isKey, isText, trusts⟩ := conducted
    have own : ∀ embedding ∈ (if decided.storeFails then none
        else ((shared.rows.find? fun row => row.keyHash == keyHash).map (·.embedding)).filter
          tier.model.stores), tier.model.embed input = some embedding := by
      intro embedding isFound
      split at isFound
      · cases isFound
      · have unfiltered := (Option.mem_filter_iff.mp isFound).1
        obtain ⟨row, isRow, rfl⟩ := Option.mem_map.mp unfiltered
        have matching := List.find?_some isRow
        obtain ⟨text, same, isEmbedding⟩ := fidelity.trusted state known trusts row
          (mem_of_find?_eq_some isRow) (by rw [isKey, eq_of_beq matching])
        rw [isText] at same
        cases same
        exact isEmbedding
    refine fidelity.sketched isState ?_ ?_ ?_ ?_ _ ?_
    · exact fidelity.faithful.used own rfl rfl
    · rfl
    · rfl
    · exact fidelity.observed
    · exact fun embedding isFound => ⟨input, isText, own embedding isFound⟩
  | infer input =>
    cases handled
    refine fidelity.sketched isState fidelity.faithful rfl rfl fidelity.observed _ ?_
    intro embedding inferred
    split at inferred
    · cases inferred
    · exact ⟨input, conducted, inferred⟩
  | putObserved input sketch =>
    cases handled
    obtain ⟨isText, isSketch⟩ := conducted
    refine fidelity.sketched isState ?_ ?_ ?_ ?_ state.sketch (fidelity.sketches state known)
    · exact ⟨fidelity.faithful.uses, fidelity.faithful.answers⟩
    · rfl
    · rfl
    intro entry member
    rcases mem_insertBounded member with rfl | ⟨-, before⟩
    · obtain ⟨text, same, isEmbedding⟩ := fidelity.sketches state known sketch isSketch
      rw [isText] at same
      cases same
      exact ⟨input, rfl, isEmbedding⟩
    · exact fidelity.observed entry before
  | takeObserved input =>
    cases handled
    have idle : state = .idle := conducted
    have own : ∀ embedding ∈ shared.observed.lookup (tier.model.inputHash input),
        tier.model.embed input = some embedding := by
      intro embedding isFound
      obtain ⟨text, same, isEmbedding⟩ := fidelity.observed _ (mem_of_lookup isFound)
      rwa [collisionFree same]
    refine fidelity.kept isState ?_ rfl rfl ?_ ?_ ?_ ?_ ?_ ?_
    · exact fidelity.faithful.used own rfl rfl
    · exact fun entry member => fidelity.observed entry (mem_of_mem_filter member)
    · exact fun embedding isFound => ⟨input, rfl, own embedding isFound⟩
    · simp [SketchCall.conducts, Sketching.classifying]
    · simp [SketchCall.conducts, Sketching.classifying]
    · simp [SketchCall.conducts, Sketching.classifying]
    · simp [idle, Sketching.idle]
  | recordEmbedding keyHash sketch =>
    simp only [performSketch] at handled
    split at handled
    · cases handled
      refine fidelity.kept isState fidelity.faithful rfl rfl fidelity.observed
        (fidelity.sketches state known)
        (fun keyed other member same => fidelity.alone state known other member keyed same)
        (fidelity.trusted state known) (by simp [SketchCall.conducts]) ?_
      rw [conducted.2.2]
      simp
    · cases handled
      exact fidelity.writesRow isState conducted.1 conducted.2.1
  | putRecorded keyHash input =>
    cases handled
    exact fidelity.writesEntry isState conducted.1 conducted.2.1 conducted.2.2
  | personalPrototypes =>
    cases handled
    exact fidelity.sketched isState fidelity.faithful rfl rfl fidelity.observed state.sketch
      (fidelity.sketches state known)
  | answer given =>
    cases handled
    obtain ⟨unwritten, isText, sketched, result⟩ := conducted
    refine fidelity.idles isState ⟨fidelity.faithful.uses, ?_⟩ rfl rfl rfl unwritten
    intro other member
    rcases mem_cons.mp member with rfl | before
    · rw [result, SketchTier.uncached, sketched]
      cases isSketch : state.sketch with
      | none => rfl
      | some embedding =>
        obtain ⟨text, same, isEmbedding⟩ := fidelity.sketches state known embedding isSketch
        rw [isText] at same
        cases same
        rw [isEmbedding]
        rfl
    · exact fidelity.faithful.answers other before
  | returnObserve =>
    cases handled
    exact fidelity.idles isState fidelity.faithful rfl rfl rfl conducted

end Fidelity

section Runs

variable {F : Type} [F32 F] {tier : SketchTier F} {world : SketchWorld F}

instance (standings : List (Sketching F)) (Answer : Type) (decided : SketchInput F)
    (shared : SketchShared F) (operation : SketchCall F Answer) :
    Decidable (BeginsAlone standings Answer decided shared operation) := by
  unfold BeginsAlone
  split <;> infer_instance

def SketchWorld.sketching (tier : SketchTier F) (world : SketchWorld F) : List (Sketching F) :=
  world.standings (sketchConduct tier) .idle

/-- The step of an operation: no observation begins beside one of its key with another text. -/
def ObservesAlone (tier : SketchTier F) (world : SketchWorld F)
    (operation : SketchOperation × SketchInput F) : Prop :=
  match operation with
  | (.advance task, decided) => World.Admits (BeginsAlone (world.sketching tier)) world task decided
  | _ => True

instance (world : SketchWorld F) (operation : SketchOperation × SketchInput F) :
    Decidable (ObservesAlone tier world operation) := by
  unfold ObservesAlone
  split <;> infer_instance

/-- The tier whose tasks keep to their conduct, and whose cache is faithful. -/
abbrev Sketched (tier : SketchTier F) (world : SketchWorld F) : Prop :=
  World.Sound (sketchConduct tier) .idle (fun _ => True) (Fidelity tier) world

theorem Fidelity.enters (shared : SketchShared F) (standings : List (Sketching F))
    (fidelity : Fidelity tier shared standings) : Fidelity tier shared (standings ++ [.idle]) := by
  refine ⟨fidelity.faithful, fidelity.observed,
    forall_mem_concat fidelity.sketches (by simp [Sketching.idle]), ?_,
    forall_mem_concat fidelity.trusted (by simp [Sketching.idle]),
    forall_mem_concat fidelity.written (by simp [Sketching.idle]), ?_⟩
  · refine forall_mem_concat (fun state member => ?_) (by simp [Sketching.idle])
    refine forall_mem_concat (fidelity.alone state member) fun keyed same => ?_
    exact absurd same.symm keyed
  · intro entry member
    refine (fidelity.recorded entry member).imp_right ?_
    rintro ⟨state, isState, writes⟩
    exact ⟨state, mem_append_left _ isState, writes⟩

theorem Fidelity.expires {shared : SketchShared F} {standings : List (Sketching F)}
    (fidelity : Fidelity tier shared standings) {rows : List (SketchRow F)}
    (fewer : ∀ row ∈ rows, row ∈ shared.rows) :
    Fidelity tier { shared with rows := rows } standings :=
  { faithful := ⟨fidelity.faithful.uses, fidelity.faithful.answers⟩
    observed := fidelity.observed
    sketches := fidelity.sketches
    alone := fidelity.alone
    trusted := fun state member trusts => (fidelity.trusted state member trusts).mono fewer
    written := fun state member wrote => (fidelity.written state member wrote).mono fewer
    recorded := fun entry member => (fidelity.recorded entry member).imp_left fun filed row isRow =>
      filed row (fewer row isRow) }

theorem Fidelity.restarts {shared : SketchShared F} (faithful : Faithful tier shared) :
    Fidelity tier { shared with recordedInputs := [], observed := [] } [] := by
  refine ⟨⟨faithful.uses, faithful.answers⟩, ?_, ?_, ?_, ?_, ?_, ?_⟩ <;> simp

theorem Sketched.next (sketched : Sketched tier world)
    (collisionFree : Function.Injective tier.model.inputHash)
    {operation : SketchOperation × SketchInput F} (alone : ObservesAlone tier world operation) :
    Sketched tier ((sketchMachine tier).next world operation) := by
  obtain ⟨operation, decided⟩ := operation
  cases operation with
  | observe keyHash appName windowTitle =>
    exact sketched.spawn (observeInput_follows keyHash _) Fidelity.enters
  | classify appName windowTitle => exact sketched.spawn (classifyInput_follows _) Fidelity.enters
  | advance task =>
    refine World.Sound.step sketched ?_
    intro Answer operation resume trace answer shared isTask stands allowed handled
    have admitted : BeginsAlone (world.sketching tier) Answer decided world.shared operation := by
      have admits : World.Admits (BeginsAlone (world.sketching tier)) world task decided := alone
      simpa [World.Admits, isTask] using admits
    exact ⟨trivial, sketched.holds.step collisionFree stands allowed admitted handled⟩
  | restart => exact .initial (Fidelity.restarts sketched.holds.faithful)
  | expire cutoff limit picked =>
    exact sketched.disturb (sketched.holds.expires fun row member => mem_of_mem_filter member)

def undisturbed : SketchInput ℚ where
  now := 0
  storeFails := false
  inferenceFails := false
  prototypes := some []

def calls (count task : Nat) : List SketchOperation := List.replicate count (.advance task)

end Runs

end Velvt.Sketches
