import Velvt.ClassifierPlugins
import Velvt.StepMachine
import Velvt.TaskInvariants

/-!
# The cache of semantic sketches

The embedding tier keeps sketches of the windows it has observed: in memory for the next
classification, in a table for later observations.  A row stands under the caller's stable key,
which several texts share; a map in memory says from which text it was written.  Observations and
classifications make one call at a time, and any number of them may be under way.
-/

namespace Velvt.Sketches

open StepMachine TaskPrograms
open Velvt.Rules (ClassificationResult EmbeddingSimilarityPlugin F32
  PersonalSemanticPrototype normalizeClassifierText)

section Model

variable (F : Type)

/-- One row of `semantic_embedding_cache`. -/
structure SketchRow where
  keyHash : String
  embedding : List F
  updatedAt : Int

/-- The model, the digest under which a text is filed, and the numbers that the table takes. -/
structure SketchModel where
  /-- `EmbeddingModel::embed`; without a result the model has failed. -/
  embed : String → Option (List F)
  /-- `input_hash`: SHA-256 in hex. -/
  inputHash : String → String
  isFinite : F → Bool

/-- A cached sketch that has gone into use as that of a text. -/
structure SketchUse where
  input : String
  embedding : List F
  deriving DecidableEq

/-- What a classification answers, and what of the store it has read for that. -/
structure SketchAnswer where
  input : String
  prototypes : Option (List (PersonalSemanticPrototype F))
  /-- There was a sketch, cached or inferred. -/
  sketched : Bool
  result : Option ClassificationResult

/-- What observations and classifications share. -/
structure SketchShared where
  rows : List (SketchRow F)
  /-- From which text each row was written, by its key. -/
  recordedInputs : List (String × String)
  observed : List (String × List F)
  uses : List (SketchUse F)
  answers : List (SketchAnswer F)

/-- What the surroundings decide about one call. -/
structure SketchInput where
  now : Int
  storeFails : Bool
  /-- The inference is refused, fails or takes too long. -/
  inferenceFails : Bool
  prototypes : Option (List (PersonalSemanticPrototype F))

inductive SketchCall : Type → Type
  /-- The map says that the row under the key was written from the text. -/
  | rowHoldsInput (keyHash input : String) : SketchCall Bool
  /-- The row under the key, as the sketch of the text. -/
  | embedding (keyHash input : String) : SketchCall (Option (List F))
  | infer (input : String) : SketchCall (Option (List F))
  | putObserved (input : String) (embedding : List F) : SketchCall Unit
  | takeObserved (input : String) : SketchCall (Option (List F))
  | recordEmbedding (keyHash : String) (embedding : List F) : SketchCall Bool
  | putRecorded (keyHash input : String) : SketchCall Unit
  | personalPrototypes : SketchCall (Option (List (PersonalSemanticPrototype F)))
  | answer (answer : SketchAnswer F) : SketchCall Unit
  /-- The caller of `observe` goes on. -/
  | returnObserve : SketchCall Unit

end Model

section Maps

/-- A map of at most 64 entries: a full one is emptied before the next entry. -/
def insertBounded {Value : Type} (key : String) (value : Value) (entries : List (String × Value)) :
    List (String × Value) :=
  (key, value) :: (if 64 ≤ entries.length then [] else entries).filter fun entry => entry.1 != key

variable {F : Type}

/-- `encode_embedding` and `decode_embedding` take no other embedding. -/
def SketchModel.stores (model : SketchModel F) (embedding : List F) : Bool :=
  !embedding.isEmpty && decide (embedding.length ≤ 1024) && embedding.all model.isFinite

def sketchBefore (first second : SketchRow F) : Bool :=
  decide (second.updatedAt < first.updatedAt) ||
    (first.updatedAt == second.updatedAt && decide (first.keyHash < second.keyHash))

/-- `record_embedding`: the newest 512 rows are kept. -/
def recordSketch (keyHash : String) (embedding : List F) (now : Int) (rows : List (SketchRow F)) :
    List (SketchRow F) :=
  TableRows.keepFirst (fun _ => true) sketchBefore 512
    (TableRows.upsert (·.keyHash)
      { keyHash := keyHash, embedding := embedding, updatedAt := timestamp now }
      (fun row => { row with embedding := embedding, updatedAt := timestamp now }) rows)

end Maps

section Calls

variable {F : Type} (model : SketchModel F)

def performSketch : Handler (SketchCall F) (SketchShared F) (SketchInput F)
  | _, _, shared, .rowHoldsInput keyHash input =>
    some (shared.recordedInputs.lookup keyHash == some (model.inputHash input), shared)
  | _, decided, shared, .embedding keyHash input =>
    let found := if decided.storeFails then none
      else ((shared.rows.find? fun row => row.keyHash == keyHash).map (·.embedding)).filter
        model.stores
    some (found, { shared with
      uses := found.toList.map (fun embedding => ⟨input, embedding⟩) ++ shared.uses })
  | _, decided, shared, .infer input =>
    some (if decided.inferenceFails then none else model.embed input, shared)
  | _, _, shared, .putObserved input embedding =>
    some ((), { shared with
      observed := insertBounded (model.inputHash input) embedding shared.observed })
  | _, _, shared, .takeObserved input =>
    let found := shared.observed.lookup (model.inputHash input)
    some (found, { shared with
      observed := shared.observed.filter fun entry => entry.1 != model.inputHash input
      uses := found.toList.map (fun embedding => ⟨input, embedding⟩) ++ shared.uses })
  | _, decided, shared, .recordEmbedding keyHash embedding =>
    if decided.storeFails || !model.stores embedding then
      some (false, shared)
    else
      some (true, { shared with
        rows := recordSketch keyHash embedding decided.now shared.rows })
  | _, _, shared, .putRecorded keyHash input =>
    some ((), { shared with
      recordedInputs := insertBounded keyHash (model.inputHash input) shared.recordedInputs })
  | _, decided, shared, .personalPrototypes => some (decided.prototypes, shared)
  | _, _, shared, .answer answer => some ((), { shared with answers := answer :: shared.answers })
  | _, _, shared, .returnObserve => some ((), shared)

end Calls

section Tier

variable {F : Type} [F32 F]

/-- `embedding_input`: what of a window is embedded. -/
def embeddingInput (appName windowTitle : String) : String :=
  let title := normalizeClassifierText windowTitle
  if title.isEmpty then
    String.ofList (normalizeClassifierText appName)
  else
    String.ofList (normalizeClassifierText appName) ++ " [SEP] " ++ String.ofList title

/-- The tier with its model, and whether it has a learning store. -/
structure SketchTier (F : Type) where
  model : SketchModel F
  plugin : EmbeddingSimilarityPlugin F
  learns : Bool

variable (tier : SketchTier F)

/-- What the tier makes of a sketch beside the prototypes of the user. -/
def SketchTier.verdict (prototypes : Option (List (PersonalSemanticPrototype F)))
    (embedding : Option (List F)) : Option ClassificationResult :=
  EmbeddingSimilarityPlugin.classify { tier.plugin with personalPrototypes := prototypes } embedding

def cachedSketch (keyHash input : String) (rowHoldsThisInput : Bool) :
    Program (SketchCall F) (Option (List F)) :=
  if rowHoldsThisInput && tier.learns then Program.ask (.embedding keyHash input) else pure none

def sketchOrInfer (input : String) : Option (List F) → Program (SketchCall F) (Option (List F))
  | some embedding => pure (some embedding)
  | none => Program.ask (.infer input)

def recordSketchOf (keyHash input : String) (embedding : List F) : Program (SketchCall F) Unit :=
  if tier.learns then do
    let stored ← Program.ask (.recordEmbedding keyHash embedding)
    if stored then Program.ask (.putRecorded keyHash input) else pure ()
  else
    pure ()

def observeInput (keyHash input : String) : Program (SketchCall F) Unit := do
  let rowHoldsThisInput ← Program.ask (.rowHoldsInput keyHash input)
  let cached ← cachedSketch tier keyHash input rowHoldsThisInput
  match ← sketchOrInfer input cached with
  | none => Program.ask .returnObserve
  | some embedding => do
      Program.ask (.putObserved input embedding)
      recordSketchOf tier keyHash input embedding
      Program.ask .returnObserve

def readPrototypes : Program (SketchCall F) (Option (List (PersonalSemanticPrototype F))) :=
  if tier.learns then Program.ask .personalPrototypes else pure none

def classifyInput (input : String) : Program (SketchCall F) Unit := do
  let taken ← Program.ask (.takeObserved input)
  match ← sketchOrInfer input taken with
  | none =>
    Program.ask (.answer { input := input, prototypes := none, sketched := false, result := none })
  | some embedding => do
      let prototypes ← readPrototypes tier
      Program.ask (.answer
        { input := input
          prototypes := prototypes
          sketched := true
          result := tier.verdict prototypes (some embedding) })

inductive SketchOperation
  | observe (keyHash appName windowTitle : String)
  | classify (appName windowTitle : String)
  /-- One task makes its next call. -/
  | advance (task : Nat)
  | restart
  /-- `delete_expired_semantic_embeddings`. -/
  | expire (cutoff : Int) (limit : Nat) (picked : List String)

abbrev SketchWorld (F : Type) := World (SketchCall F) (SketchShared F)

namespace SketchWorld

def opened (rows : List (SketchRow F)) : SketchWorld F where
  shared := { rows := rows, recordedInputs := [], observed := [], uses := [], answers := [] }
  tasks := []

def expired (rows : List (SketchRow F)) (cutoff : Int) (limit : Nat) (picked : List String) :
    List (SketchRow F) :=
  UploadStore.deleteSome rows (·.keyHash) (fun row => row.updatedAt < timestamp cutoff) limit picked

def next (world : SketchWorld F) (operation : SketchOperation) (decided : SketchInput F) :
    SketchWorld F :=
  match operation with
  | .observe keyHash appName windowTitle =>
    world.spawn (observeInput tier keyHash (embeddingInput appName windowTitle))
  | .classify appName windowTitle =>
    world.spawn (classifyInput tier (embeddingInput appName windowTitle))
  | .advance task => World.advance (performSketch tier.model) world task decided
  | .restart => { shared := { world.shared with recordedInputs := [], observed := [] }, tasks := [] }
  | .expire cutoff limit picked =>
    { world with
      shared := { world.shared with rows := expired world.shared.rows cutoff limit picked } }

end SketchWorld

/-- The observations and classifications of one tier as a step machine. -/
def sketchMachine : Machine (SketchWorld F) (SketchOperation × SketchInput F) Unit where
  step world operation := ((), world.next tier operation.1 operation.2)

end Tier

end Velvt.Sketches
