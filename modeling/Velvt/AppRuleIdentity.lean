import Mathlib.Data.List.Pairwise
import Velvt.RuleTables

/-!
# One rule for one application

An application rule is written by three statements over a table with two uniqueness constraints: the
name key is the primary key, and no two rows hold one bundle key.
-/

namespace Velvt.Rules

open List TableRows

/-- `personal_app_override`, as its primary key and its partial index keep it. -/
structure AppOverrideTable where
  rows : List AppOverrideRow
  appKeys : (rows.map (·.appKeyHash)).Nodup
  bundleKeys : (rows.filterMap (·.bundleKeyHash)).Nodup

namespace AppOverrideTable

def checked (rows : List AppOverrideRow) : Except PersistenceError AppOverrideTable :=
  if unique : (rows.map (·.appKeyHash)).Nodup ∧ (rows.filterMap (·.bundleKeyHash)).Nodup then
    .ok ⟨rows, unique.1, unique.2⟩
  else
    .error .storage

/-- `bundle_key_hash = ?1 AND app_key_hash <> ?2`. -/
def isBundleAlias (appKeyHash bundleKeyHash : String) (rule : AppOverrideRow) : Bool :=
  rule.bundleKeyHash == some bundleKeyHash && rule.appKeyHash != appKeyHash

variable (table : AppOverrideTable)

/-- The `UPDATE` that puts an alias under the name in use. -/
def rekeyAlias (appKeyHash bundleKeyHash : String) (now : Int) :
    Except PersistenceError AppOverrideTable :=
  let isTaught := table.rows.any fun existing => existing.appKeyHash == appKeyHash
  checked (TableRows.update (fun rule => isBundleAlias appKeyHash bundleKeyHash rule && !isTaught)
    (fun rule => { rule with appKeyHash := appKeyHash, updatedAt := timestamp now }) table.rows)

/-- The `DELETE` of an alias that could not be put there. -/
def deleteAlias (appKeyHash bundleKeyHash : String) : AppOverrideTable where
  rows := table.rows.filter fun rule => !isBundleAlias appKeyHash bundleKeyHash rule
  appKeys := (filter_sublist.map _).nodup table.appKeys
  bundleKeys := (filter_sublist.filterMap _).nodup table.bundleKeys

/-- The row that the `INSERT` brings. -/
def freshRule (appKeyHash : String) (bundleKeyHash : Option String) (category : String)
    (localActivityName : Option String) (appOnly : Bool) (now : Int) : AppOverrideRow where
  appKeyHash := appKeyHash
  bundleKeyHash := bundleKeyHash
  category := category
  activityName := localActivityName
  appOnly := appOnly
  correctionCount := 1
  updatedAt := timestamp now

/-- What `DO UPDATE` makes of the row under the name. -/
def restatedRule (bundleKeyHash : Option String) (category : String)
    (localActivityName : Option String) (appOnly : Bool) (now : Int) (rule : AppOverrideRow) :
    AppOverrideRow :=
  { rule with
    bundleKeyHash := bundleKeyHash <|> rule.bundleKeyHash
    category := category
    activityName := localActivityName <|> rule.activityName
    appOnly := rule.appOnly || appOnly
    correctionCount := rule.correctionCount + 1
    updatedAt := timestamp now }

/-- `INSERT … ON CONFLICT(app_key_hash) DO UPDATE`. -/
def upsertRule (appKeyHash : String) (bundleKeyHash : Option String) (category : String)
    (localActivityName : Option String) (appOnly : Bool) (now : Int) :
    Except PersistenceError AppOverrideTable :=
  checked (TableRows.upsert (·.appKeyHash)
    (freshRule appKeyHash bundleKeyHash category localActivityName appOnly now)
    (restatedRule bundleKeyHash category localActivityName appOnly now) table.rows)

def foldAlias (appKeyHash : String) (bundleKeyHash : Option String) (now : Int) :
    Except PersistenceError AppOverrideTable :=
  match bundleKeyHash with
  | some bundle =>
    (table.rekeyAlias appKeyHash bundle now).map fun rekeyed =>
      rekeyed.deleteAlias appKeyHash bundle
  | none => .ok table

/-- `upsert_app_scope_rule`, statement by statement. -/
def upsertAppScopeRule (appKeyHash : String) (bundleKeyHash : Option String) (category : String)
    (localActivityName : Option String) (appOnly : Bool) (now : Int) :
    Except PersistenceError AppOverrideTable :=
  (table.foldAlias appKeyHash bundleKeyHash now).bind fun folded =>
    folded.upsertRule appKeyHash bundleKeyHash category localActivityName appOnly now

end AppOverrideTable

section Apart

/-- Two rows that both constraints admit together. -/
def Apart (first second : AppOverrideRow) : Prop :=
  first.appKeyHash ≠ second.appKeyHash ∧
    ∀ bundle, first.bundleKeyHash = some bundle → second.bundleKeyHash ≠ some bundle

instance : Std.Symm Apart where
  symm _ _ apart :=
    ⟨apart.1.symm, fun bundle held same => apart.2 bundle same held⟩

variable {rows : List AppOverrideRow} {first second : AppOverrideRow}

theorem unique_iff_apart :
    (rows.map (·.appKeyHash)).Nodup ∧ (rows.filterMap (·.bundleKeyHash)).Nodup ↔
      rows.Pairwise Apart := by
  simp only [List.Nodup, pairwise_map, pairwise_filterMap, ← pairwise_and_iff]
  constructor
  · intro unique
    apply unique.imp
    rintro first second ⟨names, bundles⟩
    exact ⟨names, fun bundle held same => bundles bundle held bundle same rfl⟩
  · intro apart
    apply apart.imp
    rintro first second ⟨names, bundles⟩
    exact ⟨names, fun bundle held other same equal => bundles bundle held (equal ▸ same)⟩

theorem AppOverrideTable.apart (table : AppOverrideTable) : table.rows.Pairwise Apart :=
  unique_iff_apart.mp ⟨table.appKeys, table.bundleKeys⟩

theorem AppOverrideTable.checked_of_apart (apart : rows.Pairwise Apart) :
    ∃ table, AppOverrideTable.checked rows = .ok table ∧ table.rows = rows := by
  have unique := unique_iff_apart.mpr apart
  exact ⟨⟨rows, unique.1, unique.2⟩, dif_pos unique, rfl⟩

theorem eq_of_appKey (apart : rows.Pairwise Apart) (firstIn : first ∈ rows)
    (secondIn : second ∈ rows) (same : first.appKeyHash = second.appKeyHash) :
    first = second := by
  by_contra differ
  exact (apart.forall firstIn secondIn differ).1 same

theorem eq_of_bundleKey (apart : rows.Pairwise Apart) (firstIn : first ∈ rows)
    (secondIn : second ∈ rows) {bundle : String} (firstHolds : first.bundleKeyHash = some bundle)
    (secondHolds : second.bundleKeyHash = some bundle) : first = second := by
  by_contra differ
  exact (apart.forall firstIn secondIn differ).2 bundle firstHolds secondHolds

theorem apart_map {change : AppOverrideRow → AppOverrideRow} (chosen : AppOverrideRow → Prop)
    (apart : rows.Pairwise Apart) (spared : ∀ row ∈ rows, ¬ chosen row → change row = row)
    (alone : ∀ row ∈ rows, ∀ other ∈ rows, chosen row → Apart row other →
      ¬ chosen other ∧ Apart (change row) other) :
    (rows.map change).Pairwise Apart := by
  rw [pairwise_map]
  apply apart.imp_of_mem
  intro first second firstIn secondIn between
  by_cases firstChosen : chosen first
  · obtain ⟨other, kept⟩ := alone first firstIn second secondIn firstChosen between
    rwa [spared second secondIn other]
  · rw [spared first firstIn firstChosen]
    by_cases secondChosen : chosen second
    · exact Std.Symm.symm _ _
        (alone second secondIn first firstIn secondChosen (Std.Symm.symm _ _ between)).2
    · rwa [spared second secondIn secondChosen]

end Apart

section Folding

def isBystander (appKeyHash : String) (bundleKeyHash : Option String) (row : AppOverrideRow) :
    Bool :=
  row.appKeyHash != appKeyHash && bundleKeyHash.all fun bundle => row.bundleKeyHash != some bundle

/-- The row holds one of the keys of the call. -/
def AnswersFor (appKeyHash : String) (bundleKeyHash : Option String) (row : AppOverrideRow) :
    Prop :=
  row.appKeyHash = appKeyHash ∨ ∃ bundle ∈ bundleKeyHash, row.bundleKeyHash = some bundle

variable {row : AppOverrideRow}

theorem answersFor_iff {appKeyHash : String} {bundleKeyHash : Option String} :
    AnswersFor appKeyHash bundleKeyHash row ↔
      isBystander appKeyHash bundleKeyHash row = false := by
  cases bundleKeyHash with
  | none => simp [AnswersFor, isBystander]
  | some bundle =>
    simp only [AnswersFor, isBystander, Option.mem_some_iff, exists_eq_left', Option.all_some]
    by_cases named : row.appKeyHash = appKeyHash <;> simp [named]

/-- What the first two statements make of the rows: the row to be written under the name is the
only one that holds the bundle key. -/
structure Folded (appKeyHash : String) (bundleKeyHash : Option String) (now : Int)
    (rows folded : List AppOverrideRow) : Prop where
  apart : folded.Pairwise Apart
  converged : ∀ bundle ∈ bundleKeyHash, ∀ row ∈ folded, row.bundleKeyHash = some bundle →
    row.appKeyHash = appKeyHash
  bystanders : folded.filter (isBystander appKeyHash bundleKeyHash) =
    rows.filter (isBystander appKeyHash bundleKeyHash)
  kept : ∀ row ∈ rows, row.appKeyHash = appKeyHash → row ∈ folded
  named : ∀ row ∈ folded, row.appKeyHash = appKeyHash → row ∈ rows ∨
    (∀ other ∈ rows, other.appKeyHash ≠ appKeyHash) ∧ ∃ renamed ∈ rows, ∃ bundle ∈ bundleKeyHash,
      renamed.bundleKeyHash = some bundle ∧
        row = { renamed with appKeyHash := appKeyHash, updatedAt := timestamp now }
  rekeyed : (∀ other ∈ rows, other.appKeyHash ≠ appKeyHash) → ∀ bundle ∈ bundleKeyHash,
    ∀ row ∈ rows, row.bundleKeyHash = some bundle →
      { row with appKeyHash := appKeyHash, updatedAt := timestamp now } ∈ folded

variable {table : AppOverrideTable} {appKeyHash bundle : String} {now : Int}

theorem isBundleAlias_iff : AppOverrideTable.isBundleAlias appKeyHash bundle row = true ↔
      row.bundleKeyHash = some bundle ∧ row.appKeyHash ≠ appKeyHash := by
  simp [AppOverrideTable.isBundleAlias]

/-- What becomes of a row where the name has no rule: an alias is put under the name. -/
def rekeyedRow (appKeyHash bundle : String) (now : Int) (row : AppOverrideRow) : AppOverrideRow :=
  if row.bundleKeyHash = some bundle then
    { row with appKeyHash := appKeyHash, updatedAt := timestamp now }
  else
    row

theorem rekeyedRow_of_alias (holds : row.bundleKeyHash = some bundle) :
    rekeyedRow appKeyHash bundle now row =
      { row with appKeyHash := appKeyHash, updatedAt := timestamp now } :=
  if_pos holds

theorem rekeyedRow_of_other (other : row.bundleKeyHash ≠ some bundle) :
    rekeyedRow appKeyHash bundle now row = row :=
  if_neg other

theorem isBundleAlias_rekeyedRow (row : AppOverrideRow) :
    AppOverrideTable.isBundleAlias appKeyHash bundle (rekeyedRow appKeyHash bundle now row) =
      false := by
  by_cases holds : row.bundleKeyHash = some bundle
  · simp [rekeyedRow_of_alias holds, AppOverrideTable.isBundleAlias]
  · simp [rekeyedRow_of_other holds, AppOverrideTable.isBundleAlias, holds]

section Untaught

variable (untaught : ∀ other ∈ table.rows, other.appKeyHash ≠ appKeyHash)

include untaught

variable (bundle now) in
theorem apart_rekeyed : (table.rows.map (rekeyedRow appKeyHash bundle now)).Pairwise Apart := by
  apply apart_map (fun row => row.bundleKeyHash = some bundle) table.apart
  · intro row _ spared
    exact rekeyedRow_of_other spared
  · intro row _ other otherIn holds between
    refine ⟨between.2 bundle holds, ?_⟩
    rw [rekeyedRow_of_alias holds]
    exact ⟨(untaught other otherIn).symm, between.2⟩

variable (bundle now) in
theorem foldAlias_of_untaught :
    ∃ folded, table.foldAlias appKeyHash (some bundle) now = .ok folded ∧
      folded.rows = table.rows.map (rekeyedRow appKeyHash bundle now) := by
  have selected : TableRows.update (fun rule =>
      AppOverrideTable.isBundleAlias appKeyHash bundle rule &&
        !(table.rows.any fun existing => existing.appKeyHash == appKeyHash))
      (fun rule => { rule with appKeyHash := appKeyHash, updatedAt := timestamp now }) table.rows =
      table.rows.map (rekeyedRow appKeyHash bundle now) := by
    have nobody : (table.rows.any fun existing => existing.appKeyHash == appKeyHash) = false := by
      simpa using untaught
    apply map_congr_left
    intro row member
    by_cases holds : row.bundleKeyHash = some bundle
    · simp [rekeyedRow_of_alias holds, holds, nobody, AppOverrideTable.isBundleAlias,
        untaught row member]
    · simp [rekeyedRow_of_other holds, holds, AppOverrideTable.isBundleAlias]
  obtain ⟨rekeyed, isRekeyed, rows⟩ := AppOverrideTable.checked_of_apart
    (apart_rekeyed bundle now untaught)
  refine ⟨rekeyed.deleteAlias appKeyHash bundle, ?_, ?_⟩
  · rw [AppOverrideTable.foldAlias, AppOverrideTable.rekeyAlias, selected, isRekeyed]
    rfl
  · rw [← rows]
    apply filter_eq_self.mpr
    intro row member
    rw [rows, mem_map] at member
    obtain ⟨old, -, rfl⟩ := member
    rw [isBundleAlias_rekeyedRow]
    rfl

theorem folded_of_untaught : ∃ folded, table.foldAlias appKeyHash (some bundle) now = .ok folded ∧
      Folded appKeyHash (some bundle) now table.rows folded.rows := by
  obtain ⟨folded, isFolded, rows⟩ := foldAlias_of_untaught bundle now untaught
  refine ⟨folded, isFolded, ?_⟩
  constructor <;> rw [rows]
  · exact apart_rekeyed bundle now untaught
  · rintro _ ⟨⟩ row member holds
    obtain ⟨old, -, rfl⟩ := mem_map.mp member
    by_cases claimed : old.bundleKeyHash = some bundle
    · rw [rekeyedRow_of_alias claimed]
    · rw [rekeyedRow_of_other claimed] at holds
      exact absurd holds claimed
  · apply filter_map_of_spared
    · intro row _ bystander
      simp only [isBystander, Bool.and_eq_true, Option.all_some, bne_iff_ne] at bystander
      exact rekeyedRow_of_other bystander.2
    · intro row _ concerned
      by_cases claimed : row.bundleKeyHash = some bundle
      · simp [rekeyedRow_of_alias claimed, isBystander]
      · rwa [rekeyedRow_of_other claimed]
  · intro row member name
    exact absurd name (untaught row member)
  · intro row member name
    obtain ⟨old, oldIn, rfl⟩ := mem_map.mp member
    by_cases claimed : old.bundleKeyHash = some bundle
    · exact .inr ⟨untaught, old, oldIn, bundle, rfl, claimed, rekeyedRow_of_alias claimed⟩
    · rw [rekeyedRow_of_other claimed] at name
      exact absurd name (untaught old oldIn)
  · rintro - _ ⟨⟩ row member holds
    exact mem_map.mpr ⟨row, member, rekeyedRow_of_alias holds⟩

end Untaught

/-- Where the app has a rule, the alias is folded into it. -/
theorem folded_of_taught {taught : AppOverrideRow} (member : taught ∈ table.rows)
    (name : taught.appKeyHash = appKeyHash) :
    ∃ folded, table.foldAlias appKeyHash (some bundle) now = .ok folded ∧
      Folded appKeyHash (some bundle) now table.rows folded.rows := by
  have somebody : (table.rows.any fun existing => existing.appKeyHash == appKeyHash) = true :=
    any_eq_true.mpr ⟨taught, member, by simp [name]⟩
  have selected : TableRows.update (fun rule =>
      AppOverrideTable.isBundleAlias appKeyHash bundle rule &&
        !(table.rows.any fun existing => existing.appKeyHash == appKeyHash))
      (fun rule => { rule with appKeyHash := appKeyHash, updatedAt := timestamp now })
      table.rows = table.rows :=
    update_eq_self_iff.mpr fun row _ chosen => by simp [somebody] at chosen
  refine ⟨table.deleteAlias appKeyHash bundle, ?_, ?_⟩
  · rw [AppOverrideTable.foldAlias, AppOverrideTable.rekeyAlias, selected]
    obtain ⟨same, isSame, rows⟩ := AppOverrideTable.checked_of_apart table.apart
    rw [isSame]
    simp only [Except.map, AppOverrideTable.deleteAlias, rows]
  · have apart := (table.deleteAlias appKeyHash bundle).apart
    constructor
    · exact apart
    · rintro _ ⟨⟩ row member holds
      by_contra other
      have spared := (mem_filter.mp member).2
      rw [isBundleAlias_iff.mpr ⟨holds, other⟩] at spared
      cases spared
    · rw [AppOverrideTable.deleteAlias, filter_filter]
      apply filter_congr
      intro row _
      by_cases claimed : row.bundleKeyHash = some bundle <;>
        simp [isBystander, claimed, AppOverrideTable.isBundleAlias]
    · intro row rowIn rowName
      exact mem_filter.mpr ⟨rowIn, by simp [AppOverrideTable.isBundleAlias, rowName]⟩
    · intro row rowIn _
      exact .inl (mem_of_mem_filter rowIn)
    · intro untaught
      exact absurd name (untaught taught member)

theorem folded_of_call (table : AppOverrideTable) (appKeyHash : String)
    (bundleKeyHash : Option String) (now : Int) :
    ∃ folded, table.foldAlias appKeyHash bundleKeyHash now = .ok folded ∧
      Folded appKeyHash bundleKeyHash now table.rows folded.rows := by
  cases bundleKeyHash with
  | none =>
    refine ⟨table, rfl, table.apart, ?_, rfl, ?_, ?_, ?_⟩
    · rintro _ ⟨⟩
    · exact fun row member _ => member
    · exact fun row member _ => .inl member
    · rintro - _ ⟨⟩
  | some bundle =>
    by_cases taught : ∃ row ∈ table.rows, row.appKeyHash = appKeyHash
    · obtain ⟨row, member, name⟩ := taught
      exact folded_of_taught member name
    · push Not at taught
      exact folded_of_untaught taught

end Folding

section Converging

/-- `app_key_hash = ?1 OR bundle_key_hash = ?1`, as the engine reads the table. -/
def answersTo (key : String) (row : AppOverrideRow) : Bool :=
  row.appKeyHash == key || row.bundleKeyHash == some key

/-- One row answers for the keys of a call afterwards. -/
structure Converged (appKeyHash : String) (bundleKeyHash : Option String) (category : String)
    (before after : List AppOverrideRow) (rule : AppOverrideRow) : Prop where
  byName : (after.filter fun row => row.appKeyHash == appKeyHash) = [rule]
  byBundle : ∀ bundle ∈ bundleKeyHash,
    (after.filter fun row => row.bundleKeyHash == some bundle) = [rule]
  category_eq : rule.category = category
  bystanders : after.filter (isBystander appKeyHash bundleKeyHash) =
    before.filter (isBystander appKeyHash bundleKeyHash)
  /-- A key of one kind is none of the other: the two are hashed in domains of their own. -/
  answers : (∀ row ∈ before, row.bundleKeyHash ≠ some appKeyHash) →
    (∀ bundle ∈ bundleKeyHash, bundle ≠ appKeyHash ∧ ∀ row ∈ before, row.appKeyHash ≠ bundle) →
    after.filter (answersTo appKeyHash) = [rule] ∧
      ∀ bundle ∈ bundleKeyHash, after.filter (answersTo bundle) = [rule]

/-- The surviving row is a rule about the application if the call teaches one or a row that
answered before was one. -/
def Raised (appKeyHash : String) (bundleKeyHash : Option String) (appOnly : Bool)
    (before : List AppOverrideRow) (rule : AppOverrideRow) : Prop :=
  (appOnly = true ∨ ∃ row ∈ before, AnswersFor appKeyHash bundleKeyHash row ∧ row.appOnly = true) →
  rule.appOnly = true

/-- A rule about the application is given up: it stands under another name of the bundle, and the
rule under the name in use was only ever written beside a window's. -/
def DropsTaughtAlias (appKeyHash : String) (bundleKeyHash : Option String) (appOnly : Bool)
    (before : List AppOverrideRow) : Prop :=
  appOnly = false ∧
    (∃ row ∈ before, row.appKeyHash = appKeyHash ∧ row.appOnly = false) ∧
    ∃ bundle ∈ bundleKeyHash, ∃ row ∈ before,
      row.bundleKeyHash = some bundle ∧ row.appKeyHash ≠ appKeyHash ∧ row.appOnly = true

variable {appKeyHash : String} {bundleKeyHash : Option String} {category : String}
  {localActivityName : Option String} {appOnly : Bool} {now : Int}
  {before : List AppOverrideRow} {folded : AppOverrideTable}

variable (category localActivityName appOnly) in
theorem upsertRule_spec (fold : Folded appKeyHash bundleKeyHash now before folded.rows) :
    ∃ after, folded.upsertRule appKeyHash bundleKeyHash category localActivityName appOnly now =
      .ok after ∧ after.rows = TableRows.upsert (·.appKeyHash)
        (AppOverrideTable.freshRule appKeyHash bundleKeyHash category localActivityName appOnly now)
        (AppOverrideTable.restatedRule bundleKeyHash category localActivityName appOnly now)
        folded.rows := by
  apply AppOverrideTable.checked_of_apart
  by_cases present : ∃ row ∈ folded.rows, row.appKeyHash = appKeyHash
  · rw [upsert_of_present present]
    apply apart_map (fun row => row.appKeyHash = appKeyHash) fold.apart
    · intro row _ other
      exact if_neg other
    · intro row _ other otherIn name between
      have elsewhere : other.appKeyHash ≠ appKeyHash := name ▸ between.1.symm
      refine ⟨elsewhere, ?_⟩
      change Apart (if row.appKeyHash = appKeyHash then _ else _) other
      rw [if_pos name]
      refine ⟨between.1, ?_⟩
      intro bundle holds same
      cases given : bundleKeyHash with
      | none =>
        exact between.2 bundle (by simpa [AppOverrideTable.restatedRule, given] using holds) same
      | some claimed =>
        have claims : claimed = bundle := by
          simpa [AppOverrideTable.restatedRule, given] using holds
        exact elsewhere (fold.converged bundle (claims ▸ given) other otherIn same)
  · push Not at present
    rw [upsert_of_absent present, pairwise_append]
    refine ⟨fold.apart, pairwise_singleton _ _, ?_⟩
    intro row member fresh isFresh
    rw [mem_singleton.mp isFresh]
    refine ⟨present row member, ?_⟩
    intro bundle holds claimed
    exact present row member (fold.converged bundle claimed row member holds)

theorem exists_written {after : AppOverrideTable}
    (written : after.rows = TableRows.upsert (·.appKeyHash)
      (AppOverrideTable.freshRule appKeyHash bundleKeyHash category localActivityName appOnly now)
      (AppOverrideTable.restatedRule bundleKeyHash category localActivityName appOnly now)
      folded.rows) :
    ∃ rule ∈ after.rows, rule.appKeyHash = appKeyHash ∧ rule.category = category ∧
      (∀ bundle ∈ bundleKeyHash, rule.bundleKeyHash = some bundle) ∧
      ((rule.appOnly = appOnly ∧ ∀ row ∈ folded.rows, row.appKeyHash ≠ appKeyHash) ∨
        ∃ old ∈ folded.rows, old.appKeyHash = appKeyHash ∧
          rule.appOnly = (old.appOnly || appOnly)) := by
  by_cases present : ∃ row ∈ folded.rows, row.appKeyHash = appKeyHash
  · obtain ⟨old, oldIn, name⟩ := present
    refine ⟨AppOverrideTable.restatedRule bundleKeyHash category localActivityName appOnly now old,
      ?_, name, rfl, ?_, .inr ⟨old, oldIn, name, rfl⟩⟩
    · rw [written]
      exact mem_upsert.mpr (.inr (.inl ⟨old, oldIn, name, rfl⟩))
    · intro bundle given
      simp [AppOverrideTable.restatedRule, Option.mem_def.mp given]
  · push Not at present
    refine ⟨AppOverrideTable.freshRule appKeyHash bundleKeyHash category localActivityName appOnly
      now, ?_, rfl, rfl, fun _ given => given, .inl ⟨rfl, present⟩⟩
    rw [written]
    exact mem_upsert.mpr (.inr (.inr ⟨present, rfl⟩))

theorem bystanders_upsert (fold : Folded appKeyHash bundleKeyHash now before folded.rows) :
    (TableRows.upsert (·.appKeyHash)
      (AppOverrideTable.freshRule appKeyHash bundleKeyHash category localActivityName appOnly now)
      (AppOverrideTable.restatedRule bundleKeyHash category localActivityName appOnly now)
      folded.rows).filter (isBystander appKeyHash bundleKeyHash) =
    before.filter (isBystander appKeyHash bundleKeyHash) := by
  rw [← fold.bystanders]
  by_cases present : ∃ row ∈ folded.rows, row.appKeyHash = appKeyHash
  · rw [upsert_of_present present]
    apply filter_map_of_spared
    · intro row _ bystander
      apply if_neg
      intro name
      simp [isBystander, show row.appKeyHash = appKeyHash from name] at bystander
    · intro row _ concerned
      change isBystander _ _ (if row.appKeyHash = appKeyHash then _ else row) = false
      split
      · rename_i name
        simp [isBystander, AppOverrideTable.restatedRule, name]
      · exact concerned
  · push Not at present
    rw [upsert_of_absent present, filter_append]
    simp [isBystander, AppOverrideTable.freshRule]

/-- The rule that was written is the one its names converge on. -/
theorem converged_of_written {after : AppOverrideTable} {rule : AppOverrideRow}
    (member : rule ∈ after.rows) (name : rule.appKeyHash = appKeyHash)
    (claims : ∀ bundle ∈ bundleKeyHash, rule.bundleKeyHash = some bundle)
    (category_eq : rule.category = category)
    (bystanders : after.rows.filter (isBystander appKeyHash bundleKeyHash) =
      before.filter (isBystander appKeyHash bundleKeyHash)) :
    Converged appKeyHash bundleKeyHash category before after.rows rule := by
  have distinct : after.rows.Nodup := after.appKeys.of_map _
  have byName : ∀ row ∈ after.rows, row.appKeyHash = appKeyHash → row = rule :=
    fun row rowIn same => eq_of_appKey after.apart rowIn member (same.trans name.symm)
  have byBundle : ∀ bundle ∈ bundleKeyHash, ∀ row ∈ after.rows,
      row.bundleKeyHash = some bundle → row = rule :=
    fun bundle given row rowIn holds =>
      eq_of_bundleKey after.apart rowIn member holds (claims bundle given)
  have before_of_other : ∀ row ∈ after.rows, row ≠ rule → row ∈ before := by
    intro row rowIn other
    have bystander : isBystander appKeyHash bundleKeyHash row = true := by
      rw [← Bool.not_eq_false, ← answersFor_iff]
      rintro (same | ⟨bundle, given, holds⟩)
      · exact other (byName row rowIn same)
      · exact other (byBundle bundle given row rowIn holds)
    have kept := mem_filter.mpr ⟨rowIn, bystander⟩
    rw [bystanders] at kept
    exact mem_of_mem_filter kept
  constructor
  · exact filter_eq_singleton distinct member (by simpa using name)
      fun row rowIn same => byName row rowIn (by simpa using same)
  · intro bundle given
    exact filter_eq_singleton distinct member (by simpa using claims bundle given)
      fun row rowIn same => byBundle bundle given row rowIn (by simpa using same)
  · exact category_eq
  · exact bystanders
  · intro noBundle noName
    constructor
    · apply filter_eq_singleton distinct member (by simp [answersTo, name])
      intro row rowIn answered
      by_contra other
      rcases (Bool.or_eq_true _ _).mp answered with same | same
      · exact other (byName row rowIn (by simpa using same))
      · exact noBundle row (before_of_other row rowIn other) (by simpa using same)
    · intro bundle given
      apply filter_eq_singleton distinct member (by simp [answersTo, claims bundle given])
      intro row rowIn answered
      by_contra other
      rcases (Bool.or_eq_true _ _).mp answered with same | same
      · exact (noName bundle given).2 row (before_of_other row rowIn other) (by simpa using same)
      · exact other (byBundle bundle given row rowIn (by simpa using same))

/-- The flag survives unless the fold drops an alias that was taught. -/
theorem raised_iff (fold : Folded appKeyHash bundleKeyHash now before folded.rows)
    {rule : AppOverrideRow} (apart : before.Pairwise Apart)
    (flag : (rule.appOnly = appOnly ∧ ∀ row ∈ folded.rows, row.appKeyHash ≠ appKeyHash) ∨
      ∃ old ∈ folded.rows, old.appKeyHash = appKeyHash ∧ rule.appOnly = (old.appOnly || appOnly)) :
    Raised appKeyHash bundleKeyHash appOnly before rule ↔
      ¬ DropsTaughtAlias appKeyHash bundleKeyHash appOnly before := by
  constructor
  · rintro raised ⟨unraised, ⟨named, namedIn, name, own⟩, bundle, given, renamed, renamedIn, holds,
      -, taught⟩
    have flagged := raised (.inr ⟨renamed, renamedIn, .inr ⟨bundle, given, holds⟩, taught⟩)
    rcases flag with ⟨same, nobody⟩ | ⟨old, oldIn, oldName, same⟩
    · exact nobody named (fold.kept named namedIn name) name
    · have one : old = named := eq_of_appKey fold.apart oldIn (fold.kept named namedIn name)
        (oldName.trans name.symm)
      rw [same, one, own, unraised] at flagged
      cases flagged
  · intro keeps reason
    cases appOnly with
    | true => rcases flag with ⟨same, -⟩ | ⟨old, -, -, same⟩ <;> simp [same]
    | false =>
      obtain ⟨row, rowIn, answers, taught⟩ := reason.resolve_left (by simp)
      rcases flag with ⟨-, nobody⟩ | ⟨old, oldIn, oldName, same⟩
      · have untaught : ∀ other ∈ before, other.appKeyHash ≠ appKeyHash :=
          fun other otherIn name => nobody other (fold.kept other otherIn name) name
        rcases answers with name | ⟨bundle, given, holds⟩
        · exact absurd name (untaught row rowIn)
        · exact absurd rfl (nobody _ (fold.rekeyed untaught bundle given row rowIn holds))
      · rw [same, Bool.or_false]
        rcases fold.named old oldIn oldName with oldBefore | ⟨untaught, renamed, renamedIn,
          bundle, given, holds, rfl⟩
        · by_contra own
          have own : old.appOnly = false := by simpa using own
          rcases answers with name | ⟨bundle, given, holds⟩
          · rw [eq_of_appKey apart rowIn oldBefore (name.trans oldName.symm), own] at taught
            cases taught
          · apply keeps
            refine ⟨rfl, ⟨old, oldBefore, oldName, own⟩, bundle, given, row, rowIn, holds, ?_,
              taught⟩
            intro name
            rw [eq_of_appKey apart rowIn oldBefore (name.trans oldName.symm), own] at taught
            cases taught
        · rcases answers with name | ⟨other, otherGiven, otherHolds⟩
          · exact absurd name (untaught row rowIn)
          · have one : row = renamed := by
              rw [Option.mem_unique otherGiven given] at otherHolds
              exact eq_of_bundleKey apart rowIn renamedIn otherHolds holds
            exact one ▸ taught

theorem upsertAppScopeRule_spec (table : AppOverrideTable) (appKeyHash : String)
    (bundleKeyHash : Option String) (category : String) (localActivityName : Option String)
    (appOnly : Bool) (now : Int) :
    ∃ after rule, table.upsertAppScopeRule appKeyHash bundleKeyHash category localActivityName
        appOnly now = .ok after ∧
      Converged appKeyHash bundleKeyHash category table.rows after.rows rule ∧
      (Raised appKeyHash bundleKeyHash appOnly table.rows rule ↔
        ¬ DropsTaughtAlias appKeyHash bundleKeyHash appOnly table.rows) := by
  obtain ⟨folded, isFolded, fold⟩ := folded_of_call table appKeyHash bundleKeyHash now
  obtain ⟨after, isAfter, written⟩ := upsertRule_spec category localActivityName appOnly fold
  obtain ⟨rule, member, name, category_eq, claims, flag⟩ := exists_written written
  refine ⟨after, rule, ?_, ?_, raised_iff fold table.apart flag⟩
  · rw [AppOverrideTable.upsertAppScopeRule, isFolded]
    exact isAfter
  · apply converged_of_written member name claims category_eq
    rw [written, bystanders_upsert fold]

theorem not_converges_of_drops {table : AppOverrideTable}
    (drops : DropsTaughtAlias appKeyHash bundleKeyHash appOnly table.rows) :
    ¬ ∃ after rule, table.upsertAppScopeRule appKeyHash bundleKeyHash category localActivityName
        appOnly now = .ok after ∧
      Converged appKeyHash bundleKeyHash category table.rows after.rows rule ∧
      Raised appKeyHash bundleKeyHash appOnly table.rows rule := by
  obtain ⟨after, rule, isAfter, converged, raised⟩ := upsertAppScopeRule_spec table appKeyHash
    bundleKeyHash category localActivityName appOnly now
  rintro ⟨other, otherRule, isOther, otherConverged, otherRaised⟩
  obtain rfl : after = other := Except.ok.inj (isAfter.symm.trans isOther)
  obtain rfl : rule = otherRule := singleton_inj.mp
    (converged.byName.symm.trans otherConverged.byName)
  exact raised.mp otherRaised drops

/-- A call keeps everything it promises exactly where it gives no rule about the application
up. -/
theorem app_rule_converges_iff (table : AppOverrideTable) (appKeyHash : String)
    (bundleKeyHash : Option String) (category : String) (localActivityName : Option String)
    (appOnly : Bool) (now : Int) :
    (∃ after rule, table.upsertAppScopeRule appKeyHash bundleKeyHash category localActivityName
        appOnly now = .ok after ∧
      Converged appKeyHash bundleKeyHash category table.rows after.rows rule ∧
      Raised appKeyHash bundleKeyHash appOnly table.rows rule) ↔
    ¬ DropsTaughtAlias appKeyHash bundleKeyHash appOnly table.rows := by
  constructor
  · intro converges drops
    exact not_converges_of_drops drops converges
  · intro keeps
    obtain ⟨after, rule, isAfter, converged, raised⟩ := upsertAppScopeRule_spec table appKeyHash
      bundleKeyHash category localActivityName appOnly now
    exact ⟨after, rule, isAfter, converged, raised.mpr keeps⟩

/-- An application taught under one name and its bundle, and corrected in one window under its
later name while no bundle was reported. -/
def renamedApplication : AppOverrideTable where
  rows :=
    [{ appKeyHash := "1a1a1a1a1a1a1a1a1a1a1a1a1a1a1a1a1a1a1a1a1a1a1a1a1a1a1a1a1a1a1a1a"
       bundleKeyHash := some "1919191919191919191919191919191919191919191919191919191919191919"
       category := "FOCUS_WORK"
       activityName := some "Editing"
       appOnly := true
       correctionCount := 1
       updatedAt := 0 },
      { appKeyHash := "1b1b1b1b1b1b1b1b1b1b1b1b1b1b1b1b1b1b1b1b1b1b1b1b1b1b1b1b1b1b1b1b"
        bundleKeyHash := none
        category := "REFERENCE"
        activityName := none
        appOnly := false
        correctionCount := 1
        updatedAt := 60 }]
  appKeys := by decide
  bundleKeys := by decide

/-- The next correction of a window drops the rule that was taught about the application. -/
theorem taught_alias_is_dropped :
    ¬ ∃ after rule, renamedApplication.upsertAppScopeRule
        "1b1b1b1b1b1b1b1b1b1b1b1b1b1b1b1b1b1b1b1b1b1b1b1b1b1b1b1b1b1b1b1b"
        (some "1919191919191919191919191919191919191919191919191919191919191919")
        "FOCUS_WORK" none false 120000000000 = .ok after ∧
      Converged "1b1b1b1b1b1b1b1b1b1b1b1b1b1b1b1b1b1b1b1b1b1b1b1b1b1b1b1b1b1b1b1b"
        (some "1919191919191919191919191919191919191919191919191919191919191919")
        "FOCUS_WORK" renamedApplication.rows after.rows rule ∧
      Raised "1b1b1b1b1b1b1b1b1b1b1b1b1b1b1b1b1b1b1b1b1b1b1b1b1b1b1b1b1b1b1b1b"
        (some "1919191919191919191919191919191919191919191919191919191919191919")
        false renamedApplication.rows rule := by
  apply not_converges_of_drops
  unfold DropsTaughtAlias
  decide

end Converging

end Velvt.Rules
