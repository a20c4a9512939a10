import Velvt.HiddenStates

/-!
# Forward, backward and best paths

The normalisers of the forward pass multiply up to the weight of all paths, and with those that
follow a time they turn `beta` into the weight of all that can follow.
-/

namespace Velvt.Hmm

open Trellis List

section Passes

variable (model : StickyHmm)

/-- A forward pass that has gone through. -/
inductive Passes : (State → ℝ) → List (State → ℝ) → List ForwardStep → Prop
  | nil (arriving : State → ℝ) : Passes arriving [] []
  | cons {arriving emission alpha : State → ℝ} {scale : ℝ} {later : List (State → ℝ)}
      {steps : List ForwardStep} (positive : 0 < scale)
      (total : ∑ state, arriving state * emission state = scale)
      (normal : ∀ state, arriving state * emission state = scale * alpha state)
      (rest : Passes (model.carry alpha) later steps) :
      Passes arriving (emission :: later) ({ emission, alpha, scale } :: steps)

variable {model} {arriving : State → ℝ} {rows : List (State → ℝ)} {steps : List ForwardStep}

theorem passes_of_forward (through : forward model arriving rows = some steps) :
    Passes model arriving rows steps := by
  induction rows generalizing arriving steps with
  | nil =>
    rw [forward, Option.some.injEq] at through
    exact through ▸ Passes.nil arriving
  | cons emission later ih =>
    rw [forward] at through
    split at through
    case isTrue refused => cases through
    case isFalse positive =>
      obtain ⟨rest, restThrough, rfl⟩ := Option.map_eq_some_iff.mp through
      rw [not_le] at positive
      refine Passes.cons positive rfl (fun state => ?_) (ih restThrough)
      rw [mul_div_cancel₀ _ positive.ne']

theorem forward_isSome (positive : ∀ state next, 0 < model.transition state next)
    (arrives : ∀ state, 0 < arriving state) (emits : ∀ row ∈ rows, ∀ state, 0 < row state) :
    ∃ steps, forward model arriving rows = some steps := by
  induction rows generalizing arriving with
  | nil => exact ⟨[], rfl⟩
  | cons emission later ih =>
    rw [forall_mem_cons] at emits
    have products : ∀ state, 0 < arriving state * emission state := fun state =>
      mul_pos (arrives state) (emits.1 state)
    have scale : 0 < ∑ state, arriving state * emission state :=
      Finset.sum_pos (fun state _ => products state) Finset.univ_nonempty
    have carried : ∀ state, 0 < model.carry (fun state => arriving state * emission state /
        ∑ state, arriving state * emission state) state := by
      intro state
      exact Finset.sum_pos (fun previous _ =>
        mul_pos (div_pos (products previous) scale) (positive previous state))
        Finset.univ_nonempty
    obtain ⟨steps, through⟩ := ih carried emits.2
    rw [forward, if_neg (not_le.mpr scale)]
    exact ⟨_, congrArg (Option.map _) through⟩

def scales (steps : List ForwardStep) : ℝ :=
  (steps.map ForwardStep.scale).prod

theorem scales_cons (first : ForwardStep) (steps : List ForwardStep) :
    scales (first :: steps) = first.scale * scales steps := by
  rw [scales, map_cons, prod_cons, scales]

theorem Passes.scales_pos (passes : Passes model arriving rows steps) : 0 < scales steps := by
  induction passes with
  | nil => simp [scales]
  | cons positive _ _ _ ih =>
    rw [scales_cons]
    exact mul_pos positive ih

theorem expected_carry {emission alpha : State → ℝ} {scale : ℝ} {later : List (State → ℝ)}
    (total : ∑ state, arriving state * emission state = scale)
    (normal : ∀ state, arriving state * emission state = scale * alpha state) (f : List State → ℝ) :
    (expected model.transition arriving (emission :: later) fun path => f path.tail) =
      scale * expected model.transition (model.carry alpha) later f := by
  by_cases more : later = []
  · subst more
    simp only [expected_cons, expected_nil, tail_cons, ← Finset.sum_mul, total]
  · have carried : (fun next => ∑ state,
        arriving state * emission state * model.transition state next) =
        fun next => scale * model.carry alpha next := by
      ext next
      rw [StickyHmm.carry, Finset.mul_sum]
      apply Finset.sum_congr rfl
      intro state _
      rw [normal, mul_assoc]
    rw [expected_tail _ _ _ more, carried, expected_scaled _ _ _ more]

theorem Passes.total_eq (passes : Passes model arriving rows steps) :
    expected model.transition arriving rows (fun _ => 1) = scales steps := by
  induction passes with
  | nil => simp [scales]
  | @cons arriving emission alpha scale later steps _ total normal _ ih =>
    rw [scales_cons, ← ih]
    exact expected_carry total normal fun _ => 1

theorem Passes.backward_eq (passes : Passes model arriving rows steps) (state : State) :
    (backward model steps).1 state * scales steps =
      expected model.transition (model.transition state) rows fun _ => 1 := by
  induction passes generalizing state with
  | nil => simp [backward, scales]
  | @cons arriving emission alpha scale later steps positive _ _ _ ih =>
    rw [scales_cons, expected_cons]
    simp only [← ih, backward]
    rw [Finset.sum_div, Finset.sum_mul]
    apply Finset.sum_congr rfl
    intro following _
    field_simp

theorem backward_snd (steps : List ForwardStep) : (backward model steps).2 = betas model steps := by
  cases steps with
  | nil => rfl
  | cons step steps => rfl

/-- Up to the scales, a product of the passes weighs the paths that are in the state then. -/
theorem Passes.products_eq (passes : Passes model arriving rows steps) {time : Nat}
    {product : State → ℝ} (found : (products model steps)[time]? = some product) (state : State) :
    product state * scales steps =
      expected model.transition arriving rows fun path => (visits time state path : ℝ) := by
  induction passes generalizing time with
  | nil => cases found
  | @cons arriving emission alpha scale later steps positive total normal rest ih =>
    rw [scales_cons]
    cases time with
    | zero =>
      have product : product = fun state => alpha state * (backward model steps).1 state := by
        simpa [products, betas, eq_comm] using found
      rw [expected_cons, product]
      have first : ∀ other, (expected model.transition (model.transition other) later
          fun path => (visits 0 state (other :: path) : ℝ)) =
          if other = state then
            expected model.transition (model.transition other) later fun _ => 1 else 0 := by
        intro other
        by_cases same : other = state
        · simp [visits, same]
        · simp [visits, same, expected_zero]
      simp only [first, mul_ite, mul_zero, Finset.sum_ite_eq', Finset.mem_univ, if_true]
      rw [normal, ← rest.backward_eq]
      ring
    | succ time =>
      have found : (products model steps)[time]? = some product := by
        rw [products, betas, zipWith_cons_cons, List.getElem?_cons_succ, backward_snd] at found
        exact found
      have visits_tail : (fun path : List State => (visits (time + 1) state path : ℝ)) =
          fun path => (visits time state path.tail : ℝ) := by
        ext path
        cases path <;> rfl
      rw [visits_tail, expected_carry total normal fun path => (visits time state path : ℝ),
        ← ih found]
      ring

theorem xiSum_cons (first next : ForwardStep) (later : List ForwardStep) (state following : State) :
    xiSum model (first :: next :: later) state following =
      first.alpha state * model.transition state following * next.emission following *
        (backward model later).1 following / next.scale +
      xiSum model (next :: later) state following := by
  rfl

theorem expected_steps_cons {emission alpha : State → ℝ} {scale : ℝ} {later : List (State → ℝ)}
    (total : ∑ state, arriving state * emission state = scale)
    (normal : ∀ state, arriving state * emission state = scale * alpha state) (state next : State) :
    (expected model.transition arriving (emission :: later) fun path =>
        (Trellis.steps state next path : ℝ)) =
      scale * (alpha state * (expected model.transition (model.transition state) later fun path =>
          if path.head? = some next then (1 : ℝ) else 0) +
        expected model.transition (model.carry alpha) later fun path =>
          (Trellis.steps state next path : ℝ)) := by
  have apart : (fun path : List State => (Trellis.steps state next path : ℝ)) = fun path =>
      (if path.head? = some state ∧ path.tail.head? = some next then (1 : ℝ) else 0) +
        (Trellis.steps state next path.tail : ℝ) := by
    ext path
    cases path with
    | nil => simp [Trellis.steps]
    | cons first path => simp [Trellis.steps]
  conv_lhs => rw [apart]
  rw [expected_add, expected_carry total normal fun path =>
    (Trellis.steps state next path : ℝ), mul_add, ← mul_assoc, ← normal, expected_cons]
  congr 1
  have first : ∀ other, (expected model.transition (model.transition other) later fun path =>
      if (other :: path).head? = some state ∧ (other :: path).tail.head? = some next then (1 : ℝ)
      else 0) =
      if other = state then
        expected model.transition (model.transition other) later fun path =>
          if path.head? = some next then (1 : ℝ) else 0
      else 0 := by
    intro other
    by_cases same : other = state
    · simp [same]
    · simp [same, expected_zero]
  simp only [first, mul_ite, mul_zero, Finset.sum_ite_eq', Finset.mem_univ, if_true]

/-- Up to the scales, the sum over time expects the steps of a path from one state to the other. -/
theorem Passes.xiSum_eq (passes : Passes model arriving rows steps) (state next : State) :
    xiSum model steps state next * scales steps =
      expected model.transition arriving rows fun path => (Trellis.steps state next path : ℝ) := by
  induction passes with
  | nil => simp [xiSum, Trellis.steps]
  | @cons arriving emission alpha scale later steps positive total normal rest ih =>
    rw [expected_steps_cons total normal, ← ih, scales_cons]
    cases rest with
    | nil => simp [xiSum, betas, backward]
    | @cons _ nextEmission nextAlpha nextScale later steps nextPositive _ _ rest =>
      have reached : (expected model.transition (model.transition state)
          (nextEmission :: later) fun path =>
            if path.head? = some next then (1 : ℝ) else 0) =
          model.transition state next * nextEmission next *
            expected model.transition (model.transition next) later fun _ => 1 := by
        rw [expected_cons]
        simp only [List.head?_cons, Option.some.injEq]
        rw [Finset.sum_eq_single next]
        · simp
        · intro other _ differs
          simp [differs, expected_zero]
        · simp
      rw [xiSum_cons, reached, ← rest.backward_eq, scales_cons]
      field_simp

theorem Passes.products_length (passes : Passes model arriving rows steps) :
    (products model steps).length = rows.length := by
  induction passes with
  | nil => rfl
  | @cons _ _ _ _ _ steps _ _ _ _ ih =>
    rw [products, betas, zipWith_cons_cons, length_cons, length_cons, backward_snd, ← products, ih]

theorem Passes.sum_product (passes : Passes model arriving rows steps)
    {product : State → ℝ} (member : product ∈ products model steps) :
    ∑ state, product state = 1 := by
  obtain ⟨time, found⟩ := mem_iff_getElem?.mp member
  have within : time < rows.length :=
    passes.products_length ▸ (List.getElem?_eq_some_iff.mp found).1
  apply mul_right_cancel₀ passes.scales_pos.ne'
  rw [one_mul, Finset.sum_mul]
  conv_rhs => rw [← passes.total_eq]
  simp only [passes.products_eq found]
  rw [← expected_sum]
  apply expected_congr
  intro path length
  exact mod_cast sum_visits (length ▸ within)

theorem mapM_normalise {weights : List (State → ℝ)}
    (normal : ∀ row ∈ weights, ∑ state, row state = 1) :
    weights.mapM normalise = some weights := by
  induction weights with
  | nil => rfl
  | cons row weights ih =>
    rw [forall_mem_cons] at normal
    have same : normalise row = some row := by
      simp [normalise, normal.1]
    rw [mapM_cons, same, ih normal.2]
    rfl

theorem Passes.log_scales (passes : Passes model arriving rows steps) {offsets : List ℝ}
    (sameLength : offsets.length = rows.length) :
    (List.zipWith (fun step offset => Real.log (ForwardStep.scale step) + offset) steps
        offsets).sum =
      Real.log (scales steps) + offsets.sum := by
  induction passes generalizing offsets with
  | nil => simp [scales, length_eq_zero_iff.mp sameLength]
  | @cons _ _ _ _ _ steps positive _ _ rest ih =>
    obtain ⟨offset, offsets, rfl⟩ := exists_cons_of_length_eq_add_one sameLength
    rw [zipWith_cons_cons, sum_cons, ih (Nat.succ.inj sameLength), scales_cons,
      sum_cons, Real.log_mul positive.ne' rest.scales_pos.ne']
    ring

end Passes

section Expectations

variable {model : StickyHmm} {Observation : Type*} {logEmission : State → Observation → ℝ}
  {runs : List Observation} {offsets : List ℝ} {steps : List ForwardStep}

noncomputable def rescaled (logEmission : State → Observation → ℝ) (offsets : List ℝ)
    (runs : List Observation) : List (State → ℝ) :=
  List.zipWith (fun factor row state => factor * row state)
    (offsets.map fun offset => Real.exp (-offset)) (emissions logEmission runs)

theorem rescaled_eq (offsets : List ℝ) (runs : List Observation) :
    List.zipWith (fun offset (values : State → ℝ) state => Real.exp (values state - offset))
        offsets (runs.map fun run state => logEmission state run) =
      rescaled logEmission offsets runs := by
  rw [rescaled, emissions, zipWith_map_left, zipWith_map_right, zipWith_map_right]
  congr 1
  ext offset run state
  rw [← Real.exp_add]
  ring_nf

theorem rescaled_length (logEmission : State → Observation → ℝ)
    (sameLength : offsets.length = runs.length) :
    (rescaled logEmission offsets runs).length = runs.length := by
  simp [rescaled, emissions, sameLength]

theorem rescaled_pos {row : State → ℝ} (member : row ∈ rescaled logEmission offsets runs)
    (state : State) : 0 < row state := by
  rw [rescaled, emissions, zipWith_map_left, zipWith_map_right] at member
  obtain ⟨time, within, rfl⟩ := mem_iff_getElem.mp member
  rw [getElem_zipWith]
  exact mul_pos (Real.exp_pos _) (Real.exp_pos _)

theorem prod_exp_neg (offsets : List ℝ) :
    (offsets.map fun offset => Real.exp (-offset)).prod = Real.exp (-offsets.sum) := by
  induction offsets with
  | nil => simp
  | cons offset offsets ih =>
    rw [map_cons, prod_cons, ih, sum_cons, ← Real.exp_add, neg_add]

theorem expected_emissions (f : List State → ℝ) :
    expected model.transition model.initial (emissions logEmission runs) f =
      ∑ path ∈ paths runs.length, jointWeight model logEmission runs path * f path := by
  rw [expected, emissions, length_map]
  rfl

theorem expected_rescaled (sameLength : offsets.length = runs.length) (f : List State → ℝ) :
    expected model.transition model.initial (rescaled logEmission offsets runs) f =
      Real.exp (-offsets.sum) *
        ∑ path ∈ paths runs.length, jointWeight model logEmission runs path * f path := by
  rw [rescaled, expected_rowsScaled _ _ _ _ (by simpa [emissions] using sameLength), prod_exp_neg,
    expected_emissions]

theorem Passes.scales_rescaled (sameLength : offsets.length = runs.length)
    (passes : Passes model model.initial (rescaled logEmission offsets runs) steps) :
    scales steps = Real.exp (-offsets.sum) * totalWeight model logEmission runs := by
  rw [← passes.total_eq, expected_rescaled sameLength, totalWeight]
  simp only [mul_one]

/-- What the scaled passes find is a share of the weight of all paths. -/
theorem Passes.share (sameLength : offsets.length = runs.length)
    (passes : Passes model model.initial (rescaled logEmission offsets runs) steps)
    {value : ℝ} {f : List State → ℝ} (found : value * scales steps =
      expected model.transition model.initial (rescaled logEmission offsets runs) f) :
    value = (∑ path ∈ paths runs.length, jointWeight model logEmission runs path * f path) /
      totalWeight model logEmission runs := by
  have positive := passes.scales_pos
  rw [expected_rescaled sameLength] at found
  rw [passes.scales_rescaled sameLength] at found positive
  have factor := (Real.exp_pos (-offsets.sum)).ne'
  have weight : totalWeight model logEmission runs ≠ 0 := by
    intro none
    simp [none] at positive
  rw [eq_div_iff weight]
  apply mul_left_cancel₀ factor
  rw [← found]
  ring

/-- Passes that go through find what all paths together say, whatever the offsets. -/
theorem expectScaled_exact (sameLength : offsets.length = runs.length) {expectation : Expectation}
    (through : expectScaled model offsets (runs.map fun run state => logEmission state run) =
      some expectation) :
    expectation.IsExact model logEmission runs ∧ 0 < totalWeight model logEmission runs := by
  simp only [expectScaled, rescaled_eq, Option.bind_eq_bind, Option.bind_eq_some_iff,
    Option.some.injEq] at through
  obtain ⟨_, _, steps, forward, gamma, normal, rfl⟩ := through
  have passes := passes_of_forward forward
  have products : products model steps = gamma := by
    rw [mapM_normalise fun row member => passes.sum_product member] at normal
    exact Option.some.inj normal
  have scales := passes.scales_rescaled sameLength
  have weight : 0 < totalWeight model logEmission runs :=
    pos_of_mul_pos_right (scales ▸ passes.scales_pos) (Real.exp_pos _).le
  refine ⟨⟨?_, ?_, ?_, ?_⟩, weight⟩
  · rw [passes.log_scales (sameLength.trans (rescaled_length logEmission sameLength).symm), scales,
      Real.log_mul (Real.exp_pos _).ne' weight.ne', Real.log_exp]
    ring
  · rw [← products, passes.products_length, rescaled_length logEmission sameLength]
  · intro time row found state
    rw [← products] at found
    rw [passes.share sameLength (passes.products_eq found state), Finset.sum_filter]
    congr 1
    apply Finset.sum_congr rfl
    intro path _
    simp [visits]
  · intro state next
    exact passes.share sameLength (passes.xiSum_eq state next)

theorem expectScaled_isSome (logEmission : State → Observation → ℝ)
    (positive : model.HasPositiveRows) (sameLength : offsets.length = runs.length)
    (some_run : runs ≠ []) :
    ∃ expectation, expectScaled model offsets (runs.map fun run state => logEmission state run) =
      some expectation := by
  have emits : ∀ row ∈ rescaled logEmission offsets runs, ∀ state, 0 < row state :=
    fun row member => rescaled_pos member
  obtain ⟨steps, through⟩ := forward_isSome positive.transition positive.initial emits
  have passes := passes_of_forward through
  have kept : rescaled logEmission offsets runs ≠ [] := by
    intro none
    have length := rescaled_length logEmission sameLength
    rw [none] at length
    exact some_run (length_eq_zero_iff.mp length.symm)
  simp only [expectScaled, rescaled_eq, guard, kept, ne_eq, not_false_eq_true, if_true, through,
    mapM_normalise fun row member => passes.sum_product member, Option.bind_eq_bind,
    Option.bind_some, Option.pure_def]
  exact ⟨_, rfl⟩

theorem peaks_length (logEmission : State → Observation → ℝ) (runs : List Observation) :
    (runs.map fun run => peak fun state => logEmission state run).length = runs.length :=
  length_map _

theorem expect_eq (logEmission : State → Observation → ℝ) (runs : List Observation) :
    expect model logEmission runs =
      expectScaled model (runs.map fun run => peak fun state => logEmission state run)
        (runs.map fun run state => logEmission state run) := by
  rw [expect, map_map]
  rfl

theorem expect_isSome (logEmission : State → Observation → ℝ) (positive : model.HasPositiveRows)
    (some_run : runs ≠ []) :
    ∃ expectation, expect model logEmission runs = some expectation := by
  rw [expect_eq]
  exact expectScaled_isSome logEmission positive (peaks_length logEmission runs) some_run

theorem expect_exact {expectation : Expectation}
    (through : expect model logEmission runs = some expectation) :
    expectation.IsExact model logEmission runs ∧ 0 < totalWeight model logEmission runs := by
  rw [expect_eq] at through
  exact expectScaled_exact (peaks_length logEmission runs) through

theorem Expectation.IsExact.unique {first second : Expectation}
    (exact : first.IsExact model logEmission runs)
    (other : second.IsExact model logEmission runs) : first = second := by
  have gamma : first.gamma = second.gamma := by
    apply ext_getElem (exact.gamma_length.trans other.gamma_length.symm)
    intro time within within'
    ext state
    rw [exact.gamma time _ (List.getElem?_eq_getElem within),
      other.gamma time _ (List.getElem?_eq_getElem within')]
  have xiSum : first.xiSum = second.xiSum := by
    ext state next
    rw [exact.xiSum, other.xiSum]
  have logLikelihood := exact.logLikelihood.trans other.logLikelihood.symm
  cases first
  cases second
  simp_all

end Expectations

section BestPaths

theorem le_argmax (values : State → ℝ) (state : State) : values state ≤ values (argmax values) := by
  simp only [argmax, foldl_cons, foldl_nil]
  fin_cases state <;> split_ifs <;> simp_all <;> linarith

theorem viterbiFrom_isHeaviest (logTransition : State → State → ℝ) (arriving row : State → ℝ)
    (later : List (State → ℝ)) :
    IsHeaviest logTransition arriving (row :: later)
      ((viterbiFrom logTransition arriving row later).1 ::
        (viterbiFrom logTransition arriving row later).2) := by
  induction later generalizing arriving row with
  | nil =>
    exact isHeaviest_single fun state =>
      le_argmax (fun state => arriving state + row state) state
  | cons next later ih =>
    exact IsHeaviest.cons (fun _ => rfl) (fun state previous => le_argmax
      (fun previous => arriving previous + row previous + logTransition previous state) previous)
      (cons_ne_nil _ _) (ih _ next)

theorem joint_exp (logTransition : State → State → ℝ) (arriving : State → ℝ)
    (rows : List (State → ℝ)) (path : List State) :
    joint (fun state next => Real.exp (logTransition state next))
        (fun state => Real.exp (arriving state))
        (rows.map fun row state => Real.exp (row state)) path =
      Real.exp (tally logTransition arriving rows path) := by
  induction rows generalizing arriving path with
  | nil => simp
  | cons row rows ih =>
    cases path with
    | nil => simp [joint, tally]
    | cons state path =>
      rw [map_cons, joint_cons, ih, tally_cons, Real.exp_add, Real.exp_add]

variable (model : StickyHmm) {Observation : Type*} (logEmission : State → Observation → ℝ)
  (runs : List Observation)

theorem minPositive_pos : 0 < minPositive := by
  unfold minPositive
  positivity

theorem jointWeight_floored (path : List State) : jointWeight model.floored logEmission runs path =
      Real.exp (tally
        (fun previous state => Real.log (max (model.transition previous state) minPositive))
        (fun state => Real.log (max (model.initial state) minPositive))
        (runs.map fun run state => logEmission state run) path) := by
  rw [← joint_exp, map_map]
  have raised : ∀ value : ℝ, Real.exp (Real.log (max value minPositive)) =
      max value minPositive := fun value =>
    Real.exp_log (lt_max_of_lt_right minPositive_pos)
  simp only [raised]
  rfl

theorem viterbi_isOptimal :
    IsOptimal model.floored logEmission runs (viterbi model logEmission runs) := by
  cases runs with
  | nil => exact ⟨rfl, fun other empty => by rw [length_eq_zero_iff.mp empty]; rfl⟩
  | cons first later =>
    have heaviest := viterbiFrom_isHeaviest
      (fun previous state => Real.log (max (model.transition previous state) minPositive))
      (fun state => Real.log (max (model.initial state) minPositive))
      (fun state => logEmission state first) (later.map fun run state => logEmission state run)
    constructor
    · simpa [viterbi] using heaviest.length
    · intro other sameLength
      rw [jointWeight_floored, jointWeight_floored, Real.exp_le_exp]
      exact heaviest.heaviest other (by simpa using sameLength)

theorem floored_eq (initial : ∀ state, minPositive ≤ model.initial state)
    (transition : ∀ state next, minPositive ≤ model.transition state next) :
    model.floored = model := by
  simp only [StickyHmm.floored, max_eq_left (initial _), max_eq_left (transition _ _)]

/-- Over at least one run, `expect` finds what all paths together say, with its own offsets or any
others; and `viterbi` finds a path of the largest weight, where smaller entries of the first and
the next states count as the smallest positive number. -/
theorem expect_viterbi_exact :
    (model.HasPositiveRows → runs ≠ [] →
      ∃ expectation, expect model logEmission runs = some expectation ∧
        expectation.IsExact model logEmission runs ∧
        ∀ offsets : List ℝ, offsets.length = runs.length →
          expectScaled model offsets (runs.map fun run state => logEmission state run) =
            some expectation) ∧
      IsOptimal model.floored logEmission runs (viterbi model logEmission runs) ∧
      ((∀ state, minPositive ≤ model.initial state) →
        (∀ state next, minPositive ≤ model.transition state next) →
          IsOptimal model logEmission runs (viterbi model logEmission runs)) := by
  refine ⟨fun positive some_run => ?_, viterbi_isOptimal model logEmission runs, ?_⟩
  · obtain ⟨expectation, through⟩ := expect_isSome logEmission positive some_run
    have exact := (expect_exact through).1
    refine ⟨expectation, through, exact, ?_⟩
    intro offsets sameLength
    obtain ⟨other, otherThrough⟩ := expectScaled_isSome logEmission positive sameLength some_run
    rw [otherThrough, (expectScaled_exact sameLength otherThrough).1.unique exact]
  · intro initial transition
    have optimal := viterbi_isOptimal model logEmission runs
    rwa [floored_eq model initial transition] at optimal

theorem minPositive_le_eighth : minPositive ≤ 1 / 8 := by
  have cube : ((1 : ℝ) / 2) ^ 1022 ≤ (1 / 2) ^ 3 :=
    pow_le_pow_of_le_one (by norm_num) (by norm_num) (by norm_num)
  exact cube.trans_eq (by norm_num)

/-- Short, middling and long dwells, and any state may follow any other. -/
noncomputable def restless : StickyHmm where
  initial _ := 1 / 3
  transition _ _ := 1 / 3
  category _ _ := 1 / 8
  logDwellMean state := state.val
  logDwellVariance _ := 1

/-- A short and a long dwell. -/
theorem restless_expect_viterbi_exact :
    let runs : List Run := [⟨0, 0⟩, ⟨1, 2⟩]
    (∃ expectation, expect restless restless.logEmission runs = some expectation ∧
      expectation.IsExact restless restless.logEmission runs) ∧
      IsOptimal restless restless.logEmission runs
        (viterbi restless restless.logEmission runs) := by
  intro runs
  have third : minPositive ≤ 1 / 3 := minPositive_le_eighth.trans (by norm_num)
  have positive : restless.HasPositiveRows :=
    ⟨fun _ => by norm_num [restless], fun _ _ => by norm_num [restless]⟩
  obtain ⟨exact, -, optimal⟩ := expect_viterbi_exact restless restless.logEmission runs
  obtain ⟨expectation, through, isExact, -⟩ := exact positive (cons_ne_nil _ _)
  exact ⟨⟨expectation, through, isExact⟩, optimal (fun _ => third) (fun _ _ => third)⟩

/-- Two of its first states are less likely than the smallest positive number. -/
noncomputable def rarelyStarting : StickyHmm where
  initial
    | 0 => minPositive / 4
    | 1 => minPositive / 2
    | 2 => 1 - 3 * minPositive / 4
  transition _ _ := 1 / 3
  category _ _ := 1 / 8
  logDwellMean _ := 0
  logDwellVariance _ := 1

noncomputable def hardlyThird (state : State) (_ : Unit) : ℝ :=
  if state = 2 then Real.log (minPositive / 8) else 0

theorem rarelyStarting_positive : rarelyStarting.HasPositiveRows where
  initial state := by
    have positive := minPositive_pos
    have small := minPositive_le_eighth
    fin_cases state <;> simp only [rarelyStarting] <;> linarith
  transition _ _ := by
    simp only [rarelyStarting]
    norm_num

theorem viterbi_rarelyStarting : viterbi rarelyStarting hardlyThird [()] = [0] := by
  have positive := minPositive_pos
  have small := minPositive_le_eighth
  have first : max (rarelyStarting.initial 0) minPositive = minPositive :=
    max_eq_right (by simp only [rarelyStarting]; linarith)
  have second : max (rarelyStarting.initial 1) minPositive = minPositive :=
    max_eq_right (by simp only [rarelyStarting]; linarith)
  have third : Real.log (max (rarelyStarting.initial 2) minPositive) +
      Real.log (minPositive / 8) ≤ Real.log minPositive := by
    have likely : Real.log (max (rarelyStarting.initial 2) minPositive) ≤ 0 :=
      Real.log_nonpos (le_max_of_le_right positive.le)
        (max_le (by simp only [rarelyStarting]; linarith) (by linarith))
    have unlikely : Real.log (minPositive / 8) ≤ Real.log minPositive :=
      Real.log_le_log (by linarith) (by linarith)
    linarith
  simp [viterbi, viterbiFrom, argmax, hardlyThird, first, second, not_lt.mpr third]

/-- The floors make a start look better than it is, and without runs there is no expectation. -/
theorem viterbi_misses_rare_start :
    rarelyStarting.HasPositiveRows ∧ ¬ IsOptimal rarelyStarting hardlyThird [()]
      (viterbi rarelyStarting hardlyThird [()]) ∧
      expect rarelyStarting hardlyThird [] = none := by
  refine ⟨rarelyStarting_positive, ?_, ?_⟩
  · intro optimal
    have second := optimal.2 [1] rfl
    have positive := minPositive_pos
    rw [viterbi_rarelyStarting] at second
    simp [jointWeight, emissions, rarelyStarting, hardlyThird] at second
    linarith
  · simp [expect, expectScaled, guard]

end BestPaths

end Velvt.Hmm
