import Mathlib.Data.List.Induction

/-!
Contract: finite runs of a deterministic step function over labels that an
environment chooses.

Owns: the state after a label sequence, the side condition that every label
was admitted in the state it was taken in, the invariant rule, the rule for
invariants that also speak about the past, how many steps were of a given
kind, and the records that some earlier step was of a given kind and that a
property has held since.

Does not own: any particular state, label, or step function.
-/

namespace AimServer.Lib

universe u v

variable {σ : Type u} {ι : Type v}

/-- The state after taking `labels` in order. -/
def run (step : σ → ι → σ) (start : σ) (labels : List ι) : σ :=
  labels.foldl step start

/-- Every label of the run is admitted by the state it is taken in. -/
def AllSteps (step : σ → ι → σ) (admits : σ → ι → Prop) : σ → List ι → Prop
  | _, [] => True
  | state, label :: rest =>
      admits state label ∧ AllSteps step admits (step state label) rest

/-- Some step of the run was taken in a state and with a label of kind `event`. -/
def Occurs (step : σ → ι → σ) (event : σ → ι → Prop) (start : σ) (labels : List ι) : Prop :=
  ∃ past label rest, labels = past ++ label :: rest ∧ event (run step start past) label

/-- Some step of the run was of kind `event`, and every state after it, the
last one included, satisfies `holds`. -/
def Since (step : σ → ι → σ) (event : σ → ι → Prop) (holds : σ → Prop) (start : σ)
    (labels : List ι) : Prop :=
  ∃ past label rest, labels = past ++ label :: rest ∧ event (run step start past) label ∧
    ∀ between after, rest = between ++ after → holds (run step start (past ++ label :: between))

/-- How many steps of the run were of kind `event`. -/
def countSteps (step : σ → ι → σ) (event : σ → ι → Bool) : σ → List ι → Nat
  | _, [] => 0
  | state, label :: rest =>
      (if event state label then 1 else 0) + countSteps step event (step state label) rest

section Run

variable {step : σ → ι → σ} {start : σ}

@[simp] theorem run_nil : run step start [] = start := rfl

@[simp] theorem run_cons (label : ι) (rest : List ι) :
    run step start (label :: rest) = run step (step start label) rest := rfl

@[simp] theorem run_append (first second : List ι) :
    run step start (first ++ second) = run step (run step start first) second := by
  simp [run, List.foldl_append]

end Run

section Admitted

variable {step : σ → ι → σ} {admits : σ → ι → Prop} {start : σ}

@[simp] theorem allSteps_append (first second : List ι) :
    AllSteps step admits start (first ++ second) ↔
      AllSteps step admits start first ∧
        AllSteps step admits (run step start first) second := by
  induction first generalizing start with
  | nil => simp [AllSteps]
  | cons label rest inductionHypothesis =>
      simp only [List.cons_append, AllSteps, run_cons, inductionHypothesis, and_assoc]

/-- A run on concrete labels can be checked by evaluation. -/
instance AllSteps.decidable [∀ state label, Decidable (admits state label)] :
    ∀ (start : σ) (labels : List ι), Decidable (AllSteps step admits start labels)
  | _, [] => isTrue trivial
  | start, label :: rest =>
      have := AllSteps.decidable (step start label) rest
      inferInstanceAs (Decidable (_ ∧ _))

/-- The label at a split of an admitted run was admitted there. -/
theorem AllSteps.admitted {labels past rest : List ι} {label : ι}
    (all : AllSteps step admits start labels) (split : labels = past ++ label :: rest) :
    admits (run step start past) label := by
  subst split
  rw [allSteps_append] at all
  exact all.2.1

/-- A run is admitted when its label is admitted at every split. -/
theorem allSteps_of_splits {labels : List ι}
    (admitted : ∀ past label rest, labels = past ++ label :: rest →
      admits (run step start past) label) : AllSteps step admits start labels := by
  induction labels generalizing start with
  | nil => trivial
  | cons label rest inductionHypothesis =>
      refine ⟨admitted [] label rest rfl, inductionHypothesis ?_⟩
      intro past later others split
      exact admitted (label :: past) later others (by rw [split]; rfl)

/-- Two conditions that agree wherever the admitted steps lead admit the same
runs. -/
theorem allSteps_congr {admits' : σ → ι → Prop} (inv : σ → Prop) {labels : List ι}
    (agree : ∀ state label, inv state → (admits state label ↔ admits' state label))
    (keeps : ∀ state label, inv state → admits state label → inv (step state label))
    (initial : inv start) :
    AllSteps step admits start labels ↔ AllSteps step admits' start labels := by
  induction labels generalizing start with
  | nil => exact Iff.rfl
  | cons label rest inductionHypothesis =>
      constructor
      · intro all
        exact ⟨(agree start label initial).mp all.1,
          (inductionHypothesis (keeps start label initial all.1)).mp all.2⟩
      · intro all
        have first := (agree start label initial).mpr all.1
        exact ⟨first, (inductionHypothesis (keeps start label initial first)).mpr all.2⟩

/-- The invariant rule: what every admitted step keeps, every admitted run keeps. -/
theorem run_invariant (inv : σ → Prop) {labels : List ι}
    (keeps : ∀ state label, inv state → admits state label → inv (step state label))
    (initial : inv start) (all : AllSteps step admits start labels) :
    inv (run step start labels) := by
  induction labels generalizing start with
  | nil => exact initial
  | cons label rest inductionHypothesis =>
      exact inductionHypothesis (keeps start label initial all.1) all.2

/-- What every step keeps, every run keeps. -/
theorem run_keeps (inv : σ → Prop) {labels : List ι}
    (keeps : ∀ state label, inv state → inv (step state label)) (initial : inv start) :
    inv (run step start labels) := by
  induction labels generalizing start with
  | nil => exact initial
  | cons label rest inductionHypothesis => exact inductionHypothesis (keeps start label initial)

/-- A property that a step keeps exactly when its label is admitted holds in
every state of a run exactly when all its labels are admitted. The run may be
restricted to some labels, and the step may use what such runs keep. -/
theorem always_iff_allSteps_within {allows : σ → ι → Prop} (inv kept : σ → Prop) {labels : List ι}
    (keeps : ∀ state label, kept state → allows state label → kept (step state label))
    (exact : ∀ state label, kept state → allows state label → inv state →
      (inv (step state label) ↔ admits state label))
    (initial : inv start) (initialKept : kept start) (within : AllSteps step allows start labels) :
    (∀ past rest, labels = past ++ rest → inv (run step start past)) ↔
      AllSteps step admits start labels := by
  induction labels generalizing start with
  | nil =>
      refine iff_of_true ?_ trivial
      intro past rest split
      obtain ⟨rfl, -⟩ := List.append_eq_nil_iff.mp split.symm
      exact initial
  | cons label rest inductionHypothesis =>
      have first := exact start label initialKept within.1 initial
      have later : inv (step start label) →
          ((∀ past others, rest = past ++ others → inv (run step (step start label) past)) ↔
            AllSteps step admits (step start label) rest) := by
        intro next
        exact inductionHypothesis next (keeps start label initialKept within.1) within.2
      constructor
      · intro always
        have next : inv (step start label) := always [label] rest rfl
        refine ⟨first.mp next, (later next).mp ?_⟩
        intro past others split
        exact always (label :: past) others (by rw [split]; rfl)
      · intro all past others split
        cases past with
        | nil => exact initial
        | cons head past =>
            obtain ⟨rfl, rfl⟩ := List.cons.inj split
            exact (later (first.mpr all.1)).mpr all.2 past others rfl

/-- The same for runs of any labels. -/
theorem always_iff_allSteps (inv kept : σ → Prop) {labels : List ι}
    (keeps : ∀ state label, kept state → kept (step state label))
    (exact : ∀ state label, kept state → inv state → (inv (step state label) ↔ admits state label))
    (initial : inv start) (initialKept : kept start) :
    (∀ past rest, labels = past ++ rest → inv (run step start past)) ↔
      AllSteps step admits start labels := by
  have anyLabels : AllSteps step (fun _ _ => True) start labels :=
    allSteps_of_splits fun _ _ _ _ => trivial
  refine always_iff_allSteps_within inv kept ?_ ?_ initial initialKept anyLabels
  · intro state label holds _
    exact keeps state label holds
  · intro state label holds _ now
    exact exact state label holds now

/-- When moreover no step brings the property back, it holds at the end of a run
exactly when all its labels are admitted. -/
theorem holds_iff_allSteps (inv kept : σ → Prop) {labels : List ι}
    (keeps : ∀ state label, kept state → kept (step state label))
    (exact : ∀ state label, kept state → inv state → (inv (step state label) ↔ admits state label))
    (lasts : ∀ state label, kept state → ¬ inv state → ¬ inv (step state label))
    (initial : inv start) (initialKept : kept start) :
    inv (run step start labels) ↔ AllSteps step admits start labels := by
  induction labels generalizing start with
  | nil => exact iff_of_true initial trivial
  | cons label rest inductionHypothesis =>
      have first := exact start label initialKept initial
      by_cases next : inv (step start label)
      · have later := inductionHypothesis next (keeps start label initialKept)
        exact ⟨fun holds => ⟨first.mp next, later.mp holds⟩, fun all => later.mpr all.2⟩
      · refine iff_of_false ?_ (fun all => next (first.mpr all.1))
        refine (run_keeps (fun state => kept state ∧ ¬ inv state) ?_
          ⟨keeps start label initialKept, next⟩).2
        intro state later holds
        exact ⟨keeps state later holds.1, lasts state later holds.1 holds.2⟩

/-- A condition on labels alone. -/
theorem allSteps_of_forall_mem {allows : ι → Prop} {labels : List ι}
    (all : ∀ label ∈ labels, allows label) :
    AllSteps step (fun _ label => allows label) start labels := by
  apply allSteps_of_splits
  intro past label rest split
  exact all label (by simp [split])

/-- The invariant rule for properties of a state and of the labels that led to
it. The induction peels the last label, so the step may use the whole past. -/
theorem run_history_invariant (inv : List ι → σ → Prop) {labels : List ι}
    (initial : inv [] start)
    (keeps : ∀ past label, inv past (run step start past) →
      admits (run step start past) label →
        inv (past ++ [label]) (step (run step start past) label))
    (all : AllSteps step admits start labels) :
    inv labels (run step start labels) := by
  induction labels using List.reverseRecOn with
  | nil => exact initial
  | append_singleton past label inductionHypothesis =>
      rw [allSteps_append] at all
      rw [run_append]
      exact keeps past label (inductionHypothesis all.1) all.2.1

end Admitted

section Count

variable {step : σ → ι → σ}

/-- A kind of steps in two parts. -/
theorem countSteps_and_add_not (event kind : σ → ι → Bool) (start : σ) (labels : List ι) :
    countSteps step (fun state label => event state label && kind state label) start labels +
        countSteps step (fun state label => event state label && !kind state label) start labels =
      countSteps step event start labels := by
  induction labels generalizing start with
  | nil => rfl
  | cons label rest inductionHypothesis =>
      have parts : ∀ happens holds : Bool, (if (happens && holds) = true then 1 else 0) +
          (if (happens && !holds) = true then 1 else 0) = if happens = true then 1 else 0 := by
        decide
      simp only [countSteps]
      rw [Nat.add_add_add_comm, inductionHypothesis, parts]

/-- A kind that only the label decides. -/
theorem countSteps_label (event : ι → Bool) (start : σ) (labels : List ι) :
    countSteps step (fun _ label => event label) start labels = labels.countP event := by
  induction labels generalizing start with
  | nil => rfl
  | cons label rest inductionHypothesis =>
      rw [countSteps, inductionHypothesis, List.countP_cons, Nat.add_comm]

/-- When every step of one kind is paid for by a step of another or from what was
saved up, there are at most as many, and what the start had saved up. -/
theorem countSteps_le_of_potential {event funds : σ → ι → Bool} (potential : σ → Nat)
    (pays : ∀ state label, (if event state label then 1 else 0) + potential (step state label) ≤
      potential state + if funds state label then 1 else 0) (start : σ) (labels : List ι) :
    countSteps step event start labels + potential (run step start labels) ≤
      potential start + countSteps step funds start labels := by
  induction labels generalizing start with
  | nil =>
      rw [countSteps, countSteps, run_nil]
      omega
  | cons label rest inductionHypothesis =>
      have first := pays start label
      have later := inductionHypothesis (step start label)
      rw [countSteps, countSteps, run_cons]
      omega

end Count

section Occurs

variable {step : σ → ι → σ} {event : σ → ι → Prop} {start : σ}

/-- What occurred in a run still occurred after one more step. -/
theorem Occurs.snoc {labels : List ι} (occurs : Occurs step event start labels) (label : ι) :
    Occurs step event start (labels ++ [label]) := by
  obtain ⟨past, found, rest, split, holds⟩ := occurs
  exact ⟨past, found, rest ++ [label], by simp [split], holds⟩

/-- The last step of a run occurred in it. -/
theorem Occurs.last {labels : List ι} {label : ι}
    (holds : event (run step start labels) label) :
    Occurs step event start (labels ++ [label]) :=
  ⟨labels, label, [], rfl, holds⟩

/-- What every step excludes did not occur. -/
theorem not_occurs {admits : σ → ι → Prop} {labels : List ι}
    (all : AllSteps step admits start labels)
    (excludes : ∀ state label, admits state label → ¬ event state label) :
    ¬ Occurs step event start labels := by
  intro occurs
  obtain ⟨past, label, rest, split, holds⟩ := occurs
  exact excludes _ label (all.admitted split) holds

end Occurs

section Since

variable {step : σ → ι → σ} {event : σ → ι → Prop} {holds : σ → Prop} {start : σ}

/-- The last step starts the period. -/
theorem Since.last {labels : List ι} {label : ι} (happens : event (run step start labels) label)
    (now : holds (step (run step start labels) label)) :
    Since step event holds start (labels ++ [label]) := by
  refine ⟨labels, label, [], rfl, happens, ?_⟩
  intro between after split
  obtain ⟨rfl, -⟩ := List.append_eq_nil_iff.mp split.symm
  simpa using now

/-- The period goes on through one more step. -/
theorem Since.snoc {labels : List ι} {label : ι} (since : Since step event holds start labels)
    (now : holds (step (run step start labels) label)) :
    Since step event holds start (labels ++ [label]) := by
  obtain ⟨past, first, rest, rfl, happens, all⟩ := since
  refine ⟨past, first, rest ++ [label], by simp, happens, ?_⟩
  intro between after split
  induction after using List.reverseRecOn with
  | nil =>
      rw [List.append_nil] at split
      subst split
      simpa using now
  | append_singleton after last _ =>
      rw [← List.append_assoc] at split
      exact all between after (List.append_inj_left' split rfl)

end Since

end AimServer.Lib
