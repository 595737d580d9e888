import Mathlib.Tactic.Basic

/-! Runs of a labelled transition system and the one induction every safety
statement about them uses: what holds at the start and is kept by every step
holds wherever a run can get. -/
namespace DexKnight.Support.Runs

/-- A transition system: where it may start, and what each label does. -/
structure Machine (σ ι : Type) where
  initial : σ → Prop
  step : σ → ι → σ → Prop

variable {σ ι : Type} {machine : Machine σ ι}

namespace Machine

/-- A run and the labels of its steps, oldest first. -/
inductive Run (machine : Machine σ ι) : List ι → σ → Prop
  | start {s : σ} : machine.initial s → Run machine [] s
  | step {labels : List ι} {s s' : σ} {label : ι} :
      Run machine labels s → machine.step s label s' → Run machine (labels ++ [label]) s'

/-- What a system can still do from a state. -/
inductive Leads (machine : Machine σ ι) : σ → List ι → σ → Prop
  | done {s : σ} : Leads machine s [] s
  | step {s s' s'' : σ} {label : ι} {labels : List ι} :
      machine.step s label s' → Leads machine s' labels s'' → Leads machine s (label :: labels) s''

/-- One step with the states around it. -/
structure Step (σ ι : Type) where
  before : σ
  label : ι
  after : σ

/-- The steps of a continuation, oldest first. -/
inductive Steps (machine : Machine σ ι) : σ → List (Step σ ι) → Prop
  | done {s : σ} : Steps machine s []
  | step {s s' : σ} {label : ι} {rest : List (Step σ ι)} :
      machine.step s label s' → Steps machine s' rest → Steps machine s (⟨s, label, s'⟩ :: rest)

end Machine

/-- The invariant rule for facts that also look back at the steps taken. -/
theorem Run.history (Holds : List ι → σ → Prop) {labels : List ι} {s : σ}
    (run : machine.Run labels s) (starts : ∀ s, machine.initial s → Holds [] s)
    (keeps : ∀ labels s label s', Holds labels s → machine.step s label s' →
      Holds (labels ++ [label]) s') : Holds labels s := by
  induction run with
  | start initial => exact starts _ initial
  | step _ taken ih => exact keeps _ _ _ _ ih taken

/-- The invariant rule: what holds at the start and is kept by every step. -/
theorem Run.invariant (Holds : σ → Prop) {labels : List ι} {s : σ} (run : machine.Run labels s)
    (starts : ∀ s, machine.initial s → Holds s)
    (keeps : ∀ s label s', Holds s → machine.step s label s' → Holds s') : Holds s :=
  Run.history (fun _ => Holds) run starts fun _ => keeps

/-- A run of one system is a run of another that can start there and take each of its
steps. -/
theorem Run.transfer {other : Machine σ ι} {labels : List ι} {s : σ} (run : machine.Run labels s)
    (starts : ∀ s, machine.initial s → other.initial s)
    (steps : ∀ label ∈ labels, ∀ s s', machine.step s label s' → other.step s label s') :
    other.Run labels s := by
  induction run with
  | start initial => exact .start (starts _ initial)
  | step _ taken ih =>
    have last := steps _ (List.mem_append_right _ List.mem_cons_self) _ _ taken
    exact .step (ih fun label member => steps label (List.mem_append_left _ member)) last

/-- A run goes on with whatever its end can still do. -/
theorem Run.append {labels more : List ι} {s s' : σ} (run : machine.Run labels s)
    (leads : machine.Leads s more s') : machine.Run (labels ++ more) s' := by
  induction leads generalizing labels with
  | done =>
    rw [List.append_nil]
    exact run
  | step taken _ ih =>
    have rest := ih (run.step taken)
    rw [List.append_assoc] at rest
    exact rest

/-- A simulation with stuttering: where each step of one system is matched by any number
of steps of another from a related state that a run of it has reached, every run is
matched by a run. -/
theorem Run.simulated {τ κ : Type} {other : Machine τ κ} (Related : σ → τ → Prop) {labels : List ι}
    {s : σ} (run : machine.Run labels s)
    (starts : ∀ s, machine.initial s → ∃ t, other.initial t ∧ Related s t)
    (simulates : ∀ s label s' moves t, other.Run moves t → Related s t → machine.step s label s' →
      ∃ more t', other.Leads t more t' ∧ Related s' t') :
    ∃ moves t, other.Run moves t ∧ Related s t := by
  induction run with
  | start initial =>
    obtain ⟨t, begins, related⟩ := starts _ initial
    exact ⟨[], t, .start begins, related⟩
  | step _ taken ih =>
    obtain ⟨moves, t, reached, related⟩ := ih
    obtain ⟨more, t', leads, related'⟩ := simulates _ _ _ _ _ reached related taken
    exact ⟨moves ++ more, t', Run.append reached leads, related'⟩

/-- A system whose steps are a partial function goes wherever that function does. -/
theorem Leads.of_foldlM {perform : σ → ι → Option σ}
    (steps : ∀ s label s', perform s label = some s' → machine.step s label s') {labels : List ι}
    {s s' : σ} (performed : labels.foldlM perform s = some s') : machine.Leads s labels s' := by
  induction labels generalizing s with
  | nil =>
    cases performed
    exact .done
  | cons label rest ih =>
    rw [List.foldlM_cons, Option.bind_eq_bind, Option.bind_eq_some_iff] at performed
    obtain ⟨middle, first, others⟩ := performed
    exact .step (steps _ _ _ first) (ih others)

/-- A state no step leaves is where every continuation ends. -/
theorem Leads.stuck {s s' : σ} {labels : List ι} (leads : machine.Leads s labels s')
    (stays : ∀ label s', machine.step s label s' → s' = s) : s' = s := by
  induction leads with
  | done => rfl
  | step taken _ ih =>
    have same := stays _ _ taken
    subst same
    exact ih stays

/-- A requirement on single steps with its exact condition: where a step out of a state
that holds meets the requirement if and only if it meets the condition, and then keeps
the state holding, a continuation meets the requirement at every step if and only if it
meets the condition at every step. -/
theorem Steps.good_iff (Holds : σ → Prop) (Good Meets : Machine.Step σ ι → Prop) {s : σ}
    {path : List (Machine.Step σ ι)} (steps : machine.Steps s path) (holds : Holds s)
    (exact : ∀ taken ∈ path, Holds taken.before →
      machine.step taken.before taken.label taken.after →
        (Good taken ↔ Meets taken) ∧ (Good taken → Holds taken.after)) :
    (∀ taken ∈ path, Good taken) ↔ ∀ taken ∈ path, Meets taken := by
  induction steps with
  | done => simp
  | step isStep _ ih =>
    obtain ⟨same, keeps⟩ := exact _ List.mem_cons_self holds isStep
    have later := fun stillHolds => ih stillHolds fun taken member =>
      exact taken (List.mem_cons_of_mem _ member)
    rw [List.forall_mem_cons, List.forall_mem_cons]
    constructor
    · rintro ⟨isGood, allGood⟩
      exact ⟨same.mp isGood, (later (keeps isGood)).mp allGood⟩
    · rintro ⟨meets, allMeet⟩
      exact ⟨same.mpr meets, (later (keeps (same.mpr meets))).mpr allMeet⟩

/-- Safety with its exact condition: where a step out of a safe state is safe if and only
if it meets a condition, a continuation is safe all along if and only if all its steps
meet it. -/
theorem Steps.safe_iff (Holds Safe : σ → Prop) (Meets : σ → ι → Prop) {s : σ}
    {path : List (Machine.Step σ ι)} (steps : machine.Steps s path) (holds : Holds s) (safe : Safe s)
    (exact : ∀ taken ∈ path, Holds taken.before → Safe taken.before →
      machine.step taken.before taken.label taken.after →
        Holds taken.after ∧ (Safe taken.after ↔ Meets taken.before taken.label)) :
    (∀ taken ∈ path, Safe taken.after) ↔ ∀ taken ∈ path, Meets taken.before taken.label := by
  refine Steps.good_iff (fun s => Holds s ∧ Safe s) (fun taken => Safe taken.after)
    (fun taken => Meets taken.before taken.label) steps ⟨holds, safe⟩ ?_
  rintro taken member ⟨holdsBefore, safeBefore⟩ isStep
  obtain ⟨holdsNext, safeNext⟩ := exact taken member holdsBefore safeBefore isStep
  exact ⟨safeNext, fun safeAfter => ⟨holdsNext, safeAfter⟩⟩

/-! ## Loops -/

/-- A `while` loop that comes to its end. The body answers only where it is defined, so an
exit also says that no round on the way was refused. -/
inductive Exits (test : σ → Prop) (body : σ → Option σ) : σ → σ → Prop
  | done {s : σ} : ¬test s → Exits test body s s
  | round {s s' t : σ} : test s → body s = some s' → Exits test body s' t → Exits test body s t

end DexKnight.Support.Runs
