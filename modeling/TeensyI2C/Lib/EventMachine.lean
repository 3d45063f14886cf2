import Mathlib.Data.List.Infix

/-!
Runs of event-driven machines: a total step function on an explicit state, driven by a finite
list of events. The rules below turn a step lemma into a run lemma, for one run (invariants)
and for two runs compared event by event (simulations).
-/

namespace EventMachine

universe u v w
variable {S : Type u} {A : Type v} {B : Type w}

/-- The state after a list of events. -/
def run (step : S → A → S) (s : S) (as : List A) : S :=
  as.foldl step s

/-- What an observer sees, once after each event of the run. -/
def observe (step : S → A → S) (obs : S → B) : S → List A → List B
  | _, [] => []
  | s, a :: as => obs (step s a) :: observe step obs (step s a) as

/-- Every event of the run meets `ok` in the state in which it happens. -/
def Along (step : S → A → S) (ok : S → A → Prop) : S → List A → Prop
  | _, [] => True
  | s, a :: as => ok s a ∧ Along step ok (step s a) as

variable {step : S → A → S} {ok : S → A → Prop}

@[simp] theorem run_nil (s : S) : run step s [] = s := rfl

@[simp] theorem run_cons (s : S) (a : A) (as : List A) :
    run step s (a :: as) = run step (step s a) as := rfl

theorem run_append (s : S) (as bs : List A) :
    run step s (as ++ bs) = run step (run step s as) bs :=
  List.foldl_append

theorem along_append (s : S) (as bs : List A) :
    Along step ok s (as ++ bs) ↔ Along step ok s as ∧ Along step ok (run step s as) bs := by
  induction as generalizing s with
  | nil => simp [Along]
  | cons a as ih => simp only [List.cons_append, Along, run_cons, ih, and_assoc]

theorem along_iff (s : S) (as : List A) :
    Along step ok s as ↔
      ∀ before a after, as = before ++ a :: after → ok (run step s before) a := by
  constructor
  · rintro admissible before a after rfl
    exact ((along_append s before (a :: after)).mp admissible).2.1
  · intro each
    induction as generalizing s with
    | nil => trivial
    | cons a as ih =>
        refine ⟨each [] a as rfl, ih (step s a) ?_⟩
        rintro before b after rfl
        exact each (a :: before) b after rfl

instance decidableAlong [∀ s a, Decidable (ok s a)] (s : S) (as : List A) :
    Decidable (Along step ok s as) :=
  match as with
  | [] => .isTrue trivial
  | a :: as =>
      have := decidableAlong (step s a) as
      inferInstanceAs (Decidable (ok s a ∧ Along step ok (step s a) as))

/-- A property that every admissible step preserves holds at the end of every admissible run. -/
theorem run_invariant {I : S → Prop} (preserved : ∀ s a, I s → ok s a → I (step s a))
    {s : S} {as : List A} (initial : I s) (admissible : Along step ok s as) :
    I (run step s as) := by
  induction as generalizing s with
  | nil => exact initial
  | cons a as ih => exact ih (preserved s a initial admissible.1) admissible.2

theorem run_invariant_of_kind {I : S → Prop} {kind : A → Prop}
    (preserved : ∀ s a, I s → kind a → ok s a → I (step s a)) {s : S} {as : List A}
    (initial : I s) (kinds : ∀ a ∈ as, kind a) (admissible : Along step ok s as) :
    I (run step s as) := by
  induction as generalizing s with
  | nil => exact initial
  | cons a as ih =>
      exact ih (preserved s a initial (kinds a (by simp)) admissible.1)
        (fun b member => kinds b (List.mem_cons_of_mem a member)) admissible.2

theorem run_invariant' {I : S → Prop} (preserved : ∀ s a, I s → I (step s a))
    {s : S} (as : List A) (initial : I s) : I (run step s as) := by
  induction as generalizing s with
  | nil => exact initial
  | cons a as ih => exact ih (preserved s a initial)

theorem run_invariant_of_kind' {I : S → Prop} {kind : A → Prop}
    (preserved : ∀ s a, I s → kind a → I (step s a)) {s : S} {as : List A} (initial : I s)
    (kinds : ∀ a ∈ as, kind a) : I (run step s as) := by
  induction as generalizing s with
  | nil => exact initial
  | cons a as ih =>
      exact ih (preserved s a initial (kinds a (by simp)))
        fun b member => kinds b (List.mem_cons_of_mem a member)

theorem along_and {ok' : S → A → Prop} (s : S) (as : List A) :
    Along step (fun s a => ok s a ∧ ok' s a) s as ↔ Along step ok s as ∧ Along step ok' s as := by
  induction as generalizing s with
  | nil => simp [Along]
  | cons a as ih => simp only [Along, ih, and_and_and_comm]

/-- What an admissible event implies, wherever an invariant holds, is true along the run. -/
theorem along_imp {I : S → Prop} {ok' : S → A → Prop}
    (preserved : ∀ s a, I s → ok s a → I (step s a)) (implies : ∀ s a, I s → ok s a → ok' s a)
    {s : S} {as : List A} (initial : I s) (admissible : Along step ok s as) :
    Along step ok' s as := by
  induction as generalizing s with
  | nil => trivial
  | cons a as ih =>
      exact ⟨implies s a initial admissible.1,
        ih (preserved s a initial admissible.1) admissible.2⟩

/-- Two conditions that agree wherever an invariant holds agree along every run. -/
theorem along_congr {I : S → Prop} {ok' : S → A → Prop}
    (preserved : ∀ s a, I s → I (step s a)) (same : ∀ s a, I s → (ok s a ↔ ok' s a)) {s : S}
    (initial : I s) (as : List A) : Along step ok s as ↔ Along step ok' s as := by
  induction as generalizing s with
  | nil => exact Iff.rfl
  | cons a as ih => exact and_congr (same s a initial) (ih (preserved s a initial))

/-! ### What happens once -/

/-- How many events of the run meet `p` in the state in which they happen. -/
def occurrences (step : S → A → S) (p : S → A → Prop) [∀ s a, Decidable (p s a)] :
    S → List A → Nat
  | _, [] => 0
  | s, a :: as => (if p s a then 1 else 0) + occurrences step p (step s a) as

/-- What every admissible step preserves, counting the events that meet `p`, holds at the end of
the run for their number. -/
theorem count_invariant {p : S → A → Prop} [∀ s a, Decidable (p s a)] {I : Nat → S → Prop}
    {kind : A → Prop}
    (preserved : ∀ n s a, I n s → kind a → ok s a → I (n + if p s a then 1 else 0) (step s a))
    {n : Nat} {s : S} {as : List A} (initial : I n s) (kinds : ∀ a ∈ as, kind a)
    (admissible : Along step ok s as) : I (n + occurrences step p s as) (run step s as) := by
  induction as generalizing s n with
  | nil => exact initial
  | cons a as ih =>
      rw [occurrences, ← Nat.add_assoc]
      exact ih (preserved n s a initial (kinds a (by simp)) admissible.1)
        (fun b member => kinds b (by simp [member])) admissible.2

/-- What leads from `I` to `J` and cannot happen otherwise happens at most once. -/
theorem occurs_once {p : S → A → Prop} [∀ s a, Decidable (p s a)] {I J : S → Prop}
    {kind : A → Prop}
    (before : ∀ s a, I s → kind a → ok s a → I (step s a) ∧ ¬ p s a ∨ J (step s a) ∧ p s a)
    (after : ∀ s a, J s → kind a → ok s a → J (step s a) ∧ ¬ p s a) {s : S} {as : List A}
    (initial : I s) (kinds : ∀ a ∈ as, kind a) (admissible : Along step ok s as) :
    I (run step s as) ∧ occurrences step p s as = 0 ∨
      J (run step s as) ∧ occurrences step p s as = 1 := by
  have never {s : S} {as : List A} (later : J s) (kinds : ∀ a ∈ as, kind a)
      (admissible : Along step ok s as) :
      J (run step s as) ∧ occurrences step p s as = 0 := by
    induction as generalizing s with
    | nil => exact ⟨later, rfl⟩
    | cons a as ih =>
        obtain ⟨still, other⟩ := after s a later (kinds a (by simp)) admissible.1
        obtain ⟨last, none⟩ := ih still (fun b member => kinds b (by simp [member])) admissible.2
        exact ⟨last, by rw [occurrences, if_neg other, none]⟩
  induction as generalizing s with
  | nil => exact .inl ⟨initial, rfl⟩
  | cons a as ih =>
      have rest : ∀ b ∈ as, kind b := fun b member => kinds b (by simp [member])
      rcases before s a initial (kinds a (by simp)) admissible.1 with
        ⟨still, other⟩ | ⟨done, here⟩
      · rw [run_cons, occurrences, if_neg other, Nat.zero_add]
        exact ih still rest admissible.2
      · obtain ⟨last, none⟩ := never done rest admissible.2
        exact .inr ⟨last, by rw [occurrences, if_pos here, none]⟩

/-! ### What a run gives out -/

/-- What the events of a run give out, one after the other. -/
def emitted (step : S → A → S) (emit : S → A → List B) : S → List A → List B
  | _, [] => []
  | s, a :: as => emit s a ++ emitted step emit (step s a) as

theorem emitted_append (step : S → A → S) (emit : S → A → List B) (s : S) (as bs : List A) :
    emitted step emit s (as ++ bs) =
      emitted step emit s as ++ emitted step emit (run step s as) bs := by
  induction as generalizing s with
  | nil => rfl
  | cons a as ih => simp only [List.cons_append, emitted, run_cons, ih, List.append_assoc]

/-- A log to which every event appends what it gives out holds that of the whole run. -/
theorem log_run {emit : S → A → List B} (log : S → List B)
    (appends : ∀ s a, log (step s a) = log s ++ emit s a) (s : S) (as : List A) :
    log (run step s as) = log s ++ emitted step emit s as := by
  induction as generalizing s with
  | nil => exact (List.append_nil _).symm
  | cons a as ih => rw [run_cons, ih, appends, List.append_assoc, emitted]

theorem emitted_flatMap {C : Type*} {emit : S → A → List B} {emit' : S → A → List C}
    (f : B → List C) {I : S → Prop} (preserved : ∀ s a, I s → ok s a → I (step s a))
    (same : ∀ s a, I s → ok s a → (emit s a).flatMap f = emit' s a) {s : S} {as : List A}
    (initial : I s) (admissible : Along step ok s as) :
    (emitted step emit s as).flatMap f = emitted step emit' s as := by
  induction as generalizing s with
  | nil => rfl
  | cons a as ih =>
      rw [emitted, emitted, List.flatMap_append, same s a initial admissible.1,
        ih (preserved s a initial admissible.1) admissible.2]

/-! ### Comparing two runs -/

variable {T : Type u} {step' : T → A → T} {P : Type*}

/-- The phase reached by a list of events, if a protocol automaton accepts all of them. -/
def phaseAfter (next : P → A → Option P) : P → List A → Option P
  | p, [] => some p
  | p, a :: as => (next p a).bind fun p' => phaseAfter next p' as

theorem phaseAfter_append (next : P → A → Option P) (p : P) (as bs : List A) :
    phaseAfter next p (as ++ bs) =
      (phaseAfter next p as).bind fun p' => phaseAfter next p' bs := by
  induction as generalizing p with
  | nil => rfl
  | cons a as ih =>
      simp only [List.cons_append, phaseAfter]
      cases next p a with
      | none => rfl
      | some p' => exact ih p'

/-- Two machines that are related in every phase, and that show the observer the same thing
whenever one event is accepted, show the same things along every accepted run. -/
theorem observe_eq_of_simulation {next : P → A → Option P} {obs : S → B} {obs' : T → B}
    {R : P → S → T → Prop}
    (simulates : ∀ p p' s t a, R p s t → next p a = some p' →
      R p' (step s a) (step' t a) ∧ obs (step s a) = obs' (step' t a))
    {p p' : P} {s : S} {t : T} {as : List A}
    (related : R p s t) (accepted : phaseAfter next p as = some p') :
    observe step obs s as = observe step' obs' t as ∧
      R p' (run step s as) (run step' t as) := by
  induction as generalizing p s t with
  | nil =>
      obtain rfl : p = p' := Option.some.inj accepted
      exact ⟨rfl, related⟩
  | cons a as ih =>
      obtain ⟨q, hq, rest⟩ := Option.bind_eq_some_iff.mp accepted
      obtain ⟨next_related, same⟩ := simulates p q s t a related hq
      obtain ⟨tail, final⟩ := ih next_related rest
      exact ⟨by simp only [observe, same, tail], final⟩

end EventMachine
