/-!
Programs that call the operations of an object, and objects that no program can tell apart. A
program is a tree: what an operation returns decides how it goes on.
-/

namespace ClientPrograms

universe u v w x y
variable {Op : Type u} {Ret : Op → Type v} {α : Type w} {S : Type x} {T : Type y}

/-- A program that calls operations and ends with a result. -/
inductive Program (Op : Type u) (Ret : Op → Type v) (α : Type w) where
  | done (result : α)
  | call (op : Op) (next : Ret op → Program Op Ret α)

/-- What every operation returns and does to the state of the object. -/
abbrev Object (Op : Type u) (Ret : Op → Type v) (S : Type x) := (op : Op) → S → Ret op × S

abbrev FallibleObject (Op : Type u) (Ret : Op → Type v) (S : Type x) :=
  (op : Op) → S → Option (Ret op × S)

namespace Program

def exec (object : Object Op Ret S) : Program Op Ret α → S → α × S
  | .done result, s => (result, s)
  | .call op next, s => (next (object op s).1).exec object (object op s).2

/-- A program that stops at the first failure. -/
def attempt (object : FallibleObject Op Ret S) : Program Op Ret α → S → Option (α × S)
  | .done result, s => some (result, s)
  | .call op next, s => (object op s).bind fun answer => (next answer.1).attempt object answer.2

end Program

/-- Related states give the same answers and stay related. -/
structure Simulates (object : Object Op Ret S) (object' : Object Op Ret T) (R : S → T → Prop) :
    Prop where
  answer : ∀ {s t}, R s t → ∀ op, (object op s).1 = (object' op t).1
  state : ∀ {s t}, R s t → ∀ op, R (object op s).2 (object' op t).2

/-- Then no program can tell the two objects apart. -/
theorem Simulates.exec {object : Object Op Ret S} {object' : Object Op Ret T} {R : S → T → Prop}
    (simulates : Simulates object object' R) (p : Program Op Ret α) {s : S} {t : T}
    (related : R s t) :
    (p.exec object s).1 = (p.exec object' t).1 ∧ R (p.exec object s).2 (p.exec object' t).2 := by
  induction p generalizing s t with
  | done result => exact ⟨rfl, related⟩
  | call op next ih =>
      have same := simulates.answer related op
      simp only [Program.exec, same]
      exact ih _ (simulates.state related op)

def Object.fallible (object : Object Op Ret S) : FallibleObject Op Ret S :=
  fun op s => some (object op s)

theorem Program.attempt_fallible (object : Object Op Ret S) (p : Program Op Ret α) (s : S) :
    p.attempt object.fallible s = some (p.exec object s) := by
  induction p generalizing s with
  | done result => rfl
  | call op next ih => exact ih (object op s).1 (object op s).2

/-- An operation that succeeds does what it does to an object without failures, as long as things
go well. If they have gone well up to now, they have gone well before. -/
structure Implements (object : FallibleObject Op Ret S) (object' : Object Op Ret T)
    (WentWell : S → Prop) (R : S → T → Prop) : Prop where
  before : ∀ {op s answer s'}, object op s = some (answer, s') → WentWell s' → WentWell s
  step : ∀ {op s t answer s'}, R s t → object op s = some (answer, s') → WentWell s' →
    (object' op t).1 = answer ∧ R s' (object' op t).2

namespace Implements
variable {object : FallibleObject Op Ret S} {object' : Object Op Ret T} {WentWell : S → Prop}
  {R : S → T → Prop}

theorem before_attempt (implements : Implements object object' WentWell R) {p : Program Op Ret α}
    {s s' : S} {result : α} (succeeds : p.attempt object s = some (result, s'))
    (well : WentWell s') : WentWell s := by
  induction p generalizing s with
  | done _ =>
      obtain ⟨-, rfl⟩ := Prod.mk.inj (Option.some.inj succeeds)
      exact well
  | call op next ih =>
      obtain ⟨answer, first, rest⟩ := Option.bind_eq_some_iff.mp succeeds
      exact implements.before first (ih answer.1 rest)

/-- Then no program can tell the two objects apart if it succeeds and things go well. -/
theorem attempt (implements : Implements object object' WentWell R) {p : Program Op Ret α}
    {s s' : S} {t : T} {result : α} (related : R s t)
    (succeeds : p.attempt object s = some (result, s')) (well : WentWell s') :
    (p.exec object' t).1 = result ∧ R s' (p.exec object' t).2 := by
  induction p generalizing s t with
  | done _ =>
      obtain ⟨rfl, rfl⟩ := Prod.mk.inj (Option.some.inj succeeds)
      exact ⟨rfl, related⟩
  | call op next ih =>
      obtain ⟨answer, first, rest⟩ := Option.bind_eq_some_iff.mp succeeds
      obtain ⟨same, related⟩ :=
        implements.step related first (implements.before_attempt rest well)
      rw [Program.exec, same]
      exact ih answer.1 related rest

end Implements

end ClientPrograms
