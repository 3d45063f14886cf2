/-!
A sequential program and a device that keeps moving by itself. Before every access that the
program makes to the device, the device's own events happen: which ones is written down in a
schedule, so that a run is a function of the schedule and a statement about every schedule is a
statement about every interleaving.
-/

namespace Interference

universe u v
variable {D : Type u} {E : Type v}

/-- A device, and what it is going to do before each of the coming accesses. -/
structure Shared (D : Type u) (E : Type v) where
  device : D
  schedule : List (List E) := []
deriving Repr

namespace Shared
variable (apply : D → E → D)

/-- The device moves; the program then sees it as it stands. -/
def pass (s : Shared D E) : Shared D E where
  device := (s.schedule.headD []).foldl apply s.device
  schedule := s.schedule.tail

/-- One access that changes the device. -/
def access (f : D → D) (s : Shared D E) : Shared D E :=
  { s.pass apply with device := f (s.pass apply).device }

end Shared

/-- What the device never destroys by itself. -/
def Stable (apply : D → E → D) (P : D → Prop) : Prop :=
  ∀ d e, P d → P (apply d e)

namespace Stable
variable {apply : D → E → D} {P Q : D → Prop}

protected theorem or (hP : Stable apply P) (hQ : Stable apply Q) :
    Stable apply fun d => P d ∨ Q d :=
  fun d e => Or.imp (hP d e) (hQ d e)

protected theorem and (hP : Stable apply P) (hQ : Stable apply Q) :
    Stable apply fun d => P d ∧ Q d :=
  fun d e => And.imp (hP d e) (hQ d e)

theorem foldl (stable : Stable apply P) {d : D} (es : List E) (h : P d) :
    P (es.foldl apply d) := by
  induction es generalizing d with
  | nil => exact h
  | cons e es ih => exact ih (stable d e h)

theorem pass (stable : Stable apply P) {s : Shared D E} (h : P s.device) :
    P (s.pass apply).device :=
  stable.foldl _ h

theorem access (stable : Stable apply P) {f : D → D} (keeps : ∀ d, P d → P (f d))
    {s : Shared D E} (h : P s.device) : P (s.access apply f).device :=
  keeps _ (stable.pass h)

end Stable

/-- What can become of the device while a program makes changes out of `W` to it. -/
inductive Driven (apply : D → E → D) (W : (D → D) → Prop) (d : D) : D → Prop where
  | refl : Driven apply W d d
  | move {d' : D} (h : Driven apply W d d') (e : E) : Driven apply W d (apply d' e)
  | write {d' : D} (h : Driven apply W d d') {f : D → D} (hf : W f) : Driven apply W d (f d')

namespace Driven
variable {apply : D → E → D} {W W' : (D → D) → Prop} {d d' d'' : D}

/-- What neither the device nor the program destroys is there in the end. -/
theorem keeps {P : D → Prop} (h : Driven apply W d d') (stable : Stable apply P)
    (writes : ∀ f, W f → ∀ d, P d → P (f d)) (start : P d) : P d' := by
  induction h with
  | refl => exact start
  | move _ e ih => exact stable _ e ih
  | write _ hf ih => exact writes _ hf _ ih

theorem trans (h : Driven apply W d d') (h' : Driven apply W d' d'') : Driven apply W d d'' := by
  induction h' with
  | refl => exact h
  | move _ e ih => exact ih.move e
  | write _ hf ih => exact ih.write hf

theorem mono (more : ∀ f, W f → W' f) (h : Driven apply W d d') : Driven apply W' d d' := by
  induction h with
  | refl => exact .refl
  | move _ e ih => exact ih.move e
  | write _ hf ih => exact ih.write (more _ hf)

theorem foldl (h : Driven apply W d d') (es : List E) : Driven apply W d (es.foldl apply d') := by
  induction es generalizing d' with
  | nil => exact h
  | cons e es ih => exact ih (h.move e)

theorem pass {s : Shared D E} (h : Driven apply W d s.device) :
    Driven apply W d (s.pass apply).device :=
  h.foldl _

theorem access {s : Shared D E} {f : D → D} (h : Driven apply W d s.device) (hf : W f) :
    Driven apply W d (s.access apply f).device :=
  h.pass.write hf

end Driven
end Interference
