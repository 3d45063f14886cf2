import TeensyI2C.Loopback.Transfers

/-!
A program on the master's board makes one turn after another. What the slave has heard so far says
what the next read brings.
-/

namespace TeensyI2C
open ObjectMemory EventMachine

namespace Loopback
variable {O P σ : Type} [Inhabited O] [DecidableEq O] [Inhabited P] [DecidableEq P]

/-- The turns of a program, each with the drivers as its call found them, the latest first. -/
abbrev TurnLog (O P σ : Type) [Inhabited O] [Inhabited P] : Type :=
  List (Loopback O P σ × Turn O)

def TurnLog.WentThrough (log : TurnLog O P σ) : Prop := ∀ p ∈ log, p.1.Fulfils p.2

instance (log : TurnLog O P σ) : Decidable log.WentThrough := by
  unfold TurnLog.WentThrough
  infer_instance

theorem TurnLog.WentThrough.latest {log : TurnLog O P σ} {x : Loopback O P σ} {turn : Turn O}
    (went : TurnLog.WentThrough ((x, turn) :: log)) : x.Fulfils turn ∧ log.WentThrough :=
  List.forall_mem_cons.mp went

/-- What the slave has heard comes to `a`. -/
structure ComesTo {α : Type} (next : α → Transfer → α) (wire : α → Transfer → List UInt8)
    (I : α → Slave P σ → Prop) (a₀ : α) (covers : BusAddress → Bool) (a : α)
    (x : Loopback O P σ) : Prop where
  tracked : x.Tracked next wire I a₀ covers
  heard : Heard.account next a₀ x.slave.frames = a

namespace ComesTo
variable {α : Type} {next : α → Transfer → α} {wire : α → Transfer → List UInt8}
  {I : α → Slave P σ → Prop} {a₀ a : α} {covers : BusAddress → Bool} {x : Loopback O P σ}
  {turn : Turn O} {address : UInt8} {buffer : Pointer O} {numBytes : Nat} {sendStop : Bool}

omit [DecidableEq O] in
/-- The master's memory is the caller's, who may write to it. -/
theorem setMemory (comesTo : x.ComesTo next wire I a₀ covers a) (memory : Memory O UInt8) :
    ({ x with master.memory := memory } : Loopback O P σ).ComesTo next wire I a₀ covers a where
  tracked := {
    sound := {
      settled := ⟨comesTo.tracked.sound.settled.owner, comesTo.tracked.sound.settled.halted⟩
      bound := comesTo.tracked.sound.bound }
    accounted := comesTo.tracked.accounted
    port := comesTo.tracked.port }
  heard := comesTo.heard

theorem step (comesTo : x.ComesTo next wire I a₀ covers a) (acc : Account next wire I)
    (same : ∀ a t, next a t.message = next a t) (delivers : x.Delivers turn) :
    (x.step turn).ComesTo next wire I a₀ covers (run next a (asked covers x turn)) where
  tracked := comesTo.tracked.step acc turn
  heard := by
    have goes : Along Loopback.step Delivers x [turn] := ⟨delivers, trivial⟩
    have heard := comesTo.tracked.heard_run acc goes same
    rw [emitted, emitted, List.append_nil, comesTo.heard] at heard
    exact heard

theorem write (comesTo : x.ComesTo next wire I a₀ covers a) (acc : Account next wire I)
    (same : ∀ a t, next a t.message = next a t) (delivers : x.Delivers turn)
    (kind : turn.call.action = .writeAsync address buffer numBytes sendStop) :
    (x.step turn).ComesTo next wire I a₀ covers
      (if covers (sentAddress address) then
        (Transfer.ofBytes (x.master.memory.slice buffer numBytes)).elim a (next a)
      else a) := by
  have stepped := comesTo.step acc same delivers
  rw [asked, kind] at stepped
  dsimp only at stepped
  split at stepped
  · next covered =>
    rw [if_pos covered]
    cases said : Transfer.ofBytes (x.master.memory.slice buffer numBytes) <;>
    · rw [said] at stepped
      exact stepped
  · next other =>
    rw [if_neg other]
    exact stepped

/-- A read from the slave brings the front of its answer. -/
theorem read (comesTo : x.ComesTo next wire I a₀ covers a) (acc : Account next wire I)
    (same : ∀ a t, next a t.message = next a t) (fulfils : x.Fulfils turn)
    (kind : turn.call.action = .readAsync address buffer numBytes sendStop)
    (covered : covers (sentAddress address) = true) {answer : Nat → List UInt8}
    (answers : ∀ count, wire a (.read count) = answer (count + 1))
    (take : ∀ n, (answer (n + 1)).take n = answer n) (length : ∀ n, (answer n).length = n) :
    (x.step turn).ComesTo next wire I a₀ covers (next a (.read 0)) ∧
      (x.step turn).master.memory.slice buffer numBytes = answer numBytes := by
  obtain ⟨delivers, whole⟩ := fulfils
  refine ⟨?_, ?_⟩
  · have stepped := comesTo.step acc same delivers
    rw [asked, kind] at stepped
    dsimp only at stepped
    rw [if_pos covered] at stepped
    exact stepped
  · obtain ⟨_, brings⟩ := read_brings comesTo.tracked.sound delivers same
      (comesTo.tracked.step acc turn).accounted kind ((comesTo.tracked.port _).trans covered)
    have count : (x.step turn).master.getBytesTransferred = numBytes :=
      whole (address, numBytes) (by rw [kind]; rfl)
    rw [count, comesTo.heard, answers] at brings
    have bytes := eq_of_isPrefix take length brings
    rwa [Memory.length_slice] at bytes

end ComesTo

end Loopback
end TeensyI2C
