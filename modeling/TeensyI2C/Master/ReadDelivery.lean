import TeensyI2C.Master.NeverStuck
import TeensyI2C.Master.QuietStart
import TeensyI2C.Master.WaitsForStop

/-!
What a read that meets no error stores. The ISR takes one byte out of the receive FIFO at a time.
If it comes so late that it finds the end of the transaction together with bytes that follow the
first one, it throws these bytes away.
-/

namespace TeensyI2C
open ObjectMemory Interference EventMachine MasterPort

namespace MasterPort

/-- The receive FIFO holds what has been received after `stored`. -/
structure Delivers (stored : List UInt8) (p : MasterPort) : Prop where
  received : p.crossed = stored ++ p.rxFifo
  off : p.awaitingStart = true → p.executing = none ∧ p.mbf = false
  queued : ∀ data, .transmit data ∉ p.txFifo
  executing : ∀ data, p.executing ≠ some (.transmit data)

theorem stable_delivers (stored : List UInt8) : Stable apply (Delivers stored) := by
  rintro p e ⟨received, off, queued, executing⟩
  cases e <;> grind [Delivers, apply, fetch, ack, nak, offered, receiveByte, crossing,
    Command.payload, autoStop, stopsByItself, stopDone, arbitrationLost]

/-! ### How far a read has come -/

section Stages
variable (data : UInt8) (rest : List Command) (n : Nat)

/-- The START waits in the FIFO, and in front of the rest of the read. -/
def ReadWaits (p : MasterPort) : Prop :=
  p.awaitingStart = true ∧ p.executing = none ∧ p.mbf = false ∧ p.txFifo = .start data :: rest ∧
    p.crossed = [] ∧ p.sdf = false ∧ p.mcrMen = true

/-- The address is being sent, or has been answered. -/
def ReadAddresses (p : MasterPort) : Prop :=
  p.awaitingStart = false ∧ (p.executing = some (.start data) ∨ p.executing = none) ∧
    p.mbf = true ∧ p.txFifo = rest ∧ p.crossed = [] ∧ p.sdf = false ∧ p.mcrMen = true

def ReadReceives (p : MasterPort) : Prop :=
  p.awaitingStart = false ∧
    (∃ left, p.executing = some (.receive left) ∧ p.crossed.length + (left.toNat + 1) = n) ∧
    p.mbf = true ∧ rest ≠ [] ∧ p.txFifo = rest.tail ∧ p.sdf = false ∧ p.mcrMen = true

/-- All bytes have come. The STOP may be under way, by command or because the master has been
disabled. -/
def ReadReceived (p : MasterPort) : Prop :=
  p.awaitingStart = false ∧ p.crossed.length = n ∧ rest ≠ [] ∧ p.mbf = true ∧ p.sdf = false ∧
    (p.executing = none ∧ p.txFifo = rest.tail ∨
      p.executing = some .stop ∧ p.txFifo = [] ∧ (rest.tail = [.stop] ∨ p.mcrMen = false))

def ReadStopped (p : MasterPort) : Prop :=
  p.awaitingStart = false ∧ p.crossed.length = n ∧ rest ≠ [] ∧ p.mbf = false ∧
    p.executing = none ∧ p.txFifo = [] ∧ (rest.tail = [.stop] ∨ p.mcrMen = false)

/-- A read of `n` bytes is going on. -/
def Reads (p : MasterPort) : Prop :=
  p.msr.failed = true ∨ p.ReadWaits data rest ∨ p.ReadAddresses data rest ∨
    p.ReadReceives rest n ∨ p.ReadReceived rest n ∨ p.ReadStopped rest n

/-- All commands have been executed and all interrupts have been served. -/
structure AllServed (p : MasterPort) : Prop where
  enabled : p.irqEnabled = true
  listening : p.Listening
  served : p.pending = false
  txFifo : p.txFifo = []
  executing : p.executing = none

theorem AllServed.flags {p : MasterPort} (served : p.AllServed) :
    p.msr.failed = false ∧ p.sdf = false ∧ p.rxFifo = [] := by
  obtain ⟨enabled, ⟨rdie, sdie, ndie, alie, feie, pltie⟩, none, _, _⟩ := served
  simp only [pending, enabled, rdie, sdie, ndie, alie, feie, pltie, Bool.true_and,
    Bool.or_eq_false_iff] at none
  obtain ⟨⟨⟨⟨⟨⟨_, rdf⟩, sdf⟩, ndf⟩, alf⟩, fef⟩, pltf⟩ := none
  exact ⟨by simp [msr, Msr.failed, ndf, alf, fef, pltf], sdf, by simpa [msr] using rdf⟩

/-- What a read of `n` bytes writes to MTDR after its START. -/
def ReadRest : Prop :=
  rest = [] ∨ ∃ left ending, rest = .receive left :: ending ∧ left.toNat + 1 = n ∧
    (ending = [] ∨ ending = [.stop])

end Stages

variable {data : UInt8} {rest : List Command} {n : Nat}

attribute [local grind] apply ack nak offered receiveByte autoStop stopsByItself stopDone
  arbitrationLost msr Msr.failed

theorem ReadWaits.apply {p : MasterPort} (waits : p.ReadWaits data rest) (e : BusEvent) :
    (p.apply e).msr.failed = true ∨ (p.apply e).ReadWaits data rest ∨
      (p.apply e).ReadAddresses data rest := by
  obtain ⟨awaiting, executing, mbf, queued, crossed, sdf, men⟩ := waits
  have kept := (apply_control p e).2.2
  cases e <;> grind [ReadWaits, ReadAddresses, fetch]

theorem ReadAddresses.apply {p : MasterPort} (asked : ReadRest rest n)
    (addresses : p.ReadAddresses data rest) (e : BusEvent) :
    (p.apply e).msr.failed = true ∨ (p.apply e).ReadAddresses data rest ∨
      (p.apply e).ReadReceives rest n := by
  obtain ⟨awaiting, executing, mbf, queued, crossed, sdf, men⟩ := addresses
  have kept := (apply_control p e).2.2
  cases e <;> grind [ReadRest, ReadAddresses, ReadReceives, fetch, crossing, Command.payload]

theorem ReadReceives.apply {p : MasterPort} (receives : p.ReadReceives rest n) (e : BusEvent) :
    (p.apply e).msr.failed = true ∨ (p.apply e).ReadReceives rest n ∨
      (p.apply e).ReadReceived rest n := by
  obtain ⟨awaiting, ⟨left, executing, owed⟩, mbf, some, queued, sdf, men⟩ := receives
  have kept := (apply_control p e).2.2
  cases e with
  | receiveByte byte =>
      by_cases room : p.rxFifo.length < 4
      · by_cases last : left = 0
        · have moved : p.apply (.receiveByte byte) =
              { p with
                rxFifo := p.rxFifo ++ [byte]
                executing := none
                crossed := p.crossed ++ [byte] } := by
            simp [MasterPort.apply, receiveByte, executing, room, last, crossing, awaiting]
          have all : p.crossed.length + 1 = n := by simpa [last] using owed
          rw [moved]
          exact .inr (.inr ⟨awaiting, by simpa using all, some, mbf, sdf, .inl ⟨rfl, queued⟩⟩)
        · have moved : p.apply (.receiveByte byte) = { p with
              rxFifo := p.rxFifo ++ [byte]
              executing := Option.some (.receive (left - 1))
              crossed := p.crossed ++ [byte] } := by
            simp [MasterPort.apply, receiveByte, executing, room, last, crossing, awaiting]
          have less := toNat_pred last
          rw [moved]
          refine .inr (.inl ⟨awaiting, ⟨left - 1, rfl, ?_⟩, mbf, some, queued, sdf, men⟩)
          rw [List.length_append, List.length_singleton]
          omega
      · have same : p.apply (.receiveByte byte) = p := by
          simp [MasterPort.apply, receiveByte, executing, room]
        rw [same]
        exact .inr (.inl ⟨awaiting, ⟨left, executing, owed⟩, mbf, some, queued, sdf, men⟩)
  | _ => grind [ReadReceives, fetch]

theorem ReadReceived.apply {p : MasterPort} (asked : ReadRest rest n)
    (received : p.ReadReceived rest n) (e : BusEvent) :
    (p.apply e).msr.failed = true ∨ (p.apply e).ReadReceived rest n ∨
      (p.apply e).ReadStopped rest n ∧ (p.apply e).sdf = true := by
  obtain ⟨awaiting, all, some, mbf, sdf, ending⟩ := received
  cases e <;> grind [ReadRest, ReadReceived, ReadStopped, fetch]

theorem stable_readStopped : Stable MasterPort.apply fun p => p.ReadStopped rest n := by
  rintro p e ⟨awaiting, all, some, mbf, executing, queued, ending⟩
  cases e <;> grind [ReadStopped, fetch]

theorem stable_reads (asked : ReadRest rest n) : Stable MasterPort.apply (Reads data rest n) := by
  rintro p e (failed | waits | addresses | receives | received | stopped)
  · exact .inl (stable_failed p e failed)
  · rcases waits.apply e with failed | waits | addresses
    · exact .inl failed
    · exact .inr (.inl waits)
    · exact .inr (.inr (.inl addresses))
  · rcases addresses.apply asked e with failed | addresses | receives
    · exact .inl failed
    · exact .inr (.inr (.inl addresses))
    · exact .inr (.inr (.inr (.inl receives)))
  · rcases receives.apply e with failed | receives | received
    · exact .inl failed
    · exact .inr (.inr (.inr (.inl receives)))
    · exact .inr (.inr (.inr (.inr (.inl received))))
  · rcases received.apply asked e with failed | received | ⟨stopped, _⟩
    · exact .inl failed
    · exact .inr (.inr (.inr (.inr (.inl received))))
    · exact .inr (.inr (.inr (.inr (.inr stopped))))
  · exact .inr (.inr (.inr (.inr (.inr (stable_readStopped p e stopped)))))

/-- The STOP of a read is still to come, or its interrupt is. -/
def ReadStops (rest : List Command) (n : Nat) (p : MasterPort) : Prop :=
  p.msr.failed = true ∨ p.ReadReceived rest n ∧ rest.tail ≠ [] ∨
    p.ReadStopped rest n ∧ p.sdf = true

theorem stable_readStops (asked : ReadRest rest n) :
    Stable MasterPort.apply (ReadStops rest n) := by
  rintro p e (failed | ⟨received, more⟩ | ⟨stopped, ended⟩)
  · exact .inl (stable_failed p e failed)
  · rcases received.apply asked e with failed | received | stopped
    · exact .inl failed
    · exact .inr (.inl ⟨received, more⟩)
    · exact .inr (.inr stopped)
  · exact .inr (.inr ⟨stable_readStopped p e stopped, stable_sdf p e ended⟩)

variable {p : MasterPort} {stored : List UInt8}

theorem Reads.length_le (reads : p.Reads data rest n) (unfailed : p.msr.failed = false) :
    p.crossed.length ≤ n := by
  rcases reads with failed | ⟨_, _, _, _, none, _⟩ | ⟨_, _, _, _, none, _⟩ |
    ⟨_, ⟨left, _, owed⟩, _⟩ | ⟨_, all, _⟩ | ⟨_, all, _⟩
  · simp [unfailed] at failed
  · simp [none]
  · simp [none]
  · exact Nat.le_of_add_right_le owed.le
  · exact all.le
  · exact all.le

theorem Reads.stopped (reads : p.Reads data rest n) (unfailed : p.msr.failed = false)
    (ended : p.sdf = true) : p.ReadStopped rest n := by
  rcases reads with failed | ⟨_, _, _, _, _, sdf, _⟩ | ⟨_, _, _, _, _, sdf, _⟩ |
    ⟨_, _, _, _, _, sdf, _⟩ | ⟨_, _, _, _, sdf, _⟩ | stopped
  case inr.inr.inr.inr.inr => exact stopped
  case inl => simp [unfailed] at failed
  all_goals simp [ended] at sdf

theorem Reads.all (reads : p.Reads data rest n) (unfailed : p.msr.failed = false) (some : n ≠ 0)
    (all : p.crossed.length = n) : p.ReadReceived rest n ∨ p.ReadStopped rest n := by
  rcases reads with failed | ⟨_, _, _, _, none, _⟩ | ⟨_, _, _, _, none, _⟩ |
    ⟨_, ⟨left, _, owed⟩, _⟩ | received | stopped
  · simp [unfailed] at failed
  · exact absurd (by simpa [none] using all.symm) some
  · exact absurd (by simpa [none] using all.symm) some
  · omega
  · exact .inl received
  · exact .inr stopped

theorem Reads.send (reads : p.Reads data rest n) (men : p.mcrMen = true) (last : rest.tail = [])
    (command : Command) : (p.send command).Reads data (rest ++ [command]) n := by
  have behind (some : rest ≠ []) (queued : p.txFifo = rest.tail) :
      (p.send command).txFifo = (rest ++ [command]).tail := by
    rw [List.tail_append_of_ne_nil some, ← queued]
    rfl
  have other : rest.tail ≠ [.stop] := by simp [last]
  rcases reads with failed | ⟨awaiting, executing, mbf, queued, waits⟩ |
    ⟨awaiting, executing, mbf, queued, addresses⟩ | ⟨awaiting, executing, mbf, some, queued, sdf⟩ |
    ⟨awaiting, all, some, mbf, sdf, ⟨executing, queued⟩ | ⟨_, _, stop | off⟩⟩ |
    ⟨_, _, _, _, _, _, stop | off⟩
  · exact .inl failed
  · exact .inr (.inl ⟨awaiting, executing, mbf, congrArg (· ++ [command]) queued, waits⟩)
  · exact .inr (.inr (.inl
      ⟨awaiting, executing, mbf, congrArg (· ++ [command]) queued, addresses⟩))
  · exact .inr (.inr (.inr (.inl ⟨awaiting, executing, mbf, by simp, behind some queued, sdf⟩)))
  · exact .inr (.inr (.inr (.inr (.inl
      ⟨awaiting, all, by simp, mbf, sdf, .inl ⟨executing, behind some queued⟩⟩))))
  · exact absurd stop other
  · simp [men] at off
  · exact absurd stop other
  · simp [men] at off

theorem Delivers.send {command : Command} (delivers : p.Delivers stored)
    (other : ∀ data, command ≠ .transmit data) : (p.send command).Delivers stored where
  received := delivers.received
  off := delivers.off
  queued := by
    intro data member
    rcases List.mem_append.mp member with before | here
    · exact delivers.queued data before
    · exact other data (List.mem_singleton.mp here).symm
  executing := delivers.executing

theorem Delivers.take (delivers : p.Delivers stored) (some : p.rxFifo ≠ []) :
    p.takeReceived.Delivers (stored ++ [p.rxFifo.headD 0]) where
  received := received_take delivers.received some
  off := delivers.off
  queued := delivers.queued
  executing := delivers.executing

/-- The call of a read has written its START and `rest`. -/
structure ReadCalled (data : UInt8) (rest written : List Command) (n : Nat) (p : MasterPort) :
    Prop where
  reads : p.Reads data rest n
  delivers : p.Delivers []
  written : p.written = written
  men : p.mcrMen = true

theorem stable_readCalled {written : List Command} (asked : ReadRest rest n) :
    Stable MasterPort.apply (ReadCalled data rest written n) :=
  fun p e called => ⟨stable_reads asked p e called.reads, stable_delivers _ p e called.delivers,
    stable_written _ p e called.written, stable_mcrMen p e called.men⟩

theorem ReadCalled.send {written : List Command} {command : Command}
    (called : p.ReadCalled data rest written n) (last : rest.tail = [])
    (other : ∀ data, command ≠ .transmit data) :
    (p.send command).ReadCalled data (rest ++ [command]) (written ++ [command]) n where
  reads := called.reads.send called.men last command
  delivers := called.delivers.send other
  written := congrArg (· ++ [command]) called.written
  men := called.men

theorem Announced.readCalled {written : List Command} (announced : p.Announced written false)
    (men : p.mcrMen = true) (data : UInt8) (n : Nat) :
    (p.send (.start data)).ReadCalled data [] (written ++ [.start data]) n := by
  have queued : (p.send (.start data)).txFifo = [.start data] := by
    change p.txFifo ++ _ = _
    rw [announced.txFifo, List.nil_append]
  have delivers : p.Delivers [] :=
    ⟨announced.crossed.trans announced.rxFifo.symm, fun _ => ⟨announced.executing, announced.mbf⟩,
      by simp [announced.txFifo], by simp [announced.executing]⟩
  exact {
    reads := .inr (.inl ⟨announced.awaiting, announced.executing, announced.mbf, queued,
      announced.crossed, announced.sdf, men⟩)
    delivers := delivers.send (by simp)
    written := congrArg (· ++ [Command.start data]) announced.written
    men := men }

theorem Reads.of_mem {f : MasterPort → MasterPort} (reads : p.Reads data rest n)
    (listed : f ∈ [takeReceived, setTdie false, clearSdf]) : (f p).Reads data rest n := by
  simp only [List.mem_cons, List.not_mem_nil, or_false] at listed
  rcases listed with rfl | rfl | rfl <;>
    grind [Reads, ReadWaits, ReadAddresses, ReadReceives, ReadReceived, ReadStopped, takeReceived,
      setTdie, clearSdf]

theorem Reads.disable (reads : p.Reads data rest n) (some : n ≠ 0)
    (all : p.msr.failed = false → p.crossed.length = n) :
    (setMen false p).Reads data rest n := by
  grind [Reads, ReadWaits, ReadAddresses, ReadReceives, ReadReceived, ReadStopped, setMen]

theorem ReadStops.disable (stops : p.ReadStops rest n) : (setMen false p).ReadStops rest n := by
  grind [ReadStops, ReadReceived, ReadStopped, setMen]

theorem Delivers.of_mem {f : MasterPort → MasterPort} (delivers : p.Delivers stored)
    (listed : f ∈ [setTdie false, setMen false, clearSdf]) : (f p).Delivers stored := by
  simp only [List.mem_cons, List.not_mem_nil, or_false] at listed
  obtain ⟨received, off, queued, executing⟩ := delivers
  rcases listed with rfl | rfl | rfl <;> exact ⟨received, off, queued, executing⟩

end MasterPort

namespace Master
variable {O : Type} [Inhabited O] {s t : Master O} {data : UInt8} {rest written : List Command}
  {n : Nat} {buffer : Pointer O}

/-- How far the driver has come with a read: it waits for the first byte, is receiving, or has
stored the last byte. -/
def Progress (rest : List Command) (n : Nat) (s : Master O) : Prop :=
  s.buff.nextIndex = 0 ∧ s.state = .starting ∨
    0 < s.buff.nextIndex ∧ s.buff.nextIndex < n ∧ s.state = .transferring ∨
    s.buff.nextIndex = n ∧ (s.state = .transferComplete ∨
      s.state = .stopping ∧ s.port.ReadStops rest n ∨
      s.state = .stopped ∧ (s.port.msr.failed = true ∨ s.port.ReadStopped rest n))

variable [DecidableEq O] {memory : Memory O UInt8} {a : Step O}

/-- A read of `n` bytes into `buffer` has met no error. What it has stored is what has come. -/
structure Collects (data : UInt8) (rest written : List Command) (memory : Memory O UInt8)
    (buffer : Pointer O) (n : Nat) (s : Master O) : Prop where
  reading : s.ignoreTdf = true
  window : s.buff.buffer = buffer ∧ s.buff.size = n
  error : s.error = .ok
  stored : ∃ stored, s.memory = memory.storeAll buffer stored ∧
    stored.length = s.buff.nextIndex ∧ s.port.Delivers stored
  reads : s.port.Reads data rest n
  written : s.port.written = written

structure Reading (data : UInt8) (rest written : List Command) (memory : Memory O UInt8)
    (buffer : Pointer O) (n : Nat) (s : Master O) : Prop
    extends Collects data rest written memory buffer n s where
  progress : s.Progress rest n

theorem Collects.moved (state : MasterState) (asked : ReadRest rest n)
    (collects : s.Collects data rest written memory buffer n)
    (driver : t.toMasterDriver = { s.toMasterDriver with state := state })
    (moves : Drives (· ∈ [setTdie false, clearSdf]) s t) :
    t.Collects data rest written memory buffer n := by
  obtain ⟨stored, stores, count, delivers⟩ := collects.stored
  have kept : t.port.Delivers stored ∧ t.port.Reads data rest n ∧ t.port.written = written := by
    refine moves.keeps ((stable_delivers _).and ((stable_reads asked).and (stable_written _))) ?_
      ⟨delivers, collects.reads, collects.written⟩
    intro f listed p ⟨delivers, reads, same⟩
    simp only [List.mem_cons, List.not_mem_nil, or_false] at listed
    rcases listed with rfl | rfl
    · exact ⟨delivers.of_mem (by simp), reads.of_mem (by simp), same⟩
    · exact ⟨delivers.of_mem (by simp), reads.of_mem (by simp), same⟩
  exact {
    reading := by rw [driver]; exact collects.reading
    window := by rw [driver]; exact collects.window
    error := by rw [driver]; exact collects.error
    stored := ⟨stored, by rw [driver]; exact stores, by rw [driver]; exact count, kept.1⟩
    reads := kept.2.1
    written := kept.2.2 }

theorem Reading.moved (asked : ReadRest rest n)
    (reading : s.Reading data rest written memory buffer n)
    (driver : t.toMasterDriver = s.toMasterDriver) (moves : Drives (fun _ => False) s t) :
    t.Reading data rest written memory buffer n where
  toCollects := reading.toCollects.moved _ asked driver (moves.mono fun _ none => none.elim)
  progress := by
    have keeps {P : MasterPort → Prop} (stable : Stable MasterPort.apply P) (h : P s.port) :
        P t.port := moves.keeps stable (fun _ none => none.elim) h
    rw [Progress, driver]
    refine reading.progress.imp_right (Or.imp_right (And.imp_right (Or.imp_right ?_)))
    exact Or.imp (And.imp_right (keeps (stable_readStops asked)))
      (And.imp_right (keeps (stable_failed.or stable_readStopped)))

/-! ### One byte -/

theorem Collects.storeReceived (asked : ReadRest rest n)
    (collects : s.Collects data rest written memory buffer n) (room : s.buff.nextIndex < n)
    (waiting : s.port.rxFifo ≠ []) :
    s.storeReceived.Collects data rest written memory buffer n ∧
      s.storeReceived.buff.nextIndex = s.buff.nextIndex + 1 := by
  obtain ⟨stored, stores, count, delivers⟩ := collects.stored
  have passed : s.pass.Collects data rest written memory buffer n :=
    collects.moved s.state asked rfl (drives_pass _ s)
  have still : s.pass.port.rxFifo ≠ [] := pass_stable stable_received waiting
  have free : ¬ s.buff.full = true := by
    rw [I2CBuffer.full, beq_iff_eq, collects.window.2]
    exact room.ne
  let byte := s.pass.port.rxFifo.headD 0
  rw [storeReceived_room free]
  refine ⟨{
    reading := collects.reading
    window := collects.window
    error := collects.error
    stored := ⟨stored ++ [byte], ?_, ?_, (pass_stable (stable_delivers _) delivers).take still⟩
    reads := passed.reads.of_mem (f := takeReceived) (by simp)
    written := passed.written }, rfl⟩
  · rw [Memory.storeAll_concat, count, ← stores, ← collects.window.1]
    rfl
  · rw [List.length_append, List.length_singleton, count]
    rfl

theorem readStops_of_lone {p : MasterPort} (some : n ≠ 0) (reads : p.Reads data rest n)
    (all : p.msr.failed = false → p.crossed.length = n) (lone : p.txFifoCount = 1) :
    p.ReadStops rest n := by
  by_cases failed : p.msr.failed = true
  · exact .inl failed
  · have unfailed : p.msr.failed = false := by simpa using failed
    rcases reads.all unfailed some (all unfailed) with received | stopped
    · refine .inr (.inl ⟨received, fun none => ?_⟩)
      obtain ⟨_, _, _, _, _, ⟨_, queued⟩ | ⟨_, queued, _⟩⟩ := received
      · simp [txFifoCount, queued, none] at lone
      · simp [txFifoCount, queued] at lone
    · obtain ⟨_, _, _, _, _, queued, _⟩ := stopped
      simp [txFifoCount, queued] at lone

theorem Collects.sofar (collects : s.Collects data rest written memory buffer n)
    (unfailed : s.port.msr.failed = false) : s.buff.nextIndex + s.port.rxFifo.length ≤ n := by
  obtain ⟨stored, _, count, delivers⟩ := collects.stored
  have bound := collects.reads.length_le unfailed
  rwa [delivers.received, List.length_append, count] at bound

theorem Collects.all (collects : s.Collects data rest written memory buffer n)
    (last : s.buff.nextIndex = n) (unfailed : s.port.msr.failed = false) :
    s.port.crossed.length = n := by
  have sofar := collects.sofar unfailed
  obtain ⟨stored, _, count, delivers⟩ := collects.stored
  rw [delivers.received, List.length_append, count]
  omega

theorem Collects.disable (asked : ReadRest rest n) (some : n ≠ 0)
    (collects : s.Collects data rest written memory buffer n) (last : s.buff.nextIndex = n) :
    (s.access (setMen false)).Collects data rest written memory buffer n := by
  have passed : s.pass.Collects data rest written memory buffer n :=
    collects.moved s.state asked rfl (drives_pass _ s)
  obtain ⟨stored, stores, count, delivers⟩ := passed.stored
  exact {
    reading := passed.reading
    window := passed.window
    error := passed.error
    stored := ⟨stored, stores, count, delivers.of_mem (f := setMen false) (by simp)⟩
    reads := passed.reads.disable some (passed.all last)
    written := passed.written }

theorem Collects.finishReading (asked : ReadRest rest n) (some : n ≠ 0)
    (collects : s.Collects data rest written memory buffer n) (busy : s.state = .transferring)
    (begun : 0 < s.buff.nextIndex) (bounded : s.buff.nextIndex ≤ n) :
    s.finishReading.Reading data rest written memory buffer n := by
  unfold Master.finishReading
  dsimp only
  split
  · next finished =>
    have last : s.buff.nextIndex = n := by
      rw [← collects.window.2]
      simpa [I2CBuffer.finishedReading] using finished
    have passed : s.pass.Collects data rest written memory buffer n :=
      collects.moved s.state asked rfl (drives_pass _ s)
    have halted (state : MasterState) :
        ({ s.pass with state := state }.access (setMen false)).Collects data rest written memory
          buffer n := by
      have marked : ({ s.pass with state := state } : Master O).Collects data rest written memory
          buffer n := passed.moved state asked rfl .refl
      exact marked.disable asked some last
    by_cases lone : s.pass.port.txFifoCount = 1
    · rw [if_pos lone]
      have stops := readStops_of_lone some passed.reads (passed.all last) lone
      have kept : (s.pass.access (setMen false)).port.ReadStops rest n :=
        (stable_readStops asked).access (fun _ stops => stops.disable) stops
      exact ⟨halted _, .inr (.inr ⟨last, .inr (.inl ⟨rfl, kept⟩)⟩)⟩
    · rw [if_neg lone]
      exact ⟨halted _, .inr (.inr ⟨last, .inl rfl⟩)⟩
  · next more =>
    have other : s.buff.nextIndex ≠ n := by
      rw [← collects.window.2]
      simpa [I2CBuffer.finishedReading] using more
    exact ⟨collects, .inr (.inl ⟨begun, Nat.lt_of_le_of_ne bounded other, busy⟩)⟩

theorem Collects.serveReceive (asked : ReadRest rest n)
    (collects : s.Collects data rest written memory buffer n)
    (room : s.buff.nextIndex < n) (phase : s.buff.nextIndex ≠ 0 → s.state = .transferring)
    (msr : Msr) (received : msr.rdf = true) (waiting : s.port.rxFifo ≠ []) :
    (s.serveReceive msr).Reading data rest written memory buffer n := by
  have busy : s.beginTransfer.state = .transferring :=
    state_beginTransfer (or_iff_not_imp_left.mpr phase)
  have begun : s.beginTransfer.Collects data rest written memory buffer n ∧
      s.beginTransfer.buff = s.buff := by
    by_cases fresh : s.buff.nextIndex = 0
    · have driver := beginTransfer_driver fresh
      have kept : Drives (· ∈ [setTdie false, clearSdf]) s s.beginTransfer := by
        rw [Drives, port_beginTransfer]
        exact .refl
      rw [← collects.error] at driver
      exact ⟨collects.moved _ asked driver kept, by rw [driver]⟩
    · rw [beginTransfer_started fresh]
      exact ⟨collects, rfl⟩
  unfold Master.serveReceive
  rw [if_pos received, if_pos collects.reading, takeByte, if_pos busy]
  obtain ⟨taken, count⟩ := begun.1.storeReceived asked (by rwa [begun.2])
    (by rwa [port_beginTransfer])
  rw [begun.2] at count
  have still : s.beginTransfer.storeReceived.state = .transferring := by
    have same := state_takeByte s.beginTransfer
    rw [takeByte, if_pos busy] at same
    exact same.trans busy
  exact taken.finishReading asked (Nat.ne_of_gt (Nat.zero_lt_of_lt room)) still
    (by rw [count]; exact Nat.succ_pos _) (by rw [count]; exact room)

/-- An ISR call does not find the end of the transaction while bytes may be waiting that follow
the first one. -/
def StopInTime (s : Master O) (a : Step O) : Prop :=
  s.Interrupts a → (s.atSnapshot a).port.sdf = true →
    s.buff.nextIndex = 0 ∨ s.buff.nextIndex = s.buff.size

instance (s : Master O) (a : Step O) : Decidable (s.StopInTime a) := by
  unfold StopInTime Interrupts
  infer_instance

theorem Collects.serveStop (asked : ReadRest rest n)
    (collects : s.Collects data rest written memory buffer n) (msr : Msr) :
    (s.serveStop msr).Collects data rest written memory buffer n :=
  collects.moved _ asked (serveStop_state msr s) (drives_serveStop msr s)

theorem Reading.served_last (asked : ReadRest rest n)
    (reading : s.Reading data rest written memory buffer n)
    (unfailed : s.port.msr.failed = false) (last : s.buff.nextIndex = n) :
    let msr := s.port.msr
    ((s.serveStop msr).serveReceive msr).Reading data rest written memory buffer n := by
  intro msr
  have none : s.port.rxFifo = [] := by
    have sofar := reading.sofar unfailed
    refine List.eq_nil_of_length_eq_zero ?_
    omega
  have quiet : (s.serveStop msr).serveReceive msr = s.serveStop msr := by
    rw [Master.serveReceive, if_neg (by simp [msr, MasterPort.msr, none])]
  rw [quiet]
  by_cases sdf : msr.sdf = true
  · have driver := serveStop_state msr s
    rw [if_pos sdf] at driver
    have stopped : (s.serveStop msr).port.msr.failed = true ∨
        (s.serveStop msr).port.ReadStopped rest n := by
      refine (drives_serveStop msr s).keeps (stable_failed.or stable_readStopped) ?_
        (.inr (reading.reads.stopped unfailed sdf))
      intro f listed p
      simp only [List.mem_cons, List.not_mem_nil, or_false] at listed
      rcases listed with rfl | rfl <;> exact id
    refine ⟨reading.serveStop asked msr, .inr (.inr ⟨?_, .inr (.inr ⟨?_, stopped⟩)⟩)⟩
    · rw [driver]
      exact last
    · rw [driver]
  · rw [serveStop_quiet (by simpa using sdf)]
    exact reading

theorem Reading.served_more (asked : ReadRest rest n)
    (reading : s.Reading data rest written memory buffer n)
    (unfailed : s.port.msr.failed = false) (room : s.buff.nextIndex < n)
    (inTime : s.port.sdf = true → s.buff.nextIndex = 0) :
    let msr := s.port.msr
    ((s.serveStop msr).serveReceive msr).Reading data rest written memory buffer n := by
  intro msr
  by_cases received : msr.rdf = true
  · have waiting : s.port.rxFifo ≠ [] := by simpa [msr, MasterPort.msr] using received
    have cursor : (s.serveStop msr).buff.nextIndex = s.buff.nextIndex := by rw [serveStop_state]
    have phase (started : s.buff.nextIndex ≠ 0) : (s.serveStop msr).state = .transferring := by
      have running : ¬ msr.sdf = true := fun sdf => started (inTime sdf)
      rw [serveStop_state, if_neg running]
      rcases reading.progress with ⟨fresh, _⟩ | ⟨_, _, busy⟩ | ⟨all, _⟩
      · exact absurd fresh started
      · exact busy
      · exact absurd all room.ne
    exact (reading.serveStop asked msr).serveReceive asked (by rwa [cursor]) (by rwa [cursor]) msr
      received (received_serveStop msr waiting)
  · have running : ¬ msr.sdf = true := by
      intro sdf
      have none : s.port.rxFifo = [] := by simpa [msr, MasterPort.msr] using received
      obtain ⟨stored, _, count, delivers⟩ := reading.stored
      obtain ⟨_, all, _⟩ := reading.reads.stopped unfailed sdf
      rw [delivers.received, none, List.append_nil, count] at all
      exact room.ne all
    rw [Master.serveReceive, if_neg received, serveStop_quiet (by simpa using running)]
    exact reading

theorem Reading.isr (asked : ReadRest rest n)
    (reading : s.Reading data rest written memory buffer n)
    (unfailed : s.pass.port.msr.failed = false)
    (inTime : s.pass.port.sdf = true → s.buff.nextIndex = 0 ∨ s.buff.nextIndex = n) :
    s.isr.Reading data rest written memory buffer n := by
  have looked : s.pass.Reading data rest written memory buffer n :=
    reading.moved asked rfl (drives_pass _ s)
  rw [isr_reading reading.reading, serveErrors_quiet unfailed]
  by_cases last : s.buff.nextIndex = n
  · exact looked.served_last asked unfailed last
  · have room : s.buff.nextIndex < n := by
      have sofar : s.buff.nextIndex + s.pass.port.rxFifo.length ≤ n := looked.sofar unfailed
      omega
    exact looked.served_more asked unfailed room fun sdf => (inTime sdf).resolve_right last

theorem Reading.step (asked : ReadRest rest n)
    (reading : s.Reading data rest written memory buffer n)
    (between : a.action.betweenCalls = true) (unfailing : s.Unfailing a)
    (inTime : s.StopInTime a) : (s.step a).Reading data rest written memory buffer n := by
  by_cases interrupts : s.Interrupts a
  · rw [step_interrupts interrupts]
    have scheduled : (s.schedule a.meanwhile).Reading data rest written memory buffer n :=
      reading.moved asked rfl .refl
    refine scheduled.isr asked (unfailing interrupts) fun sdf => ?_
    have position := inTime interrupts sdf
    rwa [reading.window.2] at position
  · exact reading.moved asked (step_driver (Action.isCall_of_betweenCalls between) interrupts)
      (drives_step _ between interrupts)

/-- The words of a read after its START. -/
def readWords (numBytes : Nat) (sendStop : Bool) : List Command :=
  .receive (UInt8.ofNat (numBytes - 1)) :: closingWords sendStop

theorem readRest_readWords {numBytes : Nat} (some : numBytes ≠ 0)
    (short : numBytes ≤ maxMasterReadLength) (sendStop : Bool) :
    ReadRest (readWords numBytes sendStop) numBytes := by
  refine .inr ⟨_, _, rfl, ?_, ?_⟩
  · have less : numBytes - 1 < 256 := by
      have : maxMasterReadLength = 256 := rfl
      omega
    rw [UInt8.toNat_ofNat_of_lt' less]
    omega
  · cases sendStop with
    | false => exact .inl rfl
    | true => exact .inr rfl

theorem reading_readAsync (ready : s.state.ready = true) (blank : s.port.Blank)
    (address : UInt8) (buffer : Pointer O) {numBytes : Nat} (some : numBytes ≠ 0)
    (short : numBytes ≤ maxMasterReadLength) (sendStop : Bool) :
    let data := ((address &&& 0x7F) <<< 1) ||| masterRead
    (s.readAsync address buffer numBytes sendStop).Reading data (readWords numBytes sendStop)
      (s.port.written ++ .start data :: readWords numBytes sendStop) s.memory buffer
      numBytes := by
  intro data
  obtain ⟨t, quiet, written, driver, call⟩ :=
    readAsync_blank ready blank address buffer some short sendStop
  obtain ⟨p, announced, men, sent⟩ := sendStart_announced quiet address masterRead
  let left := UInt8.ofNat (numBytes - 1)
  have whole := readRest_readWords some short
  have some' : ReadRest [Command.receive left] numBytes := whole false
  let begun := (t.sendStart address masterRead).initialiseBuff buffer numBytes
  let asks := begun.access (send (.receive left))
  have started : begun.port.ReadCalled data [] (s.port.written ++ [.start data]) numBytes := by
    rw [← written]
    exact sent ▸ announced.readCalled men data numBytes
  have asked : asks.port.ReadCalled data [.receive left]
      (s.port.written ++ [.start data] ++ [.receive left]) numBytes :=
    (pass_stable (stable_readCalled (.inl rfl)) started).send rfl (by simp)
  have fields (u : Master O) (same : u.toMasterDriver = begun.toMasterDriver)
      (called : u.port.ReadCalled data (readWords numBytes sendStop)
        (s.port.written ++ .start data :: readWords numBytes sendStop) numBytes) :
      u.Reading data (readWords numBytes sendStop)
        (s.port.written ++ .start data :: readWords numBytes sendStop) s.memory buffer
        numBytes := by
    have memory : (t.sendStart address masterRead).memory = s.memory := by rw [driver]
    refine ⟨⟨?_, ?_, ?_, ⟨[], ?_, ?_, called.delivers⟩, called.reads, called.written⟩,
      .inl ⟨?_, ?_⟩⟩
    · rw [same]
      exact congrArg MasterDriver.ignoreTdf driver
    · rw [same]
      exact ⟨rfl, rfl⟩
    · rw [same]
      exact congrArg MasterDriver.error driver
    · rw [same]
      exact memory
    · rw [same]
      rfl
    · rw [same]
      rfl
    · rw [same]
      exact congrArg MasterDriver.state driver
  rw [call]
  cases sendStop with
  | false =>
      refine fields asks rfl ?_
      rw [List.append_assoc] at asked
      exact asked
  | true =>
      refine fields (asks.access (send .stop)) rfl ?_
      have stops := (pass_stable (stable_readCalled some') asked).send rfl
        (show ∀ data, Command.stop ≠ .transmit data by simp)
      rw [List.append_assoc, List.append_assoc] at stops
      exact stops

/-- Once everything has been served the read is complete. -/
theorem Reading.complete (some : n ≠ 0) (wanted : rest ≠ [])
    (reading : s.Reading data rest written memory buffer n) (served : s.port.AllServed) :
    s.port.crossed.length = n ∧ s.memory.slice buffer n = s.port.crossed ∧
      s.getBytesTransferred = n ∧ s.finished = true ∧ s.hasError = false := by
  obtain ⟨unfailed, noStop, empty⟩ := served.flags
  obtain ⟨stored, stores, count, delivers⟩ := reading.stored
  have received : s.port.crossed = stored := by
    rw [delivers.received, empty, List.append_nil]
  have all : s.port.crossed.length = n := by
    rcases reading.reads with failed | ⟨_, _, _, queued, _⟩ | ⟨_, _, _, queued, _⟩ |
      ⟨_, ⟨left, executing, _⟩, _⟩ | ⟨_, all, _⟩ | ⟨_, all, _⟩
    · simp [unfailed] at failed
    · simp [served.txFifo] at queued
    · exact absurd (queued.symm.trans served.txFifo) wanted
    · simp [served.executing] at executing
    · exact all
    · exact all
  have last : s.buff.nextIndex = n := by rw [← count, ← received, all]
  refine ⟨all, ?_, last, ?_, by simp [hasError, reading.error]⟩
  · rw [stores, Memory.slice_storeAll_self _ _ _ _ (by rw [← received, all]), received,
      List.drop_eq_nil_of_le (by rw [Memory.length_slice, ← received, all]), List.append_nil]
  · rcases reading.progress with
      ⟨fresh, _⟩ | ⟨_, more, _⟩ | ⟨_, complete | ⟨_, stops⟩ | ⟨stopped, ended⟩⟩
    · exact absurd (last.symm.trans fresh) some
    · exact absurd last more.ne
    · simp [finished, complete]
    · rcases stops with failed | ⟨⟨_, _, _, _, _, ⟨_, queued⟩ | ⟨executing, _⟩⟩, more⟩ | ⟨_, sdf⟩
      · simp [unfailed] at failed
      · exact absurd (queued.symm.trans served.txFifo) more
      · simp [served.executing] at executing
      · simp [noStop] at sdf
    · obtain ⟨_, _, _, free, _⟩ := ended.resolve_left (by simp [unfailed])
      simp [finished, stopped, free, MasterState.ready, MasterState.code]

/-- A read from a ready driver on a quiet port whose ISR never finds the end of the transaction
together with bytes that follow the first one: it asks for `numBytes` bytes, stores nothing but
them, and once all interrupts have been served has stored them all. -/
theorem read_delivers (s : Master O) (address : UInt8) (buffer : Pointer O) (numBytes : Nat)
    (sendStop : Bool) (meanwhile : List (List BusEvent)) (steps : List (Step O))
    (finished : s.finished = true) (blank : s.port.Blank) (some : numBytes ≠ 0)
    (short : numBytes ≤ maxMasterReadLength)
    (between : ∀ a ∈ steps, a.action.betweenCalls = true) :
    let call := { action := .readAsync address buffer numBytes sendStop, meanwhile := meanwhile }
    let data := ((address &&& 0x7F) <<< 1) ||| masterRead
    let t := run step s (call :: steps)
    Along step (fun u a => u.Unfailing a ∧ u.StopInTime a) (s.step call) steps →
      t.port.written = s.port.written ++ .start data :: readWords numBytes sendStop ∧
      (∃ stored, t.memory = s.memory.storeAll buffer stored ∧ stored.length ≤ numBytes ∧
        stored <+: t.port.crossed) ∧
      (t.port.AllServed →
        t.port.crossed.length = numBytes ∧ t.memory.slice buffer numBytes = t.port.crossed ∧
          t.getBytesTransferred = numBytes ∧ t.finished = true ∧ t.hasError = false) := by
  intro call data t admissible
  let rest := readWords numBytes sendStop
  have asked : ReadRest rest numBytes := readRest_readWords some short sendStop
  have called : (s.step call).Reading data rest (s.port.written ++ .start data :: rest) s.memory
      buffer numBytes :=
    reading_readAsync (s := s.schedule meanwhile) (ready_of_finished finished) blank address buffer
      some short sendStop
  have reading : t.Reading data rest (s.port.written ++ .start data :: rest) s.memory buffer
      numBytes := by
    change (run step (s.step call) steps).Reading _ _ _ _ _ _
    exact run_invariant_of_kind
      (fun _ _ reading between ok => reading.step asked between ok.1 ok.2) called between admissible
  refine ⟨reading.written, ?_, reading.complete some (by simp [rest, readWords])⟩
  obtain ⟨stored, stores, count, delivers⟩ := reading.stored
  refine ⟨stored, stores, ?_, by rw [delivers.received]; exact List.prefix_append ..⟩
  rw [count]
  rcases reading.progress with ⟨fresh, _⟩ | ⟨_, more, _⟩ | ⟨last, _⟩ <;> omega

end Master

/-! ### A read of two bytes -/

def readTwoBytes : Master.Step Bool :=
  (Master.Action.readAsync 0x2D ⟨true, 0⟩ 2 true).alone

/-- The ISR stores the first byte, the slave sends the second one, and then the rest happens. -/
def twoBytesSent (rest : List (Master.Action Bool)) : List (Master.Step Bool) :=
  (.hardware .fetch :: .hardware .ack :: .hardware .fetch :: .hardware (.receiveByte 0x22) ::
    .isr :: .hardware (.receiveByte 0x33) :: rest).map Master.Action.alone

/-- The STOP is over when the ISR handles the second byte. -/
theorem second_byte_lost :
    let steps := twoBytesSent [.hardware .fetch, .hardware .stopDone, .isr]
    let t := run Master.step listeningMaster (readTwoBytes :: steps)
    (listeningMaster.finished = true ∧ listeningMaster.port.Blank) ∧
      Along Master.step Master.Unfailing (listeningMaster.step readTwoBytes) steps ∧
      t.port.AllServed ∧ t.port.crossed = [0x22, 0x33] ∧ t.finished = true ∧
      t.hasError = false ∧ t.getBytesTransferred = 1 ∧
      t.memory.slice ⟨true, 0⟩ 2 = [0x22, 0x11] :=
  ⟨⟨rfl, rfl, rfl, rfl, rfl⟩, by decide, ⟨rfl, ⟨rfl, rfl, rfl, rfl, rfl, rfl⟩, rfl, rfl, rfl⟩,
    rfl, rfl, rfl, rfl, rfl⟩

/-- The ISR handles the second byte while the STOP is still to come. -/
theorem two_bytes_delivered :
    let t := run Master.step listeningMaster (readTwoBytes :: twoBytesSent
      [.isr, .hardware .fetch, .hardware .stopDone, .isr])
    t.memory.slice ⟨true, 0⟩ 2 = t.port.crossed ∧ t.getBytesTransferred = 2 := by
  have delivered := Master.read_delivers listeningMaster 0x2D ⟨true, 0⟩ 2 true []
    (twoBytesSent [.isr, .hardware .fetch, .hardware .stopDone, .isr]) rfl ⟨rfl, rfl, rfl, rfl⟩
    (by decide) (by decide) (by decide) (by decide)
  obtain ⟨_, _, complete⟩ := delivered
  obtain ⟨_, all, count, _⟩ := complete ⟨rfl, ⟨rfl, rfl, rfl, rfl, rfl, rfl⟩, rfl, rfl, rfl⟩
  exact ⟨all, count⟩

end TeensyI2C
