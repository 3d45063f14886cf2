import TeensyI2C.Master.Effects
import TeensyI2C.Slave.BufferUpdates

/-!
Where the master stores what it receives. Whatever the hardware does, and in whatever order calls
and interrupts come, a byte goes into the buffer of the call that `buff` was set up for.
-/

namespace TeensyI2C
open ObjectMemory Interference EventMachine

namespace Master
variable {O : Type}

/-- The bytes that have been stored, each with the number of its call. -/
def stores (trace : List (Nat × MasterEvent O)) : List (Nat × Pointer O × UInt8) :=
  trace.filterMap fun e =>
    match e.2 with
    | .store p data => some (e.1, p, data)
    | .transmit _ => none

/-- A store that comes before another. The calls store one after another, and each of them at
ascending offsets. -/
def StoredBefore (a b : Nat × Pointer O × UInt8) : Prop :=
  a.1 < b.1 ∨ a.1 = b.1 ∧ a.2.1.offset < b.2.1.offset

theorem stores_append (xs ys : List (Nat × MasterEvent O)) :
    stores (xs ++ ys) = stores xs ++ stores ys :=
  List.filterMap_append

/-- The buffer that a call lends to the driver. -/
def Action.lends : Action O → Option (Extent O)
  | .writeAsync _ buffer numBytes _ | .readAsync _ buffer numBytes _ => some ⟨buffer, numBytes⟩
  | .begin _ | .end' | .isr | .hardware _ => none

/-- The buffers of a run. That of call 1 comes first. -/
def loans (steps : List (Step O)) : List (Extent O) :=
  steps.filterMap (·.action.lends)

theorem loans_append (steps steps' : List (Step O)) :
    loans (steps ++ steps') = loans steps ++ loans steps' :=
  List.filterMap_append

variable [Inhabited O] {s t u : Master O}

/-! ### One ISR call -/

theorem trace_fill (fifoSpace : Nat) (s : Master O) :
    stores (s.fill fifoSpace).trace = stores s.trace ∧
      (s.fill fifoSpace).calls = s.calls ∧ (s.fill fifoSpace).owner = s.owner := by
  induction fifoSpace generalizing s with
  | zero => exact ⟨rfl, rfl, rfl⟩
  | succ fifoSpace ih =>
      unfold fill
      split
      · obtain ⟨trace, calls, owner⟩ := ih s.transmitNext
        refine ⟨trace.trans ?_, calls, owner⟩
        exact (stores_append _ _).trans (List.append_nil _)
      · exact ⟨rfl, rfl, rfl⟩

theorem trace_serveTransmit (msr : Msr) (s : Master O) :
    stores (s.serveTransmit msr).trace = stores s.trace ∧
      (s.serveTransmit msr).calls = s.calls ∧ (s.serveTransmit msr).owner = s.owner := by
  have begun (s : Master O) : s.beginTransfer.trace = s.trace ∧ s.beginTransfer.calls = s.calls ∧
      s.beginTransfer.owner = s.owner := by
    unfold beginTransfer
    split <;> exact ⟨rfl, rfl, rfl⟩
  have finished (s : Master O) : s.finishWriting.trace = s.trace ∧
      s.finishWriting.calls = s.calls ∧ s.finishWriting.owner = s.owner := by
    unfold finishWriting
    dsimp only
    split
    · split
      · split <;> exact ⟨rfl, rfl, rfl⟩
      · exact ⟨rfl, rfl, rfl⟩
    · exact ⟨rfl, rfl, rfl⟩
  obtain ⟨trace, calls, owner⟩ := begun s
  unfold serveTransmit transferOut
  split
  · split
    · obtain ⟨trace', calls', owner'⟩ := finished s.beginTransfer.refill
      obtain ⟨filled, calls'', owner''⟩ := trace_fill
        (numFifos - s.beginTransfer.pass.port.txFifoCount) s.beginTransfer.pass
      rw [trace', calls', owner']
      refine ⟨filled.trans ?_, calls''.trans calls, owner''.trans owner⟩
      exact congrArg stores trace
    · rw [trace]
      exact ⟨rfl, calls, owner⟩
  · exact ⟨rfl, rfl, rfl⟩

variable [DecidableEq O]

/-- From `s` to `t` the driver stores no more than one byte, where the cursor of `s` stands, and
goes past it. -/
structure StoresAtCursor (s t : Master O) : Prop where
  calls : t.calls = s.calls
  owner : t.owner = s.owner
  stored : (t.memory = s.memory ∧ stores t.trace = stores s.trace) ∨
    s.buff.full = false ∧ s.buff.nextIndex < t.buff.nextIndex ∧
      ∃ data, t.memory = s.memory.store s.buff.cursor data ∧
        stores t.trace = stores s.trace ++ [(s.owner, s.buff.cursor, data)]

theorem storesAtCursor_takeByte (s : Master O) : StoresAtCursor s s.takeByte := by
  unfold takeByte
  split
  · cases full : s.buff.full with
    | true =>
        have dropped : s.storeReceived = { s.pass with bus.device := s.pass.port.takeReceived } :=
          if_pos full
        rw [dropped]
        exact ⟨rfl, rfl, .inl ⟨rfl, rfl⟩⟩
    | false =>
        rw [storeReceived_room (by simp [full])]
        exact ⟨rfl, rfl, .inr ⟨full, Nat.lt_succ_self _, _, rfl, stores_append _ _⟩⟩
  · exact ⟨rfl, rfl, .inl ⟨rfl, rfl⟩⟩

theorem StoresAtCursor.between {u v : Master O} (stores : StoresAtCursor s t)
    {e e' : I2CError} {state state' : MasterState}
    (before : s.toMasterDriver = { u.toMasterDriver with error := e, state := state })
    (after : v.toMasterDriver = { t.toMasterDriver with error := e', state := state' }) :
    StoresAtCursor u v := by
  obtain ⟨calls, owner, stored⟩ := stores
  rw [before] at calls owner stored
  refine ⟨?_, ?_, ?_⟩ <;> rw [after]
  · exact calls
  · exact owner
  · exact stored

theorem storesAtCursor_serveReceive (msr : Msr) (s : Master O) :
    StoresAtCursor s (s.serveReceive msr) := by
  have none {t : Master O} (state : MasterState)
      (driver : t.toMasterDriver = { s.toMasterDriver with state := state }) :
      StoresAtCursor s t := by
    refine ⟨?_, ?_, .inl ⟨?_, ?_⟩⟩ <;> rw [driver]
  unfold serveReceive
  split
  · split
    · have begun : ∃ e state, s.beginTransfer.toMasterDriver =
          { s.toMasterDriver with error := e, state := state } := by
        unfold beginTransfer
        split
        · exact ⟨.ok, .transferring, rfl⟩
        · exact ⟨s.error, s.state, rfl⟩
      have finished (t : Master O) : ∃ state, t.finishReading.toMasterDriver =
          { t.toMasterDriver with error := t.error, state := state } := by
        unfold finishReading
        split
        · exact ⟨_, rfl⟩
        · exact ⟨t.state, rfl⟩
      obtain ⟨e, state, before⟩ := begun
      obtain ⟨state', after⟩ := finished s.beginTransfer.takeByte
      exact (storesAtCursor_takeByte s.beginTransfer).between before after
    · exact none .stopping (abort_driver _)
  · exact none s.state rfl

theorem storesAtCursor_isr (s : Master O) : StoresAtCursor s s.isr := by
  let msr := s.pass.port.msr
  let ended := (s.pass.serveErrors msr).serveStop msr
  obtain ⟨e, state, driver, -⟩ := endings_driver msr s.pass
  obtain ⟨calls, owner, stored⟩ := (storesAtCursor_serveReceive msr ended).between driver
    (v := ended.serveReceive msr) rfl
  obtain ⟨trace, calls', owner'⟩ := trace_serveTransmit msr (ended.serveReceive msr)
  have memory : s.isr.memory = (ended.serveReceive msr).memory := memory_serveTransmit msr _
  have forward : (ended.serveReceive msr).buff.nextIndex ≤ s.isr.buff.nextIndex :=
    (keepsBuffer_continues (continues_serveTransmit msr _)).forward
  refine ⟨calls'.trans calls, owner'.trans owner, ?_⟩
  rcases stored with ⟨same, none⟩ | ⟨room, past, data, byte, now⟩
  · exact .inl ⟨memory.trans same, trace.trans none⟩
  · exact .inr ⟨room, Nat.lt_of_lt_of_le past forward, data, memory.trans byte, trace.trans now⟩

/-! ### Runs -/

/-- What has been stored lies in the buffers that have been lent, and `buff` is the one of its
owner. -/
structure Confined (memory : Memory O UInt8) (lent : List (Extent O)) (s : Master O) : Prop where
  calls : s.calls = lent.length
  bounded : s.buff.Bounded
  owner : s.buff.size = 0 ∧ s.owner = 0 ∨ 0 < s.owner ∧
    lent[s.owner - 1]? = some ⟨s.buff.buffer, s.buff.size⟩
  inside : ∀ c p data, (c, p, data) ∈ stores s.trace →
    0 < c ∧ ∃ w, lent[c - 1]? = some w ∧ w.Contains p
  behind : ∀ a ∈ stores s.trace,
    a.1 < s.owner ∨ a.1 = s.owner ∧ a.2.1.offset < s.buff.cursor.offset
  ordered : (stores s.trace).Pairwise StoredBefore
  memory : s.memory = (stores s.trace).foldl (fun m a => m.store a.2.1 a.2.2) memory

variable {memory : Memory O UInt8} {lent : List (Extent O)} {a : Step O}

theorem Confined.cursor (confined : s.Confined memory lent) (room : s.buff.full = false) :
    0 < s.owner ∧ ∃ w, lent[s.owner - 1]? = some w ∧ w.Contains s.buff.cursor := by
  have below : s.buff.nextIndex < s.buff.size := confined.bounded.advance room
  rcases confined.owner with empty | ⟨positive, own⟩
  · omega
  · exact ⟨positive, _, own, Replaced.contains_cursor rfl below⟩

theorem Confined.isr (confined : s.Confined memory lent) : s.isr.Confined memory lent := by
  obtain ⟨calls, owner, stored⟩ := storesAtCursor_isr s
  have kept := keepsBuffer_isr s
  have own : s.isr.buff.size = 0 ∧ s.isr.owner = 0 ∨ 0 < s.isr.owner ∧
      lent[s.isr.owner - 1]? = some ⟨s.isr.buff.buffer, s.isr.buff.size⟩ := by
    rw [owner, kept.window.1, kept.window.2]
    exact confined.owner
  have cursor : s.isr.buff.cursor.offset = s.buff.buffer.offset + s.isr.buff.nextIndex :=
    congrArg (·.offset + _) kept.window.1
  have bounded := kept.bounded confined.bounded
  rcases stored with ⟨same, trace⟩ | ⟨room, past, data, byte, trace⟩
  · refine ⟨calls.trans confined.calls, bounded, own, ?_, ?_, ?_, ?_⟩ <;> rw [trace]
    · exact confined.inside
    · intro a member
      rw [owner, cursor]
      refine (confined.behind a member).imp_right fun ⟨mine, before⟩ => ⟨mine, ?_⟩
      exact Nat.lt_of_lt_of_le before (Nat.add_le_add_left kept.forward _)
    · exact confined.ordered
    · exact same.trans confined.memory
  · refine ⟨calls.trans confined.calls, bounded, own, ?_, ?_, ?_, ?_⟩ <;> rw [trace]
    · intro c p data' member
      rcases List.mem_append.mp member with before | now
      · exact confined.inside c p data' before
      · obtain ⟨rfl, rfl, rfl⟩ := List.mem_singleton.mp now
        exact confined.cursor room
    · intro a member
      rw [owner, cursor]
      have next : s.buff.cursor.offset < s.buff.buffer.offset + s.isr.buff.nextIndex :=
        Nat.add_lt_add_left past _
      rcases List.mem_append.mp member with before | now
      · exact (confined.behind a before).imp_right fun ⟨mine, early⟩ => ⟨mine, early.trans next⟩
      · obtain rfl := List.mem_singleton.mp now
        exact .inr ⟨rfl, next⟩
    · rw [List.pairwise_append]
      refine ⟨confined.ordered, List.pairwise_singleton _ _, ?_⟩
      intro a member b now
      obtain rfl := List.mem_singleton.mp now
      exact confined.behind a member
    · rw [byte, confined.memory, List.foldl_append]
      rfl

/-! ### Calls -/

/-- A call stores nothing. It sets up the buffer or leaves it alone. -/
structure Borrows (w : Extent O) (s t : Master O) : Prop where
  calls : t.calls = s.calls + 1
  memory : t.memory = s.memory
  trace : t.trace = s.trace
  buff : (t.buff = s.buff ∧ t.owner = s.owner) ∨
    t.buff = s.buff.initialise w.buffer w.size ∧ t.owner = s.calls + 1

omit [DecidableEq O] in
theorem borrows_start (w : Extent O) (address direction : UInt8) :
    Borrows w s ({ s with calls := s.calls + 1 }.start address direction).1 := by
  obtain ⟨e, state, ignore, driver, -⟩ :=
    start_driver { s with calls := s.calls + 1 } address direction
  refine ⟨?_, ?_, ?_, .inl ⟨?_, ?_⟩⟩ <;> rw [driver]

omit [DecidableEq O] in
theorem Borrows.initialise {w : Extent O} (begun : Borrows w s t) :
    Borrows w s (t.initialiseBuff w.buffer w.size) := by
  refine ⟨begun.calls, begun.memory, begun.trace, .inr ⟨?_, begun.calls⟩⟩
  rfl

omit [DecidableEq O] in
theorem borrows_writeAsync (address : UInt8) (buffer : Pointer O) (numBytes : Nat)
    (sendStop : Bool) :
    Borrows ⟨buffer, numBytes⟩ s (s.writeAsync address buffer numBytes sendStop) := by
  have begun := borrows_start (s := s) ⟨buffer, numBytes⟩ address masterWrite
  unfold writeAsync
  dsimp only
  split
  · exact begun
  · split
    · exact ⟨begun.calls, begun.memory, begun.trace, begun.buff⟩
    · have lent := begun.initialise
      exact ⟨lent.calls, lent.memory, lent.trace, lent.buff⟩

omit [DecidableEq O] in
theorem borrows_readAsync (address : UInt8) (buffer : Pointer O) (numBytes : Nat)
    (sendStop : Bool) :
    Borrows ⟨buffer, numBytes⟩ s (s.readAsync address buffer numBytes sendStop) := by
  have begun := borrows_start (s := s) ⟨buffer, numBytes⟩ address masterRead
  unfold readAsync
  dsimp only
  split
  · exact ⟨rfl, rfl, rfl, .inl ⟨rfl, rfl⟩⟩
  · split
    · exact begun
    · split
      · exact ⟨begun.calls, begun.memory, begun.trace, begun.buff⟩
      · have lent := begun.initialise
        split <;> exact ⟨lent.calls, lent.memory, lent.trace, lent.buff⟩

omit [Inhabited O] [DecidableEq O] in
theorem getElem?_lent {w x : Extent O} {i : Nat} (found : lent[i]? = some x) :
    (lent ++ [w])[i]? = some x := by
  rw [List.getElem?_append_left (List.getElem?_eq_some_iff.mp found).1]
  exact found

/-- What has been stored before a call stays where it is, and none of it belongs to the new
buffer. -/
theorem Confined.call {w : Extent O} (confined : s.Confined memory lent) (borrows : Borrows w s t) :
    t.Confined memory (lent ++ [w]) := by
  have known : s.owner ≤ s.calls := by
    rcases confined.owner with ⟨-, none⟩ | ⟨positive, own⟩
    · omega
    · have := (List.getElem?_eq_some_iff.mp own).1
      have := confined.calls
      omega
  have inside : ∀ c p data, (c, p, data) ∈ stores t.trace →
      0 < c ∧ ∃ x, (lent ++ [w])[c - 1]? = some x ∧ x.Contains p := by
    intro c p data member
    rw [borrows.trace] at member
    obtain ⟨positive, x, own, contains⟩ := confined.inside c p data member
    exact ⟨positive, x, getElem?_lent own, contains⟩
  have calls : t.calls = (lent ++ [w]).length := by
    rw [borrows.calls, confined.calls, List.length_append, List.length_singleton]
  have same : t.memory = (stores t.trace).foldl (fun m a => m.store a.2.1 a.2.2) memory := by
    rw [borrows.memory, borrows.trace]
    exact confined.memory
  have ordered : (stores t.trace).Pairwise StoredBefore := by
    rw [borrows.trace]
    exact confined.ordered
  rcases borrows.buff with ⟨buff, owner⟩ | ⟨buff, owner⟩
  · refine ⟨calls, ?_, ?_, inside, ?_, ordered, same⟩
    · rw [buff]
      exact confined.bounded
    · rw [buff, owner]
      exact confined.owner.imp_right fun ⟨positive, own⟩ => ⟨positive, getElem?_lent own⟩
    · rw [borrows.trace, buff, owner]
      exact confined.behind
  · refine ⟨calls, ?_, ?_, inside, ?_, ordered, same⟩
    · rw [buff]
      exact I2CBuffer.bounded_initialise _ _ _
    · rw [buff, owner, confined.calls]
      exact .inr ⟨Nat.succ_pos _, List.getElem?_concat_length⟩
    · rw [borrows.trace, owner]
      intro a member
      have := (confined.behind a member).elim Nat.le_of_lt (fun h => Nat.le_of_eq h.1)
      exact .inl (by omega)

theorem Confined.other (confined : s.Confined memory lent)
    (driver : t.toMasterDriver = s.toMasterDriver) : t.Confined memory lent := by
  obtain ⟨calls, bounded, owner, inside, behind, ordered, same⟩ := confined
  refine ⟨?_, ?_, ?_, ?_, ?_, ?_, ?_⟩ <;> rw [driver]
  · exact calls
  · exact bounded
  · exact owner
  · exact inside
  · exact behind
  · exact ordered
  · exact same

theorem confined_step (confined : s.Confined memory lent) (a : Step O) :
    (s.step a).Confined memory (lent ++ loans [a]) := by
  have waiting : (s.schedule a.meanwhile).Confined memory lent := confined.other rfl
  have none (other : a.action.lends = none) : lent ++ loans [a] = lent := by
    simp [loans, other]
  have one {w : Extent O} (lends : a.action.lends = some w) : lent ++ loans [a] = lent ++ [w] := by
    simp [loans, lends]
  refine step_cases (motive := fun t => t.Confined memory (lent ++ loans [a])) s a ?begins ?ends
    ?writes ?reads ?interrupts ?masked ?moves
  case begins =>
    intro frequency kind
    rw [none (by rw [kind]; rfl)]
    exact waiting.other rfl
  case ends =>
    intro kind
    rw [none (by rw [kind]; rfl)]
    exact waiting.other rfl
  case writes =>
    intro address buffer numBytes sendStop kind
    rw [one (by rw [kind]; rfl)]
    exact waiting.call (borrows_writeAsync address buffer numBytes sendStop)
  case reads =>
    intro address buffer numBytes sendStop kind
    rw [one (by rw [kind]; rfl)]
    exact waiting.call (borrows_readAsync address buffer numBytes sendStop)
  case interrupts =>
    intro interrupts
    rw [none (by rw [interrupts.1]; rfl)]
    exact waiting.isr
  case masked =>
    intro kind _
    rw [none (by rw [kind]; rfl)]
    exact waiting
  case moves =>
    intro e kind
    rw [none (by rw [kind]; rfl)]
    exact confined.other rfl

theorem confined_run (confined : s.Confined memory lent) (steps : List (Step O)) :
    (run step s steps).Confined memory (lent ++ loans steps) := by
  induction steps generalizing s lent with
  | nil => simpa [loans] using confined
  | cons a steps ih =>
      have rest := ih (confined_step confined a)
      rw [List.append_assoc, ← loans_append] at rest
      exact rest

omit [Inhabited O] in
theorem load_stored (m : Memory O UInt8) (stored : List (Nat × Pointer O × UInt8))
    {p : Pointer O} (other : ∀ a ∈ stored, p ≠ a.2.1) :
    (stored.foldl (fun m a => m.store a.2.1 a.2.2) m).load p = m.load p := by
  induction stored generalizing m with
  | nil => rfl
  | cons a stored ih =>
      rw [List.foldl_cons, ih _ fun b later => other b (List.mem_cons_of_mem a later)]
      exact Memory.load_store_ne m _ (other a List.mem_cons_self)

/-- In every history of calls, interrupts and hardware events, a byte that the driver stores lies
in the buffer of the call that it is stored for. The calls store one after another, each of them
at ascending offsets and so in no cell twice, and memory is otherwise as it was. -/
theorem stores_confined (memory : Memory O UInt8) (steps : List (Step O)) :
    let s := run step (fresh memory) steps
    (∀ c p data, (c, p, data) ∈ stores s.trace →
      0 < c ∧ ∃ w, (loans steps)[c - 1]? = some w ∧ w.Contains p) ∧
    (stores s.trace).Pairwise StoredBefore ∧
    s.memory = (stores s.trace).foldl (fun m a => m.store a.2.1 a.2.2) memory ∧
    ∀ p, (∀ w ∈ loans steps, ¬ w.Contains p) → s.memory.load p = memory.load p := by
  intro s
  have initial : (fresh memory).Confined memory [] :=
    ⟨rfl, Nat.le_refl 0, .inl ⟨rfl, rfl⟩, by simp [fresh, stores], by simp [fresh, stores],
      .nil, rfl⟩
  have confined : s.Confined memory (loans steps) := confined_run initial steps
  refine ⟨confined.inside, confined.ordered, confined.memory, ?_⟩
  intro p outside
  rw [confined.memory]
  apply load_stored
  rintro ⟨c, q, data⟩ member rfl
  obtain ⟨-, w, own, contains⟩ := confined.inside c p data member
  exact outside w (List.mem_of_getElem? own) contains

/-! ### Between two calls -/

/-- A write does not take the byte that it should not have got. -/
theorem memory_isr_writing (writing : s.ignoreTdf = false) : s.isr.memory = s.memory := by
  let msr := s.pass.port.msr
  let ended := (s.pass.serveErrors msr).serveStop msr
  obtain ⟨ignoreTdf, memory, -⟩ := endings_kept msr s.pass
  obtain ⟨state, driver⟩ := serveReceive_writing (s := ended) msr (ignoreTdf.trans writing)
  have received : (ended.serveReceive msr).memory = ended.memory := by rw [driver]
  exact (memory_serveTransmit msr _).trans (received.trans memory)

/-- From `s` to `t` the driver stores nothing outside the object of its buffer, and nothing at all
in a write. -/
structure SparesMemory (s t : Master O) : Prop where
  ignoreTdf : t.ignoreTdf = s.ignoreTdf
  object : t.buff.buffer.object = s.buff.buffer.object
  writing : s.ignoreTdf = false → t.memory = s.memory
  others : ∀ o, o ≠ s.buff.buffer.object → t.memory o = s.memory o

omit [DecidableEq O] in
theorem SparesMemory.trans (first : SparesMemory s t) (second : SparesMemory t u) :
    SparesMemory s u where
  ignoreTdf := second.ignoreTdf.trans first.ignoreTdf
  object := second.object.trans first.object
  writing writing :=
    (second.writing (first.ignoreTdf.trans writing)).trans (first.writing writing)
  others o other := (second.others o (first.object ▸ other)).trans (first.others o other)

theorem sparesMemory_step {a : Step O} (between : a.action.betweenCalls = true) :
    SparesMemory s (s.step a) := by
  by_cases interrupts : s.Interrupts a
  · let scheduled := s.schedule a.meanwhile
    have kept := keepsBuffer_isr scheduled
    rw [step_interrupts interrupts]
    refine ⟨kept.ignoreTdf, congrArg Pointer.object kept.window.1,
      memory_isr_writing (s := scheduled), fun o other => ?_⟩
    rcases memory_isr scheduled with same | ⟨data, stored⟩
    · rw [same]
      rfl
    · rw [stored]
      exact Memory.store_other _ _ _ other
  · have driver := step_driver (Action.isCall_of_betweenCalls between) interrupts
    refine ⟨?_, ?_, fun _ => ?_, fun _ _ => ?_⟩ <;> rw [driver]

theorem sparesMemory_run {steps : List (Step O)}
    (between : ∀ a ∈ steps, a.action.betweenCalls = true) : SparesMemory s (run step s steps) :=
  run_invariant_of_kind' (I := SparesMemory s)
    (fun t a spares between => spares.trans (sparesMemory_step (s := t) (a := a) between))
    ⟨rfl, rfl, fun _ => rfl, fun _ _ => rfl⟩ between

end Master
end TeensyI2C
