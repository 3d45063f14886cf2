import TeensyI2C.Lib.EventMachine
import TeensyI2C.Slave.Driver

/-!
What the hardware may show the interrupt service routine. A master frame is a run of calls, one
for each byte, and its end may be reported on its own or together with the flags of the next
frame. `BusPhase.next` accepts every status word that the port can produce in a given phase of
the bus, bit errors and unfinished frames included.
-/

namespace TeensyI2C
open EventMachine

/-- The bytes that a sequence of events put on the bus. -/
def busBytes {O : Type} (events : List (Event O)) : List UInt8 :=
  events.filterMap fun
    | .stdr data => some data
    | _ => none

@[simp] theorem busBytes_append {O : Type} (xs ys : List (Event O)) :
    busBytes (xs ++ ys) = busBytes xs ++ busBytes ys :=
  List.filterMap_append

@[simp] theorem busBytes_accesses {O : Type} (as : List (Access O)) :
    busBytes (as.map Event.access) = [] := by
  induction as with
  | nil => rfl
  | cons a as ih => exact ih

/-! ### Frames -/

/-- One frame as the master sees it: a write of at least one byte, or a read of `count`. -/
inductive Transfer where
  | write (first : UInt8) (rest : List UInt8)
  | read (count : Nat)
deriving DecidableEq, Repr

/-- How late the service routine finds the STOP or repeated START of a frame. -/
inductive Ending where
  | prompt
  | withAddress
  | withData
deriving DecidableEq, Repr

structure Frame where
  sasr : UInt16
  transfer : Transfer
  stop : Bool
  ending : Ending
deriving DecidableEq, Repr

namespace Frame

def endFlag (f : Frame) : SlaveStatus :=
  { rsf := !f.stop, sdf := f.stop }

/-- One call for each byte. A read asks for one byte more than the master takes. The flags of
`opening` are found together with the first byte. -/
def dataCalls (opening : SlaveStatus) (f : Frame) : List SlaveStatus :=
  match f.transfer with
  | .write first rest =>
      { opening with rdf := true, srdr := ⟨true, first⟩ } ::
        rest.map fun data => { rdf := true, srdr := ⟨false, data⟩ }
  | .read count => { opening with tdf := true } :: List.replicate count { tdf := true }

def callsFrom (opening : SlaveStatus) (f : Frame) : List Frame → List SlaveStatus
  | [] => f.dataCalls opening ++ [f.endFlag]
  | g :: gs =>
      f.dataCalls opening ++
        match f.ending with
        | .prompt => f.endFlag :: callsFrom { avf := true, sasr := g.sasr } g gs
        | .withAddress => { f.endFlag with avf := true, sasr := g.sasr } :: callsFrom {} g gs
        | .withData => callsFrom { f.endFlag with avf := true, sasr := g.sasr } g gs

/-- The service routine's calls for a sequence of complete frames. -/
def calls : List Frame → List SlaveStatus
  | [] => []
  | f :: fs => f.callsFrom { avf := true, sasr := f.sasr } fs

end Frame

/-! ### Legal status words -/

namespace SlaveStatus

def frameEnded (h : SlaveStatus) : Bool := h.rsf || h.sdf

def hasData (h : SlaveStatus) : Bool := h.rdf || h.tdf

end SlaveStatus

/-- What has been shown of the bus so far. -/
inductive BusPhase where
  /-- No frame under way. The address of the next one may have been read already. -/
  | quiet (addressed : Bool)
  | writing
  | reading
deriving DecidableEq, Repr

namespace BusPhase

/-- The first byte of a frame comes with or after its address, and carries SOF if it is
received. RDF and TDF belong to opposite directions and exclude each other. -/
def enter (addressed : Bool) (h : SlaveStatus) : Option BusPhase :=
  match h.rdf, h.tdf with
  | true, true => none
  | true, false => if h.srdr.sof && (addressed || h.avf) then some writing else none
  | false, true => if addressed || h.avf then some reading else none
  | false, false => some (quiet (addressed || h.avf))

/-- Inside a frame there is no new address and data flows in one direction. -/
def continueWriting (h : SlaveStatus) : Option BusPhase :=
  if h.avf || h.tdf || (h.rdf && h.srdr.sof) then none else some writing

def continueReading (h : SlaveStatus) : Option BusPhase :=
  if h.avf || h.rdf then none else some reading

def serve (h : SlaveStatus) : BusPhase → Option BusPhase
  | quiet addressed => enter addressed h
  | writing => if h.frameEnded then enter false h else continueWriting h
  | reading => if h.frameEnded then enter false h else continueReading h

/-- A bit error cuts the frame under way short: the rest of it raises no data flags. A bit error
that comes with the end of a frame is that frame's. -/
def next (p : BusPhase) (h : SlaveStatus) : Option BusPhase :=
  if h.bef && !h.frameEnded then (p.serve h).map fun _ => quiet false else p.serve h

end BusPhase

/-! ### Complete frames are legal -/

namespace Frame
open BusPhase

theorem phaseAfter_write_rest (rest : List UInt8) :
    phaseAfter BusPhase.next writing
      (rest.map fun data => { rdf := true, srdr := ⟨false, data⟩ }) = some writing := by
  induction rest with
  | nil => rfl
  | cons data rest ih => exact ih

theorem phaseAfter_read_rest (count : Nat) :
    phaseAfter BusPhase.next reading (List.replicate count { tdf := true }) = some reading := by
  induction count with
  | zero => rfl
  | succ count ih => exact ih

/-- A phase in which a frame opens with these flags. -/
def Opens (p : BusPhase) (opening : SlaveStatus) : Prop :=
  opening.bef = false ∧
    ((∃ addressed, p = quiet addressed ∧ (addressed || opening.avf) = true) ∨
      ((p = writing ∨ p = reading) ∧ opening.frameEnded = true ∧ opening.avf = true))

def phase : Transfer → BusPhase
  | .write _ _ => writing
  | .read _ => reading

theorem next_of_opens {p : BusPhase} {h : SlaveStatus} (opens : Opens p h)
    (one : h.rdf = !h.tdf) (sof : h.rdf = true → h.srdr.sof = true) :
    p.next h = some (if h.rdf then writing else reading) := by
  have entered : ∀ addressed, (addressed || h.avf) = true →
      enter addressed h = some (if h.rdf then writing else reading) := by
    intro addressed known
    cases ht : h.tdf <;> simp_all [enter]
  obtain ⟨bef, ⟨addressed, rfl, known⟩ | ⟨inside, ended, avf⟩⟩ := opens
  · simpa [BusPhase.next, BusPhase.serve, bef] using entered addressed known
  · rcases inside with rfl | rfl <;>
      simpa [BusPhase.next, BusPhase.serve, bef, ended] using entered false (by simp [avf])

theorem phaseAfter_dataCalls {p : BusPhase} {opening : SlaveStatus} (opens : Opens p opening)
    (rdf : opening.rdf = false) (tdf : opening.tdf = false) (f : Frame) :
    phaseAfter BusPhase.next p (f.dataCalls opening) = some (phase f.transfer) := by
  obtain ⟨sasr, transfer, stop, ending⟩ := f
  cases transfer with
  | write first rest =>
      have first_call := next_of_opens (h := { opening with rdf := true, srdr := ⟨true, first⟩ })
        opens (by simp [tdf]) (fun _ => rfl)
      simp only [dataCalls, phaseAfter, first_call]
      exact phaseAfter_write_rest rest
  | read count =>
      have first_call := next_of_opens (h := { opening with tdf := true })
        opens (by simp [rdf]) (by simp [rdf])
      simp only [rdf] at first_call
      simp only [dataCalls, phaseAfter, rdf, first_call]
      exact phaseAfter_read_rest count

theorem next_endFlag (f : Frame) (avf : Bool) (sasr : UInt16) :
    (phase f.transfer).next { f.endFlag with avf := avf, sasr := sasr } =
      some (quiet avf) := by
  cases f.transfer <;> cases hs : f.stop <;> simp [phase, endFlag, hs] <;> rfl

theorem phaseAfter_callsFrom {p : BusPhase} {opening : SlaveStatus} (opens : Opens p opening)
    (rdf : opening.rdf = false) (tdf : opening.tdf = false) (f : Frame) (fs : List Frame) :
    phaseAfter BusPhase.next p (f.callsFrom opening fs) = some (quiet false) := by
  induction fs generalizing f p opening with
  | nil =>
      rw [callsFrom, phaseAfter_append, phaseAfter_dataCalls opens rdf tdf, Option.bind_some]
      exact congrArg (Option.bind · _) (next_endFlag f false 0)
  | cons g gs ih =>
      rw [callsFrom, phaseAfter_append, phaseAfter_dataCalls opens rdf tdf, Option.bind_some]
      cases f.ending with
      | prompt =>
          refine (congrArg (Option.bind · _) (next_endFlag f false 0)).trans ?_
          exact ih ⟨rfl, .inl ⟨false, rfl, rfl⟩⟩ rfl rfl g
      | withAddress =>
          refine (congrArg (Option.bind · _) (next_endFlag f true g.sasr)).trans ?_
          exact ih ⟨rfl, .inl ⟨true, rfl, rfl⟩⟩ rfl rfl g
      | withData =>
          refine ih ⟨rfl, .inr ⟨?_, ?_, rfl⟩⟩ rfl rfl g
          · cases f.transfer <;> simp [phase]
          · cases hs : f.stop <;> simp [endFlag, SlaveStatus.frameEnded, hs]

/-- Complete frames are among the legal sequences of status words, however late their ends are
reported. -/
theorem phaseAfter_calls (fs : List Frame) :
    phaseAfter BusPhase.next (quiet false) (calls fs) = some (quiet false) := by
  cases fs with
  | nil => rfl
  | cons f fs => exact phaseAfter_callsFrom ⟨rfl, .inl ⟨false, rfl, rfl⟩⟩ rfl rfl f fs

theorem hasData_of_head_calls (fs : List Frame) :
    ∀ h ∈ (calls fs).head?, h.hasData = true := by
  cases fs with
  | nil => simp [calls]
  | cons f fs =>
      cases fs <;> cases ht : f.transfer <;>
        simp [calls, callsFrom, dataCalls, ht, SlaveStatus.hasData]

end Frame

/-! ### The service routine on these words -/

namespace Slave
variable {O σ : Type} [Inhabited O] [DecidableEq O]

/-- Flags found together have the effect of the same flags found one after another. -/
theorem run_dataCalls (s : Slave O σ) {opening : SlaveStatus} (f : Frame)
    (rdf : opening.rdf = false) (tdf : opening.tdf = false) (bef : opening.bef = false) :
    run isr s (f.dataCalls opening) =
      run isr (serveEnd opening (s.serveAddress opening)) (f.dataCalls {}) := by
  cases ht : f.transfer with
  | write first rest =>
      simp [Frame.dataCalls, ht, isr, serveAddress, serveEnd, serveReceive, serveTransmit,
        serveBitError, tdf, bef]
  | read count =>
      simp [Frame.dataCalls, ht, isr, serveAddress, serveEnd, serveReceive, serveTransmit,
        serveBitError, rdf, bef]

omit [Inhabited O] [DecidableEq O] in
theorem serveAddress_eq [Inhabited O] (s : Slave O σ) (h : SlaveStatus) :
    ∃ address, s.serveAddress h = { s with addressCalled := address } := by
  unfold serveAddress
  split
  · exact ⟨_, rfl⟩
  · exact ⟨s.addressCalled, rfl⟩

theorem isr_endFlag (s : Slave O σ) (f : Frame) : s.isr f.endFlag = s.endOfFrame := by
  cases hs : f.stop <;>
    simp [isr, Frame.endFlag, hs, serveAddress, serveEnd, serveReceive, serveTransmit,
      serveBitError]

theorem isr_endFlag_withAddress (s : Slave O σ) (f : Frame) (sasr : UInt16) :
    s.isr { f.endFlag with avf := true, sasr := sasr } =
      (serveAddress { avf := true, sasr := sasr } s).endOfFrame := by
  cases hs : f.stop <;>
    simp [isr, Frame.endFlag, hs, serveAddress, serveEnd, serveReceive, serveTransmit,
      serveBitError]

end Slave
end TeensyI2C
