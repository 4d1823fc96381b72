import HttpNetworkRelay.Asyncio.Pipe
import HttpNetworkRelay.Asyncio.Trace
import HttpNetworkRelay.Relay.RecvBuffer

/-!
# The byte stream of a TcpConnection

What `recv` gives its thread of what `fill_recv` is given. `Justified` says that each way out of
`recv` has its cause. The cause of an `EOFError` is missing where `fill_recv` sets the event for an
empty payload while the reader waits: `eof_only_after_drop` shows that this is the only case. The
conservation of the bytes, `recv_conserves`, rests on `Guarded`, what the `recv_buffer_lock`
guarantees the reader at each of its points.
-/

namespace HttpNetworkRelay

open Asyncio Python

variable {s s' : RecvState} {e : RecvEvent}

/-! ## Why a recv ends -/

/-- A thread that reads asks for at least one byte. -/
def AsksBytes : RecvEvent → Bool
  | .calls size => 1 ≤ size
  | _ => true

/-- `fill_recv` does not set the event of an active connection with nothing in its buffer while the
reader is between the end of its first `with` and the end of its `wait`. -/
def SignalsData (s : RecvState) : RecvEvent → Bool
  | .loop => !(s.loop = .setting && s.recv_buffer = [] && !s.closed && s.recv.awaits)
  | _ => true

namespace RecvState

/-- A reader has a reason to wake up. -/
def Cause (s : RecvState) : Prop := s.recv_buffer ≠ [] ∨ s.closed = true

/-- What a `recv` ends with has its cause. -/
def Justifies (s : RecvState) : RecvResult → Prop
  | .returned data => data ≠ []
  | .eofError => s.closed = true
  | .timeoutError => True

/-- What the reader may rely on at each point of `recv`. -/
def Grounds (s : RecvState) : RecvPoint → Prop
  | .idle => True
  | .acquiring size | .measuring size | .testing size | .clearing size => 1 ≤ size
  | .releasing size | .calling size | .waiting size _ => 1 ≤ size ∧ (s.isSet = true → s.Cause)
  | .reacquiring size | .remeasuring size => 1 ≤ size ∧ s.Cause
  | .slicing size => 1 ≤ size ∧ s.recv_buffer ≠ []
  | .storing _ result => result ≠ []
  | .leaving result | .finished result => s.Justifies result

/-- Each way out of `recv` has its cause, at the end and on the way to it. -/
structure Justified (s : RecvState) : Prop where
  waking : s.loop = .waking → s.closed = true
  grounds : s.Grounds s.recv

/-- A step of the event loop: bytes stay, a closed connection stays closed, and the event of a
waiting reader is not set without cause. -/
theorem Grounds.loop_step {point : RecvPoint} (hG : s.Grounds point)
    (hbuffer : s.recv_buffer ≠ [] → s'.recv_buffer ≠ [])
    (hclosed : s.closed = true → s'.closed = true)
    (hset : point.awaits = true → s'.isSet = true → s.isSet = true ∨ s'.Cause) :
    s'.Grounds point := by
  have hcause : s.Cause → s'.Cause := Or.imp hbuffer hclosed
  have hwait : point.awaits = true → (s.isSet = true → s.Cause) → s'.isSet = true → s'.Cause := by
    intro hawaits hwas hset'
    rcases hset hawaits hset' with hbefore | hnow
    · exact hcause (hwas hbefore)
    · exact hnow
  cases point with
  | idle => trivial
  | acquiring | measuring | testing | clearing => exact hG
  | releasing | calling | waiting => exact ⟨hG.1, hwait rfl hG.2⟩
  | reacquiring | remeasuring => exact ⟨hG.1, hcause hG.2⟩
  | slicing => exact ⟨hG.1, hbuffer hG.2⟩
  | storing => exact hG
  | leaving result | finished result =>
    cases result with
    | returned data => exact hG
    | eofError => exact hclosed hG
    | timeoutError => trivial

/-- A slice of at least one byte of a buffer with bytes in it is not empty. -/
theorem take_sliceEnd_ne_nil {size : ℤ} {content : Bytes} (hsize : 1 ≤ size)
    (hcontent : content ≠ []) : content.take (sliceEnd size content) ≠ [] := by
  have hpos : sliceEnd size content ≠ 0 := by
    unfold sliceEnd
    split_ifs <;> omega
  simp [hpos, hcontent]

/-- Where at least one byte is asked for, the slice has that many. -/
theorem sliceEnd_eq {size : ℤ} (hsize : 1 ≤ size) (content : Bytes) :
    sliceEnd size content = size.toNat := by
  unfold sliceEnd
  rw [if_pos (by omega)]

/-- A change of the connection does not drop it. -/
@[simp] theorem modify_closed (f : TcpConnection → TcpConnection) :
    (s.modify f).closed = s.closed := rfl

/-- Clearing the event clears it. -/
theorem modify_isSet_of_clear {f : TcpConnection → TcpConnection}
    (hf : ∀ x, (f x).event.flag = false) : (s.modify f).isSet = false := by
  simp only [isSet, modify_connection]
  cases s.connection with
  | none => rfl
  | some connection => exact hf connection

namespace Justified

/-- A connection that has just been opened justifies its points. -/
theorem opened (relay : NetworkRelay) (t : Task) (request : ConnectionRequest) (ws : AgentSocket)
    (c : ConnectionId) : Justified (openedRecv relay t request ws c) where
  waking hwaking := by cases hwaking
  grounds := trivial

/-- A step of the reader. -/
theorem reader_step (hJ : Justified s) (h : RecvRule s .reader s') : Justified s' := by
  have hG := hJ.grounds
  cases h with
  | acquires hpc | findsNothing hpc | findsOpen hpc =>
    rw [hpc] at hG
    exact ⟨hJ.waking, hG⟩
  | findsData hpc hdata =>
    rw [hpc] at hG
    exact ⟨hJ.waking, hG, fun _ => .inl hdata⟩
  | findsClosed _ hclosed => exact ⟨hJ.waking, hclosed⟩
  | clears hpc =>
    -- The event is not set, so there is nothing to account for.
    rw [hpc] at hG
    refine ⟨hJ.waking, hG, fun hset => ?_⟩
    have hset : (s.modify fun connection =>
        { connection with event := connection.event.clear }).isSet = true := hset
    rw [modify_isSet_of_clear fun _ => rfl] at hset
    cases hset
  | releases hpc | waits hpc =>
    rw [hpc] at hG
    exact ⟨hJ.waking, hG⟩
  | wakes hpc hset =>
    rw [hpc] at hG
    obtain ⟨hsize, hcause⟩ := hG
    rw [if_neg (by omega)]
    exact ⟨hJ.waking, hsize, hcause hset⟩
  | reacquires hpc =>
    rw [hpc] at hG
    exact ⟨hJ.waking, hG⟩
  | wokenEmpty hpc hempty =>
    rw [hpc] at hG
    exact ⟨hJ.waking, hG.2.resolve_left (not_not.mpr hempty)⟩
  | wokenWithData hpc hdata =>
    rw [hpc] at hG
    exact ⟨hJ.waking, hG.1, hdata⟩
  | slices hpc =>
    rw [hpc] at hG
    exact ⟨hJ.waking, take_sliceEnd_ne_nil hG.1 hG.2⟩
  | stores hpc | leaves hpc =>
    rw [hpc] at hG
    exact ⟨hJ.waking, hG⟩

/-- A step of the event loop. -/
theorem loop_step (hJ : Justified s) (hok : SignalsData s .loop = true)
    (h : RecvRule s .loop s') : Justified s' := by
  have hG := hJ.grounds
  cases h with
  | fillAcquires | fillReleases =>
    exact ⟨fun hwaking => (by cases hwaking), hG.loop_step id id fun _ hset => .inl hset⟩
  | «extends» =>
    refine ⟨fun hwaking => (by cases hwaking), hG.loop_step (fun hdata => ?_) id fun _ hset => ?_⟩
    · show (s.modify _).recv_buffer ≠ []
      revert hdata
      simp only [recv_buffer, modify_connection]
      cases s.connection <;> simp +contextual
    · exact .inl ((modify_isSet (by intro; rfl)).symm.trans hset)
  | sets hpc =>
    have hbuffer : (s.modify fun connection =>
        { connection with event := connection.event.set }).recv_buffer = s.recv_buffer :=
      modify_recv_buffer (by intro; rfl)
    refine ⟨fun hwaking => (by cases hwaking),
      hG.loop_step (fun hdata => ?_) id fun hawaits _ => .inr ?_⟩
    · exact fun hnil => hdata (hbuffer.symm.trans hnil)
    · -- By the condition, the event is set for what is in the buffer, or for a drop.
      by_cases hempty : s.recv_buffer = []
      · right
        show s.closed = true
        simpa [SignalsData, hpc, hempty, hawaits] using hok
      · left
        exact fun hnil => hempty (hbuffer.symm.trans hnil)
  | removes =>
    have hclosed : ∀ point, RecvState.closed { s with
        relay := { s.relay with
          active_relayed_connections :=
            s.relay.active_relayed_connections.filter (· ≠ s.connection_id) }
        loop := point } = true := by
      intro point
      simp [RecvState.closed]
    exact ⟨fun _ => hclosed _, hG.loop_step id (fun _ => hclosed _) fun _ hset => .inl hset⟩
  | wakesReaders hpc =>
    have hclosed := hJ.waking hpc
    have hbuffer : (s.modify TcpConnection.wake_readers).recv_buffer = s.recv_buffer :=
      modify_recv_buffer (by intro; rfl)
    refine ⟨fun hwaking => (by cases hwaking),
      hG.loop_step (fun hdata => ?_) id fun _ _ => .inr (.inr hclosed)⟩
    exact fun hnil => hdata (hbuffer.symm.trans hnil)

/-- A step that meets the condition justifies the points. -/
theorem preserved (hJ : Justified s) (hasks : AsksBytes e = true) (hok : SignalsData s e = true)
    (h : RecvRule s e s') : Justified s' := by
  cases e with
  | calls size =>
    cases h
    have hsize : 1 ≤ size := by simpa [AsksBytes] using hasks
    exact ⟨hJ.waking, hsize⟩
  | settimeout timeout =>
    cases h
    exact ⟨hJ.waking, hJ.grounds.loop_step id id fun _ hset => .inl hset⟩
  | reader => exact hJ.reader_step h
  | timesOut =>
    cases h
    exact ⟨hJ.waking, trivial⟩
  | fills data | drops =>
    cases h
    exact ⟨fun hwaking => (by cases hwaking), hJ.grounds.loop_step id id fun _ hset => .inl hset⟩
  | loop => exact hJ.loop_step hok h

end Justified

/-- The end of the stream is reported for a dropped connection only: a `recv` on an active one
returns at least one byte or raises `TimeoutError`. -/
structure ReportsEnd (s : RecvState) : Prop where
  eof : s.recv = .leaving .eofError ∨ s.recv = .finished .eofError → s.closed = true
  active : s.closed = false → ∀ result, s.recv = .finished result →
    result = .timeoutError ∨ ∃ data, data ≠ [] ∧ result = .returned data

/-- Where the points are justified, the end is reported after a drop only. -/
theorem Justified.reportsEnd (hJ : Justified s) : s.ReportsEnd where
  eof hpc := by
    have hG := hJ.grounds
    rcases hpc with hpc | hpc <;> rwa [hpc] at hG
  active hopen result hpc := by
    have hG := hJ.grounds
    rw [hpc] at hG
    cases result with
    | returned data => exact .inr ⟨data, hG, rfl⟩
    | eofError => exact absurd (hopen.symm.trans hG) (by simp)
    | timeoutError => exact .inl rfl

end RecvState

/-- In every run in which `fill_recv` sets the event of an active connection for an empty buffer
only when no reader waits, `EOFError` is raised after a drop only. -/
theorem eof_only_after_drop {relay : NetworkRelay} {t : Task} {request : ConnectionRequest}
    {ws : AgentSocket} {c : ConnectionId}
    (h : Reaches recvStep (fun s e => AsksBytes e = true ∧ SignalsData s e = true)
      (openedRecv relay t request ws c) s) : s.ReportsEnd := by
  have hJ : s.Justified :=
    h.invariant (.opened relay t request ws c) fun s e s' _ hok hstep hJ =>
      hJ.preserved hok.1 hok.2 (recvStep_rule hstep)
  exact hJ.reportsEnd

/-- The reader waits, gets a byte, waits again, and the connection is dropped. -/
def droppedRecv : RecvState :=
  (runWith recvStep (fun s e => AsksBytes e = true ∧ SignalsData s e = true) someRecv
    ([.calls 1] ++ List.replicate 6 .reader ++ [.fills [7]] ++ List.replicate 4 .loop ++
      List.replicate 6 .reader ++ [.calls 1] ++ List.replicate 6 .reader ++
        [.drops, .loop, .loop] ++
      List.replicate 4 .reader)).get (by decide +kernel)

/-- The `recv` reports the end after the drop. -/
theorem droppedRecv_eof : droppedRecv.recv = .finished .eofError ∧ droppedRecv.ReportsEnd :=
  ⟨by decide +kernel, eof_only_after_drop (Reaches.init.of_runWith (Option.some_get _).symm)⟩

/-- The agent sends an empty payload while the reader waits. -/
def emptyFill : List RecvEvent :=
  [.calls 1] ++ List.replicate 6 .reader ++ [.fills []] ++ List.replicate 4 .loop ++
    List.replicate 4 .reader

/-- The reader reports the end of the stream of an active connection. -/
theorem emptyFill_eof :
    ¬ ∀ relay t request ws c s,
      Reaches recvStep (fun _ e => AsksBytes e = true) (openedRecv relay t request ws c) s →
        s.ReportsEnd := by
  intro h
  obtain ⟨s, hs⟩ : ∃ s, runWith recvStep (fun _ e => AsksBytes e = true) someRecv emptyFill =
      some s := Option.isSome_iff_exists.mp (by decide +kernel)
  have hends := h _ _ _ _ _ s (Reaches.init.of_runWith hs)
  have hstate : ((runWith recvStep (fun _ e => AsksBytes e = true) someRecv emptyFill).map fun s =>
      (s.recv, s.closed)) = some (.finished .eofError, false) := by
    decide +kernel
  rw [hs] at hstate
  simp only [Option.map_some, Option.some.injEq, Prod.mk.injEq] at hstate
  obtain ⟨hpc, hopen⟩ := hstate
  exact absurd (hopen.symm.trans (hends.eof (.inr hpc))) (by simp)

/-! ## The bytes -/

/-- What a run shows of the bytes of a connection. -/
inductive BufferShown
  /-- `fill_recv(data)` is called. -/
  | given (data : Bytes)
  /-- A `recv(size)` or `read(size)` takes the bytes it is about to return. -/
  | taken (size : ℤ) (data : Bytes)
  deriving DecidableEq, Repr

namespace BufferShown

/-- The bytes that a step shows to have been received. -/
def given? : BufferShown → Option Bytes
  | .given data => some data
  | _ => none

/-- The bytes that a step shows to have been returned, and how many were asked for. -/
def taken? : BufferShown → Option (ℤ × Bytes)
  | .taken size data => some (size, data)
  | _ => none

end BufferShown

/-- The payloads given to `fill_recv`, one after the other. -/
def givenBytes (l : List BufferShown) : Bytes := (l.filterMap (·.given?)).flatten

/-- The results of the reads, one after the other, in the order in which their bytes were taken. -/
def takenBytes (l : List BufferShown) : Bytes := ((l.filterMap (·.taken?)).map (·.2)).flatten

/-- The result of the last read that took its bytes. -/
def lastTaken (l : List BufferShown) : Option Bytes :=
  (l.filterMap (·.taken?)).getLast?.map (·.2)

/-- What the reader takes in its next step. -/
def RecvPoint.takes : RecvPoint → List BufferShown
  | .storing size result => [.taken size result]
  | _ => []

namespace RecvState

/-- What an event shows. -/
def shows (s : RecvState) : RecvEvent → List BufferShown
  | .fills data => [.given data]
  | .reader => s.recv.takes
  | _ => []

/-- The payload of a `fill_recv` that has not extended the buffer yet. -/
def pending (s : RecvState) : Bytes :=
  match s.loop with
  | .acquiring data | .extending data => data
  | _ => []

/-- The bytes of the connection as a pipe, which a drop does not close. -/
@[simp] def pipe (s : RecvState) (l : List BufferShown) : Pipe UInt8 where
  sent := givenBytes l
  inFlight := s.pending
  buffered := s.recv_buffer
  delivered := takenBytes l
  isOpen := True

/-- A step that shows nothing and leaves the bytes alone. -/
theorem pipe_stays {l : List BufferShown} (hshows : s.shows e = [])
    (hbuffer : s'.recv_buffer = s.recv_buffer) (hpending : s'.pending = s.pending) :
    Pipe.Moves (s.pipe l) (s'.pipe (l ++ s.shows e)) := by
  rw [hshows, List.append_nil]
  exact .nothing rfl hpending hbuffer rfl

/-- A step of the reader either takes what it is about to return or leaves the bytes alone. -/
theorem reader_pipe (hG : Guarded s) {l : List BufferShown} (h : RecvRule s .reader s') :
    Pipe.Moves (s.pipe l) (s'.pipe (l ++ s.shows .reader)) := by
  have hstays : s.recv.takes = [] → s'.recv_buffer = s.recv_buffer → s'.loop = s.loop →
      Pipe.Moves (s.pipe l) (s'.pipe (l ++ s.shows .reader)) := by
    intro htakes hbuffer hloop
    exact pipe_stays htakes hbuffer (by unfold pending; rw [hloop])
  cases h with
  | acquires hpc | findsNothing hpc | findsData hpc | findsClosed hpc | findsOpen hpc | releases hpc
  | waits hpc | wakes hpc | reacquires hpc | wokenEmpty hpc | wokenWithData hpc | slices hpc
  | leaves hpc => exact hstays (by rw [hpc]; rfl) rfl rfl
  | clears hpc => exact hstays (by rw [hpc]; rfl) (modify_recv_buffer (by intro; rfl)) rfl
  | @stores size result hpc =>
    obtain ⟨connection, hconnection⟩ := Option.isSome_iff_exists.mp hG.made
    have hresult : result = s.recv_buffer.take (sliceEnd size s.recv_buffer) := by
      have hH := hG.held
      rwa [hpc] at hH
    have hshows : s.shows .reader = [.taken size result] := by rw [shows, hpc]; rfl
    rw [hshows]
    refine .delivers (sliceEnd size s.recv_buffer) ?_ rfl ?_ ?_
    · simp [givenBytes, BufferShown.given?]
    · show RecvState.recv_buffer (s.modify _) = _
      simp [recv_buffer, hconnection]
    · simp [takenBytes, BufferShown.taken?, ← hresult]

/-- A step of the event loop either appends the payload of a `fill_recv` or leaves the bytes
alone. -/
theorem loop_pipe (hG : Guarded s) {l : List BufferShown} (h : RecvRule s .loop s') :
    Pipe.Moves (s.pipe l) (s'.pipe (l ++ s.shows .loop)) := by
  cases h with
  | fillAcquires hpc | fillReleases hpc =>
    exact pipe_stays rfl rfl (by simp [pending, hpc])
  | @«extends» data hpc =>
    obtain ⟨connection, hconnection⟩ := Option.isSome_iff_exists.mp hG.made
    rw [show s.shows .loop = [] from rfl, List.append_nil]
    refine .arrives data trivial rfl ?_ ?_ rfl
    · simp [pending, hpc]
    · show RecvState.recv_buffer (s.modify _) = _
      simp [recv_buffer, hconnection]
  | sets hpc | wakesReaders hpc =>
    exact pipe_stays rfl (modify_recv_buffer (by intro; rfl)) (by simp [pending, hpc])
  | removes hpc =>
    refine pipe_stays rfl rfl ?_
    unfold pending
    rw [hpc]
    split_ifs <;> rfl

/-- A step moves the bytes as a pipe does. -/
theorem pipe_moves (hG : Guarded s) {l : List BufferShown} (h : RecvRule s e s') :
    Pipe.Moves (s.pipe l) (s'.pipe (l ++ s.shows e)) := by
  cases e with
  | calls size | settimeout timeout | timesOut =>
    cases h
    exact pipe_stays rfl rfl rfl
  | reader => exact reader_pipe hG h
  | fills data =>
    cases h with
    | fills hidle =>
      refine .sends data ?_ ?_ rfl ?_
      · simp [shows, givenBytes, BufferShown.given?]
      · simp [pending, hidle]
      · simp [shows, takenBytes, BufferShown.taken?]
  | drops =>
    cases h with
    | drops hidle => exact pipe_stays rfl rfl (by simp [pending, hidle])
  | loop => exact loop_pipe hG h

/-- What a run of the two threads conserves: what has been taken, what is in the buffer and what a
`fill_recv` in progress has yet to add are what was given. -/
structure Conserves (s : RecvState) (l : List BufferShown) : Prop where
  whole : takenBytes l ++ s.recv_buffer ++ s.pending = givenBytes l
  bounded : ∀ size data, .taken size data ∈ l → 1 ≤ size → data.length ≤ size.toNat
  /-- A `recv` returns what it has taken. -/
  returned : ∀ data, data ≠ [] →
    s.recv = .leaving (.returned data) ∨ s.recv = .finished (.returned data) →
      lastTaken l = some data
  eof : s.recv = .leaving .eofError → s.recv_buffer = []
  timeout_keeps : ∀ s', recvStep s .timesOut = some s' → s'.recv_buffer = s.recv_buffer
  eof_keeps : ∀ s', recvStep s .reader = some s' →
    s'.recv = .leaving .eofError ∨ s'.recv = .finished .eofError → s'.recv_buffer = s.recv_buffer
  /-- What is in the buffer can be read, also after a drop. -/
  readable : s.recv.over = true → s.loop = .idle → s.recv_buffer ≠ [] → ∀ size, 1 ≤ size →
    ∃ s', run recvStep s (.calls size :: List.replicate 10 .reader) = some s' ∧
      s'.recv = .finished (.returned (s.recv_buffer.take size.toNat)) ∧
      s'.recv_buffer = s.recv_buffer.drop size.toNat

/-- The next `recv` takes what is in the buffer. -/
theorem Guarded.readable (hG : Guarded s) (hover : s.recv.over = true) (hidle : s.loop = .idle)
    (hdata : s.recv_buffer ≠ []) {size : ℤ} (hsize : 1 ≤ size) :
    ∃ s', run recvStep s (.calls size :: List.replicate 10 .reader) = some s' ∧
      s'.recv = .finished (.returned (s.recv_buffer.take size.toNat)) ∧
      s'.recv_buffer = s.recv_buffer.drop size.toNat := by
  obtain ⟨connection, hconnection⟩ := Option.isSome_iff_exists.mp hG.made
  have hset : s.isSet = true := (hG.filled hdata).resolve_right (by simp [hidle])
  have hreader := hG.reader
  have hloop := hG.loop
  have hheld : s.recv.holdsLock = false := RecvPoint.holdsLock_of_over hover
  have hlock : s.recv_buffer_lock = none := by
    rw [hidle] at hloop
    rw [hheld] at hreader
    match hlock : s.recv_buffer_lock with
    | none => rfl
    | some .reader => simp [hlock] at hreader
    | some .loop => simp [hlock, LoopPoint.holdsLock] at hloop
  have hbuffer : ∀ lock point, RecvState.recv_buffer
      { s with recv_buffer_lock := lock, recv := point } = s.recv_buffer := fun _ _ => rfl
  have hevent : ∀ lock point, RecvState.isSet
      { s with recv_buffer_lock := lock, recv := point } = true := fun _ _ => hset
  refine ⟨((s.modify fun connection => { connection with
      recv_buffer := connection.recv_buffer.drop (sliceEnd size connection.recv_buffer) }).setLock
        none).setRecv (.finished (.returned (s.recv_buffer.take size.toNat))), ?_, rfl, ?_⟩
  · have hne : size ≠ 0 := by omega
    simp [run, recvStep, startRecv, resumeRecv, hover, hlock, hbuffer, hevent, hdata, hne,
      sliceEnd_eq hsize, List.replicate, modify]
  · show RecvState.recv_buffer (s.modify _) = _
    simp [recv_buffer, hconnection, sliceEnd_eq hsize]

/-- The invariant of the record. -/
structure Accounted (s : RecvState) (l : List BufferShown) : Prop where
  guarded : s.Guarded
  intact : (s.pipe l).Intact
  bounded : ∀ size data, .taken size data ∈ l → 1 ≤ size → data.length ≤ size.toNat
  returned : ∀ data, data ≠ [] →
    s.recv = .leaving (.returned data) ∨ s.recv = .finished (.returned data) →
      lastTaken l = some data

namespace Accounted

variable {l : List BufferShown}

/-- A connection that has just been opened has received and returned nothing. -/
theorem opened (relay : NetworkRelay) (t : Task) (request : ConnectionRequest) (ws : AgentSocket)
    (c : ConnectionId) : Accounted (openedRecv relay t request ws c) [] where
  guarded := .opened relay t request ws c
  intact := Pipe.Fresh.intact {
    sent := rfl
    inFlight := rfl
    buffered := by simp [openedRecv, recv_buffer, connection, newConnection]
    delivered := rfl }
  bounded size data h := by cases h
  returned data _ h := by rcases h with h | h <;> cases h

/-- What the reader takes is bounded by what was asked for. -/
theorem takes_bounded (hA : Accounted s l) {size : ℤ} {data : Bytes}
    (h : .taken size data ∈ s.shows e) (hsize : 1 ≤ size) : data.length ≤ size.toNat := by
  have hH := hA.guarded.held
  cases e with
  | reader =>
    simp only [shows] at h
    cases hpc : s.recv with
    | storing size' result =>
      rw [hpc] at h hH
      simp only [RecvPoint.takes, List.mem_singleton, BufferShown.taken.injEq] at h
      obtain ⟨rfl, rfl⟩ := h
      have hresult : data = s.recv_buffer.take (sliceEnd size s.recv_buffer) := hH
      rw [hresult, sliceEnd_eq hsize]
      exact List.length_take_le _ _
    | _ =>
      rw [hpc] at h
      cases h
  | fills => simp [shows] at h
  | _ => cases h

/-- A step of the reader that is no take leaves the last one as it was. -/
theorem reader_returned (hA : Accounted s l) (h : RecvRule s .reader s') {data : Bytes}
    (hdata : data ≠ [])
    (hpc' : s'.recv = .leaving (.returned data) ∨ s'.recv = .finished (.returned data)) :
    lastTaken (l ++ s.shows .reader) = some data := by
  cases h with
  | stores hpc =>
    obtain rfl : _ = data := by
      rcases hpc' with h | h
      · simpa using h
      · cases h
    simp [lastTaken, shows, hpc, RecvPoint.takes, BufferShown.taken?]
  | @leaves result hpc =>
    have hfinished : result = .returned data := by
      rcases hpc' with h | h
      · cases h
      · simpa using h
    have hshows : s.shows .reader = [] := by
      rw [shows, hpc]
      rfl
    rw [hshows, List.append_nil]
    exact hA.returned data hdata (.inl (hpc.trans (congrArg _ hfinished)))
  | wakes =>
    -- `recv(0)` returns no bytes.
    simp only [setRecv] at hpc'
    split_ifs at hpc' with hzero
    · obtain rfl : [] = data := by simpa using hpc'
      exact absurd rfl hdata
    · rcases hpc' with h | h <;> cases h
  | _ => rcases hpc' with h | h <;> cases h

/-- A step keeps the account of the bytes. -/
theorem preserved (hA : Accounted s l) (h : RecvRule s e s') : Accounted s' (l ++ s.shows e) where
  guarded := hA.guarded.preserved h
  intact := hA.intact.step ⟨pipe_moves hA.guarded h, fun _ => trivial⟩
  bounded size data hmem hsize := by
    rcases List.mem_append.mp hmem with hold | hnew
    · exact hA.bounded size data hold hsize
    · exact hA.takes_bounded hnew hsize
  returned data hdata hpc' := by
    have hsame : s'.recv = s.recv → (s.shows e).filterMap (·.taken?) = [] →
        lastTaken (l ++ s.shows e) = some data := by
      intro hrecv hnone
      rw [hrecv] at hpc'
      rw [lastTaken, List.filterMap_append, hnone, List.append_nil]
      exact hA.returned data hdata hpc'
    cases e with
    | reader => exact hA.reader_returned h hdata hpc'
    | calls | timesOut =>
      cases h
      rcases hpc' with h | h <;> cases h
    | loop => exact hsame (by cases h <;> rfl) rfl
    | settimeout | fills | drops => exact hsame (by cases h; rfl) rfl

/-- A `recv` that times out or raises `EOFError` takes nothing. -/
theorem conserves (hA : Accounted s l) : s.Conserves l where
  whole := hA.intact.whole trivial
  bounded := hA.bounded
  returned := hA.returned
  eof hpc := by
    have hH := hA.guarded.held
    rwa [hpc] at hH
  timeout_keeps s' h := by
    cases recvStep_rule h
    rfl
  eof_keeps s' h hpc := by
    cases recvStep_rule h with
    | clears => rcases hpc with hpc | hpc <;> cases hpc
    | stores => rcases hpc with hpc | hpc <;> cases hpc
    | _ => rfl
  readable hover hidle hdata size hsize := hA.guarded.readable hover hidle hdata hsize

end Accounted

/-- In every run of the two threads, the bytes of the connection are conserved. -/
theorem recv_conserves {relay : NetworkRelay} {t : Task} {request : ConnectionRequest}
    {ws : AgentSocket} {c : ConnectionId} {l : List BufferShown}
    (h : Traced recvStep (fun _ _ => True) RecvState.shows (openedRecv relay t request ws c) s l) :
    s.Conserves l := by
  have hA : Accounted s l :=
    h.invariant (I := Accounted) (.opened relay t request ws c)
      fun s e s' l _ _ hstep hA => hA.preserved (recvStep_rule hstep)
  exact hA.conserves

end RecvState

end HttpNetworkRelay
