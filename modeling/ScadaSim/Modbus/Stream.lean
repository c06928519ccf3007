import ScadaSim.Modbus.DeviceQuery

/-!
# Queries out of a byte stream

TCP hands over bytes in pieces of its own choosing. `Carries` says what `receive_msg` can
meet on a connection that carries a given stream: at least one of the bytes that are still
to come, and no time out before they have come. However it is cut, `modbus_listen` takes
exactly the first query off the stream (`modbusListen_stream`), so that the turns of
`ModbusGate::listen` serve a client's queries one by one, as a device does
(`listenTurns_serve`).
-/

namespace ScadaSim.Modbus

/-- Bytes, with zeros behind them. -/
def bufferOf (bytes : List UInt8) : Buffer := fun i => bytes.getD i 0

namespace Receipt

/-- What has been read is the beginning of the stream. -/
structure Taken (stream : List UInt8) (r : Receipt) : Prop where
  within : r.p_msg_length ≤ stream.length
  bytes : ∀ i, i < r.p_msg_length → r.msg i = bufferOf stream i

/-- The arrivals on a connection that carries the stream, as long as something is read. -/
def Carries (stream : List UInt8) (r : Receipt) : List Arrival → Prop
  | [] => True
  | .bytes available :: arrivals =>
      available ≠ [] ∧ available <+: stream.drop r.p_msg_length ∧
        match r.turn (.bytes available) with
        | .ok r' => 0 < r'.length_to_read → Carries stream r' arrivals
        | .error _ => True
  | .timeOut :: _ => stream.length ≤ r.p_msg_length
  | .selectFailure :: _ => False
  | .recvFailure :: _ => False

/-- As long as it is read on, one arrival after the other. -/
instance decidableCarries (stream : List UInt8) (r : Receipt) :
    (arrivals : List Arrival) → Decidable (Carries stream r arrivals)
  | [] => .isTrue True.intro
  | .bytes available :: arrivals =>
      have : Decidable (match r.turn (.bytes available) with
          | .ok r' => 0 < r'.length_to_read → Carries stream r' arrivals
          | .error _ => True) :=
        match r.turn (.bytes available) with
        | .ok r' =>
            have := decidableCarries stream r' arrivals
            inferInstanceAs (Decidable (_ → _))
        | .error _ => .isTrue True.intro
      inferInstanceAs (Decidable (_ ∧ _ ∧ _))
  | .timeOut :: _ => inferInstanceAs (Decidable (_ ≤ _))
  | .selectFailure :: _ => .isFalse id
  | .recvFailure :: _ => .isFalse id

variable {stream : List UInt8} {r r' : Receipt}

theorem Taken.store (h : r.Taken stream) {read : List UInt8}
    (hread : read <+: stream.drop r.p_msg_length) : (r.store read).Taken stream := by
  obtain ⟨rest, hrest⟩ := hread
  have hlength := congrArg List.length hrest
  rw [List.length_append, List.length_drop] at hlength
  have hwithin := h.within
  refine ⟨by show r.p_msg_length + read.length ≤ _; omega, fun i hi => ?_⟩
  have hi : i < r.p_msg_length + read.length := hi
  show (if i < r.p_msg_length then _ else _) = _
  split
  · next hlt => exact h.bytes i hlt
  · next hge =>
      have hin : i - r.p_msg_length < read.length := by omega
      have hvalue : stream[i]? = read[i - r.p_msg_length]? := by
        have hboth : (read ++ rest)[i - r.p_msg_length]? = read[i - r.p_msg_length]? :=
          List.getElem?_append_left hin
        rw [← hboth, hrest, List.getElem?_drop, Nat.add_sub_cancel' (Nat.le_of_not_lt hge)]
      rw [bufferOf, List.getD_eq_getElem?_getD, hvalue, List.getElem?_eq_getElem hin]
      rfl

/-- What is read next does not change what has been read. -/
theorem advance_keeps (h : r.advance = .ok r') :
    r'.msg = r.msg ∧ r'.p_msg_length = r.p_msg_length := by
  unfold advance at h
  split at h
  · cases h
    exact ⟨rfl, rfl⟩
  · cases hstate : r.state with
    | FUNCTION =>
        rw [hstate] at h
        cases h
        exact ⟨rfl, rfl⟩
    | BYTE =>
        rw [hstate] at h
        dsimp only at h
        split at h
        · cases h
        · cases h
          exact ⟨rfl, rfl⟩
    | COMPLETE =>
        rw [hstate] at h
        cases h
        exact ⟨rfl, rfl⟩

theorem Taken.advance (h : r.Taken stream) (hr' : r.advance = .ok r') : r'.Taken stream := by
  obtain ⟨hmsg, hlength⟩ := advance_keeps hr'
  exact ⟨hlength ▸ h.within, fun i hi => by rw [hmsg]; exact h.bytes i (hlength ▸ hi)⟩

/-- Bytes have come: a turn takes some of them. -/
theorem Taken.turn (h : r.Taken stream) {available : List UInt8}
    (hsome : available ≠ []) (hfront : available <+: stream.drop r.p_msg_length)
    (hr' : r.turn (.bytes available) = .ok r') :
    r'.Taken stream ∧ r'.p_msg_length = r.p_msg_length + min r.length_to_read available.length := by
  have hr' : (r.store (available.take r.length_to_read)).advance = .ok r' :=
    (if_neg hsome).symm.trans hr'
  have hstored := h.store ((List.take_prefix r.length_to_read available).trans hfront)
  refine ⟨hstored.advance hr', (advance_keeps hr').2.trans ?_⟩
  show r.p_msg_length + (available.take r.length_to_read).length = _
  rw [List.length_take]

end Receipt

/-! ## One query -/

/-- The bytes of a query of the length it says it has. -/
structure Complete (q : List UInt8) : Prop where
  length : q.length = queryLength (bufferOf q)
  room : q.length ≤ MAX_MESSAGE_LENGTH

/-- The query has been received. -/
structure Holds (received : Received) (q : List UInt8) : Prop where
  length : received.query_length = q.length
  bytes : ∀ i, i < q.length → received.query i = bufferOf q i

/-- The length of a query is known from its header. -/
theorem queryLength_congr {query query' : Buffer} {n : Nat}
    (h : ∀ i, i < n → query' i = query i) (hn : headerEnd query ≤ n) :
    queryLength query' = queryLength query := by
  have hlow : 8 ≤ n := Nat.le_trans (Nat.le_add_right 8 _) hn
  rw [queryLength, queryLength, headerEnd_congr h hlow, computeQueryLengthData_congr h hn]

theorem Complete.headerEnd_le {q : List UInt8} (hq : Complete q) :
    headerEnd (bufferOf q) ≤ q.length := by
  rw [hq.length]
  exact Nat.le_add_right _ _

theorem bufferOf_append (q rest : List UInt8) {i : Nat} (hi : i < q.length) :
    bufferOf (q ++ rest) i = bufferOf q i := by
  rw [bufferOf, bufferOf, List.getD_eq_getElem?_getD, List.getD_eq_getElem?_getD,
    List.getElem?_append_left hi]

namespace Receipt

variable {q rest : List UInt8} {r r' : Receipt}

theorem Taken.query (h : r.Taken (q ++ rest)) {n : Nat} (hn : n ≤ r.p_msg_length)
    (hq : n ≤ q.length) (i : Nat) (hi : i < n) : r.msg i = bufferOf q i := by
  rw [h.bytes i (by omega), bufferOf_append q rest (by omega)]

/-- What `receive_msg` is reading for is in the query. -/
theorem Placed.computed_le (h : r.Placed) (htaken : r.Taken (q ++ rest)) (hq : Complete q) :
    r.msg_length_computed ≤ q.length := by
  have hend := hq.headerEnd_le
  have hlow : 8 ≤ q.length := Nat.le_trans (Nat.le_add_right 8 _) hend
  cases hstate : r.state with
  | FUNCTION =>
      rw [h.function hstate]
      exact hlow
  | BYTE =>
      obtain ⟨hread, hcomputed⟩ := h.byte hstate
      rw [hcomputed, headerEnd_congr (htaken.query hread hlow) (Nat.le_refl 8)]
      exact hend
  | COMPLETE =>
      obtain ⟨hread, hcomputed, _⟩ := h.complete hstate
      have hread8 : 8 ≤ r.p_msg_length := Nat.le_trans (Nat.le_add_right 8 _) hread
      have hsame := headerEnd_congr (htaken.query hread8 hlow) (Nat.le_refl 8)
      rw [hsame] at hread
      rw [hcomputed, queryLength_congr (htaken.query hread hend) (Nat.le_refl _), hq.length]

/-- A query that is complete does not get too long. -/
theorem Placed.advance_ok (h : r.Placed) (htaken : r.Taken (q ++ rest)) (hq : Complete q) :
    ∃ r', r.advance = .ok r' := by
  unfold Receipt.advance
  split
  · exact ⟨_, rfl⟩
  · next hall =>
      cases hstate : r.state with
      | FUNCTION => exact ⟨_, rfl⟩
      | COMPLETE => exact ⟨_, rfl⟩
      | BYTE =>
          obtain ⟨hread, hcomputed⟩ := h.byte hstate
          have hend := hq.headerEnd_le
          have hlow : 8 ≤ q.length := Nat.le_trans (Nat.le_add_right 8 _) hend
          have hsame := headerEnd_congr (htaken.query hread hlow) (Nat.le_refl 8)
          have hdata := computeQueryLengthData_congr
            (htaken.query (n := headerEnd (bufferOf q)) (by omega) hend) (Nat.le_refl _)
          have hfits : ¬ r.msg_length_computed + computeQueryLengthData r.msg >
              MAX_MESSAGE_LENGTH := by
            have hroom := hq.room
            have hlength : q.length = headerEnd (bufferOf q) + computeQueryLengthData (bufferOf q) :=
              hq.length
            omega
          exact ⟨_, if_neg hfits⟩

/-- Where nothing is missing any more, the query has been received. -/
theorem Sound.holds (h : r.Sound) (htaken : r.Taken (q ++ rest)) (hq : Complete q)
    (hstop : r.length_to_read = 0) : Holds ⟨r.msg, r.p_msg_length⟩ q := by
  have hend := hq.headerEnd_le
  have hlow : 8 ≤ q.length := Nat.le_trans (Nat.le_add_right 8 _) hend
  have hlength := (h.stop hstop).1
  have hread : headerEnd r.msg ≤ r.p_msg_length := by
    rw [hlength]
    exact Nat.le_add_right _ _
  have hread8 : 8 ≤ r.p_msg_length := Nat.le_trans (Nat.le_add_right 8 _) hread
  have hsame := headerEnd_congr (htaken.query hread8 hlow) (Nat.le_refl 8)
  rw [hsame] at hread
  have hquery := queryLength_congr (htaken.query hread hend) (Nat.le_refl _)
  have heq : r.p_msg_length = q.length := by rw [hlength, hquery, hq.length]
  exact ⟨heq, htaken.query (Nat.le_of_eq heq.symm) (Nat.le_refl _)⟩

/-- The loop ends with the query, once enough has arrived. -/
theorem loop_stream (hq : Complete q) {arrivals : List Arrival} (h : r.Sound)
    (htaken : r.Taken (q ++ rest)) (hmore : 0 < r.length_to_read)
    (hcarries : Carries (q ++ rest) r arrivals) :
    (r.loop arrivals = none ∧ r.p_msg_length + arrivals.length < q.length) ∨
      ∃ received, r.loop arrivals = some (.ok received) ∧ Holds received q := by
  have hcomputed := h.toPlaced.computed_le htaken hq
  have hrest := h.rest
  induction arrivals generalizing r with
  | nil => exact .inl ⟨rfl, by show r.p_msg_length + 0 < _; omega⟩
  | cons arrival arrivals ih =>
      cases arrival with
      | timeOut =>
          have hend : (q ++ rest).length ≤ r.p_msg_length := hcarries
          rw [List.length_append] at hend
          omega
      | selectFailure => exact hcarries.elim
      | recvFailure => exact hcarries.elim
      | bytes available =>
          obtain ⟨hsome, hfront, hnext⟩ := hcarries
          have hlength := List.length_pos_of_ne_nil hsome
          have hplaced := h.store (List.length_take_le r.length_to_read available)
          have hstored := htaken.store ((List.take_prefix r.length_to_read available).trans hfront)
          obtain ⟨r', hadvance⟩ := hplaced.advance_ok hstored hq
          have hturn : r.turn (.bytes available) = .ok r' := (if_neg hsome).trans hadvance
          obtain ⟨htaken', hread⟩ := htaken.turn hsome hfront hturn
          have hsound' := h.turn hturn
          unfold Receipt.loop
          rw [hturn] at hnext ⊢
          dsimp only
          by_cases hagain : r'.length_to_read > 0
          · rw [if_pos hagain]
            have hcomputed' := hsound'.toPlaced.computed_le htaken' hq
            rcases ih hsound' htaken' hagain (hnext hagain) hcomputed' hsound'.rest with
              ⟨hnone, hfew⟩ | hdone
            · refine .inl ⟨hnone, ?_⟩
              rw [List.length_cons]
              omega
            · exact .inr hdone
          · rw [if_neg hagain]
            exact .inr ⟨_, rfl, hsound'.holds htaken' hq (Nat.eq_zero_of_not_pos hagain)⟩

end Receipt

/-- **Framing.** However a stream is cut into pieces, what `modbus_listen` takes off it is its
first query, once as many pieces have come as the query has bytes at the latest. -/
theorem modbusListen_stream {q rest : List UInt8} (hq : Complete q) {query : Buffer}
    {arrivals : List Arrival} (h : (Receipt.start query).Carries (q ++ rest) arrivals) :
    (modbusListen query arrivals = none ∧ arrivals.length < q.length) ∨
      ∃ received, modbusListen query arrivals = some (.ok received) ∧ Holds received q := by
  have htaken : (Receipt.start query).Taken (q ++ rest) := ⟨Nat.zero_le _, fun _ hi => nomatch hi⟩
  have hloop := Receipt.loop_stream hq (Receipt.sound_start query) htaken (show 0 < 8 by decide) h
  rwa [show (Receipt.start query).p_msg_length = 0 from rfl, Nat.zero_add] at hloop

/-! ## The turns of the gate -/

/-- What a turn of `ModbusGate::listen` finds: the arrays on its stack, and what its `recv`
meets. -/
structure Turn where
  query : Buffer
  stack : Buffer
  arrivals : List Arrival

/-- The tables after a turn, and what is sent in it; no result while the socket is waited
for. What is handed over to the simulation is left out. -/
def listenTurn (tables : Tables) (t : Turn) : Option (Tables × List UInt8) :=
  match modbusListen t.query t.arrivals with
  | none => none
  | some (.ok received) => some (process received tables t.stack)
  | some (.error _) => some (tables, [])

def listenTurns (tables : Tables) : List Turn → Option (Tables × List UInt8)
  | [] => some (tables, [])
  | t :: turns => do
      let (tables, bytes) ← listenTurn tables t
      let (tables, sent) ← listenTurns tables turns
      pure (tables, bytes ++ sent)

/-- The turns are on a connection that carries the stream, each with what the ones before it
have left. -/
def Connected (stream : List UInt8) : List Turn → Prop
  | [] => True
  | t :: turns => (Receipt.start t.query).Carries stream t.arrivals ∧
      match modbusListen t.query t.arrivals with
      | some (.ok received) => Connected (stream.drop received.query_length) turns
      | _ => True

instance decidableConnected (stream : List UInt8) :
    (turns : List Turn) → Decidable (Connected stream turns)
  | [] => .isTrue True.intro
  | t :: turns =>
      have : Decidable (match modbusListen t.query t.arrivals with
          | some (.ok received) => Connected (stream.drop received.query_length) turns
          | _ => True) :=
        match modbusListen t.query t.arrivals with
        | some (.ok received) => decidableConnected (stream.drop received.query_length) turns
        | some (.error _) => .isTrue True.intro
        | none => .isTrue True.intro
      inferInstanceAs (Decidable (_ ∧ _))

/-- A device with one query after the other. -/
def Device.handleAll (d : Device) (mb_mapping : ModbusMapping) :
    List (List UInt8) → Device × List UInt8
  | [] => (d, [])
  | q :: qs =>
      let handled := d.handle mb_mapping (bufferOf q)
      let rest := handled.1.handleAll mb_mapping qs
      (rest.1, handled.2 ++ rest.2)

/-- A query is processed by its own bytes. -/
theorem process_holds {q : List UInt8} {received : Received} (hq : Complete q)
    (hfits : Fits (bufferOf q)) (h : Holds received q) (d : Device) (stack : Buffer) :
    process received d.tables stack =
      ((d.handle gateMapping (bufferOf q)).1.tables, (d.handle gateMapping (bufferOf q)).2) := by
  have hsize : (⟨bufferOf q, q.length⟩ : Received).query_length =
      queryLength (⟨bufferOf q, q.length⟩ : Received).query := hq.length
  have hown := process_eq_handle hsize d stack
  have hdefined := @definedFrom_touched ⟨bufferOf q, q.length⟩ d.tables stack hsize hfits
  have hsame : process ⟨received.query, q.length⟩ d.tables stack =
      process ⟨bufferOf q, q.length⟩ d.tables stack := process_congr hdefined h.bytes
  rw [← hown, ← hsame]
  show process received d.tables stack = process ⟨received.query, q.length⟩ d.tables stack
  rw [← h.length]

/-- A turn of the gate, with a query at the beginning of what is to come. -/
theorem listenTurn_handle {q rest : List UInt8} (hq : Complete q) (hfits : Fits (bufferOf q))
    {t : Turn} (hcarries : (Receipt.start t.query).Carries (q ++ rest) t.arrivals)
    (hmany : q.length ≤ t.arrivals.length) (d : Device) :
    listenTurn d.tables t = some ((d.handle gateMapping (bufferOf q)).1.tables,
      (d.handle gateMapping (bufferOf q)).2) := by
  rcases modbusListen_stream hq hcarries with ⟨_, hfew⟩ | ⟨received, hdone, hholds⟩
  · omega
  · rw [listenTurn, hdone]
    exact congrArg some (process_holds hq hfits hholds d t.stack)

/-- **The gate on a stream.** A client writes queries that fit, without waiting for the
replies if it likes, and TCP cuts them as it likes: turn by turn the gate takes one query
off the stream and does what a device does with it. -/
theorem listenTurns_serve {qs : List (List UInt8)} (hqs : ∀ q ∈ qs, Complete q ∧ Fits (bufferOf q))
    {rest : List UInt8} {turns : List Turn} (hturns : turns.length = qs.length)
    (hcome : ∀ t ∈ turns, MAX_MESSAGE_LENGTH ≤ t.arrivals.length)
    (hconnected : Connected (qs.flatten ++ rest) turns) (d : Device) :
    listenTurns d.tables turns =
      some ((d.handleAll gateMapping qs).1.tables, (d.handleAll gateMapping qs).2) := by
  induction qs generalizing turns d with
  | nil =>
      rw [List.length_eq_zero_iff.mp hturns]
      rfl
  | cons q qs ih =>
      cases turns with
      | nil => cases hturns
      | cons t turns =>
          obtain ⟨hq, hfits⟩ := hqs q (.head qs)
          obtain ⟨hcarries, hnext⟩ := hconnected
          rw [List.flatten_cons, List.append_assoc] at hcarries hnext
          have hmany := Nat.le_trans hq.room (hcome t (.head turns))
          have hturn := listenTurn_handle hq hfits hcarries hmany d
          have hleft : Connected (qs.flatten ++ rest) turns := by
            rcases modbusListen_stream hq hcarries with ⟨_, hfew⟩ | ⟨received, hdone, hholds⟩
            · omega
            · simpa only [hdone, hholds.length, List.drop_left] using hnext
          have hrest := ih (fun q' hmem => hqs q' (.tail _ hmem)) (Nat.succ.inj hturns)
            (fun t' hmem => hcome t' (.tail _ hmem)) hleft (d.handle gateMapping (bufferOf q)).1
          rw [listenTurns, hturn]
          dsimp only [Option.bind_eq_bind, Option.bind_some]
          rw [hrest]
          rfl

/-- Two queries, written in one go: a coil is set, and eight coils are read. -/
def pipelined : List (List UInt8) :=
  [[0, 1, 0, 0, 0, 6, 1, 5, 0, 3, 0xFF, 0], [0, 2, 0, 0, 0, 6, 1, 1, 0, 0, 0, 8]]

def pipelinedTurns : List Turn :=
  [⟨fun _ => 7, fun _ => 9,
      [.bytes [0, 1, 0, 0, 0], .bytes (pipelined.flatten.drop 5), .bytes [0, 3, 0xFF, 0, 0, 2]] ++
        List.replicate 256 .timeOut⟩,
    ⟨fun _ => 0, fun _ => 0,
      [.bytes (pipelined.flatten.drop 12), .bytes [0, 0, 0, 8]] ++ List.replicate 256 .timeOut⟩]

theorem listenTurns_pipelined : listenTurns Device.fresh.tables pipelinedTurns =
    some ((Device.fresh.handleAll gateMapping pipelined).1.tables,
      [0, 1, 0, 0, 0, 6, 1, 5, 0, 3, 0xFF, 0] ++ [0, 2, 0, 0, 0, 4, 1, 1, 1, 8]) := by
  have hcome : ∀ l : List Arrival,
      MAX_MESSAGE_LENGTH ≤ (l ++ List.replicate 256 Arrival.timeOut).length := by
    intro l
    rw [List.length_append, List.length_replicate]
    exact Nat.le_add_left _ _
  have hqueries : ∀ q ∈ pipelined, q.length = queryLength (bufferOf q) ∧
      q.length ≤ MAX_MESSAGE_LENGTH ∧ Fits (bufferOf q) := by decide
  have hserve := @listenTurns_serve pipelined
    (fun q hmem => ⟨⟨(hqueries q hmem).1, (hqueries q hmem).2.1⟩, (hqueries q hmem).2.2⟩) []
    pipelinedTurns rfl
    (List.forall_mem_cons.mpr ⟨hcome _, List.forall_mem_cons.mpr ⟨hcome _, nofun⟩⟩)
    (by decide) Device.fresh
  refine hserve.trans (congrArg some (Prod.ext rfl ?_))
  decide

end ScadaSim.Modbus
