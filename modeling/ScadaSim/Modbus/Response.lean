import ScadaSim.Modbus.MasterQuery

/-!
# What the master reads in a response

The response to a query comes in pieces like the query itself. `read_stream` says how
`receive_msg` ends when it waits for a number of bytes: with them, or with a time out once
the stream has ended short of them. The second is how an exception is told from an answer.
-/

namespace ScadaSim.Modbus

open Lib

namespace Receipt

/-- `receive_msg` waits for `n` bytes of the stream. -/
structure Awaits (stream : List UInt8) (n : Nat) (r : Receipt) : Prop extends r.Taken stream where
  state : r.state = .COMPLETE
  computed : r.msg_length_computed = n
  rest : r.p_msg_length + r.length_to_read = n

variable {stream : List UInt8} {n : Nat} {r r' : Receipt}

theorem awaits_startDefined (stream : List UInt8) (msg : Buffer) (n : Nat) :
    (startDefined msg n).Awaits stream n where
  within := Nat.zero_le _
  bytes := fun _ hi => nomatch hi
  state := rfl
  computed := rfl
  rest := Nat.zero_add n

/-- A turn that has taken all there is left to read is the last. -/
theorem Awaits.turn (h : r.Awaits stream n) {available : List UInt8} (hsome : available ≠ [])
    (hfront : available <+: stream.drop r.p_msg_length) :
    ∃ r', r.turn (.bytes available) = .ok r' ∧ r'.Awaits stream n ∧
      r'.p_msg_length = r.p_msg_length + min r.length_to_read available.length := by
  have hrest := h.rest
  set stored := r.store (available.take r.length_to_read) with hstored
  have hread : stored.p_msg_length = r.p_msg_length + min r.length_to_read available.length := by
    show r.p_msg_length + (available.take r.length_to_read).length = _
    rw [List.length_take]
  have hcomputed : stored.msg_length_computed = n := h.computed
  have hstate : stored.state = .COMPLETE := h.state
  have hadvance : stored.advance =
      .ok { stored with length_to_read := n - stored.p_msg_length } := by
    unfold Receipt.advance
    rw [hcomputed]
    split
    · rfl
    · rw [hstate]
      have hdone : n - stored.p_msg_length = 0 := by omega
      rw [hdone]
  have hturn : r.turn (.bytes available) =
      .ok { stored with length_to_read := n - stored.p_msg_length } :=
    (if_neg hsome).trans hadvance
  obtain ⟨htaken, hlength⟩ := h.toTaken.turn hsome hfront hturn
  refine ⟨_, hturn, ⟨htaken, hstate, hcomputed, ?_⟩, hlength⟩
  show stored.p_msg_length + (n - stored.p_msg_length) = n
  omega

/-- The loop ends with the bytes it waits for, or with a time out at the end of the stream. -/
theorem Awaits.read (h : r.Awaits stream n) (hmore : 0 < r.length_to_read)
    {arrivals : List Arrival} (hcarries : Carries stream r arrivals)
    (hmany : stream.length < r.p_msg_length + arrivals.length) :
    ∃ r', r.read arrivals = some (r', if n ≤ stream.length then none else some .COMM_TIME_OUT) ∧
      r'.Taken stream ∧ r'.p_msg_length = min n stream.length := by
  have hrest := h.rest
  have hwithin := h.within
  induction arrivals generalizing r with
  | nil =>
      have hmany : stream.length < r.p_msg_length := hmany
      omega
  | cons arrival arrivals ih =>
      cases arrival with
      | timeOut =>
          have hend : stream.length ≤ r.p_msg_length := hcarries
          rw [if_neg (by omega)]
          exact ⟨r, rfl, h.toTaken, by omega⟩
      | selectFailure => exact hcarries.elim
      | recvFailure => exact hcarries.elim
      | bytes available =>
          obtain ⟨hsome, hfront, hnext⟩ := hcarries
          obtain ⟨r', hturn, hawaits, hread⟩ := h.turn hsome hfront
          have hpos := List.length_pos_of_ne_nil hsome
          have hrest' := hawaits.rest
          have hwithin' := hawaits.within
          rw [List.length_cons] at hmany
          unfold Receipt.read
          rw [hturn] at hnext ⊢
          dsimp only
          by_cases hagain : r'.length_to_read > 0
          · rw [if_pos hagain]
            exact ih hawaits hagain (hnext hagain) (by omega) hrest' hwithin'
          · rw [if_neg hagain, if_pos (by omega)]
            exact ⟨r', rfl, hawaits.toTaken, by omega⟩

end Receipt

/-- The wire carries the response, and more than the response comes. -/
structure Wire.Delivers (w : Wire) (query response : List UInt8) : Prop where
  written : w.written = query.length
  carries : (Receipt.startDefined w.response (computeResponseLength (bufferOf query))).Carries
    response w.arrivals
  many : response.length < w.arrivals.length

instance (w : Wire) (query response : List UInt8) : Decidable (w.Delivers query response) :=
  decidable_of_iff
    (w.written = query.length ∧
      (Receipt.startDefined w.response (computeResponseLength (bufferOf query))).Carries response
        w.arrivals ∧ response.length < w.arrivals.length)
    ⟨fun h => ⟨h.1, h.2.1, h.2.2⟩, fun h => ⟨h.written, h.carries, h.many⟩⟩

/-- The wait for a response that is not empty. -/
theorem receiveResponse_delivers {w : Wire} {query response : List UInt8}
    (h : w.Delivers query response) (hsome : response ≠ [])
    (hlength : 0 < computeResponseLength (bufferOf query)) :
    ∃ r, receiveResponse (computeResponseLength (bufferOf query)) w =
        some (r, if computeResponseLength (bufferOf query) ≤ response.length then none
          else some .COMM_TIME_OUT) ∧
      r.Taken response ∧
      r.p_msg_length = min (computeResponseLength (bufferOf query)) response.length := by
  have hread := (Receipt.awaits_startDefined response w.response _).read hlength h.carries
    (by have := h.many; show _ < 0 + _; omega)
  have hpos := List.length_pos_of_ne_nil hsome
  have hcarries := h.carries
  unfold receiveResponse
  split
  · next harrivals =>
      rw [harrivals] at hcarries
      have hend : response.length ≤ 0 := hcarries
      omega
  · exact hread

/-- A response of the expected length. -/
theorem modbusReceive_good {w : Wire} {query response : List UInt8}
    (h : w.Delivers query response)
    (hlength : response.length = computeResponseLength (bufferOf query))
    (hpos : 0 < response.length) :
    ∃ msg, modbusReceive (bufferOf query) w =
        some (goodResponse (bufferOf query) msg response.length, msg) ∧
      ∀ i, i < response.length → msg i = bufferOf response i := by
  obtain ⟨r, hreceive, htaken, hread⟩ :=
    receiveResponse_delivers h (List.ne_nil_of_length_pos hpos) (hlength ▸ hpos)
  rw [← hlength, Nat.min_self] at hread
  rw [if_pos (Nat.le_of_eq hlength.symm)] at hreceive
  refine ⟨r.msg, ?_, fun i hi => htaken.bytes i (hread.symm ▸ hi)⟩
  rw [modbusReceive, hreceive, ← hread]

/-- An exception comes where more is expected. -/
theorem modbusReceive_exception {w : Wire} {query : List UInt8} {code : Int}
    (h : w.Delivers query (answerBytes (bufferOf query) (.exception code)))
    (hcode : code = ILLEGAL_DATA_ADDRESS ∨ code = ILLEGAL_DATA_VALUE)
    (hfunction : functionOf (bufferOf query) < 0x80)
    (hlong : 9 < computeResponseLength (bufferOf query)) :
    ∃ msg, modbusReceive (bufferOf query) w = some (code, msg) := by
  obtain ⟨r, hreceive, htaken, hread⟩ :=
    receiveResponse_delivers h (List.cons_ne_nil _ _) (by omega)
  have hlength : (answerBytes (bufferOf query) (.exception code)).length = 9 := rfl
  rw [hlength] at hread hreceive
  rw [if_neg (by omega)] at hreceive
  have hnine : r.p_msg_length = 9 := by omega
  have h7 : (r.msg 7).toNat = 0x80 + functionOf (bufferOf query) := by
    rw [htaken.bytes 7 (by omega)]
    show (bufferOf query 7 + 0x80).toNat = _
    rw [UInt8.toNat_add]
    show (functionOf (bufferOf query) + 128) % 256 = _
    omega
  have h8 : (r.msg 8).toNat = (-code).toNat := by
    rw [htaken.bytes 8 (by omega)]
    show (UInt8.ofInt (-code)).toNat = _
    rcases hcode with rfl | rfl <;> rfl
  refine ⟨r.msg, ?_⟩
  rw [modbusReceive, hreceive]
  dsimp only
  have hshort : shortResponse (bufferOf query) r.msg r.p_msg_length = code := by
    unfold shortResponse
    rw [if_pos ⟨hnine, h7.symm⟩]
    dsimp only
    rw [show HEADER_LENGTH_TCP + 2 = 8 from rfl, h8]
    rcases hcode with rfl | rfl <;> rfl
  rw [hshort]

/-! ## Values -/

theorem bufferOf_reply (q : Buffer) (content : List UInt8) (i : Nat) :
    bufferOf (reply q content) (7 + i) = content.getD i 0 := by
  rw [Nat.add_comm]
  rfl

theorem ite_and_ofNat {temp : UInt8} {t : Nat} (h : t < 8) :
    (if temp &&& UInt8.ofNat (2 ^ t) ≠ 0 then 1 else 0) = Device.bit (temp.toNat.testBit t) := by
  have hbit : (temp &&& UInt8.ofNat (2 ^ t)).toNat = (temp.toNat.testBit t).toNat * 2 ^ t := by
    have hlt : 2 ^ t < 2 ^ 8 := Nat.pow_lt_pow_right (by decide) h
    rw [UInt8.toNat_and, UInt8.toNat_ofNat', Nat.mod_eq_of_lt hlt, Nat.and_two_pow]
  have hzero : temp &&& UInt8.ofNat (2 ^ t) = 0 ↔ temp.toNat.testBit t = false := by
    rw [← UInt8.toNat_inj, hbit]
    cases temp.toNat.testBit t <;> simp
  cases hvalue : temp.toNat.testBit t with
  | false => rw [if_neg (not_not.mpr (hzero.mpr hvalue))]; rfl
  | true =>
      rw [if_pos (fun heq => by rw [hzero.mp heq] at hvalue; cases hvalue)]
      rfl

/-- The destination with the first `n` values. -/
def filled {α : Type} (values : Nat → α) (data_dest : Nat → α) (n : Nat) : Nat → α :=
  fun i => if i < n then values i else data_dest i

theorem update_filled {α : Type} (values data_dest : Nat → α) (n : Nat) :
    Function.update (filled values data_dest n) n (values n) = filled values data_dest (n + 1) := by
  funext i
  unfold filled
  rcases Nat.lt_trichotomy i n with hlt | rfl | hgt
  · rw [Function.update_of_ne (Nat.ne_of_lt hlt), if_pos hlt, if_pos (by omega)]
  · rw [Function.update_self, if_pos (Nat.lt_succ_self i)]
  · rw [Function.update_of_ne (Nat.ne_of_gt hgt), if_neg (by omega), if_neg (by omega)]

theorem filled_length {α : Type} {v : Nat → α} {values : List α} (data_dest : Nat → α)
    (h : ∀ i (hi : i < values.length), v i = values[i]) :
    filled v data_dest values.length = overwrite data_dest 0 values := by
  funext i
  rw [overwrite, if_neg (Nat.not_lt_zero i), Nat.sub_zero, filled]
  by_cases hi : i < values.length
  · rw [if_pos hi, h i hi, List.getElem?_eq_getElem hi]
    rfl
  · rw [if_neg hi, List.getElem?_eq_none (Nat.le_of_not_lt hi)]
    rfl

section Unpack

variable {nb : Nat} {f : Nat → Bool} {data_dest : Nat → UInt8}

/-- A byte of the response is taken apart, as far as values are expected. -/
theorem unpackBits_drop {temp : UInt8} {j : Nat}
    (htemp : ∀ t, t < 8 → 8 * j + t < nb → temp.toNat.testBit t = f (8 * j + t)) (n : Nat) :
    ∀ t, t + n = 8 → 8 * j + t ≤ nb →
      Master.unpackBits nb temp
          (8 * j + t, filled (fun k => Device.bit (f k)) data_dest (8 * j + t))
          (eightBits.drop t) =
        (min nb (8 * (j + 1)),
          filled (fun k => Device.bit (f k)) data_dest (min nb (8 * (j + 1)))) := by
  induction n with
  | zero =>
      intro t ht hin
      obtain rfl : t = 8 := by omega
      rw [show min nb (8 * (j + 1)) = 8 * j + 8 by omega]
      rfl
  | succ n ih =>
      intro t ht hin
      rw [eightBits_drop (by omega)]
      by_cases hmore : 8 * j + t < nb
      · have hnext := ih (t + 1) (by omega) hmore
        rw [← Nat.add_assoc, ← update_filled, ← htemp t (by omega) hmore,
          ← ite_and_ofNat (by omega)] at hnext
        rw [← hnext]
        exact if_pos hmore
      · rw [show min nb (8 * (j + 1)) = 8 * j + t by omega]
        exact if_neg hmore

theorem unpackStatus_eq {response : Buffer}
    (h : ∀ j, j < (nb + 7) / 8 → response (9 + j) = packByte f nb j) :
    Master.unpackStatus nb ((nb + 7) / 8) response data_dest =
      filled (fun k => Device.bit (f k)) data_dest nb := by
  have hturns : ∀ j, j ≤ (nb + 7) / 8 →
      (List.range' HEADER_LENGTH_TCP j).foldl
        (fun s i => Master.unpackBits nb (response (3 + i)) s eightBits) (0, data_dest) =
        (min nb (8 * j), filled (fun k => Device.bit (f k)) data_dest (min nb (8 * j))) := by
    intro j
    induction j with
    | zero =>
        intro _
        rw [Nat.mul_zero, Nat.min_zero]
        rfl
    | succ j ih =>
        intro hj
        have hfull : min nb (8 * j) = 8 * j := by omega
        have hcell : response (3 + (HEADER_LENGTH_TCP + 1 * j)) = packByte f nb j := by
          rw [← h j (by omega), show 3 + (HEADER_LENGTH_TCP + 1 * j) = 9 + j by
            show 3 + (6 + 1 * j) = _; omega]
        rw [List.range'_concat, List.foldl_append, ih (by omega), hfull]
        show Master.unpackBits nb (response (3 + (HEADER_LENGTH_TCP + 1 * j))) _ eightBits = _
        rw [hcell]
        exact unpackBits_drop (fun t ht hin => testBit_packByte ht hin) 8 0 rfl (by omega)
  have hall := hturns _ (Nat.le_refl _)
  rw [show min nb (8 * ((nb + 7) / 8)) = nb by omega] at hall
  exact congrArg Prod.snd hall

end Unpack

theorem unpackRegisters_eq (ret : Nat) (response : Buffer) (data_dest : Nat → UInt16) :
    Master.unpackRegisters ret response data_dest =
      filled (fun i => UInt16.ofNat (wordAt response (HEADER_LENGTH_TCP + 3 + 2 * i))) data_dest
        ret := by
  induction ret with
  | zero => rfl
  | succ ret ih =>
      rw [Master.unpackRegisters] at ih ⊢
      rw [List.range_succ, List.foldl_append, ih]
      exact update_filled _ data_dest ret

/-! ## The functions

What is received in answer to each, for a device that has the values.
-/

section Functions

variable {query : List UInt8} {w : Wire}

theorem computeResponseLength_status {q : Buffer} (tab : BitTable)
    (h : functionOf q = statusFunction tab) :
    computeResponseLength q = 9 + (quantityOf q + 7) / 8 := by
  have hlength : computeResponseLength q = 3 + quantityOf q / 8 +
      (if quantityOf q % 8 ≠ 0 then 1 else 0) + 6 := by
    unfold computeResponseLength
    rw [h]
    cases tab <;> rfl
  rw [hlength]
  split <;> omega

theorem computeResponseLength_registers {q : Buffer} (tab : RegisterTable)
    (h : functionOf q = registersFunction tab) :
    computeResponseLength q = 9 + 2 * quantityOf q := by
  have hlength : computeResponseLength q = 3 + 2 * quantityOf q + 6 := by
    unfold computeResponseLength
    rw [h]
    cases tab <;> rfl
  omega

/-- The functions that set something. -/
def Sets (function : Nat) : Prop :=
  function = FC_FORCE_SINGLE_COIL ∨ function = FC_PRESET_SINGLE_REGISTER ∨
    function = FC_FORCE_MULTIPLE_COILS ∨ function = FC_PRESET_MULTIPLE_REGISTERS

theorem computeResponseLength_sets {q : Buffer} (h : Sets (functionOf q)) :
    computeResponseLength q = 12 := by
  unfold computeResponseLength
  rcases h with h | h | h | h <;> rw [h] <;> rfl

theorem goodResponse_eq {q msg : Buffer} {length n : Nat} (h : nbValues q msg length = (n, n)) :
    goodResponse q msg length = n := by
  unfold goodResponse
  rw [h]
  exact if_pos rfl

/-- The values of a table, as they are read. -/
theorem modbusReceive_status (tab : BitTable) {values : List Bool}
    (hcode : functionOf (bufferOf query) = statusFunction tab)
    (hnb : quantityOf (bufferOf query) = values.length) (hmax : values.length ≤ MAX_STATUS)
    (h : w.Delivers query (answerBytes (bufferOf query) (.status values))) :
    ∃ msg, modbusReceive (bufferOf query) w = some ((((values.length + 7) / 8 : Nat) : Int), msg) ∧
      ∀ j, j < (values.length + 7) / 8 →
        msg (9 + j) = packByte (fun i => values.getD i false) values.length j := by
  have hmax : values.length ≤ 800 := hmax
  set packed := packBytes (fun i => values.getD i false) values.length with hpacked
  have hbytes : packed.length = (values.length + 7) / 8 := length_packBytes
  have hreply : answerBytes (bufferOf query) (.status values) =
      reply (bufferOf query) (bufferOf query 7 :: UInt8.ofNat packed.length :: packed) := rfl
  have hlength : (reply (bufferOf query)
      (bufferOf query 7 :: UInt8.ofNat packed.length :: packed)).length = 9 + packed.length := by
    show packed.length + 9 = _
    omega
  have hexpected := computeResponseLength_status tab hcode
  rw [hreply] at h
  obtain ⟨msg, hreceive, hmsg⟩ := modbusReceive_good h (by omega) (by omega)
  have h7 : functionOf msg = statusFunction tab := by
    rw [← hcode]
    exact congrArg UInt8.toNat (hmsg 7 (by omega))
  have h8 : (msg 8).toNat = (values.length + 7) / 8 := by
    rw [hmsg 8 (by omega), ← hbytes]
    show (UInt8.ofNat packed.length).toNat = _
    rw [UInt8.toNat_ofNat']
    exact Nat.mod_eq_of_lt (by omega)
  have hcounts : ∀ length, nbValues (bufferOf query) msg length =
      ((values.length + 7) / 8, (values.length + 7) / 8) := by
    intro length
    have hpair : nbValues (bufferOf query) msg length =
        (quantityOf (bufferOf query) / 8 + (if quantityOf (bufferOf query) % 8 ≠ 0 then 1 else 0),
          (msg 8).toNat) := by
      unfold nbValues
      rw [h7]
      cases tab <;> rfl
    rw [hpair, h8, hnb]
    refine Prod.ext ?_ rfl
    dsimp only
    split <;> omega
  rw [goodResponse_eq (hcounts _)] at hreceive
  refine ⟨msg, hreceive, fun j hj => ?_⟩
  rw [hmsg (9 + j) (by omega), show 9 + j = 7 + (j + 2) by omega, bufferOf_reply]
  show packed.getD j 0 = _
  rw [hpacked, packBytes, List.getD_eq_getElem?_getD, List.getElem?_map, List.getElem?_range hj]
  rfl

theorem modbusReceive_registers (tab : RegisterTable) {values : List UInt16}
    (hcode : functionOf (bufferOf query) = registersFunction tab)
    (hnb : quantityOf (bufferOf query) = values.length) (hmax : values.length ≤ MAX_REGISTERS)
    (h : w.Delivers query (answerBytes (bufferOf query) (.registers values))) :
    ∃ msg, modbusReceive (bufferOf query) w = some ((values.length : Int), msg) ∧
      ∀ i (hi : i < values.length),
        UInt16.ofNat (wordAt msg (HEADER_LENGTH_TCP + 3 + 2 * i)) = values[i] := by
  have hmax : values.length ≤ 100 := hmax
  have hbytes : (values.flatMap wordBytes).length = 2 * values.length := by
    simp [List.length_flatMap, Nat.mul_comm]
  have hreply : answerBytes (bufferOf query) (.registers values) = reply (bufferOf query)
      (bufferOf query 7 :: UInt8.ofNat (2 * values.length) :: values.flatMap wordBytes) := rfl
  have hlength : (reply (bufferOf query) (bufferOf query 7 :: UInt8.ofNat (2 * values.length) ::
      values.flatMap wordBytes)).length = 9 + 2 * values.length := by
    show (values.flatMap wordBytes).length + 9 = _
    omega
  have hexpected := computeResponseLength_registers tab hcode
  rw [hreply] at h
  obtain ⟨msg, hreceive, hmsg⟩ := modbusReceive_good h (by omega) (by omega)
  have h7 : functionOf msg = registersFunction tab := by
    rw [← hcode]
    exact congrArg UInt8.toNat (hmsg 7 (by omega))
  have h8 : (msg 8).toNat = 2 * values.length := by
    rw [hmsg 8 (by omega)]
    show (UInt8.ofNat (2 * values.length)).toNat = _
    rw [UInt8.toNat_ofNat']
    exact Nat.mod_eq_of_lt (by omega)
  have hcounts : ∀ length, nbValues (bufferOf query) msg length =
      (values.length, values.length) := by
    intro length
    have hpair : nbValues (bufferOf query) msg length =
        (quantityOf (bufferOf query), (msg 8).toNat / 2) := by
      unfold nbValues
      rw [h7]
      cases tab <;> rfl
    rw [hpair, h8, hnb, Nat.mul_div_cancel_left _ (by decide)]
  rw [goodResponse_eq (hcounts _)] at hreceive
  refine ⟨msg, hreceive, fun i hi => ?_⟩
  have hbyte : ∀ k, k < 2 * values.length →
      msg (9 + k) = (values.flatMap wordBytes).getD k 0 := by
    intro k hk
    rw [hmsg (9 + k) (by omega), show 9 + k = 7 + (k + 2) by omega, bufferOf_reply]
    rfl
  show UInt16.ofNat (wordAt msg (9 + 2 * i)) = _
  rw [word_eq_ofNat, hbyte _ (by omega), Nat.add_assoc, hbyte _ (by omega), getD_wordBytes]

/-- What is returned where something has been set. -/
theorem modbusReceive_done {ret : Nat} (hcode : Sets (functionOf (bufferOf query)))
    (hret : ret = if functionOf (bufferOf query) ≤ FC_PRESET_SINGLE_REGISTER then 1
      else quantityOf (bufferOf query))
    (h : w.Delivers query (answerBytes (bufferOf query) .done)) :
    ∃ msg, modbusReceive (bufferOf query) w = some ((ret : Int), msg) := by
  have hexpected := computeResponseLength_sets hcode
  have hlength : (answerBytes (bufferOf query) .done).length = 12 := by
    dsimp only [answerBytes]
    split <;> rfl
  obtain ⟨msg, hreceive, hmsg⟩ := modbusReceive_good h (by omega) (by omega)
  rw [hlength] at hmsg
  have hcell : ∀ i, i < 12 → 6 < i → msg i = bufferOf query i := by
    intro i hlt hgt
    rw [hmsg i hlt]
    dsimp only [answerBytes]
    split
    · match i with
      | 7 | 8 | 9 | 10 | 11 => rfl
    · match i with
      | 7 | 8 | 9 | 10 | 11 => rfl
  have h7 : functionOf msg = functionOf (bufferOf query) :=
    congrArg UInt8.toNat (hcell 7 (by decide) (by decide))
  have hnb : quantityOf msg = quantityOf (bufferOf query) := by
    show wordAt msg 10 = wordAt (bufferOf query) 10
    rw [wordAt, wordAt, hcell 10 (by decide) (by decide), hcell 11 (by decide) (by decide)]
  have hcounts : ∀ length, nbValues (bufferOf query) msg length = (ret, ret) := by
    intro length
    unfold nbValues
    rw [h7, hnb, hret]
    rcases hcode with h | h | h | h <;> rw [h] <;> rfl
  rw [goodResponse_eq (hcounts _)] at hreceive
  exact ⟨msg, hreceive⟩

end Functions

end ScadaSim.Modbus
