import Mathlib.Init

/-!
# Receiving a Modbus query

`modbus_listen` takes a query off the socket without knowing its length: it reads
up to the function code, computes from it how much there is up to the data, and
from the byte count how much data there is. `received_length` says which lengths a
complete query can have.

`mb_param` is as `modbus_init_tcp` leaves it: a header of six bytes and no checksum.
-/

namespace ScadaSim.Modbus

def HEADER_LENGTH_TCP : Nat := 6

def CHECKSUM_LENGTH_TCP : Nat := 0

def MAX_MESSAGE_LENGTH : Nat := 256

/-! ## Function codes -/

def FC_READ_COIL_STATUS : Nat := 0x01

def FC_READ_INPUT_STATUS : Nat := 0x02

def FC_READ_HOLDING_REGISTERS : Nat := 0x03

def FC_READ_INPUT_REGISTERS : Nat := 0x04

def FC_FORCE_SINGLE_COIL : Nat := 0x05

def FC_PRESET_SINGLE_REGISTER : Nat := 0x06

def FC_FORCE_MULTIPLE_COILS : Nat := 0x0F

def FC_PRESET_MULTIPLE_REGISTERS : Nat := 0x10

/-! ## The length of a query -/

/-- A message buffer. What is behind its end, or was never received, is a value of some kind. -/
abbrev Buffer : Type := Nat → UInt8

def computeQueryLengthHeader (function : Nat) : Nat :=
  if function ≤ FC_FORCE_SINGLE_COIL ∨ function = FC_PRESET_SINGLE_REGISTER then 4
  else if function = FC_FORCE_MULTIPLE_COILS ∨ function = FC_PRESET_MULTIPLE_REGISTERS then 5
  else 0

def computeQueryLengthData (msg : Buffer) : Nat :=
  let function := (msg (HEADER_LENGTH_TCP + 1)).toNat
  let length :=
    if function = FC_FORCE_MULTIPLE_COILS ∨ function = FC_PRESET_MULTIPLE_REGISTERS then
      (msg (HEADER_LENGTH_TCP + 6)).toNat
    else 0
  length + CHECKSUM_LENGTH_TCP

/-! ## `receive_msg` -/

/-- What `WAIT_DATA` and the `recv` after it meet. `recv` takes from the bytes that are
there no more than it was asked for; none at all means that the peer has closed. -/
inductive Arrival
  | timeOut
  | selectFailure
  | recvFailure
  | bytes (available : List UInt8)

inductive ReceiveError
  | COMM_TIME_OUT
  | SELECT_FAILURE
  | PORT_SOCKET_FAILURE
  | TOO_MANY_DATA
  | CONNECTION_CLOSED
  deriving DecidableEq

inductive Stage
  | FUNCTION
  | BYTE
  | COMPLETE
  deriving DecidableEq

/-- The variables of `receive_msg`. -/
structure Receipt where
  msg : Buffer
  p_msg_length : Nat
  msg_length_computed : Nat
  length_to_read : Nat
  state : Stage

/-- A message with the length `receive_msg` reports for it. -/
structure Received where
  query : Buffer
  query_length : Nat

/-- `recv` into `msg` at `p_msg`. -/
def Receipt.store (r : Receipt) (read : List UInt8) : Receipt :=
  { r with
    msg := fun i =>
      if i < r.p_msg_length then r.msg i else (read[i - r.p_msg_length]?).getD (r.msg i)
    p_msg_length := r.p_msg_length + read.length }

/-- What is read next, after `p_msg_length` has been counted up. -/
def Receipt.advance (r : Receipt) : Except ReceiveError Receipt :=
  if r.p_msg_length < r.msg_length_computed then
    .ok { r with length_to_read := r.msg_length_computed - r.p_msg_length }
  else
    match r.state with
    | .FUNCTION =>
        let length := computeQueryLengthHeader (r.msg (HEADER_LENGTH_TCP + 1)).toNat
        .ok { r with
          length_to_read := length
          msg_length_computed := r.msg_length_computed + length
          state := .BYTE }
    | .BYTE =>
        let length := computeQueryLengthData r.msg
        if r.msg_length_computed + length > MAX_MESSAGE_LENGTH then .error .TOO_MANY_DATA
        else
          .ok { r with
            length_to_read := length
            msg_length_computed := r.msg_length_computed + length
            state := .COMPLETE }
    | .COMPLETE => .ok { r with length_to_read := 0 }

/-- A turn of the loop of `receive_msg`, with the `WAIT_DATA` before it. -/
def Receipt.turn (r : Receipt) : Arrival → Except ReceiveError Receipt
  | .timeOut => .error .COMM_TIME_OUT
  | .selectFailure => .error .SELECT_FAILURE
  | .recvFailure => .error .PORT_SOCKET_FAILURE
  | .bytes available =>
      if available = [] then .error .CONNECTION_CLOSED
      else (r.store (available.take r.length_to_read)).advance

/-- The loop; no result while the socket is waited for. -/
def Receipt.loop (r : Receipt) : List Arrival → Option (Except ReceiveError Received)
  | [] => none
  | arrival :: arrivals =>
      match r.turn arrival with
      | .error e => some (.error e)
      | .ok r' =>
          if r'.length_to_read > 0 then r'.loop arrivals
          else some (.ok ⟨r'.msg, r'.p_msg_length⟩)

/-- Where `receive_msg` begins for a message of undefined length. -/
def Receipt.start (msg : Buffer) : Receipt where
  msg := msg
  p_msg_length := 0
  msg_length_computed := HEADER_LENGTH_TCP + 2
  length_to_read := HEADER_LENGTH_TCP + 2
  state := .FUNCTION

/-- `modbus_listen`: `receive_msg` with `MSG_LENGTH_UNDEFINED`, into the buffer `query`. -/
def modbusListen (query : Buffer) (arrivals : List Arrival) :
    Option (Except ReceiveError Received) :=
  (Receipt.start query).loop arrivals

/-! ## Which lengths a complete query has -/

/-- Where the data of a query begins, by its function code. -/
def headerEnd (query : Buffer) : Nat :=
  HEADER_LENGTH_TCP + 2 + computeQueryLengthHeader (query (HEADER_LENGTH_TCP + 1)).toNat

def queryLength (query : Buffer) : Nat := headerEnd query + computeQueryLengthData query

/-- Up to the function code, a query is determined by its first eight bytes. -/
theorem headerEnd_congr {q q' : Buffer} {n : Nat} (h : ∀ i, i < n → q' i = q i) (hn : 8 ≤ n) :
    headerEnd q' = headerEnd q := by
  simp only [headerEnd, h (HEADER_LENGTH_TCP + 1) (show 7 < n by omega)]

/-- The byte count, where a query has one, is the last byte before its data. -/
theorem computeQueryLengthData_congr {q q' : Buffer} {n : Nat} (h : ∀ i, i < n → q' i = q i)
    (hn : headerEnd q ≤ n) : computeQueryLengthData q' = computeQueryLengthData q := by
  have hlow : 8 ≤ n := Nat.le_trans (Nat.le_add_right 8 _) hn
  have hcode : q' (HEADER_LENGTH_TCP + 1) = q (HEADER_LENGTH_TCP + 1) := h 7 (by omega)
  simp only [computeQueryLengthData, hcode]
  split
  · next hmultiple =>
      have hend : headerEnd q = 13 := by
        rcases hmultiple with hcoils | hregisters
        · simp only [headerEnd, hcoils]; rfl
        · simp only [headerEnd, hregisters]; rfl
      rw [h (HEADER_LENGTH_TCP + 6) (show 12 < n by omega)]
  · rfl

/-- A query that ends at its function code has no data. -/
theorem computeQueryLengthData_of_short {q : Buffer}
    (h : computeQueryLengthHeader (q (HEADER_LENGTH_TCP + 1)).toNat = 0) :
    computeQueryLengthData q = 0 := by
  simp only [computeQueryLengthData]
  split
  · next hmultiple =>
      rcases hmultiple with hcoils | hregisters
      · rw [hcoils] at h; exact absurd h (by decide)
      · rw [hregisters] at h; exact absurd h (by decide)
  · rfl

namespace Receipt

/-- What has been read is the beginning of a query whose length is known as far as the
stage says. -/
structure Placed (r : Receipt) : Prop where
  within : r.p_msg_length ≤ r.msg_length_computed
  function : r.state = .FUNCTION → r.msg_length_computed = 8
  byte : r.state = .BYTE → 8 ≤ r.p_msg_length ∧ r.msg_length_computed = headerEnd r.msg
  complete : r.state = .COMPLETE → headerEnd r.msg ≤ r.p_msg_length ∧
    r.msg_length_computed = queryLength r.msg ∧ r.msg_length_computed ≤ MAX_MESSAGE_LENGTH

/-- Between two turns: what is to be read next is what is missing, and nothing is missing
of a complete query only. -/
structure Sound (r : Receipt) : Prop extends Placed r where
  rest : r.p_msg_length + r.length_to_read = r.msg_length_computed
  stop : r.length_to_read = 0 →
    r.p_msg_length = queryLength r.msg ∧ r.p_msg_length ≤ MAX_MESSAGE_LENGTH

theorem sound_start (query : Buffer) : (start query).Sound where
  within := Nat.zero_le _
  function := fun _ => rfl
  byte := nofun
  complete := nofun
  rest := rfl
  stop := nofun

theorem store_msg {r : Receipt} {read : List UInt8} (i : Nat) (h : i < r.p_msg_length) :
    (r.store read).msg i = r.msg i :=
  if_pos h

/-- More bytes go behind the ones that are there. -/
theorem Sound.store {r : Receipt} (h : r.Sound) {read : List UInt8}
    (hread : read.length ≤ r.length_to_read) : (r.store read).Placed where
  within := by
    show r.p_msg_length + read.length ≤ r.msg_length_computed
    have hrest := h.rest
    omega
  function := h.function
  byte := by
    intro hstate
    obtain ⟨hlow, hlength⟩ := h.byte hstate
    refine ⟨Nat.le_trans hlow (Nat.le_add_right _ _), hlength.trans ?_⟩
    exact (headerEnd_congr store_msg hlow).symm
  complete := by
    intro hstate
    obtain ⟨hhead, hlength, hmax⟩ := h.complete hstate
    have hlow : 8 ≤ r.p_msg_length := Nat.le_trans (Nat.le_add_right 8 _) hhead
    have hend : headerEnd (r.store read).msg = headerEnd r.msg :=
      headerEnd_congr store_msg hlow
    have hdata : computeQueryLengthData (r.store read).msg = computeQueryLengthData r.msg :=
      computeQueryLengthData_congr store_msg hhead
    refine ⟨?_, hlength.trans ?_, hmax⟩
    · rw [hend]
      exact Nat.le_trans hhead (Nat.le_add_right _ _)
    · rw [queryLength, queryLength, hend, hdata]

/-- The function code is there: the rest of the header is read next. -/
theorem Placed.advance_function {r : Receipt} (h : r.Placed) (hstate : r.state = .FUNCTION)
    (hall : r.p_msg_length = r.msg_length_computed) :
    Sound { r with
      length_to_read := computeQueryLengthHeader (r.msg (HEADER_LENGTH_TCP + 1)).toNat
      msg_length_computed := r.msg_length_computed +
        computeQueryLengthHeader (r.msg (HEADER_LENGTH_TCP + 1)).toNat
      state := .BYTE } := by
  have hcode := h.function hstate
  have hend : r.msg_length_computed +
      computeQueryLengthHeader (r.msg (HEADER_LENGTH_TCP + 1)).toNat = headerEnd r.msg := by
    rw [hcode]; rfl
  exact {
    within := Nat.le_trans h.within (Nat.le_add_right _ _)
    function := nofun
    byte := fun _ => ⟨by show 8 ≤ r.p_msg_length; omega, hend⟩
    complete := nofun
    rest := by
      show r.p_msg_length + _ = r.msg_length_computed + _
      rw [hall]
    stop := by
      -- a function code that is not known: the query ends right after it
      intro hzero
      have hzero : computeQueryLengthHeader (r.msg (HEADER_LENGTH_TCP + 1)).toNat = 0 := hzero
      have hdata := computeQueryLengthData_of_short hzero
      show r.p_msg_length = queryLength r.msg ∧ r.p_msg_length ≤ MAX_MESSAGE_LENGTH
      rw [queryLength, hdata, ← hend, hzero, hall, hcode]
      exact ⟨rfl, by decide⟩ }

/-- The header is there: the data is read next, where there is room for it. -/
theorem Placed.advance_byte {r : Receipt} (h : r.Placed) (hstate : r.state = .BYTE)
    (hall : r.p_msg_length = r.msg_length_computed)
    (hfits : r.msg_length_computed + computeQueryLengthData r.msg ≤ MAX_MESSAGE_LENGTH) :
    Sound { r with
      length_to_read := computeQueryLengthData r.msg
      msg_length_computed := r.msg_length_computed + computeQueryLengthData r.msg
      state := .COMPLETE } := by
  obtain ⟨hlow, hend⟩ := h.byte hstate
  exact {
    within := Nat.le_trans h.within (Nat.le_add_right _ _)
    function := nofun
    byte := nofun
    complete := fun _ => ⟨by show headerEnd r.msg ≤ r.p_msg_length; omega,
      by rw [hend]; rfl, hfits⟩
    rest := by
      show r.p_msg_length + _ = r.msg_length_computed + _
      rw [hall]
    stop := by
      -- a query without data is complete with its header
      intro hzero
      have hzero : computeQueryLengthData r.msg = 0 := hzero
      show r.p_msg_length = queryLength r.msg ∧ r.p_msg_length ≤ MAX_MESSAGE_LENGTH
      rw [queryLength, hzero]
      omega }

/-- The data is there: nothing is read any more. -/
theorem Placed.advance_complete {r : Receipt} (h : r.Placed) (hstate : r.state = .COMPLETE)
    (hall : r.p_msg_length = r.msg_length_computed) : Sound { r with length_to_read := 0 } := by
  obtain ⟨-, hlength, hmax⟩ := h.complete hstate
  exact {
    within := h.within
    function := h.function
    byte := h.byte
    complete := h.complete
    rest := hall
    stop := fun _ => ⟨hall.trans hlength, hall ▸ hmax⟩ }

/-- The length to read next fits the stage that is gone to. -/
theorem Placed.advance {r r' : Receipt} (h : r.Placed) (hr' : r.advance = .ok r') : r'.Sound := by
  have hwithin := h.within
  unfold Receipt.advance at hr'
  by_cases hmissing : r.p_msg_length < r.msg_length_computed
  · -- `recv` gave less than was asked for: the stage stays
    rw [if_pos hmissing] at hr'
    cases hr'
    exact { h with
      rest := Nat.add_sub_of_le hwithin
      stop := fun hzero => absurd hzero (show r.msg_length_computed - r.p_msg_length ≠ 0 by omega) }
  · rw [if_neg hmissing] at hr'
    have hall : r.p_msg_length = r.msg_length_computed := by omega
    cases hstate : r.state with
    | FUNCTION =>
        simp only [hstate] at hr'
        cases hr'
        exact h.advance_function hstate hall
    | BYTE =>
        simp only [hstate] at hr'
        by_cases hmany :
            r.msg_length_computed + computeQueryLengthData r.msg > MAX_MESSAGE_LENGTH
        · rw [if_pos hmany] at hr'
          cases hr'
        · rw [if_neg hmany] at hr'
          cases hr'
          exact h.advance_byte hstate hall (Nat.le_of_not_gt hmany)
    | COMPLETE =>
        simp only [hstate] at hr'
        cases hr'
        exact hstate ▸ h.advance_complete hstate hall

theorem Sound.turn {r r' : Receipt} (h : r.Sound) {arrival : Arrival}
    (hr' : r.turn arrival = .ok r') : r'.Sound := by
  cases arrival with
  | timeOut => cases hr'
  | selectFailure => cases hr'
  | recvFailure => cases hr'
  | bytes available =>
      dsimp only [Receipt.turn] at hr'
      split at hr'
      · cases hr'
      · exact (h.store (List.length_take_le _ _)).advance hr'

theorem Sound.loop {r : Receipt} (h : r.Sound) {arrivals : List Arrival} {received : Received}
    (hdone : r.loop arrivals = some (.ok received)) :
    received.query_length = queryLength received.query ∧
      received.query_length ≤ MAX_MESSAGE_LENGTH := by
  induction arrivals generalizing r with
  | nil => cases hdone
  | cons arrival arrivals ih =>
      unfold Receipt.loop at hdone
      split at hdone
      · cases hdone
      · next r' hturn =>
          have hsound := h.turn hturn
          split at hdone
          · exact ih hsound hdone
          · next hstop =>
              cases hdone
              exact hsound.stop (Nat.eq_zero_of_not_pos hstop)

end Receipt

/-- What is handed over has the length its function code and its byte count say. -/
theorem received_length {query : Buffer} {arrivals : List Arrival} {received : Received}
    (h : modbusListen query arrivals = some (.ok received)) :
    received.query_length = queryLength received.query ∧
      received.query_length ≤ MAX_MESSAGE_LENGTH :=
  (Receipt.sound_start query).loop h

end ScadaSim.Modbus
