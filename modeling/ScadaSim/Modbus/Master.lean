import ScadaSim.Modbus.Stream

/-!
# The master's side

The functions of `modbus.cc` with which a master reads and sets the tables of a slave: each
builds a query, sends it, and waits for the response. `modbus_receive` does not compare the
transaction of the response with the query's, and tells an exception by the time out that
ends it.

`mb_param` is as `modbus_init_tcp` leaves it. The queries are lists, of the length the
source counts in `query_length`.
-/

namespace ScadaSim.Modbus

def MAX_STATUS : Nat := 800

def MAX_REGISTERS : Nat := 100

def FC_READ_EXCEPTION_STATUS : Nat := 0x07

def FC_REPORT_SLAVE_ID : Nat := 0x11

def TOO_MANY_DATA : Int := -0x0F

def PORT_SOCKET_FAILURE : Int := -0x0D

def INVALID_EXCEPTION_CODE : Int := -0x11

def NB_TAB_ERROR_MSG : Nat := 12

/-- The code `receive_msg` returns. -/
def ReceiveError.code : ReceiveError → Int
  | .COMM_TIME_OUT => -0x0C
  | .PORT_SOCKET_FAILURE => Modbus.PORT_SOCKET_FAILURE
  | .SELECT_FAILURE => -0x0E
  | .TOO_MANY_DATA => Modbus.TOO_MANY_DATA
  | .CONNECTION_CLOSED => -0x12

/-! ## Queries -/

/-- The `t_id` of the next query; it is a static variable. -/
def nextTId (t_id : UInt16) : UInt16 := if t_id < 65535 then t_id + 1 else 0

/-- The length, in bytes 4 and 5, is left to `setMessageLength`. -/
def buildQueryBasisTcp (t_id : UInt16) (slave function : Nat) (start_addr nb : Int) :
    List UInt8 :=
  [(t_id >>> 8).toUInt8, (t_id &&& 0x00ff).toUInt8, 0, 0, 0, 0,
    UInt8.ofNat slave, UInt8.ofNat function,
    UInt8.ofInt (start_addr.shiftRight 8), UInt8.ofInt (start_addr % 0x100),
    UInt8.ofInt (nb.shiftRight 8), UInt8.ofInt (nb % 0x100)]

/-- `set_message_length_tcp` -/
def setMessageLength (msg : List UInt8) : List UInt8 :=
  let mbap_length : Int := msg.length - 6
  (msg.set 4 (UInt8.ofInt (mbap_length.shiftRight 8))).set 5 (UInt8.ofInt (mbap_length % 0x100))

/-- The values that `bit` takes in a loop while `bit & 0xFF` is not zero. -/
def eightBits : List UInt8 := [0x01, 0x02, 0x04, 0x08, 0x10, 0x20, 0x40, 0x80]

/-- The variables of the loops in `force_multiple_coils`; `byte` is the last of the query. -/
structure CoilPacking where
  coil_check : Nat
  pos : Nat
  byte : UInt8

/-- The inner loop, from a value of `bit` on. -/
def CoilPacking.bits (nb : Nat) (data_src : Nat → UInt8) (s : CoilPacking) :
    List UInt8 → CoilPacking
  | [] => s
  | bit :: rest =>
      let s' := { s with coil_check := s.coil_check + 1 }
      if s.coil_check < nb then
        CoilPacking.bits nb data_src
          { s' with
            pos := s.pos + 1
            byte := if data_src s.pos ≠ 0 then s.byte ||| bit else s.byte &&& ~~~bit } rest
      else s'

/-- A turn of the outer loop, with the query so far. -/
def packCoilsTurn (nb : Nat) (data_src : Nat → UInt8) (s : CoilPacking × List UInt8) (_ : Nat) :
    CoilPacking × List UInt8 :=
  let packed := CoilPacking.bits nb data_src { s.1 with byte := 0 } eightBits
  (packed, s.2 ++ [packed.byte])

/-- The loops of `force_multiple_coils`. -/
def packCoils (nb : Nat) (data_src : Nat → UInt8) (query : List UInt8) : List UInt8 :=
  let byte_count := nb / 8 + if nb % 8 ≠ 0 then 1 else 0
  ((List.range byte_count).foldl (packCoilsTurn nb data_src)
    (⟨0, 0, 0⟩, query ++ [UInt8.ofNat byte_count])).2

/-- The loop of `preset_multiple_registers`. -/
def packRegisters (nb : Nat) (data_src : Nat → UInt16) (query : List UInt8) : List UInt8 :=
  (List.range nb).foldl (fun query i =>
    query ++ [(data_src i >>> 8).toUInt8, (data_src i &&& 0x00FF).toUInt8])
    (query ++ [UInt8.ofNat (nb * 2)])

/-! ## The response -/

def computeResponseLength (query : Buffer) : Nat :=
  let length :=
    if functionOf query = FC_READ_COIL_STATUS ∨ functionOf query = FC_READ_INPUT_STATUS then
      3 + quantityOf query / 8 + if quantityOf query % 8 ≠ 0 then 1 else 0
    else if functionOf query = FC_READ_HOLDING_REGISTERS ∨
        functionOf query = FC_READ_INPUT_REGISTERS then
      3 + 2 * quantityOf query
    else if functionOf query = FC_READ_EXCEPTION_STATUS then 4
    else 6
  length + HEADER_LENGTH_TCP + CHECKSUM_LENGTH_TCP

/-- What a call of the master meets: what `send` returns, what is in the array for the
response and in `response_length` before they are written, and what its `recv` meets. -/
structure Wire where
  written : Int
  response : Buffer
  response_length : Nat
  arrivals : List Arrival

/-- Where `receive_msg` begins for a message of defined length. -/
def Receipt.startDefined (msg : Buffer) (length : Nat) : Receipt where
  msg := msg
  p_msg_length := 0
  msg_length_computed := length
  length_to_read := length
  state := .COMPLETE

/-- The loop of `receive_msg`, with what has been read when it ends with an error. -/
def Receipt.read (r : Receipt) : List Arrival → Option (Receipt × Option ReceiveError)
  | [] => none
  | arrival :: arrivals =>
      match r.turn arrival with
      | .error e => some (r, some e)
      | .ok r' => if r'.length_to_read > 0 then r'.read arrivals else some (r', none)

/-- `receive_msg` with the length of a response. `response_length` is set once there is
something to read. -/
def receiveResponse (length : Nat) (w : Wire) : Option (Receipt × Option ReceiveError) :=
  match w.arrivals with
  | .timeOut :: _ =>
      some ({ Receipt.startDefined w.response length with p_msg_length := w.response_length },
        some .COMM_TIME_OUT)
  | arrivals => (Receipt.startDefined w.response length).read arrivals

/-- `query_nb_value` and `response_nb_value` -/
def nbValues (query response : Buffer) (response_length : Nat) : Nat × Nat :=
  if functionOf response = FC_READ_COIL_STATUS ∨ functionOf response = FC_READ_INPUT_STATUS then
    (quantityOf query / 8 + (if quantityOf query % 8 ≠ 0 then 1 else 0),
      (response (HEADER_LENGTH_TCP + 2)).toNat)
  else if functionOf response = FC_READ_HOLDING_REGISTERS ∨
      functionOf response = FC_READ_INPUT_REGISTERS then
    (quantityOf query, (response (HEADER_LENGTH_TCP + 2)).toNat / 2)
  else if functionOf response = FC_FORCE_MULTIPLE_COILS ∨
      functionOf response = FC_PRESET_MULTIPLE_REGISTERS then
    (quantityOf query, quantityOf response)
  else if functionOf response = FC_REPORT_SLAVE_ID then (response_length, response_length)
  else (1, 1)

/-- A response of the expected length. -/
def goodResponse (query response : Buffer) (response_length : Nat) : Int :=
  let (query_nb_value, response_nb_value) := nbValues query response response_length
  if query_nb_value = response_nb_value then response_nb_value else ILLEGAL_DATA_VALUE

/-- A response that has stopped short is an exception, or is not there in time. -/
def shortResponse (query response : Buffer) (response_length : Nat) : Int :=
  if response_length = HEADER_LENGTH_TCP + 3 + CHECKSUM_LENGTH_TCP ∧
      0x80 + functionOf query = functionOf response then
    let exception_code := (response (HEADER_LENGTH_TCP + 2)).toNat
    if exception_code < NB_TAB_ERROR_MSG then -exception_code else INVALID_EXCEPTION_CODE
  else ReceiveError.COMM_TIME_OUT.code

/-- What is returned, and the response; no result while it is waited for. Reconnecting, in
`error_treat`, is left out. -/
def modbusReceive (query : Buffer) (w : Wire) : Option (Int × Buffer) :=
  match receiveResponse (computeResponseLength query) w with
  | none => none
  | some (r, none) => some (goodResponse query r.msg r.p_msg_length, r.msg)
  | some (r, some .COMM_TIME_OUT) => some (shortResponse query r.msg r.p_msg_length, r.msg)
  | some (r, some e) => some (e.code, r.msg)

/-! ## The calls -/

namespace Master

/-- A call that has begun: it has returned at once, or has sent a query and waits. -/
inductive Started (ρ : Type)
  | returned (result : ρ)
  | sent (query : List UInt8) (finish : Wire → Option ρ)

/-- What follows `modbus_send`: the response, if the whole query has been written. -/
def finish {ρ : Type} (query : List UInt8) (unsent : Int → ρ) (result : Int → Buffer → ρ)
    (w : Wire) : Option ρ :=
  let ret := if w.written = -1 ∨ w.written ≠ query.length then PORT_SOCKET_FAILURE else w.written
  if ret > 0 then (modbusReceive (bufferOf query) w).map fun (ret, response) => result ret response
  else some (unsent ret)

/-- A query is sent with its length set. -/
def exchange {ρ : Type} (query : List UInt8) (unsent : Int → ρ) (result : Int → Buffer → ρ) :
    Started ρ :=
  .sent (setMessageLength query) (finish (setMessageLength query) unsent result)

/-- The inner loop of `read_io_status`, from a value of `bit` on. -/
def unpackBits (nb : Nat) (temp : UInt8) (s : Nat × (Nat → UInt8)) :
    List UInt8 → Nat × (Nat → UInt8)
  | [] => s
  | bit :: rest =>
      if s.1 < nb then
        unpackBits nb temp
          (s.1 + 1, Function.update s.2 s.1 (if temp &&& bit ≠ 0 then 1 else 0)) rest
      else s

/-- The loops of `read_io_status`. -/
def unpackStatus (nb : Nat) (ret : Nat) (response : Buffer) (data_dest : Nat → UInt8) :
    Nat → UInt8 :=
  ((List.range' HEADER_LENGTH_TCP ret).foldl
    (fun s i => unpackBits nb (response (3 + i)) s eightBits) (0, data_dest)).2

/-- `ret` bytes of the response are taken apart. -/
def readIoStatus (t_id : UInt16) (slave function : Nat) (start_addr : Int) (nb : Nat)
    (data_dest : Nat → UInt8) : Started (Int × (Nat → UInt8)) :=
  exchange (buildQueryBasisTcp t_id slave function start_addr nb) (fun ret => (ret, data_dest))
    fun ret response =>
      if ret < 0 then (ret, data_dest)
      else (ret, unpackStatus nb ret.toNat response data_dest)

/-- What a caller sees of a call: the value returned, and its array. -/
def Started.map {ρ τ : Type} (f : ρ → τ) : Started ρ → Started τ
  | .returned result => .returned (f result)
  | .sent query finish => .sent query fun w => (finish w).map f

/-- `read_coil_status` and `read_input_status` -/
def readStatus (t_id : UInt16) (slave function : Nat) (start_addr : Int) (nb : Nat)
    (data_dest : Nat → UInt8) : Started (Int × (Nat → UInt8)) :=
  if nb > MAX_STATUS then .returned (TOO_MANY_DATA, data_dest)
  else
    (readIoStatus t_id slave function start_addr nb data_dest).map fun result =>
      (if result.1 > 0 then nb else result.1, result.2)

def readCoilStatus (t_id : UInt16) (slave : Nat) : Int → Nat → (Nat → UInt8) →
    Started (Int × (Nat → UInt8)) :=
  readStatus t_id slave FC_READ_COIL_STATUS

def readInputStatus (t_id : UInt16) (slave : Nat) : Int → Nat → (Nat → UInt8) →
    Started (Int × (Nat → UInt8)) :=
  readStatus t_id slave FC_READ_INPUT_STATUS

/-- The loop of `read_registers`. -/
def unpackRegisters (ret : Nat) (response : Buffer) (data_dest : Nat → UInt16) : Nat → UInt16 :=
  (List.range ret).foldl (fun data_dest i =>
    Function.update data_dest i (UInt16.ofNat (wordAt response (HEADER_LENGTH_TCP + 3 + 2 * i))))
    data_dest

/-- `read_registers`; the functions around it make the same check before. -/
def readRegisters (t_id : UInt16) (slave function : Nat) (start_addr : Int) (nb : Nat)
    (data_dest : Nat → UInt16) : Started (Int × (Nat → UInt16)) :=
  if nb > MAX_REGISTERS then .returned (TOO_MANY_DATA, data_dest)
  else
    exchange (buildQueryBasisTcp t_id slave function start_addr nb) (fun ret => (ret, data_dest))
      -- the loop is not entered with a negative `ret`
      fun ret response => (ret, unpackRegisters ret.toNat response data_dest)

def readHoldingRegisters (t_id : UInt16) (slave : Nat) : Int → Nat → (Nat → UInt16) →
    Started (Int × (Nat → UInt16)) :=
  readRegisters t_id slave FC_READ_HOLDING_REGISTERS

def readInputRegisters (t_id : UInt16) (slave : Nat) : Int → Nat → (Nat → UInt16) →
    Started (Int × (Nat → UInt16)) :=
  readRegisters t_id slave FC_READ_INPUT_REGISTERS

def setSingle (t_id : UInt16) (slave function : Nat) (addr value : Int) : Started Int :=
  exchange (buildQueryBasisTcp t_id slave function addr value) id fun ret _ => ret

def forceSingleCoil (t_id : UInt16) (slave : Nat) (coil_addr state : Int) : Started Int :=
  setSingle t_id slave FC_FORCE_SINGLE_COIL coil_addr (if state ≠ 0 then 0xFF00 else state)

def presetSingleRegister (t_id : UInt16) (slave : Nat) (reg_addr value : Int) : Started Int :=
  setSingle t_id slave FC_PRESET_SINGLE_REGISTER reg_addr value

def forceMultipleCoils (t_id : UInt16) (slave : Nat) (start_addr : Int) (nb : Nat)
    (data_src : Nat → UInt8) : Started Int :=
  if nb > MAX_STATUS then .returned TOO_MANY_DATA
  else
    exchange (packCoils nb data_src
      (buildQueryBasisTcp t_id slave FC_FORCE_MULTIPLE_COILS start_addr nb)) id fun ret _ => ret

def presetMultipleRegisters (t_id : UInt16) (slave : Nat) (start_addr : Int) (nb : Nat)
    (data_src : Nat → UInt16) : Started Int :=
  if nb > MAX_REGISTERS then .returned TOO_MANY_DATA
  else
    exchange (packRegisters nb data_src
      (buildQueryBasisTcp t_id slave FC_PRESET_MULTIPLE_REGISTERS start_addr nb)) id fun ret _ => ret

end Master

end ScadaSim.Modbus
