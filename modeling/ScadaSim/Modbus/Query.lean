import ScadaSim.Lib.Cells
import ScadaSim.Modbus.Receive

/-!
# Answering a Modbus query

`modbus_manage_query` as a program over cells: the query it is given, the four
tables of the mapping and the response array on its stack. Every array access of
the source is one access of the program, `memcpy` and `send` a loop of them.
-/

namespace ScadaSim.Modbus

open Lib.Cells

/-! ## The memory -/

inductive BitTable
  | coilStatus
  | inputStatus
  deriving DecidableEq

inductive RegisterTable
  | holdingRegisters
  | inputRegisters
  deriving DecidableEq

inductive Region
  | query
  | response
  | bits (tab : BitTable)
  | registers (tab : RegisterTable)
  deriving DecidableEq

abbrev Contents : Region → Type
  | .registers _ => UInt16
  | _ => UInt8

abbrev Op (α : Type) : Type := Prog Contents α

/-- The sizes in `modbus_mapping_t`; its pointers are the tables of the memory. -/
structure ModbusMapping where
  nb_coil_status : Nat
  nb_input_status : Nat
  nb_holding_registers : Nat
  nb_input_registers : Nat

/-- The mapping `ModbusGate`'s constructor allocates. -/
def gateMapping : ModbusMapping := ⟨500, 500, 500, 500⟩

def ON : UInt8 := 1

def OFF : UInt8 := 0

def query (i : Nat) : Op UInt8 := cell Region.query i

def status (tab : BitTable) (i : Nat) : Op UInt8 := cell (Region.bits tab) i

def register (tab : RegisterTable) (i : Nat) : Op UInt16 := cell (Region.registers tab) i

def response (i : Nat) : Op UInt8 := cell Region.response i

def setStatus (tab : BitTable) (i : Nat) (bit : UInt8) : Op Unit :=
  setCell (Region.bits tab) i bit

def setRegister (tab : RegisterTable) (i : Nat) (value : UInt16) : Op Unit :=
  setCell (Region.registers tab) i value

/-- `(query[i] << 8) + query[i + 1]`. -/
def queryWord (i : Nat) : Op Nat := do
  let high ← query i
  let low ← query (i + 1)
  pure ((high.toNat <<< 8) + low.toNat)

def setResponse (i : Nat) (byte : UInt8) : Op Unit := setCell Region.response i byte

/-- `memcpy(response + start, query + start, n)`. -/
def copyQuery (start n : Nat) : Op Unit :=
  (List.range' start n).foldlM (fun _ i => do
    let byte ← query i
    setResponse i byte) ()

/-! ## Parts of a response -/

def PRESET_RESPONSE_LENGTH_TCP : Nat := 8

def ILLEGAL_DATA_ADDRESS : Int := -0x02

def ILLEGAL_DATA_VALUE : Int := -0x03

structure Sft where
  slave : Nat
  function : Nat
  t_id : Nat

/-- The length, in cells 4 and 5, is left to `setMessageLengthTcp`. -/
def buildResponseBasisTcp (sft : Sft) : Op Nat := do
  setResponse 0 (UInt8.ofNat (sft.t_id >>> 8))
  setResponse 1 (UInt8.ofNat (sft.t_id &&& 0x00ff))
  setResponse 2 0
  setResponse 3 0
  setResponse 6 (UInt8.ofNat sft.slave)
  setResponse 7 (UInt8.ofNat sft.function)
  pure PRESET_RESPONSE_LENGTH_TCP

def responseException (sft : Sft) (exception_code : Int) : Op Nat := do
  let response_length ← buildResponseBasisTcp { sft with function := sft.function + 0x80 }
  setResponse response_length (UInt8.ofInt (-exception_code))
  pure (response_length + 1)

/-- The variables of `response_io_status`. -/
structure Packing where
  shift : Nat
  byte : Nat
  offset : Nat

def responseIoStatusTurn (tab : BitTable) (s : Packing) (i : Nat) : Op Packing := do
  let bit ← status tab i
  let byte := s.byte ||| (bit.toNat <<< s.shift)
  if s.shift = 7 then do
    setResponse s.offset (UInt8.ofNat byte)
    pure ⟨0, 0, s.offset + 1⟩
  else pure ⟨s.shift + 1, byte, s.offset⟩

def responseIoStatus (address nb : Nat) (tab : BitTable) (offset : Nat) : Op Nat := do
  let s ← (List.range' address nb).foldlM (responseIoStatusTurn tab) ⟨0, 0, offset⟩
  if s.shift ≠ 0 then do
    setResponse s.offset (UInt8.ofNat s.byte)
    pure (s.offset + 1)
  else pure s.offset

/-- The two bytes of each register, read once for each byte. -/
def responseRegisters (address nb : Nat) (tab : RegisterTable) (resp_length : Nat) : Op Nat :=
  (List.range' address nb).foldlM (fun resp_length i => do
    let high ← register tab i
    setResponse resp_length (high >>> 8).toUInt8
    let low ← register tab i
    setResponse (resp_length + 1) (low &&& 0xFF).toUInt8
    pure (resp_length + 2)) resp_length

def setBitsFromBytesTurn (address tab_byte shift i : Nat) : Op Nat := do
  let byte ← query (tab_byte + (i - address) / 8)
  setStatus .coilStatus i (if byte.toNat &&& (1 <<< shift) ≠ 0 then ON else OFF)
  pure ((shift + 1) % 8)

/-- `set_bits_from_bytes(tab_coil_status, address, nb_bits, &query[tab_byte])`. -/
def setBitsFromBytes (address nb_bits tab_byte : Nat) : Op Unit := do
  let _ ← (List.range' address nb_bits).foldlM (setBitsFromBytesTurn address tab_byte) 0

def setRegistersTurn (values j i : Nat) : Op Nat := do
  let value ← queryWord (values + j)
  setRegister .holdingRegisters i (UInt16.ofNat value)
  pure (j + 2)

/-- The loop of `FC_PRESET_MULTIPLE_REGISTERS`, the first value at `values`. -/
def setRegisters (address nb values : Nat) : Op Unit := do
  let _ ← (List.range' address nb).foldlM (setRegistersTurn values) 0

/-! ## The functions

Each leaves a response in the array and returns its length. `offset` of the source
is `HEADER_LENGTH_TCP`.
-/

/-- What the functions on a range of a table share: the quantity is in the query, and the
range has to lie in the table. -/
def onRange (nb_table : Nat) (sft : Sft) (address : Nat) (answer : Nat → Op Nat) : Op Nat := do
  let nb ← queryWord (HEADER_LENGTH_TCP + 4)
  if address + nb > nb_table then responseException sft ILLEGAL_DATA_ADDRESS
  else answer nb

def readStatus (nb_table : Nat) (tab : BitTable) (sft : Sft) (address : Nat) : Op Nat :=
  onRange nb_table sft address fun nb => do
    let resp_length ← buildResponseBasisTcp sft
    setResponse resp_length (UInt8.ofNat (nb / 8 + if nb % 8 ≠ 0 then 1 else 0))
    responseIoStatus address nb tab (resp_length + 1)

def readRegisters (nb_table : Nat) (tab : RegisterTable) (sft : Sft) (address : Nat) : Op Nat :=
  onRange nb_table sft address fun nb => do
    let resp_length ← buildResponseBasisTcp sft
    setResponse resp_length (UInt8.ofNat (nb <<< 1))
    responseRegisters address nb tab (resp_length + 1)

def forceSingleCoil (nb_table : Nat) (sft : Sft) (address query_length : Nat) : Op Nat :=
  if address ≥ nb_table then responseException sft ILLEGAL_DATA_ADDRESS
  else do
    let data ← queryWord (HEADER_LENGTH_TCP + 4)
    if data = 0xFF00 ∨ data = 0x0 then do
      setStatus .coilStatus address (if data ≠ 0 then ON else OFF)
      copyQuery 0 query_length
      pure query_length
    else responseException sft ILLEGAL_DATA_VALUE

def presetSingleRegister (nb_table : Nat) (sft : Sft) (address query_length : Nat) : Op Nat :=
  if address ≥ nb_table then responseException sft ILLEGAL_DATA_ADDRESS
  else do
    let data ← queryWord (HEADER_LENGTH_TCP + 4)
    setRegister .holdingRegisters address (UInt16.ofNat data)
    copyQuery 0 query_length
    pure query_length

/-- The values are set, and the address and the quantity are sent back. -/
def setRange (nb_table : Nat) (sft : Sft) (address : Nat) (set : Nat → Op Unit) : Op Nat :=
  onRange nb_table sft address fun nb => do
    set nb
    let resp_length ← buildResponseBasisTcp sft
    copyQuery resp_length 4
    pure (resp_length + 4)

def forceMultipleCoils (nb_table : Nat) (sft : Sft) (address : Nat) : Op Nat :=
  setRange nb_table sft address fun nb => setBitsFromBytes address nb (HEADER_LENGTH_TCP + 7)

def presetMultipleRegisters (nb_table : Nat) (sft : Sft) (address : Nat) : Op Nat :=
  setRange nb_table sft address fun nb => setRegisters address nb (HEADER_LENGTH_TCP + 7)

/-- The `switch` of `modbus_manage_query`. -/
def answer (mb_mapping : ModbusMapping) (query_length : Nat) (sft : Sft) (address : Nat) :
    Op Nat :=
  if sft.function = FC_READ_COIL_STATUS then
    readStatus mb_mapping.nb_coil_status .coilStatus sft address
  else if sft.function = FC_READ_INPUT_STATUS then
    readStatus mb_mapping.nb_input_status .inputStatus sft address
  else if sft.function = FC_READ_HOLDING_REGISTERS then
    readRegisters mb_mapping.nb_holding_registers .holdingRegisters sft address
  else if sft.function = FC_READ_INPUT_REGISTERS then
    readRegisters mb_mapping.nb_input_registers .inputRegisters sft address
  else if sft.function = FC_FORCE_SINGLE_COIL then
    forceSingleCoil mb_mapping.nb_coil_status sft address query_length
  else if sft.function = FC_PRESET_SINGLE_REGISTER then
    presetSingleRegister mb_mapping.nb_holding_registers sft address query_length
  else if sft.function = FC_FORCE_MULTIPLE_COILS then
    forceMultipleCoils mb_mapping.nb_coil_status sft address
  else if sft.function = FC_PRESET_MULTIPLE_REGISTERS then
    presetMultipleRegisters mb_mapping.nb_holding_registers sft address
  else
    -- FC_READ_EXCEPTION_STATUS and FC_REPORT_SLAVE_ID print that they are not implemented
    pure 0

/-! ## Sending -/

def setMessageLengthTcp (msg_length : Nat) : Op Unit := do
  let mbap_length : Int := msg_length - 6
  setResponse 4 (UInt8.ofInt (mbap_length.shiftRight 8))
  setResponse 5 (UInt8.ofInt (mbap_length % 0x100))

/-- `modbus_send`: the bytes that are handed to `send`. -/
def modbusSend (query_length : Nat) : Op (List UInt8) := do
  setMessageLengthTcp query_length
  (List.range' 0 query_length).foldlM (fun sent i => do
    let byte ← response i
    pure (sent ++ [byte])) []

def modbusManageQuery (mb_mapping : ModbusMapping) (query_length : Nat) : Op (List UInt8) := do
  let slave ← query HEADER_LENGTH_TCP
  let function ← query (HEADER_LENGTH_TCP + 1)
  let address ← queryWord (HEADER_LENGTH_TCP + 2)
  let t_id ← queryWord 0
  let resp_length ← answer mb_mapping query_length ⟨slave.toNat, function.toNat, t_id⟩ address
  modbusSend resp_length

end ScadaSim.Modbus
