import ScadaSim.Lib.Pack
import ScadaSim.Modbus.Bounds
import ScadaSim.Modbus.Crc16

/-!
# The device behind the protocol

What a Modbus device is for: two tables of truth values and two of words, of which a
master reads and sets ranges. `Device.serve` says it without bytes. `requestOf` reads a
request off a query, and `answerBytes` is the message an answer is sent in.

`DeviceQuery` shows that `modbus_manage_query` is this device.
-/

namespace ScadaSim.Modbus

open Lib

structure Device where
  bits : BitTable → Nat → Bool
  registers : RegisterTable → Nat → UInt16

/-- A request of a master. What a single coil is set to is one of two words. -/
inductive Request
  | readStatus (tab : BitTable) (address nb : Nat)
  | readRegisters (tab : RegisterTable) (address nb : Nat)
  | forceSingleCoil (address data : Nat)
  | presetSingleRegister (address : Nat) (value : UInt16)
  | forceMultipleCoils (address : Nat) (values : List Bool)
  | presetMultipleRegisters (address : Nat) (values : List UInt16)

inductive Answer
  | status (values : List Bool)
  | registers (values : List UInt16)
  | done
  | exception (code : Int)

def ModbusMapping.nbStatus (mb_mapping : ModbusMapping) : BitTable → Nat
  | .coilStatus => mb_mapping.nb_coil_status
  | .inputStatus => mb_mapping.nb_input_status

def ModbusMapping.nbRegisters (mb_mapping : ModbusMapping) : RegisterTable → Nat
  | .holdingRegisters => mb_mapping.nb_holding_registers
  | .inputRegisters => mb_mapping.nb_input_registers

/-- The entries from `address` on are `values`. -/
def overwrite {α : Type} (old : Nat → α) (address : Nat) (values : List α) : Nat → α :=
  fun i => if i < address then old i else (values[i - address]?).getD (old i)

namespace Device

variable (d : Device)

def force (address : Nat) (values : List Bool) : Device :=
  { d with
    bits := Function.update d.bits .coilStatus (overwrite (d.bits .coilStatus) address values) }

def preset (address : Nat) (values : List UInt16) : Device :=
  { d with
    registers := Function.update d.registers .holdingRegisters
      (overwrite (d.registers .holdingRegisters) address values) }

/-- Inputs can be read only. A range that is not in its table is refused. -/
def serve (mb_mapping : ModbusMapping) : Request → Device × Answer
  | .readStatus tab address nb =>
      if mb_mapping.nbStatus tab < address + nb then (d, .exception ILLEGAL_DATA_ADDRESS)
      else (d, .status ((List.range' address nb).map (d.bits tab)))
  | .readRegisters tab address nb =>
      if mb_mapping.nbRegisters tab < address + nb then (d, .exception ILLEGAL_DATA_ADDRESS)
      else (d, .registers ((List.range' address nb).map (d.registers tab)))
  | .forceSingleCoil address data =>
      if mb_mapping.nb_coil_status ≤ address then (d, .exception ILLEGAL_DATA_ADDRESS)
      else if data = 0xFF00 then (d.force address [true], .done)
      else if data = 0 then (d.force address [false], .done)
      else (d, .exception ILLEGAL_DATA_VALUE)
  | .presetSingleRegister address value =>
      if mb_mapping.nb_holding_registers ≤ address then (d, .exception ILLEGAL_DATA_ADDRESS)
      else (d.preset address [value], .done)
  | .forceMultipleCoils address values =>
      if mb_mapping.nb_coil_status < address + values.length then
        (d, .exception ILLEGAL_DATA_ADDRESS)
      else (d.force address values, .done)
  | .presetMultipleRegisters address values =>
      if mb_mapping.nb_holding_registers < address + values.length then
        (d, .exception ILLEGAL_DATA_ADDRESS)
      else (d.preset address values, .done)

/-- A truth value in a table. -/
def bit (b : Bool) : UInt8 := if b then ON else OFF

/-- The tables of the mapping, for the device. -/
def tables : Tables where
  bits := fun tab i => bit (d.bits tab i)
  registers := d.registers

/-- A mapping that has been allocated. -/
def fresh : Device where
  bits := fun _ _ => false
  registers := fun _ _ => 0

end Device

/-! ## Queries -/

def dataByte (query : Buffer) (i : Nat) : UInt8 := query (HEADER_LENGTH_TCP + 7 + i)

/-- The request a query makes, if its function is one of those that are implemented. -/
def requestOf (query : Buffer) : Option Request :=
  let address := addressOf query
  let nb := quantityOf query
  if functionOf query = FC_READ_COIL_STATUS then some (.readStatus .coilStatus address nb)
  else if functionOf query = FC_READ_INPUT_STATUS then some (.readStatus .inputStatus address nb)
  else if functionOf query = FC_READ_HOLDING_REGISTERS then
    some (.readRegisters .holdingRegisters address nb)
  else if functionOf query = FC_READ_INPUT_REGISTERS then
    some (.readRegisters .inputRegisters address nb)
  else if functionOf query = FC_FORCE_SINGLE_COIL then some (.forceSingleCoil address nb)
  else if functionOf query = FC_PRESET_SINGLE_REGISTER then
    some (.presetSingleRegister address (UInt16.ofNat nb))
  else if functionOf query = FC_FORCE_MULTIPLE_COILS then
    some (.forceMultipleCoils address ((List.range nb).map fun i =>
      (dataByte query (i / 8)).toNat.testBit (i % 8)))
  else if functionOf query = FC_PRESET_MULTIPLE_REGISTERS then
    some (.presetMultipleRegisters address ((List.range nb).map fun i =>
      word (dataByte query (2 * i)) (dataByte query (2 * i + 1))))
  else none

/-! ## Answers -/

/-- A word in two bytes. -/
def wordBytes (value : UInt16) : List UInt8 := [(value >>> 8).toUInt8, (value &&& 0xFF).toUInt8]

/-- The bytes from `a` on. -/
def echo (query : Buffer) (a n : Nat) : List UInt8 := (List.range' a n).map query

/-- The header in front of what is sent back: transaction and slave are those of the query. -/
def replyHeader (query : Buffer) (length : Nat) : List UInt8 :=
  [query 0, query 1, 0, 0] ++ wordBytes (UInt16.ofNat (length + 1)) ++ [query 6]

def reply (query : Buffer) (content : List UInt8) : List UInt8 :=
  replyHeader query content.length ++ content

/-- What is sent for an answer. Where one entry has been set the query itself is sent back. -/
def answerBytes (query : Buffer) : Answer → List UInt8
  | .status values =>
      let packed := packBytes (fun i => values.getD i false) values.length
      reply query (query 7 :: UInt8.ofNat packed.length :: packed)
  | .registers values =>
      reply query (query 7 :: UInt8.ofNat (2 * values.length) :: values.flatMap wordBytes)
  | .done =>
      if functionOf query ≤ FC_PRESET_SINGLE_REGISTER then
        echo query 0 4 ++ wordBytes 6 ++ echo query 6 6
      else reply query (query 7 :: echo query 8 4)
  | .exception code =>
      reply query [query 7 + 0x80, UInt8.ofInt (-code)]

/-- What the device does with a query, and what it sends back: nothing for a function that is
not implemented. -/
def Device.handle (d : Device) (mb_mapping : ModbusMapping) (query : Buffer) :
    Device × List UInt8 :=
  match requestOf query with
  | none => (d, [])
  | some request =>
      ((d.serve mb_mapping request).1, answerBytes query (d.serve mb_mapping request).2)

end ScadaSim.Modbus
