import ScadaSim.Modbus.Master

/-!
# What the gate reads in a master's query

A query that the master builds is complete, it fits, and the request the gate reads in it is
the one the call is about (`Sends`). Addresses and values are sent in sixteen bits.
-/

namespace ScadaSim.Modbus

open Lib

/-! ## Words -/

/-- What is sent of an `int`. -/
def low16 (x : Int) : Nat := (x % 65536).toNat

theorem toNat_ofInt (x : Int) : (UInt8.ofInt x).toNat = (x % 256).toNat := by
  rw [UInt8.ofInt, UInt8.toNat_ofNat']
  show (x % 256).toNat % 256 = _
  omega

theorem word_ofInt (x : Int) :
    ((UInt8.ofInt (x.shiftRight 8)).toNat <<< 8) + (UInt8.ofInt (x % 0x100)).toNat = low16 x := by
  have hshift : x.shiftRight 8 = x / 256 := Int.shiftRight_eq_div_pow x 8
  rw [toNat_ofInt, toNat_ofInt, hshift, Nat.shiftLeft_eq, low16]
  omega

theorem low16_natCast {n : Nat} (h : n < 65536) : low16 n = n := by
  rw [low16]
  omega

/-! ## The basis of a query -/

/-- A query with its length in bytes 4 and 5. -/
def queryOf (t_id : UInt16) (slave function : Nat) (start_addr nb : Int) (data : List UInt8) :
    List UInt8 :=
  setMessageLength (buildQueryBasisTcp t_id slave function start_addr nb ++ data)

variable {t_id : UInt16} {slave function : Nat} {start_addr nb : Int} {data : List UInt8}

theorem length_queryOf :
    (queryOf t_id slave function start_addr nb data).length = 12 + data.length := by
  rw [queryOf, setMessageLength, List.length_set, List.length_set, List.length_append]
  rfl

theorem functionOf_queryOf (h : function < 256) :
    functionOf (bufferOf (queryOf t_id slave function start_addr nb data)) = function := by
  show (UInt8.ofNat function).toNat = function
  rw [UInt8.toNat_ofNat']
  exact Nat.mod_eq_of_lt h

theorem addressOf_queryOf :
    addressOf (bufferOf (queryOf t_id slave function start_addr nb data)) = low16 start_addr :=
  word_ofInt start_addr

theorem quantityOf_queryOf :
    quantityOf (bufferOf (queryOf t_id slave function start_addr nb data)) = low16 nb :=
  word_ofInt nb

/-- The bytes behind the basis. -/
theorem bufferOf_queryOf (i : Nat) :
    bufferOf (queryOf t_id slave function start_addr nb data) (12 + i) = data.getD i 0 := by
  rw [Nat.add_comm]
  rfl

theorem dataByte_queryOf {count : UInt8} {bytes : List UInt8} (i : Nat) :
    dataByte (bufferOf (queryOf t_id slave function start_addr nb (count :: bytes))) i =
      bytes.getD i 0 := by
  show bufferOf _ (6 + 7 + i) = _
  rw [show 6 + 7 + i = 12 + (i + 1) by omega, bufferOf_queryOf]
  rfl

/-! ## Bits of a byte -/

theorem eightBits_drop {t : Nat} (h : t < 8) :
    eightBits.drop t = UInt8.ofNat (2 ^ t) :: eightBits.drop (t + 1) := by
  have hall : ∀ t : Fin 8, eightBits.drop t = UInt8.ofNat (2 ^ t.val) :: eightBits.drop (t + 1) := by
    decide
  exact hall ⟨t, h⟩

theorem getLsbD_ofNat {x i : Nat} (h : i < 8) : (UInt8.ofNat x).toBitVec.getLsbD i = x.testBit i := by
  rw [UInt8.toBitVec_ofNat', BitVec.getLsbD_ofNat, decide_eq_true h, Bool.true_and]

/-- One bit more of a byte is set, or reset. -/
theorem setBit_packed {g : Nat → Bool} {t : Nat} (h : t < 8) :
    (if g t then UInt8.ofNat (packed g t) ||| UInt8.ofNat (2 ^ t)
      else UInt8.ofNat (packed g t) &&& ~~~UInt8.ofNat (2 ^ t)) =
      UInt8.ofNat (packed g (t + 1)) := by
  apply UInt8.toBitVec_inj.mp
  apply BitVec.eq_of_getLsbD_eq
  intro i hi
  rw [getLsbD_ofNat hi, testBit_packed]
  by_cases hg : g t
  · rw [if_pos hg, UInt8.toBitVec_or, BitVec.getLsbD_or, getLsbD_ofNat hi, getLsbD_ofNat hi,
      testBit_packed, Nat.testBit_two_pow]
    rcases Nat.lt_trichotomy i t with hlt | rfl | hgt
    · simp [hlt, show i < t + 1 by omega, show t ≠ i by omega]
    · simp [hg]
    · simp [show ¬ i < t by omega, show ¬ i < t + 1 by omega, show t ≠ i by omega]
  · rw [if_neg hg, UInt8.toBitVec_and, UInt8.toBitVec_not, BitVec.getLsbD_and, BitVec.getLsbD_not,
      getLsbD_ofNat hi, getLsbD_ofNat hi, testBit_packed, Nat.testBit_two_pow]
    rcases Nat.lt_trichotomy i t with hlt | rfl | hgt
    · simp [hlt, hi, show i < t + 1 by omega, show t ≠ i by omega]
    · simp [hg]
    · simp [show ¬ i < t by omega, show ¬ i < t + 1 by omega]

/-- A byte of `force_multiple_coils` is full, or takes the last of the values. -/
theorem CoilPacking.bits_drop {nb : Nat} {data_src : Nat → UInt8} {j : Nat} (n : Nat) :
    ∀ t, t + n = 8 → 8 * j + t ≤ nb →
      CoilPacking.bits nb data_src
        ⟨8 * j + t, 8 * j + t,
          UInt8.ofNat (packed (fun t => decide (data_src (8 * j + t) ≠ 0)) t)⟩ (eightBits.drop t) =
      if 8 * j + 8 ≤ nb then
        ⟨8 * j + 8, 8 * j + 8, packByte (fun k => decide (data_src k ≠ 0)) nb j⟩
      else ⟨nb + 1, nb, packByte (fun k => decide (data_src k ≠ 0)) nb j⟩ := by
  induction n with
  | zero =>
      intro t ht hin
      obtain rfl : t = 8 := by omega
      rw [if_pos hin, packByte_full hin]
      rfl
  | succ n ih =>
      intro t ht hin
      rw [eightBits_drop (by omega)]
      by_cases hmore : 8 * j + t < nb
      · have hnext := ih (t + 1) (by omega) hmore
        rw [← setBit_packed (by omega)] at hnext
        simp only [decide_eq_true_eq] at hnext
        rw [← hnext]
        exact if_pos hmore
      · have hlast : packByte (fun k => decide (data_src k ≠ 0)) nb j =
            UInt8.ofNat (packed (fun t => decide (data_src (8 * j + t) ≠ 0)) t) := by
          rw [packByte, show min 8 (nb - 8 * j) = t by omega]
        rw [if_neg (by omega), hlast]
        refine (if_neg hmore).trans ?_
        show CoilPacking.mk (8 * j + t + 1) (8 * j + t) _ = _
        rw [show 8 * j + t = nb by omega]

/-- What the loops of `force_multiple_coils` have done after `j` bytes. -/
theorem packCoils_turns {nb : Nat} {data_src : Nat → UInt8} (query : List UInt8) (j : Nat)
    (h : j ≤ (nb + 7) / 8) :
    ∃ byte, (List.range j).foldl (packCoilsTurn nb data_src) (⟨0, 0, 0⟩, query) =
      (if 8 * j ≤ nb then ⟨8 * j, 8 * j, byte⟩ else ⟨nb + 1, nb, byte⟩,
        query ++ (List.range j).map (packByte (fun k => decide (data_src k ≠ 0)) nb)) := by
  induction j with
  | zero => exact ⟨0, by simp⟩
  | succ j ih =>
      obtain ⟨byte, hturns⟩ := ih (by omega)
      have hfull : 8 * j ≤ nb := by omega
      have hbits := @CoilPacking.bits_drop nb data_src j 8 0 rfl hfull
      refine ⟨packByte (fun k => decide (data_src k ≠ 0)) nb j, ?_⟩
      rw [List.range_succ, List.foldl_append, hturns, if_pos hfull, List.map_append,
        ← List.append_assoc]
      have hturn : CoilPacking.bits nb data_src ⟨8 * j, 8 * j, 0⟩ eightBits =
          if 8 * (j + 1) ≤ nb then
            ⟨8 * (j + 1), 8 * (j + 1), packByte (fun k => decide (data_src k ≠ 0)) nb j⟩
          else ⟨nb + 1, nb, packByte (fun k => decide (data_src k ≠ 0)) nb j⟩ := hbits
      have hbyte : (CoilPacking.bits nb data_src ⟨8 * j, 8 * j, 0⟩ eightBits).byte =
          packByte (fun k => decide (data_src k ≠ 0)) nb j := by
        rw [hturn]
        split <;> rfl
      show (CoilPacking.bits nb data_src ⟨8 * j, 8 * j, 0⟩ eightBits, _ ++ [CoilPacking.byte _]) = _
      rw [hbyte, hturn]
      rfl

/-- `force_multiple_coils` packs the values as `set_bits_from_bytes` takes them apart. -/
theorem packCoils_eq (nb : Nat) (data_src : Nat → UInt8) (query : List UInt8) :
    packCoils nb data_src query = query ++
      UInt8.ofNat ((nb + 7) / 8) :: packBytes (fun k => decide (data_src k ≠ 0)) nb := by
  have hcount : nb / 8 + (if nb % 8 ≠ 0 then 1 else 0) = (nb + 7) / 8 := by
    split <;> omega
  obtain ⟨byte, hturns⟩ := @packCoils_turns nb data_src
    (query ++ [UInt8.ofNat ((nb + 7) / 8)]) _ (Nat.le_refl _)
  rw [packCoils, hcount, hturns, List.append_assoc]
  rfl

theorem packRegisters_eq (nb : Nat) (data_src : Nat → UInt16) (query : List UInt8) :
    packRegisters nb data_src query = query ++
      UInt8.ofNat (nb * 2) :: ((List.range nb).map data_src).flatMap wordBytes := by
  rw [packRegisters, List.foldl_append_eq_append, List.append_assoc, List.flatMap_map]
  rfl

/-! ## Requests -/

/-- The gate takes the query for the request. -/
structure Asks (q : List UInt8) (request : Request) : Prop where
  complete : Complete q
  fits : Fits (bufferOf q)
  request : requestOf (bufferOf q) = some request

def statusFunction : BitTable → Nat
  | .coilStatus => FC_READ_COIL_STATUS
  | .inputStatus => FC_READ_INPUT_STATUS

def registersFunction : RegisterTable → Nat
  | .holdingRegisters => FC_READ_HOLDING_REGISTERS
  | .inputRegisters => FC_READ_INPUT_REGISTERS

/-- A query without data. -/
theorem complete_single (h : function ≤ FC_PRESET_SINGLE_REGISTER) :
    Complete (queryOf t_id slave function start_addr nb []) where
  length := by
    have hcode : functionOf (bufferOf (queryOf t_id slave function start_addr nb [])) = function :=
      functionOf_queryOf (Nat.lt_of_le_of_lt h (by decide))
    rw [queryLength_single (hcode.le.trans h)]
    exact length_queryOf
  room := by
    rw [length_queryOf]
    decide

/-- A query with a byte count and as many bytes. -/
theorem complete_multiple {bytes : List UInt8} (h : function = FC_FORCE_MULTIPLE_COILS ∨
      function = FC_PRESET_MULTIPLE_REGISTERS) (hroom : bytes.length ≤ 243) :
    Complete (queryOf t_id slave function start_addr nb (UInt8.ofNat bytes.length :: bytes)) ∧
      byteCountOf (bufferOf (queryOf t_id slave function start_addr nb
        (UInt8.ofNat bytes.length :: bytes))) = bytes.length := by
  have hcode : functionOf (bufferOf (queryOf t_id slave function start_addr nb
      (UInt8.ofNat bytes.length :: bytes))) = function :=
    functionOf_queryOf (by rcases h with rfl | rfl <;> decide)
  have hcount : byteCountOf (bufferOf (queryOf t_id slave function start_addr nb
      (UInt8.ofNat bytes.length :: bytes))) = bytes.length := by
    show (UInt8.ofNat bytes.length).toNat = _
    rw [UInt8.toNat_ofNat']
    exact Nat.mod_eq_of_lt (by omega)
  have hlength : (queryOf t_id slave function start_addr nb
      (UInt8.ofNat bytes.length :: bytes)).length = 13 + bytes.length := by
    rw [length_queryOf, List.length_cons]
    omega
  refine ⟨⟨?_, ?_⟩, hcount⟩
  · rw [queryLength_multiple (hcode.symm ▸ h), hcount, hlength]
  · rw [hlength]
    show _ ≤ 256
    omega

theorem asks_readStatus (tab : BitTable) {nb : Nat} (h : nb < 65536) :
    Asks (queryOf t_id slave (statusFunction tab) start_addr nb [])
      (.readStatus tab (low16 start_addr) nb) := by
  have hle : statusFunction tab ≤ FC_PRESET_SINGLE_REGISTER := by cases tab <;> decide
  have hcode : functionOf (bufferOf (queryOf t_id slave (statusFunction tab) start_addr nb [])) =
      statusFunction tab :=
    functionOf_queryOf (Nat.lt_of_le_of_lt hle (by decide))
  refine ⟨complete_single hle, fits_of_single (hcode.symm ▸ hle) ?_, ?_⟩
  · rw [hcode]
    cases tab <;> decide
  · unfold requestOf
    rw [hcode, addressOf_queryOf, quantityOf_queryOf, low16_natCast h]
    cases tab <;> rfl

theorem asks_readRegisters (tab : RegisterTable) {nb : Nat} (h : nb ≤ 123) :
    Asks (queryOf t_id slave (registersFunction tab) start_addr nb [])
      (.readRegisters tab (low16 start_addr) nb) := by
  have hle : registersFunction tab ≤ FC_PRESET_SINGLE_REGISTER := by cases tab <;> decide
  have hcode : functionOf (bufferOf (queryOf t_id slave (registersFunction tab) start_addr nb [])) =
      registersFunction tab :=
    functionOf_queryOf (Nat.lt_of_le_of_lt hle (by decide))
  refine ⟨complete_single hle, (fits_readRegisters ?_).mpr (.inr ?_), ?_⟩
  · rw [hcode]
    cases tab <;> decide
  · rw [quantityOf_queryOf, low16_natCast (by omega)]
    exact h
  · unfold requestOf
    rw [hcode, addressOf_queryOf, quantityOf_queryOf, low16_natCast (by omega)]
    cases tab <;> rfl

theorem asks_forceSingleCoil {value : Int} :
    Asks (queryOf t_id slave FC_FORCE_SINGLE_COIL start_addr value [])
      (.forceSingleCoil (low16 start_addr) (low16 value)) := by
  have hcode : functionOf (bufferOf (queryOf t_id slave FC_FORCE_SINGLE_COIL start_addr value [])) =
      FC_FORCE_SINGLE_COIL := functionOf_queryOf (by decide)
  refine ⟨complete_single (by decide), fits_of_single (by rw [hcode]; decide) ?_, ?_⟩
  · rw [hcode]
    decide
  · unfold requestOf
    rw [hcode, addressOf_queryOf, quantityOf_queryOf]
    rfl

theorem asks_presetSingleRegister {value : Int} :
    Asks (queryOf t_id slave FC_PRESET_SINGLE_REGISTER start_addr value [])
      (.presetSingleRegister (low16 start_addr) (UInt16.ofNat (low16 value))) := by
  have hcode : functionOf (bufferOf
      (queryOf t_id slave FC_PRESET_SINGLE_REGISTER start_addr value [])) =
      FC_PRESET_SINGLE_REGISTER := functionOf_queryOf (by decide)
  refine ⟨complete_single (by decide), fits_of_single (by rw [hcode]) ?_, ?_⟩
  · rw [hcode]
    decide
  · unfold requestOf
    rw [hcode, addressOf_queryOf, quantityOf_queryOf]
    rfl

theorem requestOf_forceMultipleCoils {q : Buffer} (h : functionOf q = FC_FORCE_MULTIPLE_COILS) :
    requestOf q = some (.forceMultipleCoils (addressOf q) ((List.range (quantityOf q)).map fun i =>
      (dataByte q (i / 8)).toNat.testBit (i % 8))) := by
  unfold requestOf
  rw [h]
  rfl

theorem requestOf_presetMultipleRegisters {q : Buffer}
    (h : functionOf q = FC_PRESET_MULTIPLE_REGISTERS) :
    requestOf q = some (.presetMultipleRegisters (addressOf q)
      ((List.range (quantityOf q)).map fun i =>
        word (dataByte q (2 * i)) (dataByte q (2 * i + 1)))) := by
  unfold requestOf
  rw [h]
  rfl

theorem asks_forceMultipleCoils {nb : Nat} {data_src : Nat → UInt8} (h : nb ≤ MAX_STATUS) :
    Asks (queryOf t_id slave FC_FORCE_MULTIPLE_COILS start_addr nb
        (UInt8.ofNat ((nb + 7) / 8) :: packBytes (fun k => decide (data_src k ≠ 0)) nb))
      (.forceMultipleCoils (low16 start_addr)
        ((List.range nb).map fun k => decide (data_src k ≠ 0))) := by
  have h : nb ≤ 800 := h
  have hlength : (packBytes (fun k => decide (data_src k ≠ 0)) nb).length = (nb + 7) / 8 :=
    length_packBytes
  obtain ⟨hcomplete, hcount⟩ := @complete_multiple t_id slave FC_FORCE_MULTIPLE_COILS start_addr nb
    (packBytes (fun k => decide (data_src k ≠ 0)) nb) (.inl rfl) (by omega)
  rw [hlength] at hcomplete hcount
  have hcode := @functionOf_queryOf t_id slave FC_FORCE_MULTIPLE_COILS start_addr nb
    (UInt8.ofNat ((nb + 7) / 8) :: packBytes (fun k => decide (data_src k ≠ 0)) nb) (by decide)
  have hnb : low16 nb = nb := low16_natCast (by omega)
  refine ⟨hcomplete, (fits_forceMultipleCoils hcode).mpr (.inr ?_), ?_⟩
  · rw [quantityOf_queryOf, hnb]
    exact Nat.le_of_eq hcount.symm
  · rw [requestOf_forceMultipleCoils hcode, addressOf_queryOf, quantityOf_queryOf, hnb]
    refine congrArg (fun values => some (Request.forceMultipleCoils _ values))
      (List.map_congr_left fun i hi => ?_)
    have hlt := List.mem_range.mp hi
    have hbyte : (packBytes (fun k => decide (data_src k ≠ 0)) nb).getD (i / 8) 0 =
        packByte (fun k => decide (data_src k ≠ 0)) nb (i / 8) := by
      rw [packBytes, List.getD_eq_getElem?_getD, List.getElem?_map, List.getElem?_range (by omega)]
      rfl
    rw [dataByte_queryOf, hbyte, testBit_packByte (by omega) (by omega), Nat.div_add_mod]

theorem getD_wordBytes (values : List UInt16) {i : Nat} (h : i < values.length) :
    word ((values.flatMap wordBytes).getD (2 * i) 0) ((values.flatMap wordBytes).getD (2 * i + 1) 0) =
      values[i] := by
  induction values generalizing i with
  | nil => cases h
  | cons value values ih =>
      cases i with
      | zero => exact word_parts value
      | succ i =>
          have hnext := ih (Nat.lt_of_succ_lt_succ h)
          exact hnext

theorem asks_presetMultipleRegisters {nb : Nat} {data_src : Nat → UInt16}
    (h : nb ≤ MAX_REGISTERS) :
    Asks (queryOf t_id slave FC_PRESET_MULTIPLE_REGISTERS start_addr nb
        (UInt8.ofNat (nb * 2) :: ((List.range nb).map data_src).flatMap wordBytes))
      (.presetMultipleRegisters (low16 start_addr) ((List.range nb).map data_src)) := by
  have h : nb ≤ 100 := h
  have hlength : (((List.range nb).map data_src).flatMap wordBytes).length = nb * 2 := by
    simp [List.length_flatMap, Function.comp_def]
  obtain ⟨hcomplete, hcount⟩ := @complete_multiple t_id slave FC_PRESET_MULTIPLE_REGISTERS
    start_addr nb (((List.range nb).map data_src).flatMap wordBytes) (.inr rfl) (by omega)
  rw [hlength] at hcomplete hcount
  have hcode := @functionOf_queryOf t_id slave FC_PRESET_MULTIPLE_REGISTERS start_addr nb
    (UInt8.ofNat (nb * 2) :: ((List.range nb).map data_src).flatMap wordBytes) (by decide)
  have hnb : low16 nb = nb := low16_natCast (by omega)
  refine ⟨hcomplete, (fits_presetMultipleRegisters hcode).mpr (.inr ?_), ?_⟩
  · rw [quantityOf_queryOf, hnb, hcount, Nat.mul_comm]
  · rw [requestOf_presetMultipleRegisters hcode, addressOf_queryOf, quantityOf_queryOf, hnb]
    refine congrArg (fun values => some (Request.presetMultipleRegisters _ values))
      (List.map_congr_left fun i hi => ?_)
    have hlt := List.mem_range.mp hi
    rw [dataByte_queryOf, dataByte_queryOf, getD_wordBytes _ (by simpa using hlt)]
    simp

end ScadaSim.Modbus
