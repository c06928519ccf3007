import ScadaSim.Lib.Crc

/-!
# The checksum of a serial frame

`crc16` with its two tables of 256 bytes, and `check_crc16`. A frame goes over the wire byte
by byte, each with its lowest bit first, and in this order the tables compute a shift register
(`crc16_run`). So a frame is accepted just when it leaves the register at zero
(`checkCrc16_iff`), and what `modbus_send` has put the checksum on is accepted until more goes
wrong with it than `checkCrc16_detects` allows.

Whether anybody asks is another matter: `receive_msg` calls `check_crc16` and drops what it
returns; `modbus_receive` asks for exceptions only.
-/

namespace ScadaSim.Modbus

open Lib.Crc

def tableCrcHi : List UInt8 :=
  [0x00, 0xC1, 0x81, 0x40, 0x01, 0xC0, 0x80, 0x41, 0x01, 0xC0, 0x80, 0x41, 0x00, 0xC1, 0x81, 0x40,
   0x01, 0xC0, 0x80, 0x41, 0x00, 0xC1, 0x81, 0x40, 0x00, 0xC1, 0x81, 0x40, 0x01, 0xC0, 0x80, 0x41,
   0x01, 0xC0, 0x80, 0x41, 0x00, 0xC1, 0x81, 0x40, 0x00, 0xC1, 0x81, 0x40, 0x01, 0xC0, 0x80, 0x41,
   0x00, 0xC1, 0x81, 0x40, 0x01, 0xC0, 0x80, 0x41, 0x01, 0xC0, 0x80, 0x41, 0x00, 0xC1, 0x81, 0x40,
   0x01, 0xC0, 0x80, 0x41, 0x00, 0xC1, 0x81, 0x40, 0x00, 0xC1, 0x81, 0x40, 0x01, 0xC0, 0x80, 0x41,
   0x00, 0xC1, 0x81, 0x40, 0x01, 0xC0, 0x80, 0x41, 0x01, 0xC0, 0x80, 0x41, 0x00, 0xC1, 0x81, 0x40,
   0x00, 0xC1, 0x81, 0x40, 0x01, 0xC0, 0x80, 0x41, 0x01, 0xC0, 0x80, 0x41, 0x00, 0xC1, 0x81, 0x40,
   0x01, 0xC0, 0x80, 0x41, 0x00, 0xC1, 0x81, 0x40, 0x00, 0xC1, 0x81, 0x40, 0x01, 0xC0, 0x80, 0x41,
   0x01, 0xC0, 0x80, 0x41, 0x00, 0xC1, 0x81, 0x40, 0x00, 0xC1, 0x81, 0x40, 0x01, 0xC0, 0x80, 0x41,
   0x00, 0xC1, 0x81, 0x40, 0x01, 0xC0, 0x80, 0x41, 0x01, 0xC0, 0x80, 0x41, 0x00, 0xC1, 0x81, 0x40,
   0x00, 0xC1, 0x81, 0x40, 0x01, 0xC0, 0x80, 0x41, 0x01, 0xC0, 0x80, 0x41, 0x00, 0xC1, 0x81, 0x40,
   0x01, 0xC0, 0x80, 0x41, 0x00, 0xC1, 0x81, 0x40, 0x00, 0xC1, 0x81, 0x40, 0x01, 0xC0, 0x80, 0x41,
   0x00, 0xC1, 0x81, 0x40, 0x01, 0xC0, 0x80, 0x41, 0x01, 0xC0, 0x80, 0x41, 0x00, 0xC1, 0x81, 0x40,
   0x01, 0xC0, 0x80, 0x41, 0x00, 0xC1, 0x81, 0x40, 0x00, 0xC1, 0x81, 0x40, 0x01, 0xC0, 0x80, 0x41,
   0x01, 0xC0, 0x80, 0x41, 0x00, 0xC1, 0x81, 0x40, 0x00, 0xC1, 0x81, 0x40, 0x01, 0xC0, 0x80, 0x41,
   0x00, 0xC1, 0x81, 0x40, 0x01, 0xC0, 0x80, 0x41, 0x01, 0xC0, 0x80, 0x41, 0x00, 0xC1, 0x81, 0x40]

def tableCrcLo : List UInt8 :=
  [0x00, 0xC0, 0xC1, 0x01, 0xC3, 0x03, 0x02, 0xC2, 0xC6, 0x06, 0x07, 0xC7, 0x05, 0xC5, 0xC4, 0x04,
   0xCC, 0x0C, 0x0D, 0xCD, 0x0F, 0xCF, 0xCE, 0x0E, 0x0A, 0xCA, 0xCB, 0x0B, 0xC9, 0x09, 0x08, 0xC8,
   0xD8, 0x18, 0x19, 0xD9, 0x1B, 0xDB, 0xDA, 0x1A, 0x1E, 0xDE, 0xDF, 0x1F, 0xDD, 0x1D, 0x1C, 0xDC,
   0x14, 0xD4, 0xD5, 0x15, 0xD7, 0x17, 0x16, 0xD6, 0xD2, 0x12, 0x13, 0xD3, 0x11, 0xD1, 0xD0, 0x10,
   0xF0, 0x30, 0x31, 0xF1, 0x33, 0xF3, 0xF2, 0x32, 0x36, 0xF6, 0xF7, 0x37, 0xF5, 0x35, 0x34, 0xF4,
   0x3C, 0xFC, 0xFD, 0x3D, 0xFF, 0x3F, 0x3E, 0xFE, 0xFA, 0x3A, 0x3B, 0xFB, 0x39, 0xF9, 0xF8, 0x38,
   0x28, 0xE8, 0xE9, 0x29, 0xEB, 0x2B, 0x2A, 0xEA, 0xEE, 0x2E, 0x2F, 0xEF, 0x2D, 0xED, 0xEC, 0x2C,
   0xE4, 0x24, 0x25, 0xE5, 0x27, 0xE7, 0xE6, 0x26, 0x22, 0xE2, 0xE3, 0x23, 0xE1, 0x21, 0x20, 0xE0,
   0xA0, 0x60, 0x61, 0xA1, 0x63, 0xA3, 0xA2, 0x62, 0x66, 0xA6, 0xA7, 0x67, 0xA5, 0x65, 0x64, 0xA4,
   0x6C, 0xAC, 0xAD, 0x6D, 0xAF, 0x6F, 0x6E, 0xAE, 0xAA, 0x6A, 0x6B, 0xAB, 0x69, 0xA9, 0xA8, 0x68,
   0x78, 0xB8, 0xB9, 0x79, 0xBB, 0x7B, 0x7A, 0xBA, 0xBE, 0x7E, 0x7F, 0xBF, 0x7D, 0xBD, 0xBC, 0x7C,
   0xB4, 0x74, 0x75, 0xB5, 0x77, 0xB7, 0xB6, 0x76, 0x72, 0xB2, 0xB3, 0x73, 0xB1, 0x71, 0x70, 0xB0,
   0x50, 0x90, 0x91, 0x51, 0x93, 0x53, 0x52, 0x92, 0x96, 0x56, 0x57, 0x97, 0x55, 0x95, 0x94, 0x54,
   0x9C, 0x5C, 0x5D, 0x9D, 0x5F, 0x9F, 0x9E, 0x5E, 0x5A, 0x9A, 0x9B, 0x5B, 0x99, 0x59, 0x58, 0x98,
   0x88, 0x48, 0x49, 0x89, 0x4B, 0x8B, 0x8A, 0x4A, 0x4E, 0x8E, 0x8F, 0x4F, 0x8D, 0x4D, 0x4C, 0x8C,
   0x44, 0x84, 0x85, 0x45, 0x87, 0x47, 0x46, 0x86, 0x82, 0x42, 0x43, 0x83, 0x41, 0x81, 0x80, 0x40]

/-! ## `crc16` and `check_crc16` -/

/-- The variables of `crc16`. -/
structure CrcBytes where
  crc_hi : UInt8
  crc_lo : UInt8

def CrcBytes.turn (c : CrcBytes) (byte : UInt8) : CrcBytes :=
  let i := (c.crc_hi ^^^ byte).toNat
  { crc_hi := c.crc_lo ^^^ tableCrcHi.getD i 0
    crc_lo := tableCrcLo.getD i 0 }

/-- `(high << 8) | low` -/
def word (high low : UInt8) : UInt16 := (high.toUInt16 <<< 8) ||| low.toUInt16

/-- The loop of `crc16`, over the bytes of the buffer. -/
def crcBytes (buffer : List UInt8) : CrcBytes := buffer.foldl CrcBytes.turn ⟨0xFF, 0xFF⟩

def crc16 (buffer : List UInt8) : UInt16 :=
  word (crcBytes buffer).crc_hi (crcBytes buffer).crc_lo

def INVALID_CRC : Int := -0x10

/-- For a message of two bytes at least; the text it prints is left out. -/
def checkCrc16 (msg : List UInt8) : Int :=
  let crc_calc := crc16 (msg.take (msg.length - 2))
  let crc_received := word (msg.getD (msg.length - 2) 0) (msg.getD (msg.length - 1) 0)
  if crc_calc = crc_received then 0 else INVALID_CRC

/-- What `modbus_send` writes in RTU mode: the query, and its checksum behind it. -/
def crcFrame (query : List UInt8) : List UInt8 :=
  let s_crc := crc16 query
  query ++ [(s_crc >>> 8).toUInt8, (s_crc &&& 0x00FF).toUInt8]

/-! ## The shift register -/

/-- `x^16 + x^15 + x^2 + 1`, the lowest power in the highest bit. -/
def crcPolynomial : BitVec 16 := 0xA001

/-- The bits of a message in the order they are sent in. -/
def wireBits (msg : List UInt8) : List Bool := msg.flatMap fun byte => toBits byte.toBitVec

/-- What the source calls the high byte is the low one of the register. -/
def CrcBytes.register (c : CrcBytes) : BitVec 16 := c.crc_lo.toBitVec ++ c.crc_hi.toBitVec

@[simp] theorem wireBits_cons (byte : UInt8) (msg : List UInt8) :
    wireBits (byte :: msg) = toBits byte.toBitVec ++ wireBits msg := rfl

theorem wireBits_append (msg msg' : List UInt8) :
    wireBits (msg ++ msg') = wireBits msg ++ wireBits msg' :=
  List.flatMap_append

theorem length_wireBits (msg : List UInt8) : (wireBits msg).length = 8 * msg.length := by
  induction msg with
  | nil => rfl
  | cons byte msg ih =>
      rw [wireBits_cons, List.length_append, length_toBits, List.length_cons, ih]
      omega

/-- The tables are the register after eight zeros, for each byte in it. -/
theorem run_zeros_table (i : UInt8) :
    run crcPolynomial (0#8 ++ i.toBitVec) (zeros 8) =
      (tableCrcLo.getD i.toNat 0).toBitVec ++ (tableCrcHi.getD i.toNat 0).toBitVec := by
  have hall : ∀ i : Fin 256, run crcPolynomial (0#8 ++ BitVec.ofNat 8 i) (zeros 8) =
      (tableCrcLo.getD i 0).toBitVec ++ (tableCrcHi.getD i 0).toBitVec := by decide +kernel
  have hi := hall ⟨i.toNat, i.toNat_lt⟩
  rwa [show BitVec.ofNat 8 i.toNat = i.toBitVec by simp] at hi

theorem ofBits_byte (b : BitVec 8) : (ofBits (toBits b) : BitVec 16) = 0#8 ++ b := by
  apply BitVec.eq_of_getLsbD_eq
  intro i hi
  rw [getLsbD_ofBits hi, BitVec.getLsbD_append]
  rcases Nat.lt_or_ge i 8 with hlt | hge
  · simp [toBits, hlt]
  · simp [toBits, Nat.not_lt.mpr hge]

/-- A turn of the loop takes in the eight bits of a byte. -/
theorem register_turn (c : CrcBytes) (byte : UInt8) :
    (c.turn byte).register = run crcPolynomial c.register (toBits byte.toBitVec) := by
  have hload : c.register ^^^ (0#8 ++ byte.toBitVec) =
      c.crc_lo.toBitVec ++ (c.crc_hi ^^^ byte).toBitVec := by
    rw [CrcBytes.register, BitVec.xor_append, BitVec.xor_zero, UInt8.toBitVec_xor]
  have hlow : ∀ i, (0#8 ++ (c.crc_hi ^^^ byte).toBitVec).getLsbD i =
      (decide (i < 8) && (c.crc_lo.toBitVec ++ (c.crc_hi ^^^ byte).toBitVec).getLsbD i) := by
    intro i
    rw [BitVec.getLsbD_append, BitVec.getLsbD_append]
    by_cases hi : i < 8 <;> simp [hi]
  have hhigh : (c.crc_lo.toBitVec ++ (c.crc_hi ^^^ byte).toBitVec) >>> 8 =
      0#8 ++ c.crc_lo.toBitVec := by
    apply BitVec.eq_of_getLsbD_eq
    intro i _
    rw [BitVec.getLsbD_ushiftRight, BitVec.getLsbD_append, BitVec.getLsbD_append]
    by_cases hi : i < 8
    · simp [hi]
    · simp [hi, BitVec.getLsbD_of_ge c.crc_lo.toBitVec i (by omega)]
  rw [run_absorb crcPolynomial (by rw [length_toBits]; decide), length_toBits, ofBits_byte, hload,
    run_chunk crcPolynomial _ hlow, hhigh, run_zeros_table, BitVec.xor_append, BitVec.zero_xor,
    ← UInt8.toBitVec_xor]
  rfl

/-- The tables compute the register of the polynomial, from all ones on. -/
theorem crc16_run (buffer : List UInt8) :
    (crcBytes buffer).register = run crcPolynomial 0xFFFF (wireBits buffer) := by
  have hfold : ∀ (msg : List UInt8) (c : CrcBytes),
      (msg.foldl CrcBytes.turn c).register = run crcPolynomial c.register (wireBits msg) := by
    intro msg
    induction msg with
    | nil => exact fun c => rfl
    | cons byte msg ih =>
        intro c
        rw [List.foldl_cons, ih, register_turn, wireBits_cons, run_append]
  exact hfold buffer ⟨0xFF, 0xFF⟩

theorem word_toBitVec (high low : UInt8) :
    (word high low).toBitVec = high.toBitVec ++ low.toBitVec := by
  apply BitVec.eq_of_getLsbD_eq
  intro i hi
  rw [BitVec.getLsbD_append]
  by_cases hlow : i < 8
  · simp [word, hlow, hi]
  · have hout : low.toBitVec.getLsbD i = false := BitVec.getLsbD_of_ge _ _ (by omega)
    simp [word, hlow, hi, hout]

/-- **The tables.** `crc16` is the register with its bytes exchanged. -/
theorem crc16_register (buffer : List UInt8) :
    (crc16 buffer).toBitVec = (run crcPolynomial 0xFFFF (wireBits buffer)).rotateLeft 8 := by
  rw [← crc16_run, crc16, word_toBitVec, CrcBytes.register]
  apply BitVec.eq_of_getLsbD_eq
  intro i hi
  rw [BitVec.getLsbD_rotateLeft, BitVec.getLsbD_append, BitVec.getLsbD_append,
    BitVec.getLsbD_append]
  by_cases hlow : i < 8
  · simp [hlow]
  · have hlast : i - 8 < 8 := by omega
    simp [hlow, hi, hlast]

/-! ## Which messages are accepted -/

theorem word_inj {high low high' low' : UInt8} (h : word high low = word high' low') :
    high = high' ∧ low = low' := by
  have hbits := congrArg UInt16.toBitVec h
  rw [word_toBitVec, word_toBitVec] at hbits
  obtain ⟨hhigh, hlow⟩ := append_injective hbits
  exact ⟨UInt8.toBitVec_inj.mp hhigh, UInt8.toBitVec_inj.mp hlow⟩

/-- A register takes in the two bytes of a checksum and is at zero just when they are its
own, the low one first. -/
theorem run_two_bytes {r : BitVec 16} {high low : UInt8} :
    run crcPolynomial r (wireBits [high, low]) = 0 ↔ r = low.toBitVec ++ high.toBitVec := by
  have hbits : wireBits [high, low] = toBits (low.toBitVec ++ high.toBitVec) := by
    rw [toBits_append, wireBits_cons, wireBits_cons]
    exact congrArg _ (List.append_nil _)
  have hlength : (toBits (low.toBitVec ++ high.toBitVec)).length ≤ 16 :=
    Nat.le_of_eq (length_toBits _)
  rw [hbits, run_absorb crcPolynomial hlength, ofBits_toBits]
  constructor
  · intro hzero
    exact BitVec.xor_eq_zero_iff.mp (run_zeros_eq_zero (by decide) hzero)
  · rintro rfl
    rw [BitVec.xor_self]
    exact run_zero_zeros _ _

/-- A message is its content and its checksum. -/
theorem exists_checksum {msg : List UInt8} (h : 2 ≤ msg.length) :
    ∃ body high low, msg = body ++ [high, low] := by
  have hdrop : (msg.drop (msg.length - 2)).length = 2 := by
    rw [List.length_drop]
    omega
  obtain ⟨high, low, hlast⟩ := List.length_eq_two.mp hdrop
  exact ⟨msg.take (msg.length - 2), high, low, by rw [← hlast, List.take_append_drop]⟩

theorem checkCrc16_append (body : List UInt8) (high low : UInt8) :
    checkCrc16 (body ++ [high, low]) = if crc16 body = word high low then 0 else INVALID_CRC := by
  have hlength : (body ++ [high, low]).length - 2 = body.length := by simp
  have hlast : (body ++ [high, low]).length - 1 = body.length + 1 := by simp
  unfold checkCrc16
  rw [hlength, hlast, List.take_left]
  simp [List.getD_eq_getElem?_getD]

/-- **Acceptance.** A message is accepted just when all of it, the checksum included, takes the
register to zero. -/
theorem checkCrc16_iff {msg : List UInt8} (h : 2 ≤ msg.length) :
    checkCrc16 msg = 0 ↔ run crcPolynomial 0xFFFF (wireBits msg) = 0 := by
  obtain ⟨body, high, low, rfl⟩ := exists_checksum h
  rw [checkCrc16_append, wireBits_append, run_append, run_two_bytes, ← crc16_run]
  have hword : crc16 body = word high low ↔
      (crcBytes body).register = low.toBitVec ++ high.toBitVec := by
    constructor
    · intro heq
      obtain ⟨hhigh, hlow⟩ := word_inj heq
      rw [CrcBytes.register, hhigh, hlow]
    · intro heq
      obtain ⟨hlow, hhigh⟩ := append_injective heq
      rw [crc16, UInt8.toBitVec_inj.mp hhigh, UInt8.toBitVec_inj.mp hlow]
  rw [← hword]
  split
  · next heq => exact iff_of_true rfl heq
  · next hne => exact iff_of_false (by decide) hne

/-- A word, from its two bytes. -/
theorem word_parts (value : UInt16) :
    word (value >>> 8).toUInt8 (value &&& 0x00FF).toUInt8 = value := by
  apply UInt16.toBitVec_inj.mp
  rw [word_toBitVec]
  apply BitVec.eq_of_getLsbD_eq
  intro i hi
  rw [BitVec.getLsbD_append]
  by_cases hlow : i < 8
  · have hall : ∀ i : Fin 8, (255#8).getLsbD i = true := by decide
    have hmask : (255#8)[i] = true := by
      rw [← BitVec.getLsbD_eq_getElem]
      exact hall ⟨i, hlow⟩
    simp [hlow, hmask]
  · have hback : 8 + (i - 8) = i := by omega
    have hlast : i - 8 < 8 := by omega
    simp [hlow, hback, hlast]

/-- What `modbus_send` sends is accepted. -/
theorem checkCrc16_crcFrame (query : List UInt8) : checkCrc16 (crcFrame query) = 0 := by
  rw [crcFrame, checkCrc16_append, word_parts, if_pos rfl]

/-! ## What is detected -/

/-- The bits two messages of one length differ in. -/
def wireError (msg msg' : List UInt8) : List Bool := List.zipWith xor (wireBits msg) (wireBits msg')

/-- Two messages of one length are both accepted only if the polynomial misses their
difference. -/
theorem checkCrc16_error {msg msg' : List UInt8} (h : 2 ≤ msg.length)
    (hlength : msg'.length = msg.length) (hok : checkCrc16 msg = 0) :
    checkCrc16 msg' = 0 ↔ run crcPolynomial 0 (wireError msg msg') = 0 := by
  have hbits : (wireBits msg).length = (wireBits msg').length := by
    rw [length_wireBits, length_wireBits, hlength]
  rw [checkCrc16_iff (by omega), wireError, ← run_eq_iff crcPolynomial hbits 0xFFFF]
  have hzero := (checkCrc16_iff h).mp hok
  rw [hzero]
  exact eq_comm

/-- **Detection.** Of an accepted message, errors within sixteen bits in a row are detected,
errors in an odd number of bits, and errors in two bits, as far as these are in a message
that fits the buffer. -/
theorem checkCrc16_detects {msg msg' : List UInt8} (h : 2 ≤ msg.length)
    (hlength : msg'.length = msg.length) (hok : checkCrc16 msg = 0)
    (herror : Burst 16 (wireError msg msg') ∨ odd (wireError msg msg') = true ∨
      Two (wireError msg msg') ∧ msg.length ≤ 256) :
    checkCrc16 msg' = INVALID_CRC := by
  have hpoly : crcPolynomial.getLsbD (16 - 1) = true := by decide
  have hmissed : run crcPolynomial 0 (wireError msg msg') ≠ 0 := by
    rcases herror with hburst | hodd | ⟨htwo, hfits⟩
    · exact run_burst hpoly hburst
    · exact run_odd (by decide) hodd
    · have hperiod : avoidsOne crcPolynomial 2048 crcPolynomial = true := by decide +kernel
      have hsize : (wireError msg msg').length ≤ 2048 := by
        rw [wireError, List.length_zipWith, length_wireBits, length_wireBits]
        omega
      exact run_two hpoly hperiod hsize htwo
  have hrejected : checkCrc16 msg' ≠ 0 := fun hzero =>
    hmissed ((checkCrc16_error h hlength hok).mp hzero)
  unfold checkCrc16 at hrejected ⊢
  dsimp only at hrejected ⊢
  split
  · next heq => exact absurd (if_pos heq) hrejected
  · rfl

/-- A query for one register, one of its bits turned over. -/
theorem checkCrc16_detects_bit : checkCrc16 (crcFrame [1, 4, 0, 7, 0, 1]) = 0 ∧
    checkCrc16 ((crcFrame [1, 4, 0, 7, 0, 1]).set 3 6) = INVALID_CRC :=
  ⟨checkCrc16_crcFrame _,
    @checkCrc16_detects (crcFrame [1, 4, 0, 7, 0, 1]) _ (by decide) (by decide)
      (checkCrc16_crcFrame _) (.inr (.inl (by decide +kernel)))⟩

end ScadaSim.Modbus
