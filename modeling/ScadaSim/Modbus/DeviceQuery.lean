import ScadaSim.Lib.CellRuns
import ScadaSim.Modbus.Device

/-!
# The gate is a device

A complete query that fits, in the tables of a device, is answered with the bytes of the
device's answer, and leaves the tables of the device after it (`process_handle`). The
response array is followed from one `buildResponseBasisTcp` to the `send`: it always holds
an initial stretch of the message, over whatever was on the stack.
-/

namespace ScadaSim.Modbus

open Lib Lib.Cells

/-! ## Words of a query -/

theorem wordAt_shiftRight (query : Buffer) (i : Nat) :
    UInt8.ofNat (wordAt query i >>> 8) = query i := by
  have hlow := (query (i + 1)).toNat_lt
  have hword : wordAt query i >>> 8 = (query i).toNat := by
    rw [wordAt, Nat.shiftLeft_eq, Nat.shiftRight_eq_div_pow]
    omega
  rw [hword, UInt8.ofNat_toNat]

theorem wordAt_and (query : Buffer) (i : Nat) :
    UInt8.ofNat (wordAt query i &&& 0x00ff) = query (i + 1) := by
  have hlow := (query (i + 1)).toNat_lt
  have hword : wordAt query i &&& 0x00ff = (query (i + 1)).toNat := by
    rw [show 0x00ff = 2 ^ 8 - 1 from rfl, Nat.and_two_pow_sub_one_eq_mod, wordAt, Nat.shiftLeft_eq]
    omega
  rw [hword, UInt8.ofNat_toNat]

theorem word_eq_ofNat (query : Buffer) (i : Nat) :
    UInt16.ofNat (wordAt query i) = word (query i) (query (i + 1)) := by
  apply UInt16.toBitVec_inj.mp
  rw [word_toBitVec]
  apply BitVec.eq_of_toNat_eq
  have hhigh := (query i).toNat_lt
  have hlow := (query (i + 1)).toNat_lt
  have hlt : wordAt query i < 2 ^ 16 := by
    rw [wordAt, Nat.shiftLeft_eq]
    omega
  have happend : (word (query i) (query (i + 1))).toBitVec.toNat = wordAt query i := by
    rw [word_toBitVec, BitVec.toNat_append]
    exact (Nat.shiftLeft_add_eq_or_of_lt hlow _).symm
  rw [← word_toBitVec, happend]
  exact Nat.mod_eq_of_lt hlt

theorem ofInt_natCast (n : Nat) : UInt8.ofInt n = UInt8.ofNat n := by
  have hmod : (n : Int) % 2 ^ 8 = ((n % 2 ^ 8 : Nat) : Int) := (Int.natCast_emod n _).symm
  rw [UInt8.ofInt, hmod, Int.toNat_natCast]
  apply UInt8.toNat_inj.mp
  rw [UInt8.toNat_ofNat', UInt8.toNat_ofNat', Nat.mod_mod]

/-- `set_message_length_tcp` writes a length in two bytes. -/
theorem length_bytes {n : Nat} (h : n < 2 ^ 16) :
    [UInt8.ofInt ((n : Int).shiftRight 8), UInt8.ofInt ((n : Int) % 0x100)] =
      wordBytes (UInt16.ofNat n) := by
  have hhigh : UInt8.ofInt ((n : Int).shiftRight 8) = (UInt16.ofNat n >>> 8).toUInt8 := by
    show UInt8.ofInt ((n >>> 8 : Nat) : Int) = _
    apply UInt8.toNat_inj.mp
    rw [ofInt_natCast, UInt16.toNat_toUInt8, UInt16.toNat_shiftRight, UInt16.toNat_ofNat',
      Nat.mod_eq_of_lt h, UInt8.toNat_ofNat']
    rfl
  have hlow : UInt8.ofInt ((n : Int) % 0x100) = (UInt16.ofNat n &&& 0xFF).toUInt8 := by
    show UInt8.ofInt ((n : Int) % (0x100 : Nat)) = _
    apply UInt8.toNat_inj.mp
    rw [← Int.natCast_emod, ofInt_natCast, UInt16.toNat_toUInt8, UInt16.toNat_and,
      UInt16.toNat_ofNat', Nat.mod_eq_of_lt h, UInt8.toNat_ofNat']
    show n % 256 % 2 ^ 8 = (n &&& (2 ^ 8 - 1)) % 2 ^ 8
    rw [Nat.and_two_pow_sub_one_eq_mod]
  rw [hhigh, hlow, wordBytes]

/-! ## Cells -/

section Steps

variable {m m' : Mem Contents}

theorem runs_query (i : Nat) : Runs (query i) m (m .query i) m :=
  Runs.cell (V := Contents) .query i

theorem runs_queryWord (i : Nat) : Runs (queryWord i) m (wordAt (m .query) i) m :=
  (runs_query i).bind ((runs_query (i + 1)).bind (Runs.pure _))

theorem runs_setResponse (i : Nat) (byte : UInt8) :
    Runs (setResponse i byte) m () (m.fill .response i [byte]) :=
  Runs.setCell (V := Contents) .response i byte

@[simp] theorem echo_zero (q : Buffer) (a : Nat) : echo q a 0 = [] := rfl

@[simp] theorem length_echo (q : Buffer) (a n : Nat) : (echo q a n).length = n := by
  simp [echo]

theorem echo_succ (q : Buffer) (a n : Nat) : echo q a (n + 1) = echo q a n ++ [q (a + n)] := by
  rw [echo, List.range'_concat, List.map_append, Nat.one_mul]
  rfl

theorem runs_copyQuery (a n : Nat) :
    Runs (copyQuery a n) m () (m.fill .response a (echo (m .query) a n)) := by
  have hloop := Runs.loop (f := fun _ i => do let byte ← query i; setResponse i byte)
    (a := a) (n := n) (fun _ => ()) (fun k => m.fill .response a (echo (m .query) a k)) ?_
  · rw [echo_zero, Mem.fill_nil] at hloop
    exact hloop
  · intro k _
    have hnext := m.fill_append .response a (echo (m .query) a k) [m .query (a + k)]
    rw [length_echo] at hnext
    rw [echo_succ, ← hnext]
    refine (runs_query _).bind ?_
    rw [Mem.fill_of_ne _ _ (by decide)]
    exact runs_setResponse _ _

/-! ## Parts of a response -/

/-- The bytes before the function code; cells 4 and 5 are still as they were. -/
def opening (q : Buffer) (high low : UInt8) : List UInt8 := [q 0, q 1, 0, 0, high, low, q 6]

def sftFor (q : Buffer) (function : Nat) : Sft :=
  ⟨(q HEADER_LENGTH_TCP).toNat, function, wordAt q 0⟩

def header (m : Mem Contents) (function : UInt8) : List UInt8 :=
  opening (m .query) (m .response 4) (m .response 5) ++ [function]

theorem runs_buildResponseBasisTcp (function : Nat) :
    Runs (buildResponseBasisTcp (sftFor (m .query) function)) m 8
      (m.fill .response 0 (header m (UInt8.ofNat function))) := by
  have hcells : (((((m.fill .response 0 [m .query 0]).fill .response 1 [m .query 1]).fill .response
      2 [0]).fill .response 3 [0]).fill .response 6 [m .query 6]).fill .response 7
        [UInt8.ofNat function] = m.fill .response 0 (header m (UInt8.ofNat function)) := by
    funext r i
    cases r with
    | response =>
        match i with
        | 0 | 1 | 2 | 3 | 4 | 5 | 6 | 7 => rfl
        | i + 8 => simp [Mem.fill_self, header, opening]
    | query => rfl
    | bits tab => rfl
    | registers tab => rfl
  have hslave : UInt8.ofNat (m .query 6).toNat = m .query 6 := UInt8.ofNat_toNat
  rw [← hcells, ← wordAt_shiftRight (m .query) 0, ← wordAt_and (m .query) 0, ← hslave]
  exact (runs_setResponse _ _).bind ((runs_setResponse _ _).bind ((runs_setResponse _ _).bind
    ((runs_setResponse _ _).bind ((runs_setResponse _ _).bind ((runs_setResponse _ _).bind
      (Runs.pure _))))))

theorem runs_responseException (function : Nat) (code : Int) :
    Runs (responseException (sftFor (m .query) function) code) m 9
      (m.fill .response 0 (header m (UInt8.ofNat (function + 0x80)) ++
        [UInt8.ofInt (-code)])) := by
  rw [← m.fill_append]
  exact (runs_buildResponseBasisTcp (function + 0x80)).bind
    ((runs_setResponse _ _).bind (Runs.pure _))

@[simp] theorem toNat_bit (b : Bool) : (Device.bit b).toNat = b.toNat := by cases b <;> rfl

theorem packByte_full {f : Nat → Bool} {nb j : Nat} (h : 8 * j + 8 ≤ nb) :
    packByte f nb j = UInt8.ofNat (packed (fun t => f (8 * j + t)) 8) := by
  rw [packByte, show min 8 (nb - 8 * j) = 8 by omega]

/-- A truth value goes into the byte; a full byte goes into the response. -/
theorem runs_responseIoStatusTurn {f : Nat → Bool} {address nb k : Nat} {tab : BitTable}
    (offset : Nat) (hk : k < nb) (h : m (.bits tab) (address + k) = Device.bit (f k)) :
    Runs (responseIoStatusTurn tab
        ⟨k % 8, packed (fun t => f (8 * (k / 8) + t)) (k % 8), offset + k / 8⟩ (address + k))
      (m.fill .response offset ((List.range (k / 8)).map (packByte f nb)))
      ⟨(k + 1) % 8, packed (fun t => f (8 * ((k + 1) / 8) + t)) ((k + 1) % 8),
        offset + (k + 1) / 8⟩
      (m.fill .response offset ((List.range ((k + 1) / 8)).map (packByte f nb))) := by
  have hvalue : 8 * (k / 8) + k % 8 = k := Nat.div_add_mod k 8
  have hbyte : packed (fun t => f (8 * (k / 8) + t)) (k % 8) ||| (Device.bit (f k)).toNat <<< (k % 8)
      = packed (fun t => f (8 * (k / 8) + t)) (k % 8 + 1) := by
    rw [packed_succ, hvalue, toNat_bit]
  refine (Runs.cell (V := Contents) (.bits tab) (address + k)).bind ?_
  rw [Mem.fill_of_ne _ _ (by simp), h]
  dsimp only
  rw [hbyte]
  by_cases hlast : k % 8 = 7
  · have hmod : (k + 1) % 8 = 0 := by omega
    have hdiv : (k + 1) / 8 = k / 8 + 1 := by omega
    have hnext := m.fill_append .response offset ((List.range (k / 8)).map (packByte f nb))
      [packByte f nb (k / 8)]
    rw [List.length_map, List.length_range] at hnext
    rw [if_pos hlast, hmod, hdiv, List.range_succ, List.map_append, List.map_singleton, ← hnext,
      packByte_full (by omega), hlast]
    exact (runs_setResponse _ _).bind (Runs.pure _)
  · have hmod : (k + 1) % 8 = k % 8 + 1 := by omega
    have hdiv : (k + 1) / 8 = k / 8 := by omega
    rw [if_neg hlast, hmod, hdiv]
    exact Runs.pure _

/-- The truth values of a table, packed. -/
theorem runs_responseIoStatus {f : Nat → Bool} {address nb : Nat} {tab : BitTable} (offset : Nat)
    (h : ∀ k, k < nb → m (.bits tab) (address + k) = Device.bit (f k)) :
    Runs (responseIoStatus address nb tab offset) m (offset + (nb + 7) / 8)
      (m.fill .response offset (packBytes f nb)) := by
  have hloop := Runs.loop (f := responseIoStatusTurn tab) (a := address) (n := nb) _ _
    fun k hk => runs_responseIoStatusTurn offset hk (h k hk)
  rw [Nat.zero_div, List.range_zero, List.map_nil, Mem.fill_nil] at hloop
  refine hloop.bind ?_
  by_cases hrest : nb % 8 = 0
  · have hdiv : (nb + 7) / 8 = nb / 8 := by omega
    rw [if_neg (not_not.mpr hrest), packBytes, hdiv]
    exact Runs.pure _
  · -- the last byte is not full
    have hdiv : (nb + 7) / 8 = nb / 8 + 1 := by omega
    have hlast : packByte f nb (nb / 8) =
        UInt8.ofNat (packed (fun t => f (8 * (nb / 8) + t)) (nb % 8)) := by
      rw [packByte, show min 8 (nb - 8 * (nb / 8)) = nb % 8 by omega]
    have hnext := m.fill_append .response offset ((List.range (nb / 8)).map (packByte f nb))
      [packByte f nb (nb / 8)]
    rw [List.length_map, List.length_range] at hnext
    rw [if_pos hrest, packBytes, hdiv, List.range_succ, List.map_append, List.map_singleton,
      ← hnext, hlast]
    exact (runs_setResponse _ _).bind (Runs.pure _)

/-- The words of a table. -/
theorem runs_responseRegisters (address nb : Nat) (tab : RegisterTable) (offset : Nat) :
    Runs (responseRegisters address nb tab offset) m (offset + 2 * nb)
      (m.fill .response offset
        (((List.range' address nb).map (m (.registers tab))).flatMap wordBytes)) := by
  have hlength : ∀ k, (((List.range' address k).map (m (.registers tab))).flatMap
      wordBytes).length = 2 * k := by
    intro k
    simp [List.length_flatMap, wordBytes, Function.comp_def, Nat.mul_comm]
  have hloop := Runs.loop (f := fun resp_length i => do
      let high ← register tab i
      setResponse resp_length (high >>> 8).toUInt8
      let low ← register tab i
      setResponse (resp_length + 1) (low &&& 0xFF).toUInt8
      pure (resp_length + 2)) (a := address) (n := nb) (fun k => offset + 2 * k)
    (fun k => m.fill .response offset
      (((List.range' address k).map (m (.registers tab))).flatMap wordBytes)) ?_
  · rw [List.range'_zero, List.map_nil, List.flatMap_nil, Mem.fill_nil] at hloop
    exact hloop
  · intro k _
    have hnext := m.fill_append .response offset
      (((List.range' address k).map (m (.registers tab))).flatMap wordBytes)
      (wordBytes (m (.registers tab) (address + k)))
    have hbytes : wordBytes (m (.registers tab) (address + k)) =
        [(m (.registers tab) (address + k) >>> 8).toUInt8] ++
          [(m (.registers tab) (address + k) &&& 0xFF).toUInt8] := rfl
    rw [hlength] at hnext
    rw [List.range'_concat, List.map_append, List.flatMap_append, Nat.one_mul, List.map_singleton,
      List.flatMap_singleton, ← hnext, hbytes, ← Mem.fill_append]
    refine (Runs.cell (V := Contents) (.registers tab) (address + k)).bind ?_
    rw [Mem.fill_of_ne _ _ (by simp)]
    refine (runs_setResponse _ _).bind ?_
    refine (Runs.cell (V := Contents) (.registers tab) (address + k)).bind ?_
    rw [Mem.fill_of_ne _ _ (by simp), Mem.fill_of_ne _ _ (by simp)]
    exact (runs_setResponse _ _).bind (Runs.pure _)

/-- Bit `shift` of a byte. -/
theorem ite_and_shiftLeft (byte : UInt8) (shift : Nat) :
    (if byte.toNat &&& (1 <<< shift) ≠ 0 then ON else OFF) =
      Device.bit (byte.toNat.testBit shift) := by
  rw [Nat.one_shiftLeft, Nat.and_two_pow]
  cases byte.toNat.testBit shift
  · simp [Device.bit]
  · simp [Device.bit]

theorem runs_setBitsFromBytes (address nb tab_byte : Nat) :
    Runs (setBitsFromBytes address nb tab_byte) m ()
      (m.fill (.bits .coilStatus) address ((List.range nb).map fun k =>
        Device.bit ((m .query (tab_byte + k / 8)).toNat.testBit (k % 8)))) := by
  have hloop := Runs.loop (f := setBitsFromBytesTurn address tab_byte) (a := address) (n := nb)
    (fun k => k % 8)
    (fun k => m.fill (.bits .coilStatus) address ((List.range k).map fun k =>
      Device.bit ((m .query (tab_byte + k / 8)).toNat.testBit (k % 8)))) ?_
  · rw [List.range_zero, List.map_nil, Mem.fill_nil] at hloop
    exact hloop.bind (Runs.pure _)
  · intro k _
    have hnext := m.fill_append (.bits .coilStatus) address ((List.range k).map fun k =>
        Device.bit ((m .query (tab_byte + k / 8)).toNat.testBit (k % 8)))
      [Device.bit ((m .query (tab_byte + k / 8)).toNat.testBit (k % 8))]
    rw [List.length_map, List.length_range] at hnext
    rw [List.range_succ, List.map_append, List.map_singleton, ← hnext, ← ite_and_shiftLeft,
      ← Nat.mod_add_mod]
    refine (runs_query _).bind ?_
    rw [Nat.add_sub_cancel_left, Mem.fill_of_ne _ _ (by decide)]
    exact (Runs.setCell (V := Contents) (.bits .coilStatus) _ _).bind (Runs.pure _)

theorem runs_setRegisters (address nb values : Nat) :
    Runs (setRegisters address nb values) m ()
      (m.fill (.registers .holdingRegisters) address ((List.range nb).map fun k =>
        word (m .query (values + 2 * k)) (m .query (values + 2 * k + 1)))) := by
  have hloop := Runs.loop (f := setRegistersTurn values) (a := address) (n := nb)
    (fun k => 2 * k)
    (fun k => m.fill (.registers .holdingRegisters) address ((List.range k).map fun k =>
      word (m .query (values + 2 * k)) (m .query (values + 2 * k + 1)))) ?_
  · rw [List.range_zero, List.map_nil, Mem.fill_nil] at hloop
    exact hloop.bind (Runs.pure _)
  · intro k _
    have hnext := m.fill_append (.registers .holdingRegisters) address
      ((List.range k).map fun k => word (m .query (values + 2 * k)) (m .query (values + 2 * k + 1)))
      [word (m .query (values + 2 * k)) (m .query (values + 2 * k + 1))]
    rw [List.length_map, List.length_range] at hnext
    rw [List.range_succ, List.map_append, List.map_singleton, ← hnext, ← word_eq_ofNat]
    refine (runs_queryWord _).bind ?_
    rw [Mem.fill_of_ne _ _ (by decide)]
    exact (Runs.setCell (V := Contents) (.registers .holdingRegisters) _ _).bind (Runs.pure _)

/-! ## What is sent -/

/-- A response with its length in bytes 4 and 5. -/
def sent (body : List UInt8) : List UInt8 :=
  body.take 4 ++ wordBytes (UInt16.ofNat (body.length - 6)) ++ body.drop 6

@[simp] theorem length_wordBytes (value : UInt16) : (wordBytes value).length = 2 := rfl

theorem length_sent {body : List UInt8} (h : 6 ≤ body.length) :
    (sent body).length = body.length := by
  simp only [sent, List.length_append, List.length_take, List.length_drop, length_wordBytes]
  omega

theorem runs_modbusSend {body : List UInt8} (h : 6 ≤ body.length) (hmax : body.length < 2 ^ 16) :
    Runs (modbusSend body.length) (m.fill .response 0 body) (sent body)
      (m.fill .response 0 (sent body)) := by
  have hbody : body = body.take 4 ++ (body.drop 4).take 2 ++ body.drop 6 := by
    rw [List.append_assoc, ← List.drop_drop (i := 2) (j := 4), List.take_append_drop,
      List.take_append_drop]
  have hmiddle : (m.fill .response 0 body).fill .response 4
      (wordBytes (UInt16.ofNat (body.length - 6))) = m.fill .response 0 (sent body) := by
    have hlength : (body.take 4).length = 4 := by
      rw [List.length_take]
      omega
    have hsize : (wordBytes (UInt16.ofNat (body.length - 6))).length =
        ((body.drop 4).take 2).length := by
      rw [length_wordBytes, List.length_take, List.length_drop]
      omega
    have hfill : (m.fill .response 0 (body.take 4 ++ (body.drop 4).take 2 ++ body.drop 6)).fill
        .response (0 + (body.take 4).length) (wordBytes (UInt16.ofNat (body.length - 6))) =
        m.fill .response 0 (sent body) :=
      m.fill_middle .response 0 hsize
    rwa [← hbody, hlength] at hfill
  have hset : Runs (setMessageLengthTcp body.length) (m.fill .response 0 body) ()
      (m.fill .response 0 (sent body)) := by
    have hsub : (body.length : Int) - 6 = (body.length - 6 : Nat) := by omega
    have hparts := (m.fill .response 0 body).fill_append .response 4
      [UInt8.ofInt (((body.length - 6 : Nat) : Int).shiftRight 8)]
      [UInt8.ofInt (((body.length - 6 : Nat) : Int) % 0x100)]
    rw [← hmiddle, ← length_bytes (by omega)]
    refine Eq.mp (congrArg _ hparts) ?_
    unfold setMessageLengthTcp
    rw [hsub]
    exact (runs_setResponse _ _).bind (runs_setResponse _ _)
  have hread := Runs.loop (f := fun sent i => do let byte ← response i; pure (sent ++ [byte]))
    (a := 0) (n := body.length)
    (fun k => (List.range' 0 k).map (m.fill .response 0 (sent body) .response))
    (fun _ => m.fill .response 0 (sent body)) ?_
  · have hall := m.map_fill .response 0 (sent body)
    rw [length_sent h] at hall
    rw [hall] at hread
    exact hset.bind hread
  · intro k _
    rw [List.range'_concat, List.map_append, Nat.one_mul]
    exact (Runs.cell (V := Contents) .response _).bind (Runs.pure _)

/-- Without a response, a length is written and nothing is sent. -/
theorem runs_modbusSend_zero :
    Runs (modbusSend 0) m [] ((m.fill .response 4 [UInt8.ofInt ((-6 : Int).shiftRight 8)]).fill
      .response 5 [UInt8.ofInt (-6 % 0x100)]) :=
  Runs.bind (f := fun _ => pure []) ((runs_setResponse _ _).bind (runs_setResponse _ _))
    (Runs.pure [])

/-- The call leaves a response in the array that is sent as the answer, and the tables of
the device after it. -/
def Serves (call : Op Nat) (m : Mem Contents) (served : Device × Answer) : Prop :=
  ∃ body m', Runs call m body.length (m'.fill .response 0 body) ∧ 6 ≤ body.length ∧
    body.length < 2 ^ 16 ∧ sent body = answerBytes (m .query) served.2 ∧
    Tables.of m' = served.1.tables

variable {d d' : Device} {result : Answer} {served : Device × Answer}

theorem sent_opening (q : Buffer) (high low : UInt8) (content : List UInt8) :
    sent (opening q high low ++ content) = reply q content := by
  have hlength : (opening q high low ++ content).length - 6 = content.length + 1 := by
    rw [List.length_append]
    show 7 + content.length - 6 = _
    omega
  rw [sent, hlength]
  rfl

theorem Serves.of_reply {call : Op Nat} {n : Nat} {high low : UInt8} (content : List UInt8)
    (hcall : Runs call m n
      (m'.fill .response 0 (opening (m .query) high low ++ content)))
    (hn : n = 7 + content.length) (hmax : n < 2 ^ 16)
    (hanswer : answerBytes (m .query) result = reply (m .query) content)
    (htables : Tables.of m' = d.tables) : Serves call m (d, result) := by
  have hlength : (opening (m .query) high low ++ content).length = n :=
    List.length_append.trans hn.symm
  refine ⟨_, m', hlength ▸ hcall, ?_, ?_, (sent_opening _ _ _ _).trans hanswer.symm, htables⟩
  · omega
  · omega

theorem Serves.bind {α : Type} {call : Op α} {f : α → Op Nat} {a : α}
    (hquery : m' .query = m .query) (hcall : Runs call m a m') (h : Serves (f a) m' served) :
    Serves (call >>= f) m served := by
  obtain ⟨body, m'', hruns, hlow, hhigh, hsent, htables⟩ := h
  exact ⟨body, m'', hcall.bind hruns, hlow, hhigh, hquery ▸ hsent, htables⟩

theorem Serves.exception (code : Int) (htables : Tables.of m = d.tables) :
    Serves (responseException (sftFor (m .query) (functionOf (m .query))) code) m
      (d, .exception code) := by
  have hcode : UInt8.ofNat (functionOf (m .query) + 0x80) = m .query 7 + 0x80 := by
    rw [UInt8.ofNat_add, functionOf, UInt8.ofNat_toNat]
    rfl
  have hcall := runs_responseException (m := m) (functionOf (m .query)) code
  rw [hcode, header, List.append_assoc] at hcall
  exact Serves.of_reply [m .query 7 + 0x80, UInt8.ofInt (-code)] hcall rfl (by decide) rfl htables

theorem Serves.onRange {nb_table : Nat} {answer : Nat → Op Nat} (htables : Tables.of m = d.tables)
    (hin : ¬ nb_table < addressOf (m .query) + quantityOf (m .query) →
      Serves (answer (quantityOf (m .query))) m served) :
    Serves (onRange nb_table (sftFor (m .query) (functionOf (m .query))) (addressOf (m .query))
        answer) m
      (if nb_table < addressOf (m .query) + quantityOf (m .query) then
        (d, .exception ILLEGAL_DATA_ADDRESS) else served) := by
  refine Serves.bind rfl (runs_queryWord _) ?_
  show Serves (if nb_table < addressOf (m .query) + quantityOf (m .query) then _ else _) m _
  split
  · exact Serves.exception _ htables
  · next hout => exact hin hout

/-! ## The functions -/

theorem bits_of_tables (h : Tables.of m = d.tables) (tab : BitTable) (i : Nat) :
    m (.bits tab) i = Device.bit (d.bits tab i) :=
  congrFun (congrFun (congrArg Tables.bits h) tab) i

theorem registers_of_tables (h : Tables.of m = d.tables) (tab : RegisterTable) :
    m (.registers tab) = d.registers tab :=
  congrFun (congrArg Tables.registers h) tab

/-- A header, a count and what is counted. -/
theorem Serves.counted {count : UInt8} {values : Nat → Op Nat} (content : List UInt8)
    (hvalues : Runs (values 9) (m.fill .response 0 (header m (m .query 7) ++ [count]))
      (9 + content.length)
      ((m.fill .response 0 (header m (m .query 7) ++ [count])).fill .response 9 content))
    (hmax : content.length < 1022)
    (hanswer : answerBytes (m .query) result = reply (m .query) (m .query 7 :: count :: content))
    (htables : Tables.of m = d.tables) :
    Serves (do
        let resp_length ← buildResponseBasisTcp (sftFor (m .query) (functionOf (m .query)))
        setResponse resp_length count
        values (resp_length + 1)) m (d, result) := by
  have hcode : UInt8.ofNat (functionOf (m .query)) = m .query 7 := UInt8.ofNat_toNat
  have hbasis := runs_buildResponseBasisTcp (m := m) (functionOf (m .query))
  have hcontent := m.fill_append .response 0 (header m (m .query 7) ++ [count]) content
  have hcount := m.fill_append .response 0 (header m (m .query 7)) [count]
  rw [hcode] at hbasis
  have hwhole : header m (m .query 7) ++ [count] ++ content =
      opening (m .query) (m .response 4) (m .response 5) ++ m .query 7 :: count :: content := by
    simp [header]
  have hcall : Runs (do
      let resp_length ← buildResponseBasisTcp (sftFor (m .query) (functionOf (m .query)))
      setResponse resp_length count
      values (resp_length + 1)) m (9 + content.length)
      (m.fill .response 0 (opening (m .query) (m .response 4) (m .response 5) ++
        m .query 7 :: count :: content)) := by
    rw [← hwhole, ← hcontent]
    refine hbasis.bind (Runs.bind (runs_setResponse _ _) ?_)
    exact hcount ▸ hvalues
  refine Serves.of_reply _ hcall ?_ ?_ hanswer htables
  · simp only [List.length_cons]
    omega
  · omega

theorem serves_readStatus (tab : BitTable) (htables : Tables.of m = d.tables) :
    Serves (readStatus (gateMapping.nbStatus tab) tab (sftFor (m .query) (functionOf (m .query)))
        (addressOf (m .query))) m
      (d.serve gateMapping (.readStatus tab (addressOf (m .query)) (quantityOf (m .query)))) := by
  refine Serves.onRange htables fun hout => ?_
  have hnb : gateMapping.nbStatus tab = 500 := by cases tab <;> rfl
  have hbits : ∀ vs k, k < quantityOf (m .query) →
      m.fill .response 0 vs (.bits tab) (addressOf (m .query) + k) =
        Device.bit (d.bits tab (addressOf (m .query) + k)) := by
    intro vs k _
    rw [Mem.fill_of_ne _ _ (by simp)]
    exact bits_of_tables htables tab _
  have hcall := fun vs => runs_responseIoStatus 9 (hbits vs)
  have hvalues : packBytes (fun k => d.bits tab (addressOf (m .query) + k))
      (quantityOf (m .query)) =
      packBytes (fun i => ((List.range' (addressOf (m .query)) (quantityOf (m .query))).map
        (d.bits tab)).getD i false) (quantityOf (m .query)) := by
    refine packBytes_congr fun k hk => ?_
    rw [List.getD_eq_getElem?_getD, List.getElem?_map, List.getElem?_range' hk]
    simp
  have hcount : (quantityOf (m .query) + 7) / 8 =
      quantityOf (m .query) / 8 + if quantityOf (m .query) % 8 ≠ 0 then 1 else 0 := by
    split <;> omega
  refine Serves.counted (packBytes (fun k => d.bits tab (addressOf (m .query) + k))
    (quantityOf (m .query))) ?_ ?_ ?_ htables
  · rw [length_packBytes]
    exact hcall _
  · rw [length_packBytes]
    omega
  · dsimp only [answerBytes]
    rw [List.length_map, List.length_range', ← hvalues, length_packBytes, hcount]

theorem serves_readRegisters (tab : RegisterTable) (htables : Tables.of m = d.tables) :
    Serves (readRegisters (gateMapping.nbRegisters tab) tab
        (sftFor (m .query) (functionOf (m .query))) (addressOf (m .query))) m
      (d.serve gateMapping
        (.readRegisters tab (addressOf (m .query)) (quantityOf (m .query)))) := by
  refine Serves.onRange htables fun hout => ?_
  have hnb : gateMapping.nbRegisters tab = 500 := by cases tab <;> rfl
  have hcall := fun vs => runs_responseRegisters (m := m.fill .response 0 vs)
    (addressOf (m .query)) (quantityOf (m .query)) tab 9
  have hvalues : ∀ vs, m.fill .response 0 vs (.registers tab) = d.registers tab := by
    intro vs
    rw [Mem.fill_of_ne _ _ (by simp)]
    exact registers_of_tables htables tab
  have hlength : (((List.range' (addressOf (m .query)) (quantityOf (m .query))).map
      (d.registers tab)).flatMap wordBytes).length = 2 * quantityOf (m .query) := by
    simp [List.length_flatMap, Function.comp_def, Nat.mul_comm]
  refine Serves.counted (((List.range' (addressOf (m .query)) (quantityOf (m .query))).map
    (d.registers tab)).flatMap wordBytes) ?_ ?_ ?_ htables
  · rw [hlength, ← hvalues]
    exact hcall _
  · omega
  · dsimp only [answerBytes]
    rw [List.length_map, List.length_range', Nat.shiftLeft_eq, Nat.mul_comm]

theorem tables_force (htables : Tables.of m = d.tables) (address : Nat) (values : List Bool) :
    Tables.of (m.fill (.bits .coilStatus) address (values.map Device.bit)) =
      (d.force address values).tables := by
  show Tables.mk _ _ = Tables.mk _ _
  congr 1
  · funext tab i
    cases tab with
    | inputStatus => exact bits_of_tables htables .inputStatus i
    | coilStatus =>
        show _ = Device.bit (overwrite (d.bits .coilStatus) address values i)
        rw [Mem.fill_self, bits_of_tables htables, overwrite, apply_ite Device.bit,
          List.getElem?_map, Option.getD_map]
  · funext tab
    exact registers_of_tables htables tab

theorem tables_preset (htables : Tables.of m = d.tables) (address : Nat) (values : List UInt16) :
    Tables.of (m.fill (.registers .holdingRegisters) address values) =
      (d.preset address values).tables := by
  show Tables.mk _ _ = Tables.mk _ _
  congr 1
  · funext tab i
    exact bits_of_tables htables tab i
  · funext tab i
    cases tab with
    | inputRegisters => exact congrFun (registers_of_tables htables .inputRegisters) i
    | holdingRegisters =>
        show _ = overwrite (d.registers .holdingRegisters) address values i
        rw [Mem.fill_self, registers_of_tables htables, overwrite]

/-- One entry is set, and the query sent back. -/
theorem Serves.copied {set : Op Unit}
    (hset : Runs set m () m') (hquery : m' .query = m .query)
    (hsingle : functionOf (m .query) ≤ FC_PRESET_SINGLE_REGISTER)
    (htables : Tables.of m' = d'.tables) :
    Serves (do
        set
        copyQuery 0 12
        pure 12) m (d', .done) := by
  have hcopy := runs_copyQuery (m := m') 0 12
  refine ⟨echo (m' .query) 0 12, m', ?_, by simp, by simp, ?_, htables⟩
  · rw [length_echo]
    exact hset.bind (hcopy.bind (Runs.pure _))
  · rw [hquery]
    exact (if_pos hsingle).symm

theorem serves_forceSingleCoil (hfunction : functionOf (m .query) = FC_FORCE_SINGLE_COIL)
    (htables : Tables.of m = d.tables) :
    Serves (forceSingleCoil 500 (sftFor (m .query) (functionOf (m .query))) (addressOf (m .query))
        12) m
      (d.serve gateMapping (.forceSingleCoil (addressOf (m .query)) (quantityOf (m .query)))) := by
  have hsingle : functionOf (m .query) ≤ FC_PRESET_SINGLE_REGISTER := by
    rw [hfunction]
    decide
  have hset : ∀ b, Serves (do
      setStatus .coilStatus (addressOf (m .query)) (Device.bit b)
      copyQuery 0 12
      pure 12) m (d.force (addressOf (m .query)) [b], .done) := fun b =>
    Serves.copied (Runs.setCell (V := Contents) (.bits .coilStatus) _ _)
      (Mem.fill_of_ne _ _ (by decide) _ _) hsingle (tables_force htables _ [b])
  have hdata : ∀ data, Serves (if data = 0xFF00 ∨ data = 0x0 then do
        setStatus .coilStatus (addressOf (m .query)) (if data ≠ 0 then ON else OFF)
        copyQuery 0 12
        pure 12
      else responseException (sftFor (m .query) (functionOf (m .query))) ILLEGAL_DATA_VALUE) m
      (if data = 0xFF00 then (d.force (addressOf (m .query)) [true], .done)
      else if data = 0 then (d.force (addressOf (m .query)) [false], .done)
      else (d, .exception ILLEGAL_DATA_VALUE)) := by
    intro data
    by_cases hon : data = 0xFF00
    · rw [if_pos (.inl hon), if_pos hon, if_pos (show data ≠ 0 by omega)]
      exact hset true
    · by_cases hoff : data = 0
      · rw [if_pos (.inr hoff), if_neg hon, if_pos hoff, if_neg (not_not.mpr hoff)]
        exact hset false
      · rw [if_neg (not_or.mpr ⟨hon, hoff⟩), if_neg hon, if_neg hoff]
        exact Serves.exception _ htables
  dsimp only [Device.serve, gateMapping]
  unfold forceSingleCoil
  split
  · exact Serves.exception _ htables
  · refine Serves.bind rfl (runs_queryWord _) ?_
    exact hdata (quantityOf (m .query))

theorem serves_presetSingleRegister
    (hfunction : functionOf (m .query) = FC_PRESET_SINGLE_REGISTER)
    (htables : Tables.of m = d.tables) :
    Serves (presetSingleRegister 500 (sftFor (m .query) (functionOf (m .query)))
        (addressOf (m .query)) 12) m
      (d.serve gateMapping (.presetSingleRegister (addressOf (m .query))
        (UInt16.ofNat (quantityOf (m .query))))) := by
  dsimp only [Device.serve, gateMapping]
  unfold presetSingleRegister
  split
  · exact Serves.exception _ htables
  · refine Serves.bind rfl (runs_queryWord _) ?_
    exact Serves.copied (Runs.setCell (V := Contents) (.registers .holdingRegisters) _ _)
      (Mem.fill_of_ne _ _ (by decide) _ _) (Nat.le_of_eq hfunction)
      (tables_preset htables _ [UInt16.ofNat (quantityOf (m .query))])

/-- Several entries are set, and address and quantity sent back. -/
theorem Serves.setRange {nb_table : Nat} {set : Nat → Op Unit}
    (hset : Runs (set (quantityOf (m .query))) m () m') (hquery : m' .query = m .query)
    (hmultiple : FC_PRESET_SINGLE_REGISTER < functionOf (m .query))
    (htables : Tables.of m = d.tables) (htables' : Tables.of m' = d'.tables) :
    Serves (setRange nb_table (sftFor (m .query) (functionOf (m .query))) (addressOf (m .query))
        set) m
      (if nb_table < addressOf (m .query) + quantityOf (m .query) then
        (d, .exception ILLEGAL_DATA_ADDRESS) else (d', .done)) := by
  refine Serves.onRange htables fun _ => ?_
  have hcode : UInt8.ofNat (functionOf (m .query)) = m .query 7 := UInt8.ofNat_toNat
  have hbasis := runs_buildResponseBasisTcp (m := m') (functionOf (m .query))
  have hcopy := runs_copyQuery (m := m'.fill .response 0 (header m' (m .query 7))) 8 4
  have happend := m'.fill_append .response 0 (header m' (m .query 7)) (echo (m .query) 8 4)
  have hwhole : header m' (m .query 7) ++ echo (m .query) 8 4 =
      opening (m .query) (m' .response 4) (m' .response 5) ++ m .query 7 :: echo (m .query) 8 4 := by
    simp [header, hquery]
  rw [hquery, hcode] at hbasis
  rw [Mem.fill_of_ne _ _ (by decide), hquery] at hcopy
  rw [hwhole] at happend
  have hcall : Runs (do
      set (quantityOf (m .query))
      let resp_length ← buildResponseBasisTcp (sftFor (m .query) (functionOf (m .query)))
      copyQuery resp_length 4
      pure (resp_length + 4)) m 12
      (m'.fill .response 0 (opening (m .query) (m' .response 4) (m' .response 5) ++
        m .query 7 :: echo (m .query) 8 4)) := by
    rw [← happend]
    exact hset.bind (hbasis.bind (hcopy.bind (Runs.pure _)))
  exact Serves.of_reply _ hcall rfl (by decide) (if_neg (Nat.not_le.mpr hmultiple)) htables'

theorem serves_forceMultipleCoils (hfunction : functionOf (m .query) = FC_FORCE_MULTIPLE_COILS)
    (htables : Tables.of m = d.tables) :
    Serves (forceMultipleCoils 500 (sftFor (m .query) (functionOf (m .query)))
        (addressOf (m .query))) m
      (d.serve gateMapping (.forceMultipleCoils (addressOf (m .query))
        ((List.range (quantityOf (m .query))).map fun i =>
          (dataByte (m .query) (i / 8)).toNat.testBit (i % 8)))) := by
  have hset := runs_setBitsFromBytes (m := m) (addressOf (m .query)) (quantityOf (m .query)) 13
  have htables' := tables_force htables (addressOf (m .query))
    ((List.range (quantityOf (m .query))).map fun i =>
      (dataByte (m .query) (i / 8)).toNat.testBit (i % 8))
  rw [List.map_map] at htables'
  dsimp only [Device.serve]
  rw [List.length_map, List.length_range]
  exact Serves.setRange hset (Mem.fill_of_ne _ _ (by decide) _ _) (by rw [hfunction]; decide) htables
    htables'

theorem serves_presetMultipleRegisters
    (hfunction : functionOf (m .query) = FC_PRESET_MULTIPLE_REGISTERS)
    (htables : Tables.of m = d.tables) :
    Serves (presetMultipleRegisters 500 (sftFor (m .query) (functionOf (m .query)))
        (addressOf (m .query))) m
      (d.serve gateMapping (.presetMultipleRegisters (addressOf (m .query))
        ((List.range (quantityOf (m .query))).map fun i =>
          word (dataByte (m .query) (2 * i)) (dataByte (m .query) (2 * i + 1))))) := by
  dsimp only [Device.serve]
  rw [List.length_map, List.length_range]
  exact Serves.setRange (runs_setRegisters _ _ _) (Mem.fill_of_ne _ _ (by decide) _ _)
    (by rw [hfunction]; decide) htables (tables_preset htables _ _)

/-- The `switch`, for a query of the length it says it has. -/
theorem serves_answer {size : Nat} {request : Request} (hsize : size = queryLength (m .query))
    (hrequest : requestOf (m .query) = some request) (htables : Tables.of m = d.tables) :
    Serves (answer gateMapping size (sftFor (m .query) (functionOf (m .query)))
      (addressOf (m .query))) m (d.serve gateMapping request) := by
  have hlength : functionOf (m .query) ≤ FC_PRESET_SINGLE_REGISTER → size = 12 :=
    fun h => hsize.trans (queryLength_single h)
  dsimp only [requestOf] at hrequest
  dsimp only [answer, sftFor]
  split
  · next hcode =>
      rw [if_pos hcode] at hrequest
      cases hrequest
      exact serves_readStatus .coilStatus htables
  next hne1 =>
  rw [if_neg hne1] at hrequest
  split
  · next hcode =>
      rw [if_pos hcode] at hrequest
      cases hrequest
      exact serves_readStatus .inputStatus htables
  next hne2 =>
  rw [if_neg hne2] at hrequest
  split
  · next hcode =>
      rw [if_pos hcode] at hrequest
      cases hrequest
      exact serves_readRegisters .holdingRegisters htables
  next hne3 =>
  rw [if_neg hne3] at hrequest
  split
  · next hcode =>
      rw [if_pos hcode] at hrequest
      cases hrequest
      exact serves_readRegisters .inputRegisters htables
  next hne4 =>
  rw [if_neg hne4] at hrequest
  split
  · next hcode =>
      rw [if_pos hcode] at hrequest
      cases hrequest
      rw [hlength (by rw [hcode]; decide)]
      exact serves_forceSingleCoil hcode htables
  next hne5 =>
  rw [if_neg hne5] at hrequest
  split
  · next hcode =>
      rw [if_pos hcode] at hrequest
      cases hrequest
      rw [hlength (Nat.le_of_eq hcode)]
      exact serves_presetSingleRegister hcode htables
  next hne6 =>
  rw [if_neg hne6] at hrequest
  split
  · next hcode =>
      rw [if_pos hcode] at hrequest
      cases hrequest
      exact serves_forceMultipleCoils hcode htables
  next hne7 =>
  rw [if_neg hne7] at hrequest
  split
  · next hcode =>
      rw [if_pos hcode] at hrequest
      cases hrequest
      exact serves_presetMultipleRegisters hcode htables
  · next hne8 =>
      rw [if_neg hne8] at hrequest
      cases hrequest

/-- A function that is not implemented. -/
theorem answer_of_requestOf_none {size : Nat} (h : requestOf (m .query) = none) :
    answer gateMapping size (sftFor (m .query) (functionOf (m .query))) (addressOf (m .query)) =
      pure 0 := by
  dsimp only [requestOf] at h
  split_ifs at h with h1 h2 h3 h4 h5 h6 h7 h8
  dsimp only [answer, sftFor]
  rw [if_neg h1, if_neg h2, if_neg h3, if_neg h4, if_neg h5, if_neg h6, if_neg h7, if_neg h8]

/-- The header is read, the query is answered, the answer is sent. -/
theorem runs_modbusManageQuery {size n : Nat} {bytes : List UInt8} {m'' : Mem Contents}
    (hanswer : Runs (answer gateMapping size (sftFor (m .query) (functionOf (m .query)))
      (addressOf (m .query))) m n m') (hsend : Runs (modbusSend n) m' bytes m'') :
    Runs (modbusManageQuery gateMapping size) m bytes m'' :=
  (runs_query _).bind ((runs_query _).bind ((runs_queryWord _).bind ((runs_queryWord _).bind
    (hanswer.bind hsend))))

theorem tables_fill (a : Nat) (bytes : List UInt8) :
    Tables.of (m.fill .response a bytes) = Tables.of m := by
  show Tables.mk _ _ = Tables.mk _ _
  congr 1

end Steps

/-- What is done with a query of the length it says it has. -/
theorem process_eq_handle {received : Received}
    (hsize : received.query_length = queryLength received.query) (d : Device) (stack : Buffer) :
    process received d.tables stack =
      ((d.handle gateMapping received.query).1.tables,
        (d.handle gateMapping received.query).2) := by
  have hprocess : ∀ {bytes m' d'}, Runs (modbusManageQuery gateMapping received.query_length)
      (memory received.query d.tables stack) bytes m' → Tables.of m' = Device.tables d' →
      process received d.tables stack = (d'.tables, bytes) := by
    intro bytes m' d' hruns htables
    rw [process, hruns.result, hruns.after, htables]
  cases hrequest : requestOf received.query with
  | none =>
      have hhandle : d.handle gateMapping received.query = (d, []) := by
        rw [Device.handle, hrequest]
      have hanswer := @answer_of_requestOf_none (memory received.query d.tables stack)
        received.query_length hrequest
      have hsend := runs_modbusSend_zero (m := memory received.query d.tables stack)
      rw [hhandle]
      refine hprocess (runs_modbusManageQuery (hanswer ▸ Runs.pure 0) hsend) ?_
      rw [tables_fill, tables_fill]
      rfl
  | some request =>
      have hhandle : d.handle gateMapping received.query =
          ((d.serve gateMapping request).1,
            answerBytes received.query (d.serve gateMapping request).2) := by
        rw [Device.handle, hrequest]
      obtain ⟨body, m', hruns, hlow, hhigh, hsent, htables⟩ :=
        serves_answer (m := memory received.query d.tables stack) (d := d) hsize hrequest rfl
      rw [hhandle]
      refine (hprocess (runs_modbusManageQuery hruns (runs_modbusSend hlow hhigh)) ?_).trans
        (by rw [hsent]; rfl)
      rw [tables_fill, htables]

/-- **The gate is a device.** A complete query that fits is processed inside the arrays. In
the tables of a device it leaves the tables of the device after it, and it is answered with
the bytes of the device's answer, whatever is on the stack. -/
theorem process_handle {buffer : Buffer} {arrivals : List Arrival} {received : Received}
    (h : modbusListen buffer arrivals = some (.ok received)) (hfits : Fits received.query)
    (d : Device) (stack : Buffer) :
    BoundedProcessing received d.tables stack ∧
      process received d.tables stack =
        ((d.handle gateMapping received.query).1.tables,
          (d.handle gateMapping received.query).2) :=
  ⟨(bounded_iff_fits h d.tables stack).mpr hfits, process_eq_handle (received_length h).1 d stack⟩

/-- Two coils are set in a mapping that has just been allocated. -/
theorem process_handle_twoCoils : ∃ received,
    modbusListen (fun _ => 0) twoCoils = some (.ok received) ∧
      (process received Device.fresh.tables fun _ => 0).2 = [0, 1, 0, 0, 0, 6, 1, 15, 0, 3, 0, 2] :=
  ⟨_, rfl, (congrArg Prod.snd (@process_handle (fun _ => 0) twoCoils _ rfl (by decide)
    Device.fresh fun _ => 0).2).trans (by decide)⟩

end ScadaSim.Modbus
