import ScadaSim.Modbus.Footprint

/-!
# Queries whose processing stays inside the arrays

`modbus_manage_query` compares address and quantity with the size of a table, and
nothing else: not the quantity with the room in the response, nor with the data that
came along. `bounded_iff_fits` says for which complete queries that is enough.
-/

namespace ScadaSim.Modbus

open Lib.Cells

/-- `(query[i] << 8) + query[i + 1]`. -/
def wordAt (query : Buffer) (i : Nat) : Nat := ((query i).toNat <<< 8) + (query (i + 1)).toNat

def functionOf (query : Buffer) : Nat := (query (HEADER_LENGTH_TCP + 1)).toNat

def addressOf (query : Buffer) : Nat := wordAt query (HEADER_LENGTH_TCP + 2)

def quantityOf (query : Buffer) : Nat := wordAt query (HEADER_LENGTH_TCP + 4)

def byteCountOf (query : Buffer) : Nat := (query (HEADER_LENGTH_TCP + 6)).toNat

/-- The range is not in the table, and an exception is the answer. -/
def OutOfTable (query : Buffer) : Prop := 500 < addressOf query + quantityOf query

/-- The registers that are read fit a message, the values that are set are in the query,
and the query is one whose length is known to reach past the function code. -/
def Fits (query : Buffer) : Prop :=
  (functionOf query = FC_READ_HOLDING_REGISTERS ∨ functionOf query = FC_READ_INPUT_REGISTERS →
    OutOfTable query ∨ quantityOf query ≤ 123) ∧
  (functionOf query = FC_FORCE_MULTIPLE_COILS →
    OutOfTable query ∨ (quantityOf query + 7) / 8 ≤ byteCountOf query) ∧
  (functionOf query = FC_PRESET_MULTIPLE_REGISTERS →
    OutOfTable query ∨ 2 * quantityOf query ≤ byteCountOf query) ∧
  (functionOf query ≤ FC_PRESET_SINGLE_REGISTER ∨ functionOf query = FC_FORCE_MULTIPLE_COILS ∨
    functionOf query = FC_PRESET_MULTIPLE_REGISTERS)

instance : DecidablePred OutOfTable := fun query =>
  inferInstanceAs (Decidable (500 < addressOf query + quantityOf query))

instance : DecidablePred Fits := fun _ => inferInstanceAs (Decidable ((_ → _) ∧ (_ → _) ∧ _))

section Functions

attribute [local simp] FC_READ_COIL_STATUS FC_READ_INPUT_STATUS FC_READ_HOLDING_REGISTERS
  FC_READ_INPUT_REGISTERS FC_FORCE_SINGLE_COIL FC_PRESET_SINGLE_REGISTER
  FC_FORCE_MULTIPLE_COILS FC_PRESET_MULTIPLE_REGISTERS

variable {query : Buffer}

theorem fits_of_single (h : functionOf query ≤ FC_PRESET_SINGLE_REGISTER)
    (hread : ¬ (functionOf query = FC_READ_HOLDING_REGISTERS ∨
      functionOf query = FC_READ_INPUT_REGISTERS)) : Fits query := by
  refine ⟨fun hregisters => absurd hregisters hread, ?_, ?_, .inl h⟩
  · intro hcoils
    rw [hcoils] at h
    simp at h
  · intro hregisters
    rw [hregisters] at h
    simp at h

theorem fits_readRegisters (h : functionOf query = FC_READ_HOLDING_REGISTERS ∨
    functionOf query = FC_READ_INPUT_REGISTERS) :
    Fits query ↔ OutOfTable query ∨ quantityOf query ≤ 123 := by
  rcases h with hcode | hcode
  · simp [Fits, hcode]
  · simp [Fits, hcode]

theorem fits_forceMultipleCoils (h : functionOf query = FC_FORCE_MULTIPLE_COILS) :
    Fits query ↔ OutOfTable query ∨ (quantityOf query + 7) / 8 ≤ byteCountOf query := by
  simp [Fits, h]

theorem fits_presetMultipleRegisters (h : functionOf query = FC_PRESET_MULTIPLE_REGISTERS) :
    Fits query ↔ OutOfTable query ∨ 2 * quantityOf query ≤ byteCountOf query := by
  simp [Fits, h]

theorem queryLength_single (h : functionOf query ≤ FC_PRESET_SINGLE_REGISTER) :
    queryLength query = 12 := by
  have hheader : computeQueryLengthHeader (functionOf query) = 4 := by
    refine if_pos ?_
    simp at h ⊢
    omega
  have hdata : computeQueryLengthData query = 0 := by
    have hsingle : ¬ (functionOf query = FC_FORCE_MULTIPLE_COILS ∨
        functionOf query = FC_PRESET_MULTIPLE_REGISTERS) := by
      simp at h ⊢
      omega
    exact if_neg hsingle
  show HEADER_LENGTH_TCP + 2 + computeQueryLengthHeader (functionOf query) + _ = 12
  rw [hheader, hdata]
  rfl

theorem queryLength_multiple
    (h : functionOf query = FC_FORCE_MULTIPLE_COILS ∨
      functionOf query = FC_PRESET_MULTIPLE_REGISTERS) :
    queryLength query = 13 + byteCountOf query := by
  have hheader : computeQueryLengthHeader (functionOf query) = 5 := by
    rcases h with hcoils | hregisters
    · rw [hcoils]; rfl
    · rw [hregisters]; rfl
  have hdata : computeQueryLengthData query = byteCountOf query := if_pos h
  show HEADER_LENGTH_TCP + 2 + computeQueryLengthHeader (functionOf query) + _ = _
  rw [hheader, hdata]
  rfl

/-- Of any other function, a query is complete with its function code. -/
theorem queryLength_unknown
    (h : ¬ functionOf query ≤ FC_PRESET_SINGLE_REGISTER)
    (hmultiple : ¬ (functionOf query = FC_FORCE_MULTIPLE_COILS ∨
      functionOf query = FC_PRESET_MULTIPLE_REGISTERS)) :
    queryLength query = 8 := by
  have hheader : computeQueryLengthHeader (functionOf query) = 0 := by
    refine (if_neg ?_).trans (if_neg hmultiple)
    simp at h ⊢
    omega
  show HEADER_LENGTH_TCP + 2 + computeQueryLengthHeader (functionOf query) + _ = 8
  rw [computeQueryLengthData_of_short hheader, hheader]
  rfl

/-- A query is long enough for an address and a quantity, or ends at its function code. -/
theorem queryLength_long_or_short (query : Buffer) :
    12 ≤ queryLength query ∨ queryLength query = 8 ∧ ¬ Fits query := by
  by_cases hsingle : functionOf query ≤ FC_PRESET_SINGLE_REGISTER
  · rw [queryLength_single hsingle]
    exact .inl (Nat.le_refl 12)
  · by_cases hmultiple : functionOf query = FC_FORCE_MULTIPLE_COILS ∨
        functionOf query = FC_PRESET_MULTIPLE_REGISTERS
    · rw [queryLength_multiple hmultiple]
      exact .inl (by omega)
    · refine .inr ⟨queryLength_unknown hsingle hmultiple, fun hfits => ?_⟩
      obtain ⟨_, _, _, hknown⟩ := hfits
      exact hknown.elim hsingle hmultiple

end Functions

/-! ## The response to a query -/

section Answer

variable {size : Nat} {m : Mem Contents} {cond : Prop}

@[simp] theorem result_queryWord (i : Nat) : (queryWord i).result m = wordAt (m .query) i := rfl

@[simp] theorem after_queryWord (i : Nat) : (queryWord i).after m = m := rfl

@[simp] theorem trace_queryWord (i : Nat) :
    (queryWord i).trace m = [.read .query i, .read .query (i + 1)] := rfl

/-- From `m`, the program fills the response up to the length it returns, inside the arrays
if `cond` holds and not otherwise. -/
structure Answers (size : Nat) (cond : Prop) (p : Op Nat) (m : Mem Contents) : Prop where
  confined : Confined size (p.trace m) ↔ cond
  fills : Fills 0 (p.result m) (p.trace m)

namespace Answers

theorem of_does {p : Op Nat} {t : List (Access Region)} {n : Nat} (h : Does p t (· = n))
    (hconfined : Confined size t ↔ cond) (hfills : Fills 0 n t) : Answers size cond p m where
  confined := by
    rw [(h m).1]
    exact hconfined
  fills := by
    rw [(h m).1, (h m).2]
    exact hfills

theorem congr {p : Op Nat} {cond' : Prop} (h : Answers size cond p m) (hiff : cond' ↔ cond) :
    Answers size cond' p m where
  confined := h.confined.trans hiff.symm
  fills := h.fills

/-- A word of the query is read first. -/
theorem queryWord {i : Nat} {f : Nat → Op Nat} (hi : i + 1 < size)
    (h : Answers size cond (f (wordAt (m .query) i)) m) :
    Answers size cond (queryWord i >>= f) m where
  confined := by
    have hhere : InBounds size (.read .query i) := show i < size by omega
    have hnext : InBounds size (.read .query (i + 1)) := hi
    simp only [Prog.trace_bind, trace_queryWord, result_queryWord, after_queryWord,
      confined_append, confined_cons, confined_nil, hhere, hnext, and_true, true_and]
    exact h.confined
  fills := by
    simp only [Prog.trace_bind, Prog.result_bind, trace_queryWord, result_queryWord,
      after_queryWord]
    exact (Fills.nothing (by simp)).append h.fills

theorem exception (sft : Sft) (code : Int) : Answers size True (responseException sft code) m :=
  of_does (does_exception sft code) (iff_of_true (confined_exception size) True.intro)
    fills_exception

/-- The quantity decides whether there is an answer or an exception. -/
theorem onRange {sft : Sft} {address : Nat} {body : Nat → Op Nat} (hsize : 12 ≤ size)
    (h : address + quantityOf (m .query) ≤ 500 →
      Answers size cond (body (quantityOf (m .query))) m) :
    Answers size (500 < address + quantityOf (m .query) ∨ cond) (onRange 500 sft address body)
      m := by
  refine queryWord (show 11 < size by omega) ?_
  show Answers size _ (if address + quantityOf (m .query) > 500 then _ else _) m
  by_cases hout : address + quantityOf (m .query) > 500
  · rw [if_pos hout]
    exact (exception sft _).congr (iff_of_true (.inl hout) True.intro)
  · rw [if_neg hout]
    exact (h (Nat.le_of_not_gt hout)).congr (or_iff_right hout)

/-- The reading functions: header, count, values. -/
theorem reply {sft : Sft} {count : UInt8} {values : Nat → Op Nat} {t : List (Access Region)}
    {n : Nat} (h : Does (values 9) t (· = n)) (hfills : Fills 9 n t)
    (hconfined : Confined size t ↔ cond) :
    Answers size cond (do
      let resp_length ← buildResponseBasisTcp sft
      setResponse resp_length count
      values (resp_length + 1)) m := by
  have hdoes : Does (do
      let resp_length ← buildResponseBasisTcp sft
      setResponse resp_length count
      values (resp_length + 1)) (basisTrace ++ ([.write .response 8] ++ t)) (· = n) := by
    refine (does_basis sft).bind ?_
    rintro _ rfl
    exact (Does.setCell _ _ _).bind fun _ _ => h
  refine of_does hdoes ?_ ?_
  · have hcount : InBounds size (.write .response 8) := show 8 < MAX_MESSAGE_LENGTH by decide
    simp only [confined_append, confined_cons, confined_nil, confined_basis, hcount, true_and]
    exact hconfined
  · exact fills_basis.append ((Fills.single (by simp) (by simp)).append hfills)

/-- The functions that set a range: values, then the address and the quantity back. -/
theorem setAndEcho {sft : Sft} {set : Op Unit} {t : List (Access Region)} (hsize : 12 ≤ size)
    (h : Does set t fun _ => True) (hreads : ∀ i, .read .response i ∉ t)
    (hconfined : Confined size t ↔ cond) :
    Answers size cond (do
      set
      let resp_length ← buildResponseBasisTcp sft
      copyQuery resp_length 4
      pure (resp_length + 4)) m := by
  have hdoes : Does (do
      set
      let resp_length ← buildResponseBasisTcp sft
      copyQuery resp_length 4
      pure (resp_length + 4)) (t ++ (basisTrace ++ (copyTrace 8 4 ++ []))) (· = 12) := by
    refine h.bind fun _ _ => (does_basis sft).bind ?_
    rintro _ rfl
    exact (does_copyQuery 8 4).bind fun _ _ => Does.pure rfl
  refine of_does hdoes ?_ ?_
  · have hecho : Confined size (copyTrace 8 4) := confined_copy hsize (by decide)
    simp only [confined_append, confined_nil, confined_basis, hecho, and_true]
    exact hconfined
  · rw [List.append_nil]
    exact (Fills.nothing hreads).append (fills_basis.append (fills_copy 8 4))

/-- The functions that set one entry send the query back. -/
theorem setAndReturn {set : Op Unit} {a : Access Region} (hsize : 12 = size)
    (h : Does set [a] fun _ => True) (ha : InBounds size a) (hreads : ∀ i, a ≠ .read .response i) :
    Answers size True (do
      set
      copyQuery 0 size
      pure size) m := by
  have hdoes : Does (do
      set
      copyQuery 0 size
      pure size) ([a] ++ (copyTrace 0 size ++ [])) (· = size) :=
    h.bind fun _ _ => (does_copyQuery 0 size).bind fun _ _ => Does.pure rfl
  refine of_does hdoes (iff_of_true ?_ True.intro) ?_
  · rw [List.append_nil]
    exact confined_cons.mpr ⟨ha, confined_copy (by omega) (by rw [← hsize]; decide)⟩
  · rw [List.append_nil]
    have hcopy := fills_copy 0 size
    rw [Nat.zero_add] at hcopy
    exact (Fills.nothing fun i hmem => hreads i (List.mem_singleton.mp hmem).symm).append hcopy

end Answers

/-! ## The functions one by one -/

theorem answers_readStatus (tab : BitTable) (sft : Sft) (address : Nat) (hsize : 12 ≤ size) :
    Answers size True (readStatus 500 tab sft address) m := by
  have hrange : Answers size (500 < address + quantityOf (m .query) ∨ True)
      (readStatus 500 tab sft address) m :=
    Answers.onRange hsize fun hin =>
      Answers.reply (does_responseIoStatus address _ tab 9) (fills_status tab address _ 9)
        (iff_of_true (confined_status tab hin) True.intro)
  exact hrange.congr (by simp)

theorem answers_readRegisters (tab : RegisterTable) (sft : Sft) (address : Nat)
    (hsize : 12 ≤ size) :
    Answers size (500 < address + quantityOf (m .query) ∨ quantityOf (m .query) ≤ 123)
      (readRegisters 500 tab sft address) m :=
  Answers.onRange hsize fun hin =>
    Answers.reply (does_responseRegisters address _ tab 9) (fills_registers tab address _ 9)
      (confined_registers tab hin)

theorem answers_forceSingleCoil (sft : Sft) (address : Nat) (hsize : 12 = size) :
    Answers size True (forceSingleCoil 500 sft address size) m := by
  unfold forceSingleCoil
  by_cases hout : address ≥ 500
  · rw [if_pos hout]
    exact Answers.exception sft _
  · rw [if_neg hout]
    refine Answers.queryWord (show 11 < size by omega) ?_
    split
    · exact Answers.setAndReturn hsize (Does.setCell _ _ _) (show address < 500 by omega) nofun
    · exact Answers.exception sft _

theorem answers_presetSingleRegister (sft : Sft) (address : Nat) (hsize : 12 = size) :
    Answers size True (presetSingleRegister 500 sft address size) m := by
  unfold presetSingleRegister
  by_cases hout : address ≥ 500
  · rw [if_pos hout]
    exact Answers.exception sft _
  · rw [if_neg hout]
    refine Answers.queryWord (show 11 < size by omega) ?_
    exact Answers.setAndReturn hsize (Does.setCell _ _ _) (show address < 500 by omega) nofun

theorem answers_forceMultipleCoils (sft : Sft) (address : Nat) (hsize : 13 ≤ size) :
    Answers size (500 < address + quantityOf (m .query) ∨
        13 + (quantityOf (m .query) + 7) / 8 ≤ size)
      (forceMultipleCoils 500 sft address) m :=
  Answers.onRange (by omega) fun hin =>
    Answers.setAndEcho (by omega) (does_setBitsFromBytes address _ 13)
      (by simp [setBitsTrace, setBitsTurnTrace]) (confined_setBits hin hsize)

theorem answers_presetMultipleRegisters (sft : Sft) (address : Nat) (hsize : 13 ≤ size) :
    Answers size (500 < address + quantityOf (m .query) ∨ 13 + 2 * quantityOf (m .query) ≤ size)
      (presetMultipleRegisters 500 sft address) m :=
  Answers.onRange (by omega) fun hin =>
    Answers.setAndEcho (by omega) (does_setRegisters address _ 13)
      (by simp [setRegistersTrace, setRegistersTurnTrace]) (confined_setRegisters hin hsize)

/-- The `switch`, for a query of the length it says it has. -/
theorem answers_answer (slave t_id : Nat) (hsize : size = queryLength (m .query))
    (hlong : 12 ≤ size) :
    Answers size (Fits (m .query))
      (answer gateMapping size ⟨slave, functionOf (m .query), t_id⟩ (addressOf (m .query))) m := by
  -- the queries without a byte count are twelve bytes long
  have hlength : functionOf (m .query) ≤ FC_PRESET_SINGLE_REGISTER → 12 = size :=
    fun h => (hsize.trans (queryLength_single h)).symm
  have hcounted : functionOf (m .query) = FC_FORCE_MULTIPLE_COILS ∨
      functionOf (m .query) = FC_PRESET_MULTIPLE_REGISTERS →
      size = 13 + byteCountOf (m .query) := fun h => hsize.trans (queryLength_multiple h)
  -- no range to check where a single point is written
  have hsingle : ∀ code, functionOf (m .query) = code → code ≤ FC_PRESET_SINGLE_REGISTER →
      ¬ (code = FC_READ_HOLDING_REGISTERS ∨ code = FC_READ_INPUT_REGISTERS) →
      (Fits (m .query) ↔ True) := by
    rintro _ rfl hle hread
    exact iff_of_true (fits_of_single hle hread) True.intro
  unfold answer
  dsimp only [gateMapping]
  split
  · next hcode =>
      exact (answers_readStatus _ _ _ hlong).congr (hsingle _ hcode (by decide) (by decide))
  split
  · next hcode =>
      exact (answers_readStatus _ _ _ hlong).congr (hsingle _ hcode (by decide) (by decide))
  split
  · next hcode =>
      exact (answers_readRegisters _ _ _ hlong).congr (fits_readRegisters (.inl hcode))
  split
  · next hcode =>
      exact (answers_readRegisters _ _ _ hlong).congr (fits_readRegisters (.inr hcode))
  split
  · next hcode =>
      have hsize := hlength (by rw [hcode]; decide)
      exact (answers_forceSingleCoil _ _ hsize).congr (hsingle _ hcode (by decide) (by decide))
  split
  · next hcode =>
      have hsize := hlength (Nat.le_of_eq hcode)
      exact (answers_presetSingleRegister _ _ hsize).congr
        (hsingle _ hcode (by decide) (by decide))
  split
  · next hcode =>
      have hbytes := hcounted (.inl hcode)
      refine (answers_forceMultipleCoils _ _ (by omega)).congr ?_
      rw [hbytes, Nat.add_le_add_iff_left]
      exact fits_forceMultipleCoils hcode
  split
  · next hcode =>
      have hbytes := hcounted (.inr hcode)
      refine (answers_presetMultipleRegisters _ _ (by omega)).congr ?_
      rw [hbytes, Nat.add_le_add_iff_left]
      exact fits_presetMultipleRegisters hcode
  · -- what is left of the functions with a header is function 0, which is not answered
    next h1 h2 h3 h4 h5 h6 hcoils hregisters =>
      have hle : functionOf (m .query) ≤ FC_PRESET_SINGLE_REGISTER := by
        by_contra hunknown
        have hshort := queryLength_unknown hunknown (not_or.mpr ⟨hcoils, hregisters⟩)
        omega
      exact Answers.of_does (Does.pure rfl)
        (iff_of_true confined_nil (fits_of_single hle (not_or.mpr ⟨h3, h4⟩))) (Fills.nothing nofun)

end Answer

/-! ## The whole -/

def headTrace : List (Access Region) :=
  [.read .query 6, .read .query 7, .read .query 8, .read .query 9, .read .query 0,
    .read .query 1]

def sendTrace (query_length : Nat) : List (Access Region) :=
  [.write .response 4, .write .response 5] ++
    (List.range' 0 query_length).flatMap fun i => [.read .response i]

theorem does_modbusSend (query_length : Nat) :
    Does (modbusSend query_length) (sendTrace query_length) fun _ => True := by
  have hlength : Does (setMessageLengthTcp query_length)
      [.write .response 4, .write .response 5] fun _ => True := fun _ => ⟨rfl, True.intro⟩
  refine hlength.bind fun _ _ => ?_
  exact Does.loop (I := fun _ _ => True) (fun _ _ _ _ _ _ => ⟨rfl, True.intro⟩) True.intro

theorem confined_send (size query_length : Nat) : Confined size (sendTrace query_length) := by
  refine confined_append.mpr ⟨?_, confined_loop.mpr fun i _ _ => ?_⟩
  · simp [InBounds, MAX_MESSAGE_LENGTH]
  · simp [InBounds]

/-- What is sent has been written. -/
theorem definedFrom_send {S : Region → Nat → Prop} {t : List (Access Region)} {n : Nat}
    (h : Fills 0 n t) : DefinedFrom (Known S t) (sendTrace n) := by
  show DefinedFrom _ ((List.range' 0 n).flatMap fun i => [Access.read Region.response i])
  refine definedFrom_of_reads fun r i hmem => ?_
  obtain ⟨j, hj, hread⟩ := List.mem_flatMap.mp hmem
  obtain ⟨rfl, rfl⟩ := Access.read.inj (List.mem_singleton.mp hread)
  have hlt : i < n := by
    have hrange := (List.mem_range'_1.mp hj).2
    omega
  by_cases h5 : i = 5
  · exact .inr ⟨rfl, h5⟩
  by_cases h4 : i = 4
  · exact .inl (.inr ⟨rfl, h4⟩)
  exact .inl (.inl (.inr (h.written i (Nat.zero_le i) hlt h4 h5)))

/-- The four tables. -/
structure Tables where
  bits : BitTable → Nat → UInt8
  registers : RegisterTable → Nat → UInt16

/-- The memory `modbus_manage_query` is called in; its response array is not initialised. -/
def memory (query : Buffer) (tables : Tables) (stack : Buffer) : Mem Contents
  | .query => query
  | .response => stack
  | .bits tab => tables.bits tab
  | .registers tab => tables.registers tab

def Tables.of (m : Mem Contents) : Tables where
  bits := fun tab => m (.bits tab)
  registers := fun tab => m (.registers tab)

/-- What the gate does with a query: the tables afterwards, and what it sends. -/
def process (received : Received) (tables : Tables) (stack : Buffer) : Tables × List UInt8 :=
  let call := modbusManageQuery gateMapping received.query_length
  let m := memory received.query tables stack
  ⟨Tables.of (call.after m), call.result m⟩

def touched (received : Received) (tables : Tables) (stack : Buffer) : List (Access Region) :=
  (modbusManageQuery gateMapping received.query_length).trace
    (memory received.query tables stack)

/-- The processing of a query touches nothing outside the tables, the response array and
the bytes received, and what it does is determined by these bytes and the tables. -/
structure BoundedProcessing (received : Received) (tables : Tables) (stack : Buffer) : Prop where
  bits : ∀ tab i, .read (.bits tab) i ∈ touched received tables stack ∨
    .write (.bits tab) i ∈ touched received tables stack → i < 500
  registers : ∀ tab i, .read (.registers tab) i ∈ touched received tables stack ∨
    .write (.registers tab) i ∈ touched received tables stack → i < 500
  response : ∀ i, .write .response i ∈ touched received tables stack → i < MAX_MESSAGE_LENGTH
  query : ∀ i, .read .query i ∈ touched received tables stack → i < received.query_length
  sameEffect : ∀ query' stack', (∀ i < received.query_length, query' i = received.query i) →
    process ⟨query', received.query_length⟩ tables stack' = process received tables stack

/-- The answer to the query in a memory, before it is sent. -/
def answerTo (mb_mapping : ModbusMapping) (query_length : Nat) (m : Mem Contents) : Op Nat :=
  answer mb_mapping query_length
    ⟨(m .query HEADER_LENGTH_TCP).toNat, functionOf (m .query), wordAt (m .query) 0⟩
    (addressOf (m .query))

/-- The header is read, the query is answered, the answer is sent. -/
theorem trace_modbusManageQuery (mb_mapping : ModbusMapping) (query_length : Nat)
    (m : Mem Contents) :
    (modbusManageQuery mb_mapping query_length).trace m =
      headTrace ++ ((answerTo mb_mapping query_length m).trace m ++
        sendTrace ((answerTo mb_mapping query_length m).result m)) := by
  show headTrace ++ ((answerTo mb_mapping query_length m) >>= modbusSend).trace m = _
  rw [Prog.trace_bind, (does_modbusSend _ _).1]

theorem confined_head {size : Nat} : Confined size headTrace ↔ 10 ≤ size := by
  simp only [headTrace, confined_cons, InBounds, confined_nil, and_true]
  omega

section Whole

variable {received : Received} {tables : Tables} {stack : Buffer}

theorem confined_iff_fits (h : received.query_length = queryLength received.query) :
    Confined received.query_length (touched received tables stack) ↔ Fits received.query := by
  rw [touched, trace_modbusManageQuery, confined_append, confined_append, confined_head]
  rcases queryLength_long_or_short received.query with hlong | ⟨hshort, hnot⟩
  · rw [← h] at hlong
    have hanswer := answers_answer (m := memory received.query tables stack)
      (received.query HEADER_LENGTH_TCP).toNat (wordAt received.query 0) h hlong
    have hsend := confined_send received.query_length
      ((answerTo gateMapping received.query_length (memory received.query tables stack)).result
        (memory received.query tables stack))
    simp only [hsend, and_true]
    exact (and_iff_right (by omega)).trans hanswer.confined
  · -- the address is read all the same
    refine iff_of_false ?_ hnot
    rintro ⟨hhead, _⟩
    omega

/-- The cells that hold the same whatever lies behind the query and on the stack. -/
def Given (query_length : Nat) : Region → Nat → Prop
  | .query, i => i < query_length
  | .response, _ => False
  | .bits _, _ => True
  | .registers _, _ => True

theorem given_of_confined {size : Nat} {t : List (Access Region)} (h : Confined size t)
    (hreads : ∀ i, .read .response i ∉ t) : DefinedFrom (Given size) t := by
  refine definedFrom_of_reads fun r i hmem => ?_
  cases r with
  | query => exact h _ hmem
  | response => exact absurd hmem (hreads i)
  | bits tab => exact True.intro
  | registers tab => exact True.intro

theorem definedFrom_touched (h : received.query_length = queryLength received.query)
    (hfits : Fits received.query) :
    DefinedFrom (Given received.query_length) (touched received tables stack) := by
  have hlong : 12 ≤ received.query_length := by
    rcases queryLength_long_or_short received.query with hlong | ⟨_, hnot⟩
    · omega
    · exact absurd hfits hnot
  have hanswer := answers_answer (m := memory received.query tables stack)
    (received.query HEADER_LENGTH_TCP).toNat (wordAt received.query 0) h hlong
  have hhead : Confined received.query_length headTrace := confined_head.mpr (by omega)
  have hfills := (Fills.nothing (a := 0) (t := headTrace) (by simp [headTrace])).append
    hanswer.fills
  rw [touched, trace_modbusManageQuery, ← List.append_assoc, definedFrom_append]
  refine ⟨given_of_confined ?_ hfills.reads, definedFrom_send hfills⟩
  exact confined_append.mpr ⟨hhead, hanswer.confined.mpr hfits⟩

theorem outcome_congr {size : Nat} {call : Op (List UInt8)} {m m' : Mem Contents}
    (h : DefinedFrom (Given size) (call.trace m)) (hagree : Agree (Given size) m m') :
    (⟨Tables.of (call.after m'), call.result m'⟩ : Tables × List UInt8) =
      ⟨Tables.of (call.after m), call.result m⟩ := by
  obtain ⟨hresult, hafter⟩ := run_congr h hagree
  have hbits : ∀ tab, call.after m' (.bits tab) = call.after m (.bits tab) :=
    fun tab => funext fun i => (hafter (.bits tab) i (.inl True.intro)).symm
  have hregisters : ∀ tab, call.after m' (.registers tab) = call.after m (.registers tab) :=
    fun tab => funext fun i => (hafter (.registers tab) i (.inl True.intro)).symm
  simp only [Tables.of, hresult, hbits, hregisters]

/-- Two buffers with the same received bytes are processed the same way. -/
theorem process_congr (h : DefinedFrom (Given received.query_length)
      (touched received tables stack))
    {query' stack' : Buffer} (hquery : ∀ i < received.query_length, query' i = received.query i) :
    process ⟨query', received.query_length⟩ tables stack' = process received tables stack := by
  have hagree : Agree (Given received.query_length) (memory received.query tables stack)
      (memory query' tables stack') := by
    intro r i hgiven
    cases r with
    | query => exact (hquery i hgiven).symm
    | response => exact hgiven.elim
    | bits tab => rfl
    | registers tab => rfl
  exact outcome_congr h hagree

/-- The bounds, region by region, are the bounds on all accesses. -/
theorem confined_of_fields (h : BoundedProcessing received tables stack) :
    Confined received.query_length (touched received tables stack) := by
  intro a ha
  cases a with
  | read r i =>
      cases r with
      | query => exact h.query i ha
      | response => exact True.intro
      | bits tab => exact h.bits tab i (.inl ha)
      | registers tab => exact h.registers tab i (.inl ha)
  | write r i =>
      cases r with
      | query => exact True.intro
      | response => exact h.response i ha
      | bits tab => exact h.bits tab i (.inr ha)
      | registers tab => exact h.registers tab i (.inr ha)

end Whole

/-- **Bounded processing.** Whatever the tables hold, a query that `modbus_listen` has
found complete is processed inside the arrays, and by its received bytes alone, just when
it fits: when the registers it asks for have room in a message, and the values it sets
are all in it. -/
theorem bounded_iff_fits {buffer : Buffer} {arrivals : List Arrival} {received : Received}
    (h : modbusListen buffer arrivals = some (.ok received)) (tables : Tables) (stack : Buffer) :
    BoundedProcessing received tables stack ↔ Fits received.query := by
  have hlength := (received_length h).1
  constructor
  · intro hbounded
    exact (confined_iff_fits hlength).mp (confined_of_fields hbounded)
  · intro hfits
    have hconfined : Confined received.query_length (touched received tables stack) :=
      (confined_iff_fits hlength).mpr hfits
    exact {
      bits := fun _ _ htouch => htouch.elim (hconfined _) (hconfined _)
      registers := fun _ _ htouch => htouch.elim (hconfined _) (hconfined _)
      response := fun _ hmem => hconfined _ hmem
      query := fun _ hmem => hconfined _ hmem
      sameEffect := fun _ _ => process_congr (definedFrom_touched hlength hfits) }

/-! ## Two queries -/

def noTables : Tables where
  bits := fun _ _ => 0
  registers := fun _ _ => 0

/-- Two coils are set, at address 3. -/
def twoCoils : List Arrival :=
  [.bytes [0, 1, 0, 0, 0, 8, 1, 15], .bytes [0, 3, 0, 2, 1], .bytes [3]]

theorem bounded_twoCoils : ∃ received, modbusListen (fun _ => 0) twoCoils = some (.ok received) ∧
    Fits received.query ∧ BoundedProcessing received noTables (fun _ => 0) :=
  ⟨_, rfl, by decide,
    (@bounded_iff_fits (fun _ => 0) twoCoils _ rfl noTables fun _ => 0).mpr (by decide)⟩

/-- A hundred and twenty-four registers are asked for, at address 0. -/
def manyRegisters : List Arrival := [.bytes [0, 1, 0, 0, 0, 6, 1, 3], .bytes [0, 0, 0, 124]]

theorem manyRegisters_overrun : ∃ received,
    modbusListen (fun _ => 0) manyRegisters = some (.ok received) ∧
      ¬ BoundedProcessing received noTables (fun _ => 0) := by
  refine ⟨_, rfl, fun hbounded => ?_⟩
  have hfits := (confined_iff_fits rfl).mp (confined_of_fields hbounded)
  exact absurd hfits (by decide)

end ScadaSim.Modbus
