import ScadaSim.Modbus.Response

/-!
# A master and the gate

Calls of a master, one after the other, over a connection that cuts queries and responses
as it likes. The master sees what a device does (`session_device`): what it reads is what
is in the device's tables, what it sets is in them afterwards, and what the device refuses
is returned as its exception.
-/

namespace ScadaSim.Modbus

open Lib
open Master (Started readCoilStatus readInputStatus readHoldingRegisters readInputRegisters finish
  exchange unpackStatus unpackRegisters)

/-! ## Calls -/

inductive Call
  | readStatus (tab : BitTable) (slave : Nat) (start_addr : Int) (nb : Nat)
  | readRegisters (tab : RegisterTable) (slave : Nat) (start_addr : Int) (nb : Nat)
  | forceSingleCoil (slave : Nat) (coil_addr state : Int)
  | presetSingleRegister (slave : Nat) (reg_addr value : Int)
  | forceMultipleCoils (slave : Nat) (start_addr : Int) (nb : Nat) (data_src : Nat → UInt8)
  | presetMultipleRegisters (slave : Nat) (start_addr : Int) (nb : Nat) (data_src : Nat → UInt16)

/-- The caller's arrays for what is read. -/
structure Dest where
  status : Nat → UInt8
  registers : Nat → UInt16

namespace Call

def start (t_id : UInt16) (dest : Dest) : Call → Started (Int × Dest)
  | readStatus .coilStatus slave start_addr nb =>
      (readCoilStatus t_id slave start_addr nb dest.status).map fun result =>
        (result.1, { dest with status := result.2 })
  | readStatus .inputStatus slave start_addr nb =>
      (readInputStatus t_id slave start_addr nb dest.status).map fun result =>
        (result.1, { dest with status := result.2 })
  | readRegisters .holdingRegisters slave start_addr nb =>
      (readHoldingRegisters t_id slave start_addr nb dest.registers).map fun result =>
        (result.1, { dest with registers := result.2 })
  | readRegisters .inputRegisters slave start_addr nb =>
      (readInputRegisters t_id slave start_addr nb dest.registers).map fun result =>
        (result.1, { dest with registers := result.2 })
  | forceSingleCoil slave coil_addr state =>
      (Master.forceSingleCoil t_id slave coil_addr state).map fun ret => (ret, dest)
  | presetSingleRegister slave reg_addr value =>
      (Master.presetSingleRegister t_id slave reg_addr value).map fun ret => (ret, dest)
  | forceMultipleCoils slave start_addr nb data_src =>
      (Master.forceMultipleCoils t_id slave start_addr nb data_src).map fun ret => (ret, dest)
  | presetMultipleRegisters slave start_addr nb data_src =>
      (Master.presetMultipleRegisters t_id slave start_addr nb data_src).map fun ret => (ret, dest)

/-- What the call asks a device for; nothing, if it is for too much. -/
def request : Call → Option Request
  | readStatus tab _ start_addr nb =>
      if nb > MAX_STATUS then none else some (.readStatus tab (low16 start_addr) nb)
  | readRegisters tab _ start_addr nb =>
      if nb > MAX_REGISTERS then none else some (.readRegisters tab (low16 start_addr) nb)
  | forceSingleCoil _ coil_addr state =>
      some (.forceSingleCoil (low16 coil_addr) (if state ≠ 0 then 0xFF00 else 0))
  | presetSingleRegister _ reg_addr value =>
      some (.presetSingleRegister (low16 reg_addr) (UInt16.ofNat (low16 value)))
  | forceMultipleCoils _ start_addr nb data_src =>
      if nb > MAX_STATUS then none
      else some (.forceMultipleCoils (low16 start_addr)
        ((List.range nb).map fun k => decide (data_src k ≠ 0)))
  | presetMultipleRegisters _ start_addr nb data_src =>
      if nb > MAX_REGISTERS then none
      else some (.presetMultipleRegisters (low16 start_addr) ((List.range nb).map data_src))

/-- What is returned where something has been set. -/
def count : Call → Nat
  | forceMultipleCoils _ _ nb _ => nb
  | presetMultipleRegisters _ _ nb _ => nb
  | _ => 1

/-- A read is for one value at least. An exception is told from a response by its length, and
a response without values is as short. -/
def Proper : Call → Prop
  | readStatus _ _ _ nb => 1 ≤ nb
  | readRegisters _ _ _ nb => 1 ≤ nb
  | _ => True

instance : DecidablePred Proper
  | readStatus _ _ _ nb => inferInstanceAs (Decidable (1 ≤ nb))
  | readRegisters _ _ _ nb => inferInstanceAs (Decidable (1 ≤ nb))
  | forceSingleCoil _ _ _ => .isTrue True.intro
  | presetSingleRegister _ _ _ => .isTrue True.intro
  | forceMultipleCoils _ _ _ _ => .isTrue True.intro
  | presetMultipleRegisters _ _ _ _ => .isTrue True.intro

/-- What the caller gets for an answer. -/
def result (c : Call) (dest : Dest) : Answer → Int × Dest
  | .status values =>
      (values.length, { dest with status := overwrite dest.status 0 (values.map Device.bit) })
  | .registers values =>
      (values.length, { dest with registers := overwrite dest.registers 0 values })
  | .done => (c.count, dest)
  | .exception code => (code, dest)

/-- A device serves the call. -/
def perform (d : Device) (dest : Dest) (c : Call) : Device × (Int × Dest) :=
  match c.request with
  | none => (d, (TOO_MANY_DATA, dest))
  | some request =>
      ((d.serve gateMapping request).1, c.result dest (d.serve gateMapping request).2)

/-! ## What the master makes of an answer -/

/-- The call sends a query with the request, and returns what the answer says. -/
def Speaks (c : Call) (request : Request) (started : Started (Int × Dest)) (dest : Dest) : Prop :=
  ∃ q finish, started = .sent q finish ∧ Asks q request ∧
    ∀ d w, w.Delivers q (answerBytes (bufferOf q) (Device.serve d gateMapping request).2) →
      finish w = some (c.result dest (Device.serve d gateMapping request).2)

/-- The whole query has been written, and the response is there. -/
theorem finish_eq {ρ : Type} {query : List UInt8} {unsent : Int → ρ} {result : Int → Buffer → ρ}
    {w : Wire} {ret : Int} {msg : Buffer} (hwritten : w.written = query.length)
    (hpos : 0 < query.length) (hreceive : modbusReceive (bufferOf query) w = some (ret, msg)) :
    finish query unsent result w = some (result ret msg) := by
  have hall : ¬ (w.written = -1 ∨ w.written ≠ query.length) := by omega
  unfold finish
  dsimp only
  rw [if_neg hall, if_pos (by omega), hreceive]
  rfl

theorem speaks_readStatus {t_id : UInt16} (tab : BitTable) (slave : Nat) (start_addr : Int)
    {nb : Nat} (hsome : 1 ≤ nb) (hmax : nb ≤ MAX_STATUS) (dest : Dest) :
    Speaks (readStatus tab slave start_addr nb) (.readStatus tab (low16 start_addr) nb)
      ((readStatus tab slave start_addr nb).start t_id dest) dest := by
  have hmax' : nb ≤ 800 := hmax
  have hnot : ¬ nb > MAX_STATUS := Nat.not_lt.mpr hmax
  set q := queryOf t_id slave (statusFunction tab) start_addr nb [] with hq
  have hasks : Asks q (.readStatus tab (low16 start_addr) nb) := asks_readStatus tab (by omega)
  have hcode : functionOf (bufferOf q) = statusFunction tab :=
    functionOf_queryOf (by cases tab <;> decide)
  have hnb : quantityOf (bufferOf q) = nb := quantityOf_queryOf.trans (low16_natCast (by omega))
  have hlength : q.length = 12 := length_queryOf
  have hstart : (readStatus tab slave start_addr nb).start t_id dest = .sent q fun w =>
      (((finish q (fun ret => (ret, dest.status)) fun ret response =>
          if ret < 0 then (ret, dest.status)
          else (ret, unpackStatus nb ret.toNat response dest.status)) w).map fun result =>
        (if result.1 > 0 then (nb : Int) else result.1, result.2)).map fun result =>
          (result.1, { dest with status := result.2 }) := by
    cases tab with
    | coilStatus =>
        show (Master.readStatus t_id slave FC_READ_COIL_STATUS start_addr nb dest.status).map _ = _
        rw [Master.readStatus, if_neg hnot]
        rfl
    | inputStatus =>
        show (Master.readStatus t_id slave FC_READ_INPUT_STATUS start_addr nb dest.status).map _ = _
        rw [Master.readStatus, if_neg hnot]
        rfl
  refine ⟨q, _, hstart, hasks, fun d w hw => ?_⟩
  have hwritten := hw.written
  dsimp only [Device.serve] at hw ⊢
  by_cases hout : gateMapping.nbStatus tab < low16 start_addr + nb
  · rw [if_pos hout] at hw ⊢
    obtain ⟨msg, hreceive⟩ := modbusReceive_exception hw (.inl rfl)
      (by rw [hcode]; cases tab <;> decide)
      (by rw [computeResponseLength_status tab hcode, hnb]; omega)
    rw [finish_eq hwritten (by omega) hreceive]
    rfl
  · rw [if_neg hout] at hw ⊢
    set values := (List.range' (low16 start_addr) nb).map (d.bits tab) with hvalues
    have hcount : values.length = nb := by rw [hvalues, List.length_map, List.length_range']
    obtain ⟨msg, hreceive, hbytes⟩ := modbusReceive_status tab hcode (hnb.trans hcount.symm)
      (hcount.symm ▸ hmax) hw
    have hdest : unpackStatus values.length (((values.length + 7) / 8 : Nat) : Int).toNat msg
        dest.status = overwrite dest.status 0 (values.map Device.bit) := by
      have hfilled := @filled_length _ (fun k => Device.bit (values.getD k false))
        (values.map Device.bit) dest.status (fun i hi => by
          rw [List.getElem_map, List.getD_eq_getElem?_getD,
            List.getElem?_eq_getElem (by simpa using hi)]
          rfl)
      rw [List.length_map] at hfilled
      rw [Int.toNat_natCast, unpackStatus_eq hbytes, hfilled]
    have hnot : ¬ ((((values.length + 7) / 8 : Nat) : Int) < 0) := by omega
    have hpos : (((values.length + 7) / 8 : Nat) : Int) > 0 := by omega
    rw [finish_eq hwritten (by omega) hreceive, ← hcount]
    dsimp only [Option.map_some]
    rw [if_neg hnot, hdest]
    dsimp only
    rw [if_pos hpos]
    rfl

theorem speaks_readRegisters {t_id : UInt16} (tab : RegisterTable) (slave : Nat)
    (start_addr : Int) {nb : Nat} (hsome : 1 ≤ nb) (hmax : nb ≤ MAX_REGISTERS) (dest : Dest) :
    Speaks (readRegisters tab slave start_addr nb) (.readRegisters tab (low16 start_addr) nb)
      ((readRegisters tab slave start_addr nb).start t_id dest) dest := by
  have hmax' : nb ≤ 100 := hmax
  have hnot : ¬ nb > MAX_REGISTERS := Nat.not_lt.mpr hmax
  set q := queryOf t_id slave (registersFunction tab) start_addr nb [] with hq
  have hasks : Asks q (.readRegisters tab (low16 start_addr) nb) :=
    asks_readRegisters tab (by omega)
  have hcode : functionOf (bufferOf q) = registersFunction tab :=
    functionOf_queryOf (by cases tab <;> decide)
  have hnb : quantityOf (bufferOf q) = nb := quantityOf_queryOf.trans (low16_natCast (by omega))
  have hlength : q.length = 12 := length_queryOf
  have hstart : (readRegisters tab slave start_addr nb).start t_id dest = .sent q fun w =>
      (finish q (fun ret => (ret, dest.registers)) (fun ret response =>
          (ret, unpackRegisters ret.toNat response dest.registers)) w).map fun result =>
        (result.1, { dest with registers := result.2 }) := by
    cases tab with
    | holdingRegisters =>
        show (Master.readRegisters t_id slave FC_READ_HOLDING_REGISTERS start_addr nb
          dest.registers).map _ = _
        rw [Master.readRegisters, if_neg hnot]
        rfl
    | inputRegisters =>
        show (Master.readRegisters t_id slave FC_READ_INPUT_REGISTERS start_addr nb
          dest.registers).map _ = _
        rw [Master.readRegisters, if_neg hnot]
        rfl
  refine ⟨q, _, hstart, hasks, fun d w hw => ?_⟩
  have hwritten := hw.written
  dsimp only [Device.serve] at hw ⊢
  by_cases hout : gateMapping.nbRegisters tab < low16 start_addr + nb
  · rw [if_pos hout] at hw ⊢
    obtain ⟨msg, hreceive⟩ := modbusReceive_exception hw (.inl rfl)
      (by rw [hcode]; cases tab <;> decide)
      (by rw [computeResponseLength_registers tab hcode, hnb]; omega)
    rw [finish_eq hwritten (by omega) hreceive]
    rfl
  · rw [if_neg hout] at hw ⊢
    set values := (List.range' (low16 start_addr) nb).map (d.registers tab) with hvalues
    have hcount : values.length = nb := by rw [hvalues, List.length_map, List.length_range']
    obtain ⟨msg, hreceive, hwords⟩ := modbusReceive_registers tab hcode (hnb.trans hcount.symm)
      (hcount.symm ▸ hmax) hw
    have hdest : unpackRegisters (values.length : Int).toNat msg dest.registers =
        overwrite dest.registers 0 values := by
      rw [Int.toNat_natCast, unpackRegisters_eq, filled_length dest.registers hwords]
    rw [finish_eq hwritten (by omega) hreceive]
    dsimp only [Option.map_some]
    rw [hdest]
    rfl

/-- The calls that set something: the response says how much has been set. -/
theorem speaks_sets {c : Call} {request : Request} {started : Started (Int × Dest)} {dest : Dest}
    {q : List UInt8} (hasks : Asks q request) (hpos : 0 < q.length)
    (hcode : Sets (functionOf (bufferOf q)))
    (hcount : c.count = if functionOf (bufferOf q) ≤ FC_PRESET_SINGLE_REGISTER then 1
      else quantityOf (bufferOf q))
    (hstart : started = .sent q fun w =>
      (finish q id (fun ret _ => ret) w).map fun ret => (ret, dest))
    (hanswer : ∀ d : Device, (d.serve gateMapping request).2 = .done ∨
      (d.serve gateMapping request).2 = .exception ILLEGAL_DATA_ADDRESS) :
    Speaks c request started dest := by
  refine ⟨q, _, hstart, hasks, fun d w hw => ?_⟩
  have hwritten := hw.written
  rcases hanswer d with hdone | hexception
  · rw [hdone] at hw ⊢
    obtain ⟨msg, hreceive⟩ := modbusReceive_done hcode hcount hw
    rw [finish_eq hwritten hpos hreceive]
    rfl
  · rw [hexception] at hw ⊢
    obtain ⟨msg, hreceive⟩ := modbusReceive_exception hw (.inl rfl)
      (by rcases hcode with h | h | h | h <;> rw [h] <;> decide)
      (by rw [computeResponseLength_sets hcode]; decide)
    rw [finish_eq hwritten hpos hreceive]
    rfl

/-- Every call that sends a query is understood, and understands the answer. -/
theorem speaks {c : Call} {request : Request} (hproper : c.Proper) (h : c.request = some request)
    (t_id : UInt16) (dest : Dest) : Speaks c request (c.start t_id dest) dest := by
  cases c with
  | readStatus tab slave start_addr nb =>
      dsimp only [Call.request] at h
      split at h
      · cases h
      · next hmax =>
          cases h
          exact speaks_readStatus tab slave start_addr hproper (Nat.le_of_not_gt hmax) dest
  | readRegisters tab slave start_addr nb =>
      dsimp only [Call.request] at h
      split at h
      · cases h
      · next hmax =>
          cases h
          exact speaks_readRegisters tab slave start_addr hproper (Nat.le_of_not_gt hmax) dest
  | forceSingleCoil slave coil_addr state =>
      cases h
      have hvalue : low16 (if state ≠ 0 then 0xFF00 else state) =
          if state ≠ 0 then 0xFF00 else 0 := by
        by_cases hstate : state = 0
        · subst hstate
          rfl
        · rw [if_pos hstate, if_pos hstate]
          rfl
      have hcode : functionOf (bufferOf (queryOf t_id slave FC_FORCE_SINGLE_COIL coil_addr
          (if state ≠ 0 then 0xFF00 else state) [])) = FC_FORCE_SINGLE_COIL :=
        functionOf_queryOf (by decide)
      have hasks := @asks_forceSingleCoil t_id slave coil_addr (if state ≠ 0 then 0xFF00 else state)
      rw [hvalue] at hasks
      refine speaks_sets hasks (by rw [length_queryOf]; decide) (hcode ▸ .inl rfl)
        (by rw [hcode]; rfl) rfl fun d => ?_
      dsimp only [Device.serve]
      split
      · exact .inr rfl
      · by_cases hstate : state = 0
        · rw [if_neg (not_not.mpr hstate)]
          exact .inl rfl
        · rw [if_pos hstate]
          exact .inl rfl
  | presetSingleRegister slave reg_addr value =>
      cases h
      have hcode : functionOf (bufferOf (queryOf t_id slave FC_PRESET_SINGLE_REGISTER reg_addr value
          [])) = FC_PRESET_SINGLE_REGISTER :=
        functionOf_queryOf (by decide)
      refine speaks_sets asks_presetSingleRegister (by rw [length_queryOf]; decide)
        (hcode ▸ .inr (.inl rfl)) (by rw [hcode]; rfl) rfl fun d => ?_
      dsimp only [Device.serve]
      split
      · exact .inr rfl
      · exact .inl rfl
  | forceMultipleCoils slave start_addr nb data_src =>
      dsimp only [Call.request] at h
      split at h
      · cases h
      · next hmax =>
          cases h
          have hmax' : nb ≤ 800 := Nat.le_of_not_gt hmax
          have hasks := @asks_forceMultipleCoils t_id slave start_addr nb data_src
            (Nat.le_of_not_gt hmax)
          set q := queryOf t_id slave FC_FORCE_MULTIPLE_COILS start_addr nb
            (UInt8.ofNat ((nb + 7) / 8) :: packBytes (fun k => decide (data_src k ≠ 0)) nb) with hq
          have hcode : functionOf (bufferOf q) = FC_FORCE_MULTIPLE_COILS :=
            functionOf_queryOf (by decide)
          have hnb : quantityOf (bufferOf q) = nb :=
            quantityOf_queryOf.trans (low16_natCast (by omega))
          refine speaks_sets hasks (by rw [hq, length_queryOf]; omega)
            (hcode ▸ .inr (.inr (.inl rfl))) (by rw [hcode, hnb]; rfl) ?_ fun d => ?_
          · show (Master.forceMultipleCoils t_id slave start_addr nb data_src).map _ = _
            rw [Master.forceMultipleCoils, if_neg hmax, packCoils_eq]
            rfl
          · dsimp only [Device.serve]
            split
            · exact .inr rfl
            · exact .inl rfl
  | presetMultipleRegisters slave start_addr nb data_src =>
      dsimp only [Call.request] at h
      split at h
      · cases h
      · next hmax =>
          cases h
          have hmax' : nb ≤ 100 := Nat.le_of_not_gt hmax
          have hasks := @asks_presetMultipleRegisters t_id slave start_addr nb data_src
            (Nat.le_of_not_gt hmax)
          set q := queryOf t_id slave FC_PRESET_MULTIPLE_REGISTERS start_addr nb
            (UInt8.ofNat (nb * 2) :: ((List.range nb).map data_src).flatMap wordBytes) with hq
          have hcode : functionOf (bufferOf q) = FC_PRESET_MULTIPLE_REGISTERS :=
            functionOf_queryOf (by decide)
          have hnb : quantityOf (bufferOf q) = nb :=
            quantityOf_queryOf.trans (low16_natCast (by omega))
          refine speaks_sets hasks (by rw [hq, length_queryOf]; omega)
            (hcode ▸ .inr (.inr (.inr rfl))) (by rw [hcode, hnb]; rfl) ?_ fun d => ?_
          · show (Master.presetMultipleRegisters t_id slave start_addr nb data_src).map _ = _
            rw [Master.presetMultipleRegisters, if_neg hmax, packRegisters_eq]
            rfl
          · dsimp only [Device.serve]
            split
            · exact .inr rfl
            · exact .inl rfl

/-- A call for too much returns without a query. -/
theorem start_of_request_none {c : Call} (h : c.request = none) (t_id : UInt16) (dest : Dest) :
    c.start t_id dest = .returned (TOO_MANY_DATA, dest) := by
  cases c with
  | readStatus tab slave start_addr nb =>
      dsimp only [Call.request] at h
      split at h
      · next hmany =>
          cases tab with
          | coilStatus => exact congrArg (Started.map _) (if_pos hmany)
          | inputStatus => exact congrArg (Started.map _) (if_pos hmany)
      · cases h
  | readRegisters tab slave start_addr nb =>
      dsimp only [Call.request] at h
      split at h
      · next hmany =>
          cases tab with
          | holdingRegisters => exact congrArg (Started.map _) (if_pos hmany)
          | inputRegisters => exact congrArg (Started.map _) (if_pos hmany)
      · cases h
  | forceSingleCoil slave coil_addr state => cases h
  | presetSingleRegister slave reg_addr value => cases h
  | forceMultipleCoils slave start_addr nb data_src =>
      dsimp only [Call.request] at h
      split at h
      · next hmany => exact congrArg (Started.map _) (if_pos hmany)
      · cases h
  | presetMultipleRegisters slave start_addr nb data_src =>
      dsimp only [Call.request] at h
      split at h
      · next hmany => exact congrArg (Started.map _) (if_pos hmany)
      · cases h

end Call

/-! ## Sessions -/

/-- The master's static `t_id`, and the gate's tables. -/
structure Session where
  t_id : UInt16
  tables : Tables

/-- A call with what it meets on its way to the gate and back. -/
structure Exchange where
  call : Call
  dest : Dest
  turn : Turn
  wire : Wire

/-- The call sends its query, the gate takes a turn, and the call ends. -/
def Exchange.run (x : Exchange) (s : Session) : Option (Session × (Int × Dest)) :=
  match x.call.start (nextTId s.t_id) x.dest with
  | .returned result => some (s, result)
  | .sent _ finish => do
      let (tables, _) ← listenTurn s.tables x.turn
      let result ← finish x.wire
      pure (⟨nextTId s.t_id, tables⟩, result)

/-- The connection carries the query to the gate and what the gate sends to the master. -/
def Exchange.Carries (x : Exchange) (s : Session) : Started (Int × Dest) → Prop
  | .returned _ => True
  | .sent q _ =>
      (Receipt.start x.turn.query).Carries q x.turn.arrivals ∧
        q.length ≤ x.turn.arrivals.length ∧
        match listenTurn s.tables x.turn with
        | some (_, bytes) => x.wire.Delivers q bytes
        | none => True

def Exchange.Carried (x : Exchange) (s : Session) : Prop :=
  x.Carries s (x.call.start (nextTId s.t_id) x.dest)

instance (x : Exchange) (s : Session) : DecidablePred (x.Carries s)
  | .returned _ => .isTrue True.intro
  | .sent q _ =>
      have : Decidable (match listenTurn s.tables x.turn with
          | some (_, bytes) => x.wire.Delivers q bytes
          | none => True) :=
        match listenTurn s.tables x.turn with
        | some (_, bytes) => inferInstanceAs (Decidable (x.wire.Delivers q bytes))
        | none => .isTrue True.intro
      inferInstanceAs (Decidable (_ ∧ _ ∧ _))

instance (x : Exchange) (s : Session) : Decidable (x.Carried s) :=
  inferInstanceAs (Decidable (x.Carries s _))

/-- One exchange is one call that a device serves. -/
theorem Exchange.run_perform {x : Exchange} {s : Session} {d : Device} (hproper : x.call.Proper)
    (htables : s.tables = d.tables) (hcarried : x.Carried s) :
    ∃ t_id, x.run s =
      some (⟨t_id, (x.call.perform d x.dest).1.tables⟩, (x.call.perform d x.dest).2) := by
  unfold Exchange.run
  unfold Exchange.Carried at hcarried
  cases hrequest : x.call.request with
  | none =>
      have hperform : x.call.perform d x.dest = (d, (TOO_MANY_DATA, x.dest)) := by
        rw [Call.perform, hrequest]
      rw [Call.start_of_request_none hrequest, hperform]
      exact ⟨s.t_id, by rw [← htables]⟩
  | some request =>
      have hperform : x.call.perform d x.dest = ((d.serve gateMapping request).1,
          x.call.result x.dest (d.serve gateMapping request).2) := by
        rw [Call.perform, hrequest]
      obtain ⟨q, finish, hstart, hasks, hfinish⟩ :=
        Call.speaks hproper hrequest (nextTId s.t_id) x.dest
      rw [hstart] at hcarried ⊢
      dsimp only at hcarried ⊢
      obtain ⟨hcarries, hmany, hdelivers⟩ := hcarried
      have hturn : listenTurn s.tables x.turn =
          some ((d.handle gateMapping (bufferOf q)).1.tables,
            (d.handle gateMapping (bufferOf q)).2) := by
        rw [htables]
        rw [← List.append_nil q] at hcarries
        exact listenTurn_handle hasks.complete hasks.fits hcarries hmany d
      have hhandle : d.handle gateMapping (bufferOf q) = ((d.serve gateMapping request).1,
          answerBytes (bufferOf q) (d.serve gateMapping request).2) := by
        rw [Device.handle, hasks.request]
      rw [hhandle] at hturn
      refine ⟨nextTId s.t_id, ?_⟩
      rw [hturn] at hdelivers ⊢
      rw [hperform]
      dsimp only [Option.bind_eq_bind, Option.bind_some]
      rw [hfinish d x.wire hdelivers]
      rfl

def sessionRun (s : Session) : List Exchange → Option (List (Int × Dest) × Session)
  | [] => some ([], s)
  | x :: xs => do
      let (s', result) ← x.run s
      let (results, s'') ← sessionRun s' xs
      pure (result :: results, s'')

/-- Every exchange of the session is carried. -/
def CarriedAll (s : Session) : List Exchange → Prop
  | [] => True
  | x :: xs => x.Carried s ∧
      match x.run s with
      | some (s', _) => CarriedAll s' xs
      | none => True

instance decidableCarriedAll (s : Session) : (xs : List Exchange) → Decidable (CarriedAll s xs)
  | [] => .isTrue True.intro
  | x :: xs =>
      have : Decidable (match x.run s with
          | some (s', _) => CarriedAll s' xs
          | none => True) :=
        match x.run s with
        | some (s', _) => decidableCarriedAll s' xs
        | none => .isTrue True.intro
      inferInstanceAs (Decidable (_ ∧ _))

/-- A device serves the calls one after the other. -/
def Device.performAll (d : Device) : List Exchange → List (Int × Dest) × Device
  | [] => ([], d)
  | x :: xs =>
      let performed := x.call.perform d x.dest
      let rest := performed.1.performAll xs
      (performed.2 :: rest.1, rest.2)

/-- **A master of a device.** Over a connection that carries what is sent, cut as it likes,
each call of a session returns what it returns from a device, and the gate's tables end as
the tables of the device. -/
theorem session_device {xs : List Exchange} {s : Session} {d : Device}
    (hproper : ∀ x ∈ xs, x.call.Proper) (htables : s.tables = d.tables)
    (hcarried : CarriedAll s xs) :
    ∃ t_id, sessionRun s xs =
      some ((d.performAll xs).1, ⟨t_id, (d.performAll xs).2.tables⟩) := by
  induction xs generalizing s d with
  | nil =>
      refine ⟨s.t_id, ?_⟩
      show some ([], s) = some ([], ⟨s.t_id, d.tables⟩)
      rw [← htables]
  | cons x xs ih =>
      obtain ⟨hfirst, hrest⟩ := hcarried
      obtain ⟨t_id, hrun⟩ := x.run_perform (hproper x (.head xs)) htables hfirst
      rw [hrun] at hrest
      obtain ⟨t_id', hruns⟩ := ih (fun x' hmem => hproper x' (.tail _ hmem)) rfl hrest
      refine ⟨t_id', ?_⟩
      rw [sessionRun, hrun]
      dsimp only [Option.bind_eq_bind, Option.bind_some]
      rw [hruns]
      rfl

/-! ## What the tables hold -/

/-- The value a call sets a coil to, where the device does not refuse it. -/
def Call.setsCoil (c : Call) (i : Nat) : Option Bool :=
  match c.request with
  | some (.forceSingleCoil address data) =>
      if address < 500 ∧ address = i then
        if data = 0xFF00 then some true else if data = 0 then some false else none
      else none
  | some (.forceMultipleCoils address values) =>
      if address + values.length ≤ 500 ∧ address ≤ i then values[i - address]? else none
  | _ => none

/-- The value a call sets a holding register to, where the device does not refuse it. -/
def Call.setsRegister (c : Call) (i : Nat) : Option UInt16 :=
  match c.request with
  | some (.presetSingleRegister address value) =>
      if address < 500 ∧ address = i then some value else none
  | some (.presetMultipleRegisters address values) =>
      if address + values.length ≤ 500 ∧ address ≤ i then values[i - address]? else none
  | _ => none

theorem overwrite_eq_ite {α : Type} (old : Nat → α) (address : Nat) (values : List α) (i : Nat) :
    overwrite old address values i =
      (if address ≤ i then values[i - address]? else none).getD (old i) := by
  unfold overwrite
  by_cases hlt : i < address
  · rw [if_pos hlt, if_neg (by omega)]
    rfl
  · rw [if_neg hlt, if_pos (by omega)]

/-- Some coils and holding registers are set, and nothing else is changed. -/
structure Device.Changed (d d' : Device) (coil : Nat → Option Bool)
    (register : Nat → Option UInt16) : Prop where
  coils : ∀ i, d'.bits .coilStatus i = (coil i).getD (d.bits .coilStatus i)
  registers : ∀ i, d'.registers .holdingRegisters i =
    (register i).getD (d.registers .holdingRegisters i)
  inputs : d'.bits .inputStatus = d.bits .inputStatus
  inputRegisters : d'.registers .inputRegisters = d.registers .inputRegisters

theorem Device.Changed.none (d : Device) :
    d.Changed d (fun _ => Option.none) fun _ => Option.none :=
  ⟨fun _ => rfl, fun _ => rfl, rfl, rfl⟩

theorem Device.Changed.force (d : Device) (address : Nat) (values : List Bool) :
    d.Changed (d.force address values)
      (fun i => if address ≤ i then values[i - address]? else Option.none)
      fun _ => Option.none :=
  ⟨overwrite_eq_ite _ _ _, fun _ => rfl, rfl, rfl⟩

theorem Device.Changed.preset (d : Device) (address : Nat) (values : List UInt16) :
    d.Changed (d.preset address values) (fun _ => Option.none) fun i =>
      if address ≤ i then values[i - address]? else Option.none :=
  ⟨fun _ => rfl, overwrite_eq_ite _ _ _, rfl, rfl⟩

/-- One value. -/
theorem ite_getElem?_singleton {α : Type} (address : Nat) (value : α) :
    (fun i => if address ≤ i then [value][i - address]? else Option.none) =
      fun i => if address = i then some value else Option.none := by
  funext i
  rcases Nat.lt_trichotomy i address with hlt | rfl | hgt
  · rw [if_neg (by omega), if_neg (Nat.ne_of_gt hlt)]
  · rw [if_pos (Nat.le_refl i), if_pos rfl, Nat.sub_self]
    rfl
  · rw [if_pos (Nat.le_of_lt hgt), if_neg (Nat.ne_of_lt hgt),
      List.getElem?_eq_none (by simp; omega)]

/-- One call sets what it says it sets, and nothing else. -/
theorem Device.changed_perform (d : Device) (c : Call) (dest : Dest) :
    d.Changed (c.perform d dest).1 c.setsCoil c.setsRegister := by
  have hcoils : gateMapping.nb_coil_status = 500 := rfl
  have hregisters : gateMapping.nb_holding_registers = 500 := rfl
  unfold Call.perform Call.setsCoil Call.setsRegister
  cases c.request with
  | none => exact .none d
  | some request =>
      cases request with
      | readStatus tab address nb =>
          dsimp only [Device.serve]
          split <;> exact .none d
      | readRegisters tab address nb =>
          dsimp only [Device.serve]
          split <;> exact .none d
      | forceSingleCoil address data =>
          dsimp only [Device.serve]
          rw [hcoils]
          by_cases hout : 500 ≤ address
          · simp only [if_pos hout, Nat.not_lt.mpr hout, false_and, if_false]
            exact .none d
          · simp only [if_neg hout, Nat.lt_of_not_le hout, true_and]
            by_cases hon : data = 0xFF00
            · simp only [if_pos hon]
              exact ite_getElem?_singleton address true ▸ .force d address [true]
            · by_cases hoff : data = 0
              · simp only [if_neg hon, if_pos hoff]
                exact ite_getElem?_singleton address false ▸ .force d address [false]
              · simp only [if_neg hon, if_neg hoff, ite_self]
                exact .none d
      | presetSingleRegister address value =>
          dsimp only [Device.serve]
          rw [hregisters]
          by_cases hout : 500 ≤ address
          · simp only [if_pos hout, Nat.not_lt.mpr hout, false_and, if_false]
            exact .none d
          · simp only [if_neg hout, Nat.lt_of_not_le hout, true_and]
            exact ite_getElem?_singleton address value ▸ .preset d address [value]
      | forceMultipleCoils address values =>
          dsimp only [Device.serve]
          rw [hcoils]
          by_cases hout : 500 < address + values.length
          · simp only [if_pos hout, Nat.not_le.mpr hout, false_and, if_false]
            exact .none d
          · simp only [if_neg hout, Nat.le_of_not_lt hout, true_and]
            exact .force d address values
      | presetMultipleRegisters address values =>
          dsimp only [Device.serve]
          rw [hregisters]
          by_cases hout : 500 < address + values.length
          · simp only [if_pos hout, Nat.not_le.mpr hout, false_and, if_false]
            exact .none d
          · simp only [if_neg hout, Nat.le_of_not_lt hout, true_and]
            exact .preset d address values

/-- The value of a coil after the calls of a session: the last one set. -/
def lastCoil (xs : List Exchange) (i : Nat) (start : Bool) : Bool :=
  xs.foldl (fun value x => (x.call.setsCoil i).getD value) start

def lastRegister (xs : List Exchange) (i : Nat) (start : UInt16) : UInt16 :=
  xs.foldl (fun value x => (x.call.setsRegister i).getD value) start

/-- The device after the calls. -/
theorem Device.performAll_tables (d : Device) (xs : List Exchange) :
    (d.performAll xs).2 =
      { bits := Function.update d.bits .coilStatus fun i => lastCoil xs i (d.bits .coilStatus i)
        registers := Function.update d.registers .holdingRegisters fun i =>
          lastRegister xs i (d.registers .holdingRegisters i) } := by
  induction xs generalizing d with
  | nil =>
      show d = { bits := Function.update d.bits _ (d.bits .coilStatus), registers := _ }
      rw [Function.update_eq_self]
      show d = { bits := d.bits, registers := Function.update d.registers _ (d.registers _) }
      rw [Function.update_eq_self]
  | cons x xs ih =>
      obtain ⟨hcoils, hregisters, hinputs, hinputRegisters⟩ := d.changed_perform x.call x.dest
      show ((x.call.perform d x.dest).1.performAll xs).2 = _
      rw [ih]
      congr 1
      · funext tab
        cases tab with
        | coilStatus => exact funext fun i => congrArg (lastCoil xs i) (hcoils i)
        | inputStatus => exact hinputs
      · funext tab
        cases tab with
        | holdingRegisters => exact funext fun i => congrArg (lastRegister xs i) (hregisters i)
        | inputRegisters => exact hinputRegisters

theorem Device.performAll_append (d : Device) (xs ys : List Exchange) :
    (d.performAll (xs ++ ys)).1 =
      (d.performAll xs).1 ++ ((d.performAll xs).2.performAll ys).1 := by
  induction xs generalizing d with
  | nil => rfl
  | cons x xs ih => exact congrArg (_ :: ·) (ih _)

/-- The last call of a session meets the device that the calls before it have left. -/
theorem session_last {xs : List Exchange} {x : Exchange} {s : Session} {d : Device}
    (hproper : ∀ x' ∈ xs ++ [x], x'.call.Proper) (htables : s.tables = d.tables)
    (hcarried : CarriedAll s (xs ++ [x])) :
    ∃ results s', sessionRun s (xs ++ [x]) =
      some (results ++ [(x.call.perform (d.performAll xs).2 x.dest).2], s') := by
  obtain ⟨t_id, hrun⟩ := session_device hproper htables hcarried
  rw [Device.performAll_append] at hrun
  exact ⟨_, _, hrun⟩

theorem overwrite_zero {α : Type} {old : Nat → α} {values : List α} {k : Nat}
    (h : k < values.length) : overwrite old 0 values k = values[k] := by
  rw [overwrite, if_neg (Nat.not_lt_zero k), Nat.sub_zero, List.getElem?_eq_getElem h]
  rfl

/-- **What a session reads.** After any session, the registers of a range that is read are
those that were set last, or as they were at the start. -/
theorem session_reads {xs : List Exchange} {x : Exchange} {s : Session} {d : Device}
    {slave nb : Nat} {start_addr : Int} (hproper : ∀ x' ∈ xs, x'.call.Proper)
    (htables : s.tables = d.tables) (hcarried : CarriedAll s (xs ++ [x]))
    (hread : x.call = .readRegisters .holdingRegisters slave start_addr nb)
    (hsome : 1 ≤ nb) (hmax : nb ≤ MAX_REGISTERS) (hrange : low16 start_addr + nb ≤ 500) :
    ∃ results dest s', sessionRun s (xs ++ [x]) = some (results ++ [((nb : Int), dest)], s') ∧
      ∀ k, k < nb → dest.registers k = lastRegister xs (low16 start_addr + k)
        (d.registers .holdingRegisters (low16 start_addr + k)) := by
  have hall : ∀ x' ∈ xs ++ [x], x'.call.Proper := by
    intro x' hmem
    rcases List.mem_append.mp hmem with hbefore | hlast
    · exact hproper x' hbefore
    · rw [List.mem_singleton.mp hlast, hread]
      exact hsome
  obtain ⟨results, s', hrun⟩ := session_last hall htables hcarried
  set values := (List.range' (low16 start_addr) nb).map
    ((d.performAll xs).2.registers .holdingRegisters) with hvalues
  have hlength : values.length = nb := by rw [hvalues, List.length_map, List.length_range']
  have hresult : (x.call.perform (d.performAll xs).2 x.dest).2 =
      ((nb : Int), { x.dest with registers := overwrite x.dest.registers 0 values }) := by
    have hrequest : x.call.request =
        some (.readRegisters .holdingRegisters (low16 start_addr) nb) := by
      rw [hread]
      exact if_neg (Nat.not_lt.mpr hmax)
    unfold Call.perform
    rw [hrequest]
    dsimp only [Device.serve]
    rw [if_neg (show ¬ gateMapping.nbRegisters .holdingRegisters < low16 start_addr + nb from
      Nat.not_lt.mpr hrange)]
    show ((values.length : Int), _) = _
    rw [hlength]
  rw [hresult] at hrun
  refine ⟨results, _, s', hrun, fun k hk => ?_⟩
  dsimp only
  rw [overwrite_zero (by omega)]
  simp only [hvalues, List.getElem_map, List.getElem_range', Nat.one_mul]
  rw [Device.performAll_tables]
  rfl

/-- Two registers are set and read, and a third is asked for beyond the end of the table. -/
def registersExchanges : List Exchange :=
  [⟨.presetMultipleRegisters 1 3 2 fun i => UInt16.ofNat (300 + i), ⟨fun _ => 0, fun _ => 0⟩,
      ⟨fun _ => 7, fun _ => 9,
        [.bytes [0, 1, 0], .bytes [0, 0, 11, 1, 16, 0, 3, 0, 2, 4, 1, 44, 1, 45],
          .bytes [0, 3, 0, 2, 4], .bytes [1, 44, 1, 45]] ++ List.replicate 14 .timeOut⟩,
      ⟨17, fun _ => 0, 0, [.bytes [0, 1, 0, 0, 0, 6, 1, 16, 0, 3, 0, 2]] ++
        List.replicate 12 .timeOut⟩⟩,
    ⟨.readRegisters .holdingRegisters 1 3 2, ⟨fun _ => 0, fun _ => 5⟩,
      ⟨fun _ => 7, fun _ => 9,
        [.bytes [0, 2, 0, 0, 0, 6, 1, 3, 0, 3, 0, 2], .bytes [0, 3, 0, 2]] ++
          List.replicate 12 .timeOut⟩,
      ⟨12, fun _ => 0, 0, [.bytes [0, 2, 0, 0, 0, 7, 1], .bytes [3, 4, 1, 44, 1, 45]] ++
        List.replicate 12 .timeOut⟩⟩,
    ⟨.readRegisters .holdingRegisters 1 499 2, ⟨fun _ => 0, fun _ => 5⟩,
      ⟨fun _ => 7, fun _ => 9,
        [.bytes [0, 3, 0, 0, 0, 6, 1, 3, 1, 243, 0, 2], .bytes [1, 243, 0, 2]] ++
          List.replicate 12 .timeOut⟩,
      ⟨12, fun _ => 0, 0, .bytes [0, 3, 0, 0, 0, 3, 1, 131, 2] :: List.replicate 12 .timeOut⟩⟩]

theorem session_registers : ∃ t_id,
    sessionRun ⟨0, Device.fresh.tables⟩ registersExchanges =
      some ((Device.fresh.performAll registersExchanges).1,
        ⟨t_id, (Device.fresh.performAll registersExchanges).2.tables⟩) ∧
    (Device.fresh.performAll registersExchanges).1.map (fun result =>
      (result.1, [result.2.registers 0, result.2.registers 1, result.2.registers 2])) =
      [(2, [0, 0, 0]), (2, [300, 301, 5]), (-2, [5, 5, 5])] := by
  obtain ⟨t_id, hrun⟩ := @session_device registersExchanges ⟨0, Device.fresh.tables⟩ Device.fresh
    (by decide) rfl (by decide +kernel)
  exact ⟨t_id, hrun, by decide⟩


/-- The second of the calls, seen as the last of a session. -/
theorem session_reads_registers : ∃ results dest s',
    sessionRun ⟨0, Device.fresh.tables⟩ (registersExchanges.take 2) =
      some (results ++ [(2, dest)], s') ∧ dest.registers 0 = 300 ∧ dest.registers 1 = 301 := by
  obtain ⟨results, dest, s', hrun, hvalues⟩ := @session_reads (registersExchanges.take 1)
    (registersExchanges.get ⟨1, by decide⟩) ⟨0, Device.fresh.tables⟩ Device.fresh 1 2 3 (by decide)
    rfl (by decide +kernel) rfl (by decide) (by decide) (by decide)
  exact ⟨results, dest, s', hrun, (hvalues 0 (by decide)).trans (by decide),
    (hvalues 1 (by decide)).trans (by decide)⟩

end ScadaSim.Modbus
