import ScadaSim.Modbus.Query

/-!
# What answering a query touches

Once the quantity is known, the cells a function touches do not depend on what they
hold: each part of a response comes with its accesses (`Does`), with the stretch of
the array it fills (`Fills`) and with when they lie inside the arrays (`Confined`).
-/

namespace ScadaSim.Modbus

open Lib.Cells

/-! ## Inside the arrays -/

/-- The query has `query_length` bytes to read, the response array `MAX_MESSAGE_LENGTH`
to write to, and each table of the gate's mapping 500 entries. -/
def InBounds (query_length : Nat) : Access Region → Prop
  | .read .query i => i < query_length
  | .write .query _ => True
  | .read .response _ => True
  | .write .response i => i < MAX_MESSAGE_LENGTH
  | .read (.bits _) i => i < 500
  | .write (.bits _) i => i < 500
  | .read (.registers _) i => i < 500
  | .write (.registers _) i => i < 500

def Confined (query_length : Nat) (t : List (Access Region)) : Prop :=
  ∀ a ∈ t, InBounds query_length a

section Confined

variable {size : Nat}

@[simp] theorem confined_nil : Confined size [] := nofun

@[simp] theorem confined_cons {a : Access Region} {t : List (Access Region)} :
    Confined size (a :: t) ↔ InBounds size a ∧ Confined size t :=
  List.forall_mem_cons

@[simp] theorem confined_append {t u : List (Access Region)} :
    Confined size (t ++ u) ↔ Confined size t ∧ Confined size u :=
  List.forall_mem_append

theorem confined_loop {touched : Nat → List (Access Region)} {a n : Nat} :
    Confined size ((List.range' a n).flatMap touched) ↔
      ∀ i, a ≤ i → i < a + n → Confined size (touched i) := by
  simp only [Confined, List.forall_mem_flatMap, List.mem_range'_1, and_imp]

end Confined

/-! ## Filling the response -/

/-- The trace fills the response from `a` to `b`, but for the length field, and reads none
of it. -/
structure Fills (a b : Nat) (t : List (Access Region)) : Prop where
  reads : ∀ i, .read .response i ∉ t
  written : ∀ i, a ≤ i → i < b → i ≠ 4 → i ≠ 5 → .write .response i ∈ t

namespace Fills

theorem nothing {a : Nat} {t : List (Access Region)} (h : ∀ i, .read .response i ∉ t) :
    Fills a a t where
  reads := h
  written := by
    intro i hlow hhigh
    omega

/-- One cell more. -/
theorem single {a : Nat} {t : List (Access Region)} (hreads : ∀ i, .read .response i ∉ t)
    (hwrite : .write .response a ∈ t) : Fills a (a + 1) t where
  reads := hreads
  written := by
    intro i hlow hhigh _ _
    rw [show i = a by omega]
    exact hwrite

theorem append {a b c : Nat} {t u : List (Access Region)} (ht : Fills a b t) (hu : Fills b c u) :
    Fills a c (t ++ u) where
  reads := by
    intro i hmem
    rcases List.mem_append.mp hmem with hleft | hright
    · exact ht.reads i hleft
    · exact hu.reads i hright
  written := by
    intro i hlow hhigh h4 h5
    rcases Nat.lt_or_ge i b with hlt | hge
    · exact List.mem_append_left u (ht.written i hlow hlt h4 h5)
    · exact List.mem_append_right t (hu.written i hge hhigh h4 h5)

/-- A loop fills what its turns fill one after the other, turn `i` from `u i` on. -/
theorem loop {t : Nat → List (Access Region)} {u : Nat → Nat} {a n : Nat}
    (h : ∀ i, a ≤ i → i < a + n → Fills (u i) (u (i + 1)) (t i)) :
    Fills (u a) (u (a + n)) ((List.range' a n).flatMap t) := by
  induction n generalizing a with
  | zero => exact nothing nofun
  | succ n ih =>
      rw [List.range'_succ, List.flatMap_cons, show a + (n + 1) = a + 1 + n by omega]
      refine (h a (Nat.le_refl a) (by omega)).append (ih ?_)
      intro i hlow hhigh
      exact h i (by omega) (by omega)

end Fills

/-! ## The parts of a response -/

/-- `buildResponseBasisTcp`. -/
def basisTrace : List (Access Region) :=
  [.write .response 0, .write .response 1, .write .response 2, .write .response 3,
    .write .response 6, .write .response 7]

theorem does_basis (sft : Sft) : Does (buildResponseBasisTcp sft) basisTrace (· = 8) :=
  fun _ => ⟨rfl, rfl⟩

theorem fills_basis : Fills 0 8 basisTrace where
  reads := by simp [basisTrace]
  written := by
    intro i _ hhigh h4 h5
    simp only [basisTrace, List.mem_cons, Access.write.injEq, true_and]
    omega

theorem confined_basis (size : Nat) : Confined size basisTrace := by
  simp [basisTrace, InBounds, MAX_MESSAGE_LENGTH]

def exceptionTrace : List (Access Region) := basisTrace ++ [.write .response 8]

theorem does_exception (sft : Sft) (code : Int) :
    Does (responseException sft code) exceptionTrace (· = 9) :=
  fun _ => ⟨rfl, rfl⟩

theorem fills_exception : Fills 0 9 exceptionTrace :=
  fills_basis.append (Fills.single (a := 8) (by simp) (by simp))

theorem confined_exception (size : Nat) : Confined size exceptionTrace := by
  simp [exceptionTrace, confined_basis, InBounds, MAX_MESSAGE_LENGTH]

def copyTrace (start n : Nat) : List (Access Region) :=
  (List.range' start n).flatMap fun i => [.read .query i, .write .response i]

theorem does_copyQuery (start n : Nat) :
    Does (copyQuery start n) (copyTrace start n) fun _ => True :=
  Does.loop (I := fun _ _ => True) (fun _ _ _ _ _ _ => ⟨rfl, True.intro⟩) True.intro

theorem fills_copy (start n : Nat) : Fills start (start + n) (copyTrace start n) :=
  Fills.loop (u := id) fun i _ _ => Fills.single (by simp) (by simp)

theorem confined_copy {size start n : Nat} (hsize : start + n ≤ size)
    (hmax : start + n ≤ MAX_MESSAGE_LENGTH) : Confined size (copyTrace start n) := by
  rw [copyTrace, confined_loop]
  intro i _ hhigh
  have hquery : i < size := by omega
  have hresponse : i < MAX_MESSAGE_LENGTH := by omega
  simp [InBounds, hquery, hresponse]

/-! ## Bits -/

/-- A byte of the response is written when its last bit has been read. -/
def fullByteTrace (address offset i : Nat) : List (Access Region) :=
  if (i - address) % 8 = 7 then [.write .response (offset + (i - address) / 8)] else []

def statusTurnTrace (tab : BitTable) (address offset i : Nat) : List (Access Region) :=
  .read (.bits tab) i :: fullByteTrace address offset i

/-- And the last one when it is not full. -/
def statusTrace (tab : BitTable) (address nb offset : Nat) : List (Access Region) :=
  (List.range' address nb).flatMap (statusTurnTrace tab address offset) ++
    if nb % 8 ≠ 0 then [.write .response (offset + nb / 8)] else []

/-- Where `response_io_status` is when it comes to bit `i`. -/
structure Packing.At (address offset i : Nat) (s : Packing) : Prop where
  shift : s.shift = (i - address) % 8
  offset : s.offset = offset + (i - address) / 8

theorem does_statusTurn {tab : BitTable} {address offset i : Nat} (hi : address ≤ i)
    {s : Packing} (h : s.At address offset i) :
    Does (responseIoStatusTurn tab s i) (statusTurnTrace tab address offset i)
      (Packing.At address offset (i + 1)) := by
  refine Does.bind (u := fullByteTrace address offset i) (Does.cell _ _) fun bit _ => ?_
  dsimp only
  rw [h.shift, h.offset, fullByteTrace]
  by_cases hfull : (i - address) % 8 = 7
  · rw [if_pos hfull, if_pos hfull]
    refine fun m => ⟨rfl, ?_, ?_⟩
    · show 0 = (i + 1 - address) % 8
      omega
    · show offset + (i - address) / 8 + 1 = offset + (i + 1 - address) / 8
      omega
  · rw [if_neg hfull, if_neg hfull]
    refine Does.pure ⟨?_, ?_⟩
    · show (i - address) % 8 + 1 = (i + 1 - address) % 8
      omega
    · show offset + (i - address) / 8 = offset + (i + 1 - address) / 8
      omega

theorem does_responseIoStatus (address nb : Nat) (tab : BitTable) (offset : Nat) :
    Does (responseIoStatus address nb tab offset) (statusTrace tab address nb offset)
      (· = offset + (nb + 7) / 8) := by
  have hinit : Packing.At address offset address ⟨0, 0, offset⟩ := ⟨by simp, by simp⟩
  refine (Does.loop (fun i s hlow _ => does_statusTurn hlow) hinit).bind fun s hs => ?_
  have hshift : s.shift = nb % 8 := by
    have hat := hs.shift
    rwa [Nat.add_sub_cancel_left] at hat
  have hoffset : s.offset = offset + nb / 8 := by
    have hat := hs.offset
    rwa [Nat.add_sub_cancel_left] at hat
  rw [hshift, hoffset]
  by_cases hpartial : nb % 8 ≠ 0
  · rw [if_pos hpartial, if_pos hpartial]
    refine fun m => ⟨rfl, ?_⟩
    show offset + nb / 8 + 1 = offset + (nb + 7) / 8
    omega
  · rw [if_neg hpartial, if_neg hpartial]
    refine Does.pure ?_
    omega

theorem fills_statusTurn (tab : BitTable) {address i : Nat} (offset : Nat) (hi : address ≤ i) :
    Fills (offset + (i - address) / 8) (offset + (i + 1 - address) / 8)
      (statusTurnTrace tab address offset i) := by
  unfold statusTurnTrace fullByteTrace
  by_cases hfull : (i - address) % 8 = 7
  · rw [if_pos hfull, show offset + (i + 1 - address) / 8 = offset + (i - address) / 8 + 1 by omega]
    exact Fills.single (by simp) (by simp)
  · rw [if_neg hfull, show (i + 1 - address) / 8 = (i - address) / 8 by omega]
    exact Fills.nothing (by simp)

theorem fills_status (tab : BitTable) (address nb offset : Nat) :
    Fills offset (offset + (nb + 7) / 8) (statusTrace tab address nb offset) := by
  have hloop := Fills.loop (u := fun i => offset + (i - address) / 8) (n := nb)
    fun i hlow _ => fills_statusTurn tab offset hlow
  have hwhole : Fills offset (offset + nb / 8)
      ((List.range' address nb).flatMap (statusTurnTrace tab address offset)) := by
    simpa using hloop
  refine hwhole.append ?_
  by_cases hpartial : nb % 8 ≠ 0
  · rw [if_pos hpartial, show offset + (nb + 7) / 8 = offset + nb / 8 + 1 by omega]
    exact Fills.single (by simp) (by simp)
  · rw [if_neg hpartial, show (nb + 7) / 8 = nb / 8 by omega]
    exact Fills.nothing nofun

/-- A range of the table fits the response, as eight of its entries go into a byte. -/
theorem confined_status {size address nb : Nat} (tab : BitTable) (h : address + nb ≤ 500) :
    Confined size (statusTrace tab address nb 9) := by
  refine confined_append.mpr ⟨confined_loop.mpr fun i _ hhigh => ?_, ?_⟩
  · refine confined_cons.mpr ⟨show i < 500 by omega, ?_⟩
    unfold fullByteTrace
    split
    · exact confined_cons.mpr ⟨show 9 + (i - address) / 8 < 256 by omega, confined_nil⟩
    · exact confined_nil
  · split
    · exact confined_cons.mpr ⟨show 9 + nb / 8 < 256 by omega, confined_nil⟩
    · exact confined_nil

/-! ## Registers -/

def registersTurnTrace (tab : RegisterTable) (address offset i : Nat) : List (Access Region) :=
  [.read (.registers tab) i, .write .response (offset + 2 * (i - address)),
    .read (.registers tab) i, .write .response (offset + 2 * (i - address) + 1)]

def registersTrace (tab : RegisterTable) (address nb offset : Nat) : List (Access Region) :=
  (List.range' address nb).flatMap (registersTurnTrace tab address offset)

theorem does_responseRegisters (address nb : Nat) (tab : RegisterTable) (offset : Nat) :
    Does (responseRegisters address nb tab offset) (registersTrace tab address nb offset)
      (· = offset + 2 * nb) := by
  have hloop : Does (responseRegisters address nb tab offset)
      (registersTrace tab address nb offset) (· = offset + 2 * (address + nb - address)) := by
    refine Does.loop (I := fun i n => n = offset + 2 * (i - address)) ?_ (by simp)
    rintro i n hlow _ rfl
    refine fun m => ⟨rfl, ?_⟩
    show offset + 2 * (i - address) + 2 = offset + 2 * (i + 1 - address)
    omega
  rwa [Nat.add_sub_cancel_left] at hloop

theorem fills_registers (tab : RegisterTable) (address nb offset : Nat) :
    Fills offset (offset + 2 * nb) (registersTrace tab address nb offset) := by
  have hturn : ∀ i, address ≤ i → i < address + nb →
      Fills (offset + 2 * (i - address)) (offset + 2 * (i + 1 - address))
        (registersTurnTrace tab address offset i) := by
    intro i hlow _
    rw [show offset + 2 * (i + 1 - address) = offset + 2 * (i - address) + 1 + 1 by omega]
    exact Fills.append (t := [_, _]) (Fills.single (by simp) (by simp))
      (Fills.single (by simp) (by simp))
  simpa [registersTrace] using Fills.loop (u := fun i => offset + 2 * (i - address)) hturn

/-- Two bytes a register: a hundred and twenty-three registers are as many as a message
has room for. -/
theorem confined_registers {size address nb : Nat} (tab : RegisterTable)
    (h : address + nb ≤ 500) : Confined size (registersTrace tab address nb 9) ↔ nb ≤ 123 := by
  simp only [registersTrace, confined_loop, registersTurnTrace, confined_cons, InBounds,
    MAX_MESSAGE_LENGTH, confined_nil, and_true]
  constructor
  · intro hall
    by_contra hmany
    obtain ⟨_, _, _, hlast⟩ := hall (address + 123) (by omega) (by omega)
    omega
  · intro hfew i hlow hhigh
    omega

/-! ## Setting a range -/

def setBitsTurnTrace (address tab_byte i : Nat) : List (Access Region) :=
  [.read .query (tab_byte + (i - address) / 8), .write (.bits .coilStatus) i]

def setBitsTrace (address nb tab_byte : Nat) : List (Access Region) :=
  (List.range' address nb).flatMap (setBitsTurnTrace address tab_byte)

theorem does_setBitsFromBytes (address nb tab_byte : Nat) :
    Does (setBitsFromBytes address nb tab_byte) (setBitsTrace address nb tab_byte)
      fun _ => True := by
  have hloop : Does ((List.range' address nb).foldlM (setBitsFromBytesTurn address tab_byte) 0)
      (setBitsTrace address nb tab_byte) fun _ => True :=
    Does.loop (I := fun _ _ => True) (fun _ _ _ _ _ _ => ⟨rfl, True.intro⟩) True.intro
  exact (hloop.bind fun _ _ => Does.pure True.intro).congr (List.append_nil _)

/-- The bits of a range of coils are in the query if their last byte is. -/
theorem confined_setBits {size address nb tab_byte : Nat} (h : address + nb ≤ 500)
    (hsize : tab_byte ≤ size) :
    Confined size (setBitsTrace address nb tab_byte) ↔ tab_byte + (nb + 7) / 8 ≤ size := by
  simp only [setBitsTrace, setBitsTurnTrace, confined_loop, confined_cons, InBounds,
    confined_nil, and_true]
  constructor
  · intro hall
    rcases Nat.eq_zero_or_pos nb with hzero | hpos
    · rw [hzero]
      exact hsize
    · have hlast := (hall (address + nb - 1) (by omega) (by omega)).1
      omega
  · intro hfit i hlow hhigh
    omega

def setRegistersTurnTrace (address values i : Nat) : List (Access Region) :=
  [.read .query (values + 2 * (i - address)), .read .query (values + 2 * (i - address) + 1),
    .write (.registers .holdingRegisters) i]

def setRegistersTrace (address nb values : Nat) : List (Access Region) :=
  (List.range' address nb).flatMap (setRegistersTurnTrace address values)

theorem does_setRegisters (address nb values : Nat) :
    Does (setRegisters address nb values) (setRegistersTrace address nb values)
      fun _ => True := by
  have hturn : ∀ i j, address ≤ i → i < address + nb → j = 2 * (i - address) →
      Does (setRegistersTurn values j i) (setRegistersTurnTrace address values i)
        (· = 2 * (i + 1 - address)) := by
    rintro i j hlow _ rfl
    refine fun m => ⟨rfl, ?_⟩
    show 2 * (i - address) + 2 = 2 * (i + 1 - address)
    omega
  have hinit : 0 = 2 * (address - address) := by omega
  have hloop := Does.loop (I := fun i j => j = 2 * (i - address)) hturn hinit
  exact (hloop.bind fun _ _ => Does.pure True.intro).congr (List.append_nil _)

theorem confined_setRegisters {size address nb values : Nat} (h : address + nb ≤ 500)
    (hsize : values ≤ size) :
    Confined size (setRegistersTrace address nb values) ↔ values + 2 * nb ≤ size := by
  simp only [setRegistersTrace, setRegistersTurnTrace, confined_loop, confined_cons, InBounds,
    confined_nil, and_true]
  constructor
  · intro hall
    rcases Nat.eq_zero_or_pos nb with hzero | hpos
    · rw [hzero]
      exact hsize
    · have hlast := (hall (address + nb - 1) (by omega) (by omega)).2.1
      omega
  · intro hfit i hlow hhigh
    omega

end ScadaSim.Modbus
