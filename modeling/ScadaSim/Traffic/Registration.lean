import Mathlib.Data.List.Induction
import Mathlib.Data.List.TakeWhile
import ScadaSim.Traffic.ConnectionManager

/-!
# Registration and its order

All managers register once, and servers at any time. The manager of the network
must be the first manager to register: it refuses the others before, without an
error. A server that registers with it resets `isFlatNet`.

`finalState_iff_inOrder` says which orders of the calls lead to the intended state.
-/

namespace ScadaSim.Traffic

/-- The calls by which servers and managers register. -/
inductive Registration
  | registerConnectionManager (self : CMId) (id : Int)
  | addSubCM (self other : CMId) (id : Int)
  | addNetwork (self : CMId) (network : ForeignNetwork)
  | registerServer (self : CMId) (address : IPvXAddress) (port profileId moduleId : Int)

namespace Registration

def apply (h : Hierarchy) (cms : Managers) : Registration → Managers
  | .registerConnectionManager self id => cms.registerConnectionManager h self id
  | .addSubCM self other id => cms.addSubCM self other id
  | .addNetwork self network => cms.addNetwork self network
  | .registerServer self address port profileId moduleId =>
      cms.registerServer self address port profileId moduleId

/-- The calls made from outside: by `initialize`, with the manager's own id, and
by servers. -/
def AtStartup : Registration → Prop
  | .registerConnectionManager self id => id = Managers.getId self
  | .registerServer _ _ _ _ _ => True
  | .addSubCM _ _ _ => False
  | .addNetwork _ _ => False

/-- The manager that registers. -/
def registrant : Registration → Option CMId
  | .registerConnectionManager self _ => some self
  | _ => none

/-- The server that registers with the manager `m` for the profile `p`. -/
def serverOf (m : CMId) (p : Int) : Registration → Option ServerConnection
  | .registerServer self address port profileId moduleId =>
      if self = m ∧ profileId = p then
        some { address := address, port := port, profileID := profileId, ratio := 1,
               id := moduleId, manager := self }
      else none
  | _ => none

/-- What the call writes to `isFlatNet` of the manager `root`, once that is the
top one. -/
def setsFlat (root : CMId) : Registration → Option Bool
  | .registerConnectionManager self _ => if self = root then none else some false
  | .registerServer self _ _ _ _ => if self = root then some true else none
  | _ => none

end Registration

/-- The managers after the calls, from their construction on. -/
def startup (h : Hierarchy) (calls : List Registration) : Managers :=
  calls.foldl (Registration.apply h) fun _ => {}

def registrants (calls : List Registration) : List CMId :=
  calls.filterMap Registration.registrant

def serversOf (calls : List Registration) (m : CMId) (p : Int) : List ServerConnection :=
  calls.filterMap (Registration.serverOf m p)

def flatWrites (root : CMId) (calls : List Registration) : List Bool :=
  calls.filterMap (Registration.setsFlat root)

/-- One manager in the network itself, the others in modules of it that are in
no module with a manager of its own. -/
structure TwoLevel (h : Hierarchy) (root : CMId) (subs : List CMId) : Prop where
  nodup : (root :: subs).Nodup
  network : h.container root = []
  manager : h.connectionManager [] = some root
  as : ∀ m ∈ subs, ∃ name path, h.container m = name :: path ∧
    ∀ q, q ≠ [] → q <:+ path → h.connectionManager q = none

/-- Each manager registers once, servers any number of times. -/
structure Once (root : CMId) (subs : List CMId) (calls : List Registration) : Prop where
  atStartup : ∀ c ∈ calls, c.AtStartup
  managers : (registrants calls).Perm (root :: subs)

/-- The entry of an AS-level manager. -/
def subEntry (root m : CMId) : ForeignNetwork := .new m (Managers.getId m) 1 root

/-- The state that registration is to end in, up to the order of lists. -/
structure FinalState (root : CMId) (subs : List CMId) (calls : List Registration)
    (cms : Managers) : Prop where
  top : ∀ m, (cms m).isTopCM = true ↔ m = root
  subCM : (cms root).subCM.Perm (subs.map (subEntry root))
  flat : (cms root).isFlatNet = true ↔ (cms root).subCM = []
  servers : ∀ m p, ((cms m).servers p).getD [] |>.Perm (serversOf calls m p)
  topCM : ∀ m, (cms m).topCM = if m ∈ root :: subs then some root else none
  others : ∀ m, m ≠ root → (cms m).subCM = [] ∧ (cms m).isFlatNet = true

/-- The manager of the network registers first, and the last call that has to do
with it being flat comes from an AS-level manager, if there is any. -/
def InOrder (root : CMId) (subs : List CMId) (calls : List Registration) : Prop :=
  (registrants calls).head? = some root ∧
    (subs = [] ∨ (flatWrites root calls).getLast? = some false)

/-! ## One call -/

theorem search_of_none {h : Hierarchy} {root : CMId} (hroot : h.connectionManager [] = some root) :
    ∀ path, (∀ q, q ≠ [] → q <:+ path → h.connectionManager q = none) →
      h.search path = some root := by
  intro path
  induction path with
  | nil => exact fun _ => hroot
  | cons name path ih =>
      intro hnone
      have hhere := hnone (name :: path) (List.cons_ne_nil _ _) (List.suffix_refl _)
      have hrest : h.search path = some root :=
        ih fun q hq hsuffix => hnone q hq (hsuffix.trans (List.suffix_cons _ _))
      show (h.connectionManager (name :: path)).or (h.search path) = some root
      rw [hhere, hrest]
      rfl

namespace TwoLevel

variable {h : Hierarchy} {root : CMId} {subs : List CMId}

theorem root_ne (ht : TwoLevel h root subs) {m : CMId} (hm : m ∈ subs) : root ≠ m := by
  rintro rfl
  exact (List.nodup_cons.mp ht.nodup).1 hm

theorem findTopCM_root (ht : TwoLevel h root subs) : h.findTopCM root = none := by
  unfold Hierarchy.findTopCM
  rw [ht.network]

theorem findTopCM_sub (ht : TwoLevel h root subs) {m : CMId} (hm : m ∈ subs) :
    h.findTopCM m = some root := by
  obtain ⟨name, path, hcontainer, hnone⟩ := ht.as m hm
  unfold Hierarchy.findTopCM
  rw [hcontainer]
  exact search_of_none ht.manager path hnone

variable {cms : Managers}

theorem register_root (ht : TwoLevel h root subs) (id : Int) (htop : (cms root).isTopCM = false)
    (hnew : (cms root).topCM = none) :
    cms.registerConnectionManager h root id =
      Function.update cms root { cms root with isTopCM := true, topCM := some root } := by
  simp [Managers.registerConnectionManager, htop, hnew, ht.findTopCM_root]

theorem register_sub (ht : TwoLevel h root subs) {m : CMId} (hm : m ∈ subs) (id : Int)
    (htop : (cms m).isTopCM = false) (hnew : (cms m).topCM = none) :
    cms.registerConnectionManager h m id =
      Managers.addSubCM (Function.update cms m { cms m with topCM := some root }) root m id := by
  have hother : (some root).filter (· != m) = some root := by
    simp [Option.filter, ht.root_ne hm]
  simp [Managers.registerConnectionManager, htop, hnew, ht.findTopCM_sub hm, hother]

end TwoLevel

namespace Managers

variable (cms : Managers) (self : CMId) (address : IPvXAddress) (port profileId moduleId : Int)
  (m : CMId)

/-- A field that the call does not write. -/
theorem registerServer_frame {β : Type} (f : ConnectionManager → β)
    (hf : ∀ (cm : ConnectionManager) b v d,
      f { cm with isFlatNet := b, servers := v, serverProbabilityIsDirty := d } = f cm) :
    f (cms.registerServer self address port profileId moduleId m) = f (cms m) := by
  unfold registerServer
  by_cases hm : m = self
  · subst hm
    rw [Function.update_self]
    exact hf ..
  · rw [Function.update_of_ne hm]

theorem registerServer_isFlatNet :
    (cms.registerServer self address port profileId moduleId m).isFlatNet =
      if self = m ∧ (cms m).isTopCM then true else (cms m).isFlatNet := by
  unfold registerServer
  by_cases hm : self = m
  · subst hm
    simp
  · have hm' : m ≠ self := fun h => hm h.symm
    simp [hm, hm']

theorem registerServer_servers (p : Int) :
    ((cms.registerServer self address port profileId moduleId m).servers p).getD [] =
      ((cms m).servers p).getD [] ++
        ((Registration.registerServer self address port profileId moduleId).serverOf m p).toList := by
  unfold registerServer
  by_cases hm : self = m
  · subst hm
    by_cases hp : profileId = p
    · subst hp
      simp [Registration.serverOf]
    · have hp' : p ≠ profileId := fun h => hp h.symm
      simp [Registration.serverOf, hp, hp']
  · have hm' : m ≠ self := fun h => hm h.symm
    simp [Registration.serverOf, hm, hm']

/-- The registration of the manager `sub` with `root`: nothing but its own `topCM`
is written while `root` is not the top manager. -/
structure SubRegistered (root sub : CMId) (cms' : Managers) : Prop where
  topCM : ∀ m, (cms' m).topCM = if m = sub then some root else (cms m).topCM
  top : ∀ m, (cms' m).isTopCM = (cms m).isTopCM
  servers : ∀ m, (cms' m).servers = (cms m).servers
  subCM : ∀ m, (cms' m).subCM = (cms m).subCM ++
    if m = root ∧ (cms root).isTopCM then [subEntry root sub] else []
  flat : ∀ m, (cms' m).isFlatNet =
    if m = root ∧ (cms root).isTopCM then false else (cms m).isFlatNet

theorem subRegistered {root : CMId} (hne : root ≠ self) :
    SubRegistered cms root self
      (addSubCM (Function.update cms self { cms self with topCM := some root }) root self
        (getId self)) := by
  have hother : Function.update cms self { cms self with topCM := some root } root = cms root :=
    Function.update_of_ne hne _ _
  unfold addSubCM addNetwork
  rw [hother]
  by_cases htop : (cms root).isTopCM = true
  · simp only [htop, Bool.not_true, Bool.false_eq_true, if_false]
    constructor <;> intro m <;> by_cases hroot : m = root <;> by_cases hself : m = self <;>
      simp_all [subEntry]
  · simp only [htop]
    constructor <;> intro m <;> by_cases hself : m = self <;> simp_all

end Managers

/-! ## What the calls so far have done -/

/-- The state after the calls: the network-level manager knows those that came
after it. -/
structure After (root : CMId) (calls : List Registration) (cms : Managers) : Prop where
  top : ∀ m, (cms m).isTopCM = true ↔ m = root ∧ root ∈ registrants calls
  topCM : ∀ m, (cms m).topCM = if m ∈ registrants calls then some root else none
  subCM : (cms root).subCM =
    (((registrants calls).dropWhile (· != root)).tail).map (subEntry root)
  flat : (registrants calls).head? = some root →
    (cms root).isFlatNet = (flatWrites root calls).getLast?.getD true
  notTop : root ∉ registrants calls → (cms root).isFlatNet = true
  servers : ∀ m p, ((cms m).servers p).getD [] = serversOf calls m p
  others : ∀ m, m ≠ root → (cms m).subCM = [] ∧ (cms m).isFlatNet = true

theorem registrants_concat (calls : List Registration) (c : Registration) :
    registrants (calls ++ [c]) = registrants calls ++ c.registrant.toList := by
  cases h : c.registrant <;> simp [registrants, h]

theorem serversOf_concat (calls : List Registration) (c : Registration) (m : CMId) (p : Int) :
    serversOf (calls ++ [c]) m p = serversOf calls m p ++ (c.serverOf m p).toList := by
  cases h : c.serverOf m p <;> simp [serversOf, h]

theorem flatWrites_concat (root : CMId) (calls : List Registration) (c : Registration) :
    flatWrites root (calls ++ [c]) = flatWrites root calls ++ (c.setsFlat root).toList := by
  cases h : c.setsFlat root <;> simp [flatWrites, h]

/-- While no AS-level manager has registered, `isFlatNet` is set to true only. -/
theorem flatWrites_of_no_sub {root : CMId} {calls : List Registration}
    (honly : ∀ m ∈ registrants calls, m = root) :
    (flatWrites root calls).getLast?.getD true = true := by
  have hall : ∀ b ∈ flatWrites root calls, b = true := by
    intro b hb
    obtain ⟨c, hc, hsets⟩ := List.mem_filterMap.mp hb
    cases c with
    | registerConnectionManager self id =>
        have hself : self = root := honly self (List.mem_filterMap.mpr ⟨_, hc, rfl⟩)
        simp [Registration.setsFlat, hself] at hsets
    | registerServer self address port profileId moduleId =>
        by_cases hself : self = root
        · simpa [Registration.setsFlat, hself] using hsets
        · simp [Registration.setsFlat, hself] at hsets
    | addSubCM self other id => cases hsets
    | addNetwork self network => cases hsets
  cases hlast : (flatWrites root calls).getLast? with
  | none => rfl
  | some b => exact hall b (List.mem_of_getLast? hlast)

/-- The entries after the first `root`, when one is added to the list. -/
theorem tail_dropWhile_concat {root m : CMId} {l : List CMId} :
    ((l ++ [m]).dropWhile (· != root)).tail =
      (l.dropWhile (· != root)).tail ++ if root ∈ l then [m] else [] := by
  induction l with
  | nil =>
      by_cases hm : m = root <;> simp [hm]
  | cons a l ih =>
      by_cases ha : a = root
      · simp [ha]
      · have ha' : ¬ root = a := fun h => ha h.symm
        simpa [ha, ha'] using ih

theorem after_init (root : CMId) : After root [] fun _ => {} := by
  refine ⟨?_, fun _ => rfl, rfl, (fun h => by cases h), fun _ => rfl, fun _ _ => rfl,
    fun _ _ => ⟨rfl, rfl⟩⟩
  intro m
  simp [registrants]

namespace After

variable {root : CMId} {calls : List Registration} {cms : Managers}

theorem registerServer (ha : After root calls cms) (self : CMId) (address : IPvXAddress)
    (port profileId moduleId : Int) :
    After root (calls ++ [.registerServer self address port profileId moduleId])
      (cms.registerServer self address port profileId moduleId) := by
  have hregs : registrants (calls ++ [.registerServer self address port profileId moduleId]) =
      registrants calls := by
    rw [registrants_concat]
    exact List.append_nil _
  -- the call writes to the list of servers, and to `isFlatNet` of a top manager
  have hisTop := fun m => Managers.registerServer_frame cms self address port profileId moduleId m
    ConnectionManager.isTopCM fun _ _ _ _ => rfl
  have htopCM := fun m => Managers.registerServer_frame cms self address port profileId moduleId m
    ConnectionManager.topCM fun _ _ _ _ => rfl
  have hsubCM := fun m => Managers.registerServer_frame cms self address port profileId moduleId m
    ConnectionManager.subCM fun _ _ _ _ => rfl
  refine ⟨?_, ?_, ?_, ?_, ?_, ?_, ?_⟩
  · intro m
    rw [hisTop, hregs]
    exact ha.top m
  · intro m
    rw [htopCM, hregs]
    exact ha.topCM m
  · rw [hsubCM, hregs]
    exact ha.subCM
  · intro hhead
    -- `root` is the top manager, so the call writes to `isFlatNet` if it is the one called
    rw [hregs] at hhead
    have hmem : root ∈ registrants calls := List.mem_of_mem_head? (Option.mem_def.mpr hhead)
    have htop : (cms root).isTopCM = true := (ha.top root).mpr ⟨rfl, hmem⟩
    rw [Managers.registerServer_isFlatNet, flatWrites_concat, htop, ha.flat hhead]
    by_cases hself : self = root
    · simp [Registration.setsFlat, hself]
    · simp [Registration.setsFlat, hself]
  · intro hnot
    rw [hregs] at hnot
    rw [Managers.registerServer_isFlatNet, ha.notTop hnot, ite_self]
  · intro m p
    rw [Managers.registerServer_servers, serversOf_concat, ha.servers]
  · intro m hm
    have htop : (cms m).isTopCM = false := Bool.eq_false_iff.mpr fun h => hm ((ha.top m).mp h).1
    have hkeep : ¬ (self = m ∧ (cms m).isTopCM = true) := by simp [htop]
    rw [hsubCM, Managers.registerServer_isFlatNet, if_neg hkeep]
    exact ha.others m hm

theorem not_registered (ha : After root calls cms) {m : CMId} (hm : m ∉ registrants calls) :
    (cms m).isTopCM = false ∧ (cms m).topCM = none := by
  constructor
  · refine Bool.eq_false_iff.mpr fun h => hm ?_
    obtain ⟨rfl, hmem⟩ := (ha.top m).mp h
    exact hmem
  · rw [ha.topCM, if_neg hm]

theorem registerRoot (ha : After root calls cms) (hnew : root ∉ registrants calls) (id : Int) :
    After root (calls ++ [.registerConnectionManager root id])
      (Function.update cms root { cms root with isTopCM := true, topCM := some root }) := by
  have hregs : registrants (calls ++ [.registerConnectionManager root id]) =
      registrants calls ++ [root] := registrants_concat ..
  -- nothing registered after `root` yet
  have hdrop : (registrants calls).dropWhile (· != root) = [] := by
    rw [List.dropWhile_eq_nil_iff]
    intro m hm
    exact bne_iff_ne.mpr fun h => hnew (h ▸ hm)
  have hsubs : (cms root).subCM = [] := by
    rw [ha.subCM, hdrop]
    rfl
  refine ⟨?_, ?_, ?_, ?_, ?_, ?_, ?_⟩
  · intro m
    by_cases hm : m = root
    · subst hm
      simp [hregs]
    · simp [hm, ha.top]
  · intro m
    by_cases hm : m = root
    · subst hm
      simp [hregs]
    · simp [hm, ha.topCM, hregs]
  · rw [hregs, tail_dropWhile_concat, if_neg hnew, hdrop, Function.update_self]
    exact hsubs
  · intro hhead
    -- the manager of the network being the first one, no other has registered
    have hnil : registrants calls = [] := by
      rw [hregs] at hhead
      cases hcalls : registrants calls with
      | nil => rfl
      | cons a l =>
          rw [hcalls] at hhead hnew
          have : a = root := Option.some.inj hhead
          exact absurd (this ▸ List.mem_cons_self) hnew
    have hwrites : (flatWrites root calls).getLast?.getD true = true :=
      flatWrites_of_no_sub fun m hm => by simp [hnil] at hm
    have hnone : (Registration.registerConnectionManager root id).setsFlat root = none :=
      if_pos rfl
    rw [Function.update_self, flatWrites_concat, hnone, Option.toList_none, List.append_nil,
      hwrites]
    exact ha.notTop hnew
  · intro hnot
    rw [hregs] at hnot
    exact absurd (List.mem_append_right _ (List.mem_singleton.mpr rfl)) hnot
  · intro m p
    rw [serversOf_concat, ← ha.servers]
    by_cases hm : m = root
    · subst hm
      simp [Registration.serverOf]
    · simp [hm, Registration.serverOf]
  · intro m hm
    rw [Function.update_of_ne hm]
    exact ha.others m hm

theorem registerSub (ha : After root calls cms) {self : CMId} (hne : root ≠ self) :
    After root (calls ++ [.registerConnectionManager self (Managers.getId self)])
      (Managers.addSubCM (Function.update cms self { cms self with topCM := some root }) root self
        (Managers.getId self)) := by
  have hregs : registrants
      (calls ++ [.registerConnectionManager self (Managers.getId self)]) =
        registrants calls ++ [self] := registrants_concat ..
  have hroot : (root ∈ registrants calls ++ [self]) ↔ root ∈ registrants calls := by
    simp [hne]
  have hsame : ∀ m p, serversOf (calls ++ [.registerConnectionManager self
      (Managers.getId self)]) m p = serversOf calls m p := by
    intro m p
    rw [serversOf_concat]
    exact List.append_nil _
  have hfield := Managers.subRegistered cms self hne
  refine ⟨?_, ?_, ?_, ?_, ?_, ?_, ?_⟩
  · intro m
    rw [hfield.top, ha.top, hregs, hroot]
  · intro m
    rw [hfield.topCM, ha.topCM, hregs]
    by_cases hm : m = self
    · simp [hm]
    · simp [hm]
  · -- accepted if `root` has registered, and else lost
    rw [hfield.subCM, hregs, tail_dropWhile_concat, List.map_append, ha.subCM]
    by_cases hmem : root ∈ registrants calls
    · have htop : (cms root).isTopCM = true := (ha.top root).mpr ⟨rfl, hmem⟩
      simp [htop, hmem]
    · have htop : ¬ (cms root).isTopCM = true := fun h => hmem ((ha.top root).mp h).2
      simp [htop, hmem]
  · intro hhead
    -- the first to register stays the first
    have hhead' : (registrants calls).head? = some root := by
      rw [hregs] at hhead
      cases hcalls : registrants calls with
      | nil =>
          rw [hcalls] at hhead
          exact absurd (Option.some.inj hhead).symm hne
      | cons a l =>
          rw [hcalls] at hhead
          exact hhead
    have htop : (cms root).isTopCM = true :=
      (ha.top root).mpr ⟨rfl, List.mem_of_head? hhead'⟩
    rw [hfield.flat, flatWrites_concat]
    simp [Registration.setsFlat, hne.symm, htop]
  · intro hnot
    rw [hregs, hroot] at hnot
    have htop : ¬ (cms root).isTopCM = true := fun h => hnot ((ha.top root).mp h).2
    rw [hfield.flat, ha.notTop hnot]
    simp [htop]
  · intro m p
    rw [hfield.servers, ha.servers, hsame]
  · intro m hm
    rw [hfield.subCM, hfield.flat]
    simpa [hm] using ha.others m hm

end After

section

variable {h : Hierarchy} {root : CMId} {subs : List CMId}

theorem startup_concat (calls : List Registration) (c : Registration) :
    startup h (calls ++ [c]) = c.apply h (startup h calls) := by
  unfold startup
  rw [List.foldl_append]
  rfl

/-- One call of those that `initialize` and the servers make. -/
theorem After.step (ht : TwoLevel h root subs) {calls : List Registration} {cms : Managers}
    (ha : After root calls cms) {c : Registration} (hc : c.AtStartup)
    (hnew : ∀ m ∈ c.registrant, m ∉ registrants calls ∧ m ∈ root :: subs) :
    After root (calls ++ [c]) (c.apply h cms) := by
  cases c with
  | registerConnectionManager self id =>
      have hid : id = Managers.getId self := hc
      obtain ⟨hself, hmem⟩ := hnew self rfl
      obtain ⟨htop, htopCM⟩ := ha.not_registered hself
      subst hid
      show After root _ (cms.registerConnectionManager h self _)
      rcases List.mem_cons.mp hmem with rfl | hsub
      · rw [ht.register_root _ htop htopCM]
        exact ha.registerRoot hself _
      · rw [ht.register_sub hsub _ htop htopCM]
        exact ha.registerSub (ht.root_ne hsub)
  | registerServer self address port profileId moduleId =>
      exact ha.registerServer self address port profileId moduleId
  | addSubCM self other id => exact hc.elim
  | addNetwork self network => exact hc.elim

theorem after_startup (ht : TwoLevel h root subs) (calls : List Registration)
    (hcalls : ∀ c ∈ calls, c.AtStartup) (hnodup : (registrants calls).Nodup)
    (hmem : ∀ m ∈ registrants calls, m ∈ root :: subs) :
    After root calls (startup h calls) := by
  -- on the last call, since `After` speaks of the calls so far
  induction calls using List.reverseRecOn with
  | nil => exact after_init root
  | append_singleton calls c ih =>
      rw [registrants_concat] at hnodup hmem
      obtain ⟨hnodup', -, hdisj⟩ := List.nodup_append.mp hnodup
      have ha := ih (fun c' hc' => hcalls c' (List.mem_append_left _ hc')) hnodup'
        fun m hm => hmem m (List.mem_append_left _ hm)
      rw [startup_concat]
      refine ha.step ht (hcalls c (List.mem_append_right _ (List.mem_singleton.mpr rfl))) ?_
      intro m hm
      have hm' : m ∈ c.registrant.toList := Option.mem_toList.mpr hm
      exact ⟨fun hold => hdisj m hold m hm' rfl, hmem m (List.mem_append_right _ hm')⟩

/-! ## The orders that work -/

/-- All AS-level managers come after the one of the network just when that is the
first to register. -/
theorem perm_after_iff {l : List CMId} (hl : l.Perm (root :: subs)) :
    (((l.dropWhile (· != root)).tail).map (subEntry root)).Perm (subs.map (subEntry root)) ↔
      l.head? = some root := by
  constructor
  · intro hperm
    cases l with
    | nil => exact absurd hl.symm (List.cons_ne_nil _ _ <| List.perm_nil.mp ·)
    | cons a l =>
        by_cases ha : a = root
        · rw [ha]
          rfl
        · -- the entries before `root` are missing
          exfalso
          have hmem : root ∈ l := by
            have hroot : root ∈ a :: l := hl.mem_iff.mpr List.mem_cons_self
            exact (List.mem_cons.mp hroot).resolve_left fun h => ha h.symm
          have hpos : 0 < l.length := List.length_pos_of_mem hmem
          have hlen := hperm.length_eq
          have hlen' := hl.length_eq
          have hdrop := (List.dropWhile_suffix (· != root) (l := l)).length_le
          have hskip : (a :: l).dropWhile (· != root) = l.dropWhile (· != root) := by
            simp [ha]
          rw [hskip] at hlen
          simp only [List.length_map, List.length_tail, List.length_cons] at hlen hlen'
          omega
  · intro hhead
    cases l with
    | nil => cases hhead
    | cons a l =>
        have ha : a = root := Option.some.inj hhead
        subst ha
        have hrest : l.Perm subs := (List.perm_cons a).mp hl
        simpa using hrest.map (subEntry a)

/-- Registration ends in the intended state just for the calls in order. -/
theorem finalState_iff_inOrder (ht : TwoLevel h root subs) {calls : List Registration}
    (ho : Once root subs calls) :
    FinalState root subs calls (startup h calls) ↔ InOrder root subs calls := by
  have hmem : ∀ m, m ∈ registrants calls ↔ m ∈ root :: subs := fun m => ho.managers.mem_iff
  have ha : After root calls (startup h calls) :=
    after_startup ht calls ho.atStartup (ho.managers.nodup_iff.mpr ht.nodup)
      fun m hm => (hmem m).mp hm
  have hroot : root ∈ registrants calls := (hmem root).mpr List.mem_cons_self
  have hsubs := perm_after_iff ho.managers
  rw [← ha.subCM] at hsubs
  constructor
  · -- the entries of `subCM` say who came first, `isFlatNet` who came last
    intro hf
    have hhead := hsubs.mp hf.subCM
    refine ⟨hhead, ?_⟩
    by_cases hnil : subs = []
    · exact .inl hnil
    · have hne : (startup h calls root).subCM ≠ [] := by
        intro hempty
        have hperm := hf.subCM
        rw [hempty] at hperm
        exact hnil (List.map_eq_nil_iff.mp hperm.symm.eq_nil)
      have hflat : (flatWrites root calls).getLast?.getD true ≠ true := by
        rw [← ha.flat hhead]
        exact fun h => hne (hf.flat.mp h)
      refine .inr ?_
      cases hlast : (flatWrites root calls).getLast? with
      | none =>
          rw [hlast] at hflat
          exact absurd rfl hflat
      | some b =>
          rw [hlast] at hflat
          exact congrArg some (Bool.eq_false_iff.mpr hflat)
  · rintro ⟨hhead, hlast⟩
    have hperm := hsubs.mpr hhead
    refine ⟨?_, hperm, ⟨?_, ?_⟩, fun m p => .of_eq (ha.servers m p), ?_, ha.others⟩
    · intro m
      rw [ha.top]
      exact and_iff_left hroot
    · intro hflat
      rcases hlast with hnil | hlast
      · rw [hnil] at hperm
        exact hperm.eq_nil
      · rw [ha.flat hhead, hlast] at hflat
        cases hflat
    · intro hempty
      rw [hempty] at hperm
      have hnil : subs = [] := List.map_eq_nil_iff.mp hperm.symm.eq_nil
      rw [ha.flat hhead]
      refine flatWrites_of_no_sub fun m hm => ?_
      have hm' := (hmem m).mp hm
      rw [hnil] at hm'
      exact List.mem_singleton.mp hm'
    · intro m
      rw [ha.topCM]
      simp only [hmem]

end

/-! ## Two ASs -/

/-- The network with the manager 0 and two ASs with the managers 1 and 2. -/
def twoAs : Hierarchy where
  container := fun m => if m = 0 then [] else if m = 1 then ["corporate1"] else ["remote2"]
  connectionManager := fun path => if path = [] then some 0 else none

theorem twoLevel_twoAs : TwoLevel twoAs 0 [1, 2] := by
  refine ⟨by decide, rfl, rfl, ?_⟩
  intro m hm
  have hpath : ∀ q : List String, q ≠ [] → q <:+ [] → twoAs.connectionManager q = none :=
    fun q hq hsuffix => absurd (List.suffix_nil.mp hsuffix) hq
  rcases List.mem_cons.mp hm with rfl | hm
  · exact ⟨_, [], rfl, hpath⟩
  · rw [List.mem_singleton.mp hm]
    exact ⟨_, [], rfl, hpath⟩

/-- The network first, a server with it, then the ASs. -/
def networkFirst : List Registration :=
  [.registerConnectionManager 0 0, .registerServer 0 9 53 4 (-1),
    .registerConnectionManager 1 1, .registerServer 2 7 80 5 40,
    .registerConnectionManager 2 2]

theorem finalState_networkFirst :
    FinalState 0 [1, 2] networkFirst (startup twoAs networkFirst) :=
  (finalState_iff_inOrder twoLevel_twoAs ⟨by simp [networkFirst, Registration.AtStartup,
    Managers.getId], .refl _⟩).mpr ⟨rfl, .inr rfl⟩

/-- The manager of an AS registers before that of the network: it is refused. -/
def asFirst : List Registration :=
  [.registerConnectionManager 1 1, .registerConnectionManager 0 0,
    .registerConnectionManager 2 2]

theorem asFirst_not_final :
    TwoLevel twoAs 0 [1, 2] ∧ Once 0 [1, 2] asFirst ∧
      (startup twoAs asFirst 0).subCM.map ForeignNetwork.manager = [2] ∧
      ¬ FinalState 0 [1, 2] asFirst (startup twoAs asFirst) := by
  refine ⟨twoLevel_twoAs, ⟨?_, ?_⟩, by decide, ?_⟩
  · simp [asFirst, Registration.AtStartup, Managers.getId]
  · exact List.Perm.swap 0 1 [2]
  · intro hf
    have hlen : (startup twoAs asFirst 0).subCM.length = 2 := hf.subCM.length_eq
    exact absurd hlen (by decide)

end ScadaSim.Traffic
