import ScadaSim.Lib.Outcome
import ScadaSim.Routing.Extract

/-!
# Unique addresses

The prefixes are counted up from AS to AS, the addresses from entry to entry of a node
map. The two checks of `initialize` bound both counters, so that neither wraps around
and no AS runs into the next one: `addressed_of_initialize`.
-/

namespace ScadaSim.Routing

open Lib

/-- The addresses of the node maps of all ASs: `r[i]` is an AS with its nodes. -/
structure Addressed (r : List (NodeInfoAS × AsState)) : Prop where
  distinct : ∀ (i j : Nat) (as as' : NodeInfoAS × AsState) (k l : Nat)
    (entry entry' : NodeInfoRL), r[i]? = some as → r[j]? = some as' →
      as.2.nodeMap[k]? = some entry → as'.2.nodeMap[l]? = some entry' →
        entry.addr = entry'.addr → i = j ∧ k = l
  inNet : ∀ as ∈ r, ∀ entry ∈ as.2.nodeMap,
    entry.addr ≠ as.1.addr ∧ entry.addr >>> IP_NET_SHIFT = as.1.addr >>> IP_NET_SHIFT
  nets : ∀ (i j : Nat) (as as' : NodeInfoAS × AsState), r[i]? = some as → r[j]? = some as' →
    as.1.addr >>> IP_NET_SHIFT = as'.1.addr >>> IP_NET_SHIFT → i = j
  /-- `netIP += 1 << IP_NET_SHIFT`, `addr + 1` and `currentIP++`. -/
  noWrap : ∀ as ∈ r, BitVec.uaddOverflow as.1.addr (1 <<< IP_NET_SHIFT) = false ∧
    BitVec.uaddOverflow as.1.addr 1 = false ∧
    ∀ entry ∈ as.2.nodeMap, BitVec.uaddOverflow entry.addr 1 = false

/-! ## The counters -/

theorem toNat_netStep : (1 <<< IP_NET_SHIFT : IPAddress).toNat = 65536 := rfl

theorem nodeInfoAS_addr (uninit : NodeInfoAS) (addr netmask : IPAddress) (module : Module) :
    Post (fun info => info.addr = addr) (nodeInfoAS uninit addr netmask module) := by
  unfold nodeInfoAS
  exact Post.bind_any fun _ => rfl

/-- The prefixes, counted without a bound. -/
theorem extractLoop_addr (net : List NedModule) (uninit : Nat → NodeInfoAS) (i : Nat)
    {netIP : IPAddress} {ases : List NedModule}
    (hroom : netIP.toNat + 65536 * ases.length < 4294967296) :
    Post (fun entries => entries.length = ases.length ∧ ∀ (k : Nat) entry,
      entries[k]? = some entry → entry.info.addr.toNat = netIP.toNat + 65536 * k)
      (extractLoop net uninit i netIP ases) := by
  induction ases generalizing i netIP with
  | nil => exact ⟨rfl, fun k entry hk => by cases hk⟩
  | cons curAS rest ih =>
      rw [List.length_cons] at hroom
      have hnext : (netIP + (1 <<< IP_NET_SHIFT)).toNat = netIP.toNat + 65536 := by
        rw [BitVec.toNat_add, toNat_netStep]
        omega
      have hroom' : (netIP + (1 <<< IP_NET_SHIFT)).toNat + 65536 * rest.length < 4294967296 := by
        rw [hnext]
        omega
      unfold extractLoop
      refine (nodeInfoAS_addr _ _ _ _).bind fun info hinfo => ?_
      refine (ih (i + 1) hroom').bind fun others hothers => ?_
      obtain ⟨hlen, haddr⟩ := hothers
      refine ⟨by rw [List.length_cons, List.length_cons, hlen], ?_⟩
      intro k entry hk
      cases k with
      | zero =>
          cases hk
          exact congrArg BitVec.toNat hinfo
      | succ k =>
          rw [haddr k entry hk, hnext]
          omega

/-- The addresses, counted without a bound. -/
theorem assignLoop_addr {currentIP : IPAddress} {nodeMap : List NodeInfoRL} (tables : Tables)
    (hroom : currentIP.toNat + nodeMap.length < 4294967296) :
    (assignLoop currentIP nodeMap tables).nodeMap.length = nodeMap.length ∧
      ∀ (k : Nat) entry, (assignLoop currentIP nodeMap tables).nodeMap[k]? = some entry →
        entry.addr.toNat = currentIP.toNat + k := by
  induction nodeMap generalizing currentIP tables with
  | nil => exact ⟨rfl, fun k entry hk => by cases hk⟩
  | cons info rest ih =>
      rw [List.length_cons] at hroom
      have hnext : (currentIP + 1).toNat = currentIP.toNat + 1 := by
        rw [BitVec.toNat_add, show (1 : IPAddress).toNat = 1 from rfl]
        omega
      have hroom' : (currentIP + 1).toNat + rest.length < 4294967296 := by
        rw [hnext]
        omega
      obtain ⟨hlen, haddr⟩ := ih (Function.update tables info.moduleId
        (setDefaultRoute currentIP info (tables info.moduleId))) hroom'
      unfold assignLoop
      refine ⟨by rw [List.length_cons, List.length_cons, hlen], ?_⟩
      intro k entry hk
      cases k with
      | zero =>
          cases hk
          rfl
      | succ k =>
          rw [haddr k entry hk, hnext]
          omega

theorem nodeMapInsert_length (info : NodeInfoRL) (nodeMap : List NodeInfoRL) :
    (nodeMapInsert info nodeMap).length ≤ nodeMap.length + 1 := by
  induction nodeMap with
  | nil => exact le_rfl
  | cons entry rest ih =>
      unfold nodeMapInsert
      split_ifs
      · exact le_rfl
      · exact Nat.le_succ _
      · exact Nat.succ_le_succ ih

/-- A node map has no more entries than the topology has nodes. -/
theorem enterNodes_length (uninit : Nat → NodeInfoRL) (as j : Nat) (nodes : List NedModule)
    (nodeMap : List NodeInfoRL) :
    Post (fun nodeMap' => nodeMap'.length ≤ nodeMap.length + nodes.length)
      (enterNodes uninit as j nodes nodeMap) := by
  induction nodes generalizing j nodeMap with
  | nil => exact le_rfl
  | cons m rest ih =>
      unfold enterNodes
      refine Post.bind_any fun info => (ih (j + 1) (nodeMapInsert info nodeMap)).mono ?_
      intro nodeMap' hlen
      have hinsert := nodeMapInsert_length info nodeMap
      rw [List.length_cons]
      omega

/-! ## All ASs -/

/-- The AS number `i` has the prefix `i + 1`, and its nodes the numbers from 1 on. -/
structure Counted (i : Nat) (as : NodeInfoAS × AsState) : Prop where
  room : i + 1 < 65535
  net : as.1.addr.toNat = 65536 * (i + 1)
  entries : ∀ (k : Nat) entry, as.2.nodeMap[k]? = some entry →
    k + 1 < 65536 ∧ entry.addr.toNat = 65536 * (i + 1) + (k + 1)

theorem assignAll_counted (uninit : Nat → Nat → NodeInfoRL) (i : Nat) {entries : List AsEntry}
    (hroom : i + entries.length < 65535)
    (haddr : ∀ (k : Nat) entry, entries[k]? = some entry →
      entry.info.addr.toNat = 65536 * (i + k + 1)) (tables : Tables) :
    Post (fun r => ∀ (k : Nat) as, r[k]? = some as → Counted (i + k) as)
      (assignAll uninit i entries tables) := by
  induction entries generalizing i tables with
  | nil => exact fun k as hk => by cases hk
  | cons entry rest ih =>
      rw [List.length_cons] at hroom
      have hnet : entry.info.addr.toNat = 65536 * (i + 1) := haddr 0 entry rfl
      unfold assignAll
      split
      · exact Post.error _
      · rename_i hfits
        rw [show (0xffffffff - NET_MASK).toNat = 65535 from rfl] at hfits
        refine (enterNodes_length (uninit i) i 0 entry.topology []).bind fun nodeMap hlen => ?_
        rw [List.length_nil, Nat.zero_add] at hlen
        -- the first address is the prefix and one
        have hfirst : (entry.info.addr + 1).toNat = 65536 * (i + 1) + 1 := by
          rw [BitVec.toNat_add, show (1 : IPAddress).toNat = 1 from rfl]
          omega
        have hroom' : (entry.info.addr + 1).toNat + nodeMap.length < 4294967296 := by
          rw [hfirst]
          omega
        obtain ⟨hcount, hentries⟩ := assignLoop_addr tables hroom'
        have haddr' (k : Nat) (entry' : AsEntry) (hk : rest[k]? = some entry') :
            entry'.info.addr.toNat = 65536 * (i + 1 + k + 1) := by
          rw [haddr (k + 1) entry' hk]
          omega
        refine (ih (i + 1) (by omega) haddr' _).bind fun others hothers => ?_
        intro k as hk
        cases k with
        | zero =>
            cases hk
            refine ⟨by omega, hnet, fun k entry' hk => ?_⟩
            have haddr := hentries k entry' hk
            obtain ⟨hlt, -⟩ := List.getElem?_eq_some_iff.mp hk
            change k < (assignLoop (entry.info.addr + 1) nodeMap tables).nodeMap.length at hlt
            rw [hcount] at hlt
            rw [hfirst] at haddr
            exact ⟨by omega, by omega⟩
        | succ k =>
            rw [show i + (k + 1) = i + 1 + k by omega]
            exact hothers k as hk

theorem extractAsModules_length {noAS : Int} (hnoAS : ¬ noAS ≥ 65535) (net : List NedModule) :
    Post (fun ases => ases.length < 65535) (extractAsModules noAS net) := by
  unfold extractAsModules
  split
  · dsimp only
    split
    · exact Post.error _
    · rename_i hlen
      show _ < 65535
      omega
  · split
    · dsimp only
      split
      · exact Post.error _
      · rename_i hlen
        show _ < 65535
        omega
    · exact Nat.succ_pos _

theorem initializeAddresses_counted (noAS : Int) (net : List NedModule)
    (uninitAS : Nat → NodeInfoAS) (uninitRL : Nat → Nat → NodeInfoRL) (tables : Tables) :
    Post (fun r => ∀ (k : Nat) as, r[k]? = some as → Counted k as)
      (initializeAddresses noAS net uninitAS uninitRL tables) := by
  unfold initializeAddresses
  split
  · exact Post.error _
  · rename_i hnoAS
    have hfirst : (1 <<< IP_NET_SHIFT : IPAddress).toNat = 65536 := toNat_netStep
    have hextract : Post (fun entries => entries.length < 65535 ∧ ∀ (k : Nat) entry,
        entries[k]? = some entry → entry.info.addr.toNat = 65536 * (0 + k + 1))
        (extractTopology noAS net uninitAS) := by
      unfold extractTopology
      refine (extractAsModules_length hnoAS net).bind fun ases hases => ?_
      have hroom : (1 <<< IP_NET_SHIFT : IPAddress).toNat + 65536 * ases.length < 4294967296 := by
        rw [hfirst]
        omega
      refine (extractLoop_addr net uninitAS 0 hroom).mono ?_
      rintro entries ⟨hlen, haddr⟩
      refine ⟨hlen ▸ hases, fun k entry hk => ?_⟩
      rw [haddr k entry hk, hfirst]
      omega
    refine hextract.bind fun entries hentries => ?_
    refine (assignAll_counted uninitRL 0 (by omega) hentries.2 tables).mono ?_
    intro r hr k as hk
    have hcounted := hr k as hk
    rw [Nat.zero_add] at hcounted
    exact hcounted

/-! ## What the counts say -/

theorem toNat_shifted (a : IPAddress) : (a >>> IP_NET_SHIFT).toNat = a.toNat / 65536 := by
  rw [BitVec.toNat_ushiftRight, Nat.shiftRight_eq_div_pow]
  rfl

theorem uaddOverflow_eq_false {a b : IPAddress} (h : a.toNat + b.toNat < 4294967296) :
    BitVec.uaddOverflow a b = false := by
  unfold BitVec.uaddOverflow
  exact decide_eq_false (Nat.not_le.mpr h)

theorem Counted.addressed {r : List (NodeInfoAS × AsState)}
    (h : ∀ (k : Nat) as, r[k]? = some as → Counted k as) : Addressed r where
  distinct := by
    intro i j as as' k l entry entry' hi hj hk hl heq
    obtain ⟨hroom, hentry⟩ := (h i as hi).entries k entry hk
    obtain ⟨hroom', hentry'⟩ := (h j as' hj).entries l entry' hl
    rw [heq] at hentry
    omega
  inNet := by
    intro as has entry hentry
    obtain ⟨i, hi⟩ := List.getElem?_of_mem has
    obtain ⟨k, hk⟩ := List.getElem?_of_mem hentry
    have hcounted := h i as hi
    obtain ⟨hroom, haddr⟩ := hcounted.entries k entry hk
    have hnet := hcounted.net
    constructor
    · intro heq
      rw [heq] at haddr
      omega
    · apply BitVec.eq_of_toNat_eq
      rw [toNat_shifted, toNat_shifted]
      omega
  nets := by
    intro i j as as' hi hj heq
    have hnet := (h i as hi).net
    have hnet' := (h j as' hj).net
    have hsame := congrArg BitVec.toNat heq
    rw [toNat_shifted, toNat_shifted] at hsame
    omega
  noWrap := by
    intro as has
    obtain ⟨i, hi⟩ := List.getElem?_of_mem has
    have hcounted := h i as hi
    have hroom := hcounted.room
    have hnet := hcounted.net
    have hone : (1 : IPAddress).toNat = 1 := rfl
    refine ⟨uaddOverflow_eq_false ?_, uaddOverflow_eq_false ?_, fun entry hentry => ?_⟩
    · rw [toNat_netStep]
      omega
    · rw [hone]
      omega
    · obtain ⟨k, hk⟩ := List.getElem?_of_mem hentry
      obtain ⟨hlt, haddr⟩ := hcounted.entries k entry hk
      apply uaddOverflow_eq_false
      rw [hone]
      omega

/-- Where `initialize` raises no error, every node has an address of its own in the net of
its AS. -/
theorem addressed_of_initialize {noAS : Int} {net : List NedModule}
    {uninitAS : Nat → NodeInfoAS} {uninitRL : Nat → Nat → NodeInfoRL} {tables : Tables}
    {r : List (NodeInfoAS × AsState)}
    (h : initializeAddresses noAS net uninitAS uninitRL tables = .ok r) : Addressed r :=
  Counted.addressed ((initializeAddresses_counted noAS net uninitAS uninitRL tables).of_ok h)

/-! ### Two ASs with a core router each -/

def scada : Component := ⟨"scada".toList, none, by decide⟩

def corporateOne : Component := ⟨"corporate1".toList, none, by decide⟩

def remoteTwo : Component := ⟨"remote2".toList, none, by decide⟩

def coreZero : Component := ⟨"core0".toList, none, by decide⟩

/-- An AS module right below the network. -/
def asModule (name : Component) (id : Int) : NedModule where
  ancestors := [scada]
  self := name
  property := fun p => if p = "AS" then some none else none
  id := id
  hasRoutingTable := false
  ift := []
  nextGateOwner := fun _ => none

/-- A core router in the AS `as`. -/
def coreModule (as : Component) (id : Int) : NedModule where
  ancestors := [scada, as]
  self := coreZero
  property := fun p => if p = "RL" then some none else none
  id := id
  hasRoutingTable := true
  ift := [⟨false, 0, 0, 7⟩]
  nextGateOwner := fun _ => none

def twoRouters : List NedModule :=
  [asModule corporateOne 1, coreModule corporateOne 2, asModule remoteTwo 3, coreModule remoteTwo 4]

def blankAS : NodeInfoAS := ⟨0, .unspecified, 0, 0⟩

def blankRL : NodeInfoRL := ⟨false, [], none, 0, .unspecified, .endSys, 0, 0, .inAs 0⟩

theorem addressed_twoRouters :
    ∃ r, initializeAddresses 2 twoRouters (fun _ => blankAS) (fun _ _ => blankRL)
        (fun _ => ⟨0, []⟩) = .ok r ∧
      (r.map fun as => (as.1.addr, as.2.nodeMap.map NodeInfoRL.addr)) =
        [(0x10000, [0x10001]), (0x20000, [0x20001])] ∧ Addressed r := by
  have hrun : (initializeAddresses 2 twoRouters (fun _ => blankAS) (fun _ _ => blankRL)
      (fun _ => ⟨0, []⟩)).toOption.map
        (fun r => r.map fun as => (as.1.addr, as.2.nodeMap.map NodeInfoRL.addr)) =
      some [(0x10000, [0x10001]), (0x20000, [0x20001])] := by decide +kernel
  cases h : initializeAddresses 2 twoRouters (fun _ => blankAS) (fun _ _ => blankRL)
      (fun _ => ⟨0, []⟩) with
  | error e =>
      rw [h] at hrun
      cases hrun
  | ok r =>
      rw [h] at hrun
      exact ⟨r, rfl, Option.some.inj hrun, addressed_of_initialize h⟩

end ScadaSim.Routing
