import ScadaSim.Lib.Loop
import ScadaSim.Lib.TSys
import ScadaSim.UdpApp.Socket

/-!
# The vector of UDP sockets

`UDPSocketVector` finds sockets by the remote address and port and removes them by
their id. Each of its methods is a loop over the vector, and a loop need not end: a
method takes a number of turns and returns nothing when they do not suffice.

`IsMap` says that the vector behaves as a finite map from the remote address and
port to the socket; `always_isMap_iff` says in which runs it does.
-/

namespace ScadaSim.UdpApp

open Lib Lib.Loop Traffic

/-- The socket class is `S`; only `getSocketId` is called. -/
structure UDPSocketVectorInfo (S : Type) where
  socket : S
  remoteAddr : IPvXAddress
  remotePort : Int
  deriving DecidableEq

namespace UDPSocketVector

variable {S : Type} (getSocketId : S → Int)

abbrev SocketVector (S : Type) := List (UDPSocketVectorInfo S)

/-- The turn of the loop that `findSocketFor` and both `addSocket` share. -/
def searchTurn (socketVector : SocketVector S) (addr : IPvXAddress) (port : Int) (i : Nat) :
    Nat ⊕ Nat :=
  match socketVector[i]? with
  | none => .inr i
  | some info =>
      if info.remoteAddr = addr then
        if info.remotePort = port then .inr i else .inl (i + 1)
      else .inl (i + 1)

/-- A message is known by its control info. -/
def findSocketFor (turns : Nat) (socketVector : SocketVector S) (msg : Option UDPControlInfo) :
    Option (Except Fault (Option S)) :=
  match msg with
  | none =>
      some (.error (.oppError
        "UDPSocketVector: findSocketFor(): no UDPControl info in message (not from UDP?)"))
  | some ctrl =>
      (run (searchTurn socketVector ctrl.srcAddr ctrl.srcPort) turns 0).map fun i =>
        if i = socketVector.length then .ok none
        else .ok ((socketVector[i]?).map fun info => info.socket)

/-- What both overloads of `addSocket` do once the remote side is known. -/
def addSocketAt (turns : Nat) (socketVector : SocketVector S) (socket : S) (addr : IPvXAddress)
    (port : Int) : Option (Except Fault (SocketVector S)) :=
  (run (searchTurn socketVector addr port) turns 0).map fun i =>
    if i = socketVector.length then .ok (socketVector ++ [⟨socket, addr, port⟩])
    else .error .assertion

def addSocketForMessage (turns : Nat) (socketVector : SocketVector S) (socket : S)
    (init : Option UDPControlInfo) : Option (Except Fault (SocketVector S)) :=
  match init with
  | none =>
      some (.error (.oppError
        "UDPSocketVector: findSocketFor(): no UDPControl info in message (not from UDP?)"))
  | some ctrl => addSocketAt turns socketVector socket ctrl.srcAddr ctrl.srcPort

def addSocketForTarget (turns : Nat) (socketVector : SocketVector S) (socket : S)
    (t : TargetInfo) : Option (Except Fault (SocketVector S)) :=
  addSocketAt turns socketVector socket t.address t.port

/-- The turn of the loop of `removeSocket`. The iterator stays where it is while the
ids differ: no statement of the loop moves it. -/
def removeTurn (socket : S) : SocketVector S × Nat → (SocketVector S × Nat) ⊕ SocketVector S
  | (socketVector, i) =>
      match socketVector[i]? with
      | none => .inr socketVector
      | some info =>
          if getSocketId info.socket = getSocketId socket then .inr (socketVector.eraseIdx i)
          else .inl (socketVector, i)

/-- The vector afterwards, and the socket given. -/
def removeSocket (turns : Nat) (socketVector : SocketVector S) (socket : S) :
    Option (SocketVector S × S) :=
  (run (removeTurn getSocketId socket) turns (socketVector, 0)).map fun v => (v, socket)

/-- The turn of the `for` loop of `deleteSockets`, which deletes the entry. -/
def deleteTurn (socketVector : SocketVector S) (i : Nat) : Nat ⊕ Unit :=
  match socketVector[i]? with
  | none => .inr ()
  | some _ => .inl (i + 1)

def deleteSockets (turns : Nat) (socketVector : SocketVector S) : Option (SocketVector S) :=
  (run (deleteTurn socketVector) turns 0).map fun _ => []

/-! ## Calls -/

inductive Op (S : Type)
  | findSocketFor (msg : Option UDPControlInfo)
  | addSocketForMessage (socket : S) (init : Option UDPControlInfo)
  | addSocketForTarget (socket : S) (t : TargetInfo)
  | removeSocket (socket : S)
  | deleteSockets

inductive Reply (S : Type)
  | found (socket : Option S)
  | void
  | removed (socket : S)

/-- A call that fails leaves the vector as it was. -/
def keepOnError (socketVector : SocketVector S) :
    Except Fault (SocketVector S) → Except Fault (Reply S) × SocketVector S
  | .error e => (.error e, socketVector)
  | .ok v => (.ok .void, v)

/-- The reply to a call and the vector after it. -/
def call (turns : Nat) (socketVector : SocketVector S) :
    Op S → Option (Except Fault (Reply S) × SocketVector S)
  | .findSocketFor msg =>
      (findSocketFor turns socketVector msg).map fun r => (r.map .found, socketVector)
  | .addSocketForMessage socket init =>
      (addSocketForMessage turns socketVector socket init).map (keepOnError socketVector)
  | .addSocketForTarget socket t =>
      (addSocketForTarget turns socketVector socket t).map (keepOnError socketVector)
  | .removeSocket socket =>
      (removeSocket getSocketId turns socketVector socket).map fun r => (.ok (.removed r.2), r.1)
  | .deleteSockets => (deleteSockets turns socketVector).map fun v => (.ok .void, v)

/-! ## The map -/

/-- The remote side, under which a socket is found. -/
def remote (info : UDPSocketVectorInfo S) : IPvXAddress × Int := (info.remoteAddr, info.remotePort)

def isRemote (addr : IPvXAddress) (port : Int) (info : UDPSocketVectorInfo S) : Bool :=
  decide (remote info = (addr, port))

def hasId (socket : S) (info : UDPSocketVectorInfo S) : Bool :=
  decide (getSocketId info.socket = getSocketId socket)

/-- What happened to the map: a socket was added, the entry of a remote side was
removed, or all were deleted. -/
inductive Event (S : Type)
  | added (remote : IPvXAddress × Int) (socket : S)
  | removed (remote : IPvXAddress × Int)
  | deleted

/-- The socket last added for a remote side and not removed since; the latest
event comes first. -/
def bound (addr : IPvXAddress) (port : Int) : List (Event S) → Option S
  | [] => none
  | .added r socket :: past => if r = (addr, port) then some socket else bound addr port past
  | .removed r :: past => if r = (addr, port) then none else bound addr port past
  | .deleted :: _ => none

/-- What a call without an error does to the map: `removeSocket` removes the first
entry whose socket has the id. -/
def events (socketVector : SocketVector S) : Op S → List (Event S)
  | .findSocketFor _ => []
  | .addSocketForMessage _ none => []
  | .addSocketForMessage socket (some ctrl) => [.added (ctrl.srcAddr, ctrl.srcPort) socket]
  | .addSocketForTarget socket t => [.added (t.address, t.port) socket]
  | .removeSocket socket =>
      match socketVector.find? (hasId getSocketId socket) with
      | none => []
      | some info => [.removed (remote info)]
  | .deleteSockets => [.deleted]

/-- A call: the vector before it, and the reply unless it does not return. -/
structure Call (S : Type) where
  op : Op S
  before : SocketVector S
  reply : Option (Except Fault (Reply S))

/-- The vector with the last call and the past of the map. -/
structure History (S : Type) where
  socketVector : SocketVector S
  last : Option (Call S)
  past : List (Event S)

def start : History S := ⟨[], none, []⟩

def History.returned (h : History S) : Prop := ∀ c, h.last = some c → c.reply ≠ none

/-- A call is made when the last one has returned. It returns after some number of
turns, or no number is enough. -/
inductive Called (h : History S) (op : Op S) : History S → Prop
  | ok {t : Nat} {reply : Reply S} {v : SocketVector S} :
      h.returned → call getSocketId t h.socketVector op = some (.ok reply, v) →
      Called h op ⟨v, some ⟨op, h.socketVector, some (.ok reply)⟩,
        events getSocketId h.socketVector op ++ h.past⟩
  | error {t : Nat} {e : Fault} {v : SocketVector S} :
      h.returned → call getSocketId t h.socketVector op = some (.error e, v) →
      Called h op ⟨v, some ⟨op, h.socketVector, some (.error e)⟩, h.past⟩
  | hangs : h.returned → (∀ turns, call getSocketId turns h.socketVector op = none) →
      Called h op ⟨h.socketVector, some ⟨op, h.socketVector, none⟩, h.past⟩

/-- Any sequence of calls on a new vector. -/
def system : TSys (History S) (Op S) where
  init h := h = start
  step := Called getSocketId

/-- The first entry with the socket's id is gone and all others stand as before, or
there is none. -/
def RemovesFirst (socket : S) (before after : SocketVector S) : Prop :=
  (∃ front info back, before = front ++ info :: back ∧ hasId getSocketId socket info = true ∧
      (∀ other ∈ front, hasId getSocketId socket other = false) ∧ after = front ++ back) ∨
    ((∀ other ∈ before, hasId getSocketId socket other = false) ∧ after = before)

/-- The vector is a finite map from the remote side to the socket. -/
structure IsMap (h : History S) : Prop where
  returned : h.returned
  unique : (h.socketVector.map remote).Nodup
  find : ∀ ctrl : UDPControlInfo, ∃ turns, findSocketFor turns h.socketVector (some ctrl) =
    some (.ok (bound ctrl.srcAddr ctrl.srcPort h.past))
  remove : ∀ c socket, h.last = some c → c.op = .removeSocket socket →
    c.reply = some (.ok (.removed socket)) ∧
      RemovesFirst getSocketId socket c.before h.socketVector

/-- A socket may be removed from an empty vector, and as long as its id is that of
the first entry. -/
def Removable (h : History S) (op : Op S) : Prop :=
  ∀ socket info, op = .removeSocket socket → h.socketVector.head? = some info →
    hasId getSocketId socket info = true

/-! ## What the calls do -/

section Calls

variable {getSocketId} {v w : SocketVector S} {turns : Nat}

theorem searchTurn_eq_walk (addr : IPvXAddress) (port : Int) :
    searchTurn v addr port = walk v (isRemote addr port) := by
  funext i
  unfold searchTurn walk
  cases v[i]? with
  | none => rfl
  | some info =>
      by_cases haddr : info.remoteAddr = addr
      · by_cases hport : info.remotePort = port
        · simp [isRemote, remote, haddr, hport]
        · simp [isRemote, remote, haddr, hport]
      · simp [isRemote, remote, haddr]

/-- What a search finds. -/
def lookup (addr : IPvXAddress) (port : Int) (v : SocketVector S) : Option S :=
  (v.find? (isRemote addr port)).map fun info => info.socket

theorem findSocketFor_spec (ctrl : UDPControlInfo) :
    ∃ turns, findSocketFor turns v (some ctrl) =
      some (.ok (lookup ctrl.srcAddr ctrl.srcPort v)) := by
  obtain ⟨turns, hrun⟩ := walk_total (l := v) (p := isRemote ctrl.srcAddr ctrl.srcPort)
  refine ⟨turns, ?_⟩
  simp only [findSocketFor, searchTurn_eq_walk, hrun, Option.map_some, lookup,
    List.find?_eq_getElem?_findIdx]
  by_cases hend : v.findIdx (isRemote ctrl.srcAddr ctrl.srcPort) = v.length
  · simp [hend]
  · simp [hend]

/-- `addSocket` appends an entry whose remote side is new, or the assertion fails. -/
theorem addSocketAt_spec {socket : S} {addr : IPvXAddress} {port : Int}
    {r : Except Fault (SocketVector S)} (h : addSocketAt turns v socket addr port = some r) :
    ((∀ info ∈ v, isRemote addr port info = false) ∧ r = .ok (v ++ [⟨socket, addr, port⟩])) ∨
      r = .error .assertion := by
  unfold addSocketAt at h
  rw [searchTurn_eq_walk] at h
  obtain ⟨i, hrun, hr⟩ := Option.map_eq_some_iff.mp h
  rw [walk_run hrun] at hr
  by_cases hend : v.findIdx (isRemote addr port) = v.length
  · rw [if_pos hend] at hr
    exact .inl ⟨List.findIdx_eq_length.mp hend, hr.symm⟩
  · rw [if_neg hend] at hr
    exact .inr hr.symm

theorem addSocketAt_total (v : SocketVector S) (socket : S) (addr : IPvXAddress) (port : Int) :
    ∃ turns, addSocketAt turns v socket addr port ≠ none := by
  obtain ⟨turns, hrun⟩ := walk_total (l := v) (p := isRemote addr port)
  exact ⟨turns, by simp [addSocketAt, searchTurn_eq_walk, hrun]⟩

theorem deleteSockets_total (v : SocketVector S) : ∃ turns, deleteSockets turns v ≠ none := by
  have hless : ∀ i j, deleteTurn v i = .inl j → v.length - j < v.length - i := by
    intro i j hturn
    unfold deleteTurn at hturn
    cases hx : v[i]? with
    | none => simp [hx] at hturn
    | some info =>
        obtain ⟨hi, -⟩ := List.getElem?_eq_some_iff.mp hx
        simp only [hx] at hturn
        obtain rfl : i + 1 = j := Sum.inl.inj hturn
        omega
  obtain ⟨turns, r, hrun⟩ := run_total hless 0
  exact ⟨turns, by simp [deleteSockets, hrun]⟩

theorem removeSocket_nil (socket : S) (turns : Nat) :
    removeSocket getSocketId (turns + 1) [] socket = some ([], socket) := rfl

theorem removeSocket_head {info : UDPSocketVectorInfo S} {socket : S}
    (hid : hasId getSocketId socket info = true) (turns : Nat) :
    removeSocket getSocketId (turns + 1) (info :: v) socket = some (v, socket) := by
  have hid : getSocketId info.socket = getSocketId socket := of_decide_eq_true hid
  simp [removeSocket, run, removeTurn, hid]

/-- The loop stays at the first entry for ever when its id is another one. -/
theorem removeSocket_hangs {info : UDPSocketVectorInfo S} {socket : S}
    (hid : hasId getSocketId socket info = false) (turns : Nat) :
    removeSocket getSocketId turns (info :: v) socket = none := by
  have hne : getSocketId info.socket ≠ getSocketId socket := of_decide_eq_false hid
  have hstays : ∀ s, s = (info :: v, 0) →
      ∃ t, removeTurn getSocketId socket s = .inl t ∧ t = (info :: v, 0) := by
    rintro s rfl
    exact ⟨_, by simp [removeTurn, hne], rfl⟩
  unfold removeSocket
  rw [run_endless hstays rfl, Option.map_none]

end Calls

/-! ## The vector follows the map -/

section Lookup

variable {v : SocketVector S} {addr a : IPvXAddress} {port q : Int}

theorem lookup_cons (info : UDPSocketVectorInfo S) :
    lookup a q (info :: v) = if remote info = (a, q) then some info.socket else lookup a q v := by
  unfold lookup
  rw [List.find?_cons]
  by_cases h : remote info = (a, q)
  · simp [isRemote, h]
  · simp [isRemote, h]

theorem lookup_eq_none (h : (a, q) ∉ v.map remote) : lookup a q v = none := by
  induction v with
  | nil => rfl
  | cons info rest ih =>
      simp only [List.map_cons, List.mem_cons, not_or] at h
      rw [lookup_cons, if_neg (fun heq => h.1 heq.symm)]
      exact ih h.2

theorem notMem_remotes (h : ∀ info ∈ v, isRemote addr port info = false) :
    (addr, port) ∉ v.map remote := by
  intro hmem
  obtain ⟨info, hinfo, heq⟩ := List.mem_map.mp hmem
  exact of_decide_eq_false (h info hinfo) heq

theorem lookup_append (h : (addr, port) ∉ v.map remote) (socket : S) :
    lookup a q (v ++ [⟨socket, addr, port⟩]) =
      if (addr, port) = (a, q) then some socket else lookup a q v := by
  induction v with
  | nil => exact lookup_cons _
  | cons info rest ih =>
      simp only [List.map_cons, List.mem_cons, not_or] at h
      rw [List.cons_append, lookup_cons, lookup_cons, ih h.2]
      by_cases hinfo : remote info = (a, q)
      · rw [if_pos hinfo, if_pos hinfo, if_neg (fun heq => h.1 (heq.trans hinfo.symm))]
      · rw [if_neg hinfo, if_neg hinfo]

end Lookup

/-- The invariant: what was bound and not removed is what a search finds. -/
structure Follows (v : SocketVector S) (past : List (Event S)) : Prop where
  unique : (v.map remote).Nodup
  bound : ∀ addr port, bound addr port past = lookup addr port v

namespace Follows

variable {v : SocketVector S} {past : List (Event S)}

theorem add (h : Follows v past) (socket : S) {addr : IPvXAddress} {port : Int}
    (hnew : ∀ info ∈ v, isRemote addr port info = false) :
    Follows (v ++ [⟨socket, addr, port⟩]) (.added (addr, port) socket :: past) where
  unique := by
    rw [List.map_append]
    refine List.nodup_append.mpr ⟨h.unique, by simp, ?_⟩
    intro r hr r' hr' heq
    obtain rfl : r' = (addr, port) := List.mem_singleton.mp hr'
    exact notMem_remotes hnew (heq ▸ hr)
  bound := by
    intro a q
    rw [UDPSocketVector.bound, lookup_append (notMem_remotes hnew), h.bound]

theorem removeHead {info : UDPSocketVectorInfo S} (h : Follows (info :: v) past) :
    Follows v (.removed (remote info) :: past) where
  unique := (List.nodup_cons.mp h.unique).2
  bound := by
    intro a q
    rw [UDPSocketVector.bound, h.bound, lookup_cons]
    by_cases hinfo : remote info = (a, q)
    · rw [if_pos hinfo]
      exact (lookup_eq_none (hinfo ▸ (List.nodup_cons.mp h.unique).1)).symm
    · rw [if_neg hinfo, if_neg hinfo]

theorem delete : Follows ([] : SocketVector S) (.deleted :: past) where
  unique := List.nodup_nil
  bound := by
    intro a q
    rfl

theorem addSocketAt (h : Follows v past) {turns : Nat} {socket : S} {addr : IPvXAddress}
    {port : Int} {w : SocketVector S}
    (hcall : UDPSocketVector.addSocketAt turns v socket addr port = some (.ok w)) :
    Follows w (.added (addr, port) socket :: past) := by
  rcases addSocketAt_spec hcall with ⟨hnew, hw⟩ | herr
  · cases hw
    exact h.add socket hnew
  · cases herr

end Follows

section Steps

variable {getSocketId} {h : History S} {op : Op S} {turns : Nat}

/-- Only an `addSocket` fails the assertion, and the vector stays as it was. -/
theorem call_error {v w : SocketVector S} {e : Fault}
    (hcall : call getSocketId turns v op = some (.error e, w)) :
    w = v ∧ ∀ socket, op ≠ .removeSocket socket := by
  cases op with
  | findSocketFor msg =>
      obtain ⟨r, -, hr⟩ := Option.map_eq_some_iff.mp hcall
      exact ⟨(congrArg Prod.snd hr).symm, by simp⟩
  | addSocketForMessage socket init =>
      obtain ⟨r, -, hr⟩ := Option.map_eq_some_iff.mp hcall
      cases r with
      | error e' => exact ⟨(congrArg Prod.snd hr).symm, by simp⟩
      | ok v' => exact absurd (congrArg Prod.fst hr) (by simp [keepOnError])
  | addSocketForTarget socket t =>
      obtain ⟨r, -, hr⟩ := Option.map_eq_some_iff.mp hcall
      cases r with
      | error e' => exact ⟨(congrArg Prod.snd hr).symm, by simp⟩
      | ok v' => exact absurd (congrArg Prod.fst hr) (by simp [keepOnError])
  | removeSocket socket =>
      obtain ⟨r, -, hr⟩ := Option.map_eq_some_iff.mp hcall
      exact absurd (congrArg Prod.fst hr) (by simp)
  | deleteSockets =>
      obtain ⟨r, -, hr⟩ := Option.map_eq_some_iff.mp hcall
      exact absurd (congrArg Prod.fst hr) (by simp)

theorem events_removeSocket_cons {info : UDPSocketVectorInfo S} {rest : SocketVector S}
    {socket : S} (hid : hasId getSocketId socket info = true) :
    events getSocketId (info :: rest) (.removeSocket socket) = [.removed (remote info)] := by
  simp [events, hid]

/-- A call that returns without an error, `removeSocket` apart, moves the vector as
the map. -/
theorem Follows.call {v w : SocketVector S} {past : List (Event S)} {reply : Reply S}
    (hf : Follows v past) (hop : ∀ socket, op ≠ .removeSocket socket)
    (hcall : UDPSocketVector.call getSocketId turns v op = some (.ok reply, w)) :
    Follows w (events getSocketId v op ++ past) := by
  cases op with
  | findSocketFor msg =>
      obtain ⟨r, -, hr⟩ := Option.map_eq_some_iff.mp hcall
      obtain rfl : v = w := congrArg Prod.snd hr
      exact hf
  | addSocketForMessage socket init =>
      obtain ⟨r, hadd, hr⟩ := Option.map_eq_some_iff.mp hcall
      cases r with
      | error e => exact absurd (congrArg Prod.fst hr) (by simp [keepOnError])
      | ok v' =>
          obtain rfl : v' = w := congrArg Prod.snd hr
          cases init with
          | none => cases hadd
          | some ctrl => exact hf.addSocketAt hadd
  | addSocketForTarget socket t =>
      obtain ⟨r, hadd, hr⟩ := Option.map_eq_some_iff.mp hcall
      cases r with
      | error e => exact absurd (congrArg Prod.fst hr) (by simp [keepOnError])
      | ok v' =>
          obtain rfl : v' = w := congrArg Prod.snd hr
          exact hf.addSocketAt hadd
  | removeSocket socket => exact absurd rfl (hop socket)
  | deleteSockets =>
      obtain ⟨r, hdelete, hr⟩ := Option.map_eq_some_iff.mp hcall
      obtain rfl : r = w := congrArg Prod.snd hr
      obtain ⟨u, -, rfl⟩ := Option.map_eq_some_iff.mp hdelete
      exact Follows.delete

/-- `removeSocket` on an empty vector or with the first entry's id. -/
theorem Follows.removeSocket {v w : SocketVector S} {past : List (Event S)} {socket : S}
    {reply : Reply S} (hf : Follows v past)
    (hhead : ∀ info, v.head? = some info → hasId getSocketId socket info = true)
    (hcall : UDPSocketVector.call getSocketId turns v (.removeSocket socket) =
      some (.ok reply, w)) :
    Follows w (events getSocketId v (.removeSocket socket) ++ past) ∧
      reply = .removed socket ∧ RemovesFirst getSocketId socket v w := by
  obtain ⟨⟨v', socket'⟩, hremove, hr⟩ := Option.map_eq_some_iff.mp hcall
  cases turns with
  | zero => cases hremove
  | succ turns =>
      cases v with
      | nil =>
          rw [removeSocket_nil] at hremove
          cases hremove
          cases hr
          exact ⟨hf, rfl, .inr ⟨by simp, rfl⟩⟩
      | cons info rest =>
          have hid : hasId getSocketId socket info = true := hhead info rfl
          rw [removeSocket_head hid] at hremove
          cases hremove
          cases hr
          rw [events_removeSocket_cons hid]
          exact ⟨hf.removeHead, rfl, .inl ⟨[], info, _, rfl, hid, by simp, rfl⟩⟩

/-- Every call but `removeSocket` returns. -/
theorem call_total (v : SocketVector S) (hop : ∀ socket, op ≠ .removeSocket socket) :
    ∃ turns, call getSocketId turns v op ≠ none := by
  cases op with
  | findSocketFor msg =>
      cases msg with
      | none => exact ⟨0, by simp [call, findSocketFor]⟩
      | some ctrl =>
          obtain ⟨turns, hfind⟩ := findSocketFor_spec (v := v) ctrl
          exact ⟨turns, by simp [call, hfind]⟩
  | addSocketForMessage socket init =>
      cases init with
      | none => exact ⟨0, by simp [call, addSocketForMessage]⟩
      | some ctrl =>
          obtain ⟨turns, hadd⟩ := addSocketAt_total v socket ctrl.srcAddr ctrl.srcPort
          exact ⟨turns, by simpa [call, addSocketForMessage] using hadd⟩
  | addSocketForTarget socket t =>
      obtain ⟨turns, hadd⟩ := addSocketAt_total v socket t.address t.port
      exact ⟨turns, by simpa [call, addSocketForTarget] using hadd⟩
  | removeSocket socket => exact absurd rfl (hop socket)
  | deleteSockets =>
      obtain ⟨turns, hdelete⟩ := deleteSockets_total v
      exact ⟨turns, by simpa [call] using hdelete⟩

/-- On an empty vector and with the first entry's id, `removeSocket` returns as well. -/
theorem call_total_of_removable (hguard : Removable getSocketId h op) :
    ∃ turns, call getSocketId turns h.socketVector op ≠ none := by
  by_cases hop : ∀ socket, op ≠ .removeSocket socket
  · exact call_total h.socketVector hop
  · push Not at hop
    obtain ⟨socket, rfl⟩ := hop
    refine ⟨1, ?_⟩
    cases hv : h.socketVector with
    | nil => simp [call, removeSocket_nil]
    | cons info rest =>
        have hid : hasId getSocketId socket info = true :=
          hguard socket info rfl (by rw [hv]; rfl)
        simp [call, removeSocket_head hid]

end Steps

/-- The invariant of the runs in which every `removeSocket` is one that returns. -/
structure Sound (h : History S) : Prop where
  returned : h.returned
  follows : Follows h.socketVector h.past
  remove : ∀ c socket, h.last = some c → c.op = .removeSocket socket →
    c.reply = some (.ok (.removed socket)) ∧
      RemovesFirst getSocketId socket c.before h.socketVector

theorem Sound.start : Sound getSocketId (start : History S) where
  returned := by
    intro c hc
    cases hc
  follows := ⟨List.nodup_nil, fun _ _ => rfl⟩
  remove := by
    intro c socket hc
    cases hc

theorem Sound.isMap {h : History S} (hs : Sound getSocketId h) : IsMap getSocketId h where
  returned := hs.returned
  unique := hs.follows.unique
  find := by
    intro ctrl
    rw [hs.follows.bound]
    exact findSocketFor_spec ctrl
  remove := hs.remove

/-- One call from a sound history. -/
theorem Sound.called {h h' : History S} {op : Op S} (hs : Sound getSocketId h)
    (hguard : Removable getSocketId h op) (hstep : Called getSocketId h op h') :
    Sound getSocketId h' := by
  cases hstep with
  | error hret hcall =>
      obtain ⟨rfl, hop⟩ := call_error hcall
      refine ⟨?_, hs.follows, ?_⟩
      · intro c hc
        cases hc
        simp
      · intro c socket hc heq
        cases hc
        exact absurd heq (hop socket)
  | hangs hret hnone =>
      -- what is removable is found, so the loop ends
      obtain ⟨turns, hsome⟩ := call_total_of_removable hguard
      exact absurd (hnone turns) hsome
  | @ok t reply v hret hcall =>
      have hreturned : History.returned ⟨v, some ⟨op, h.socketVector, some (.ok reply)⟩,
          events getSocketId h.socketVector op ++ h.past⟩ := by
        intro c hc
        cases hc
        simp
      by_cases hop : ∀ socket, op ≠ .removeSocket socket
      · refine ⟨hreturned, hs.follows.call hop hcall, ?_⟩
        intro c socket hc heq
        cases hc
        exact absurd heq (hop socket)
      · push Not at hop
        obtain ⟨socket, rfl⟩ := hop
        obtain ⟨hfollows, rfl, hfirst⟩ :=
          hs.follows.removeSocket (fun info hinfo => hguard socket info rfl hinfo) hcall
        refine ⟨hreturned, hfollows, ?_⟩
        intro c socket' hc heq
        cases hc
        cases heq
        exact ⟨rfl, hfirst⟩

/-- A call that is not removable never returns. -/
theorem Called.hangs_of_not_removable {h h' : History S} {op : Op S}
    (hguard : ¬ Removable getSocketId h op) (hstep : Called getSocketId h op h') :
    ¬ h'.returned := by
  have hnone : ∀ turns, call getSocketId turns h.socketVector op = none := by
    intro turns
    unfold Removable at hguard
    push Not at hguard
    obtain ⟨socket, info, rfl, hhead, hid⟩ := hguard
    obtain ⟨rest, hv⟩ := List.head?_eq_some_iff.mp hhead
    simp [call, hv, removeSocket_hangs (Bool.eq_false_iff.mpr hid)]
  cases hstep with
  | ok hret hcall =>
      rw [hnone] at hcall
      cases hcall
  | error hret hcall =>
      rw [hnone] at hcall
      cases hcall
  | hangs hret _ =>
      intro hret'
      exact hret' _ rfl rfl

/-- The vector is a map all along a run just when every socket that is removed has
the id of the first entry, or the vector is empty. -/
theorem always_isMap_iff {tr : List (Op S × History S)}
    (hrun : (system getSocketId).Run start tr) :
    TSys.Always (IsMap getSocketId) start tr ↔
      TSys.Guarded (Removable getSocketId) start tr := by
  refine hrun.always_iff_guarded_of (J := Sound getSocketId) ?_ ?_ ?_ (Sound.start getSocketId)
  · intro h hs
    exact hs.isMap
  · intro h op h' hs hguard hstep
    exact hs.called getSocketId hguard hstep
  · intro h op h' _ hguard hstep hmap
    exact hstep.hangs_of_not_removable getSocketId hguard hmap.returned

/-- Sockets are their ids: socket 1 is added and removed. -/
def firstOut : List (Op Int × History Int) :=
  [(.addSocketForTarget 1 ⟨10, 80⟩,
      ⟨[⟨1, 10, 80⟩], some ⟨.addSocketForTarget 1 ⟨10, 80⟩, [], some (.ok .void)⟩,
        [.added (10, 80) 1]⟩),
   (.removeSocket 1,
      ⟨[], some ⟨.removeSocket 1, [⟨1, 10, 80⟩], some (.ok (.removed 1))⟩,
        [.removed (10, 80), .added (10, 80) 1]⟩)]

theorem always_isMap_firstOut : TSys.Always (IsMap fun socket : Int => socket) start firstOut := by
  have hrun : (system fun socket : Int => socket).Run start firstOut := by
    refine ⟨?_, ?_, trivial⟩
    · exact Called.ok (t := 1) (by simp [History.returned, start]) rfl
    · exact Called.ok (t := 1) (by simp [History.returned]) rfl
  refine (always_isMap_iff _ hrun).mpr ⟨?_, ?_, trivial⟩
  · intro socket info hop
    cases hop
  · intro socket info hop hhead
    cases hop
    cases hhead
    rfl

/-- Sockets 1 and 2 are added, and socket 2 is to be removed. -/
def secondOut : List (Op Int × History Int) :=
  [(.addSocketForTarget 1 ⟨10, 80⟩,
      ⟨[⟨1, 10, 80⟩], some ⟨.addSocketForTarget 1 ⟨10, 80⟩, [], some (.ok .void)⟩,
        [.added (10, 80) 1]⟩),
   (.addSocketForTarget 2 ⟨11, 80⟩,
      ⟨[⟨1, 10, 80⟩, ⟨2, 11, 80⟩],
        some ⟨.addSocketForTarget 2 ⟨11, 80⟩, [⟨1, 10, 80⟩], some (.ok .void)⟩,
        [.added (11, 80) 2, .added (10, 80) 1]⟩),
   (.removeSocket 2,
      ⟨[⟨1, 10, 80⟩, ⟨2, 11, 80⟩],
        some ⟨.removeSocket 2, [⟨1, 10, 80⟩, ⟨2, 11, 80⟩], none⟩,
        [.added (11, 80) 2, .added (10, 80) 1]⟩)]

theorem not_always_isMap_secondOut :
    (system fun socket : Int => socket).Run start secondOut ∧
      ¬ TSys.Always (IsMap fun socket : Int => socket) start secondOut := by
  constructor
  · refine ⟨?_, ?_, ?_, trivial⟩
    · exact Called.ok (t := 1) (by simp [History.returned, start]) rfl
    · exact Called.ok (t := 2) (by simp [History.returned]) rfl
    · refine Called.hangs (by simp [History.returned]) ?_
      intro turns
      have hne : hasId (fun socket : Int => socket) 2 ⟨1, 10, 80⟩ = false := by decide
      simp [call, removeSocket_hangs hne]
  · intro hmap
    exact hmap.last.returned _ rfl rfl

end UDPSocketVector

end ScadaSim.UdpApp
