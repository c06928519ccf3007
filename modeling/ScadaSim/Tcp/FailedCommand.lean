import ScadaSim.Tcp.Limit

/-!
# Commands that fail

The first command of a socket creates its connection, which is in the application map
before INET's `processAppCommand` is asked. `undone_iff` says for which commands a
failure leaves nothing of it there. An exception is caught and printed, and that is all.
-/

namespace ScadaSim.Tcp

/-- How `processAppCommand` can end. -/
inductive CommandResult
  | returned (ret : Bool)
  | threw
  deriving DecidableEq

/-- INET's `processAppCommand` for a message to the connection at `p`: how it ends, and
the module it leaves. -/
abbrev ProcessAppCommand (Message : Type) :=
  Message → TCP_hack → ConnPtr → CommandResult × TCP_hack

/-- The entries of the application map are made and erased by the module, and a
connection keeps the key that it was created with. -/
structure KeepsAppConnMap {Message : Type} (processAppCommand : ProcessAppCommand Message) :
    Prop where
  tcpAppConnMap : ∀ msg tcp p,
    (processAppCommand msg tcp p).2.tcpAppConnMap = tcp.tcpAppConnMap
  key : ∀ msg tcp p, ((processAppCommand msg tcp p).2.conn p).key = (tcp.conn p).key

namespace TCP_hack

/-- How the message for `key` ends. -/
def commandResult {Message : Type} (processAppCommand : ProcessAppCommand Message)
    (tcp : TCP_hack) (key : AppConnKey) (q : ConnPtr) (msg : Message) : CommandResult :=
  (processAppCommand msg (tcp.findOrCreate key q).2 (tcp.findOrCreate key q).1).1

/-- `handleMessage` for a message on `appIn`; a connection that has to be created gets
the address `q`. -/
def handleMessage {Message : Type} (inet : InetTcp)
    (processAppCommand : ProcessAppCommand Message) (tcp : TCP_hack) (key : AppConnKey)
    (q : ConnPtr) (msg : Message) : TCP_hack :=
  let (conn, tcp) := tcp.findOrCreate key q
  match processAppCommand msg tcp conn with
  | (.returned ret, tcp) => if !ret then tcp.removeConnection inet conn else tcp
  | (.threw, tcp) => tcp

/-- The failed command has left nothing in the application map: after an exception the
map is as before, and the key leads to a connection only by a command that was carried
out, or if it did so before. -/
structure Undone (key : AppConnKey) (result : CommandResult) (tcp tcp' : TCP_hack) : Prop where
  threw : result = .threw → tcp'.tcpAppConnMap = tcp.tcpAppConnMap
  registered : ∀ p, tcp'.tcpAppConnMap key = some p →
    result = .returned true ∨ tcp.tcpAppConnMap key = some p

section Message

variable {Message : Type} {processAppCommand : ProcessAppCommand Message}

/-- A connection that was there: its entry stays, or is erased. -/
theorem handleMessage_of_some (inet : InetTcp) (hinet : KeepsAppConnMap processAppCommand)
    {tcp : TCP_hack} {key : AppConnKey} {p : ConnPtr} (hkey : tcp.tcpAppConnMap key = some p)
    (q : ConnPtr) (msg : Message) :
    Undone key (commandResult processAppCommand tcp key q msg) tcp
      (tcp.handleMessage inet processAppCommand key q msg) := by
  have hmap := hinet.tcpAppConnMap msg tcp p
  simp only [commandResult, handleMessage, findOrCreate_of_some hkey]
  rcases hresult : processAppCommand msg tcp p with ⟨result, tcp'⟩
  rw [hresult] at hmap
  dsimp only at hmap
  cases result with
  | threw =>
      refine ⟨fun _ => hmap, ?_⟩
      intro r hr
      exact .inr (hmap ▸ hr)
  | returned ret =>
      refine ⟨nofun, ?_⟩
      cases ret with
      | true => exact fun r _ => .inl rfl
      | false =>
          intro r hr
          -- the entry that is erased may be another one
          by_cases hown : key = (tcp'.conn p).key
          · rw [hown] at hr
            simp [removeConnection, inet.removeConnection_self] at hr
          · simp only [removeConnection, Bool.not_false, if_true,
              inet.removeConnection_of_ne _ _ _ hown] at hr
            exact .inr (hmap ▸ hr)

/-- A connection that the command created: it is in the map until it is removed. -/
theorem handleMessage_of_none (inet : InetTcp) (hinet : KeepsAppConnMap processAppCommand)
    {tcp : TCP_hack} {key : AppConnKey} (hkey : tcp.tcpAppConnMap key = none) (q : ConnPtr)
    (msg : Message) :
    (tcp.handleMessage inet processAppCommand key q msg).tcpAppConnMap key =
      if commandResult processAppCommand tcp key q msg = .returned false then none
      else some q := by
  have hmap := hinet.tcpAppConnMap msg (tcp.createConnection q key) q
  have hconn := hinet.key msg (tcp.createConnection q key) q
  have hentry : (tcp.createConnection q key).tcpAppConnMap key = some q :=
    Function.update_self ..
  have hnew : ((tcp.createConnection q key).conn q).key = key := by
    rw [createConnection_conn]
    rfl
  simp only [commandResult, handleMessage, findOrCreate_of_none hkey]
  rcases hresult : processAppCommand msg (tcp.createConnection q key) q with ⟨result, tcp'⟩
  rw [hresult] at hmap hconn
  dsimp only at hmap hconn
  rw [hnew] at hconn
  cases result with
  | threw => simp [hmap, hentry]
  | returned ret =>
      cases ret with
      | true => simp [hmap, hentry]
      | false => simp [removeConnection, hconn, inet.removeConnection_self]

/-- A failing command is undone, unless it throws and its connection was created for
it. -/
theorem undone_iff (inet : InetTcp) (hinet : KeepsAppConnMap processAppCommand) (tcp : TCP_hack)
    (key : AppConnKey) (q : ConnPtr) (msg : Message) :
    Undone key (commandResult processAppCommand tcp key q msg) tcp
        (tcp.handleMessage inet processAppCommand key q msg) ↔
      ¬ (commandResult processAppCommand tcp key q msg = .threw ∧
        tcp.tcpAppConnMap key = none) := by
  cases hkey : tcp.tcpAppConnMap key with
  | some p => simp [handleMessage_of_some inet hinet hkey q msg]
  | none =>
      have hafter := handleMessage_of_none inet hinet hkey q msg
      constructor
      · rintro hundone ⟨hthrew, -⟩
        rw [hundone.threw hthrew, hkey, hthrew] at hafter
        simp at hafter
      · intro hkept
        refine ⟨fun hthrew => absurd ⟨hthrew, rfl⟩ hkept, ?_⟩
        intro r hr
        rw [hafter] at hr
        cases hresult : commandResult processAppCommand tcp key q msg with
        | threw => exact absurd ⟨hresult, rfl⟩ hkept
        | returned ret =>
            cases ret with
            | true => exact .inl rfl
            | false => simp [hresult] at hr

end Message

/-! ### A command that throws -/

/-- A command on the module as it is: `none` throws. -/
def plainCommand : ProcessAppCommand (Option Bool) :=
  fun msg tcp _ =>
    match msg with
    | some ret => (.returned ret, tcp)
    | none => (.threw, tcp)

theorem plainCommand_keeps : KeepsAppConnMap plainCommand where
  tcpAppConnMap msg _ _ := by cases msg <;> rfl
  key msg _ _ := by cases msg <;> rfl

/-- A command that INET rejects takes its connection with it. -/
theorem undone_rejected :
    Undone ⟨0, 7⟩ (commandResult plainCommand (initializeModule 10) ⟨0, 7⟩ 1 (some false))
      (initializeModule 10)
      ((initializeModule 10).handleMessage plainInet plainCommand ⟨0, 7⟩ 1 (some false)) :=
  (undone_iff plainInet plainCommand_keeps (initializeModule 10) ⟨0, 7⟩ 1 (some false)).mpr (by
    intro h
    cases h.1)

/-- The command throws, and its connection stays in the map, where there was none. -/
theorem not_undone_thrown :
    commandResult plainCommand (initializeModule 10) ⟨0, 7⟩ 1 none = .threw ∧
      ((initializeModule 10).handleMessage plainInet plainCommand ⟨0, 7⟩ 1 none).tcpAppConnMap
        ⟨0, 7⟩ = some 1 ∧
      ¬ Undone ⟨0, 7⟩ (commandResult plainCommand (initializeModule 10) ⟨0, 7⟩ 1 none)
        (initializeModule 10)
        ((initializeModule 10).handleMessage plainInet plainCommand ⟨0, 7⟩ 1 none) := by
  refine ⟨rfl, rfl, ?_⟩
  intro h
  have hentry : some 1 = none := congrFun (h.threw rfl) ⟨0, 7⟩
  cases hentry

/-! ### The commands of the connection system -/

/-- `processAppCommand` as `handleAppCommand` has it: it leaves the connection as `c`,
and returns whether the event keeps it alive. -/
def commandOf (c : TCPConnection_hack) : ProcessAppCommand (Option TCPEventCode) :=
  fun outcome tcp p =>
    match outcome with
    | some event =>
        let (c', alive) := c.performStateTransition event
        (.returned alive, tcp.set p (if alive then c' else c))
    | none => (.threw, tcp.set p c)

/-- A command of the connection system is a message on `appIn`. -/
theorem handleAppCommand_eq_handleMessage (inet : InetTcp) (tcp : TCP_hack) (key : AppConnKey)
    (q : ConnPtr) (c : TCPConnection_hack) (outcome : Option TCPEventCode) :
    tcp.handleAppCommand inet key q c outcome =
      tcp.handleMessage inet (commandOf c) key q outcome := by
  cases outcome with
  | none => rfl
  | some event =>
      simp only [handleAppCommand, handleMessage, commandOf, applyEvent, set_conn]
      by_cases halive : (c.performStateTransition event).2 = true
      · simp [halive, set]
      · simp [halive]

end TCP_hack

end ScadaSim.Tcp
