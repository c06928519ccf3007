import ScadaSim.Lib.History
import ScadaSim.TcpApp.ClientThread
import ScadaSim.TcpApp.ServerThread

/-!
# What the logs of a session say

`ClientCond` and `ServerCond` are the conditions on each event of the two logs.
`ClientBooks` and `ServerBooks` tie a log to the state of the thread: how many
requests are left, and which reply is outstanding.
-/

namespace ScadaSim.TcpApp

open Lib

def Event.sentMsg : Event → Option GenericApplicationMessage
  | .sent m => some m
  | _ => none

def Event.arrivedMsg : Event → Option GenericApplicationMessage
  | .arrived m => some m
  | _ => none

def sentIn (log : List Event) : List GenericApplicationMessage := log.filterMap Event.sentMsg

def arrivedIn (log : List Event) : List GenericApplicationMessage :=
  log.filterMap Event.arrivedMsg

/-- The replies to the requests that ask for one. -/
def owedIn (log : List Event) : List GenericApplicationMessage :=
  ((arrivedIn log).filter (·.replyLength ≠ 0)).map GenericApplicationMessage.reply

/-- A request is sent after the replies to all requests before it, as one of the
first `max 1 N`, and flagged as the last one when it is; `noRequestsToSend` is
positive when it is decremented. -/
def ClientCond (N : Nat) (past : List Event) : Event → Prop
  | .sent m => arrivedIn past = (sentIn past).map GenericApplicationMessage.reply ∧
      (sentIn past).length < max 1 N ∧
      (m.last = true ↔ (sentIn past).length + 1 = max 1 N)
  | .decremented noRequestsToSend => 0 < noRequestsToSend
  | .arrived _ => True
  | .closed => True

/-- The server closes after it has sent the replies to all requests that ask for
one. -/
def ServerCond (past : List Event) : Event → Prop
  | .closed => sentIn past = owedIn past
  | .sent _ => True
  | .arrived _ => True
  | .decremented _ => True

/-- The log of a client with `n` requests left that waits for the reply to
`outstanding`. -/
structure ClientBooks (N : Nat) (log : List Event) (n : Nat)
    (outstanding : Option GenericApplicationMessage) : Prop where
  safe : Each (ClientCond N) log
  requests : (sentIn log).length + n = max 1 N
  replies : (sentIn log).map GenericApplicationMessage.reply =
    arrivedIn log ++ outstanding.toList.map GenericApplicationMessage.reply
  sent : ∀ m ∈ outstanding, m ∈ sentIn log
  replied : ∀ m ∈ sentIn log, m.replyLength = 0 → outstanding = some m

/-- The log of a server that has still to send the replies `owing`. -/
structure ServerBooks (log : List Event) (owing : List GenericApplicationMessage) : Prop where
  safe : Each ServerCond log
  replies : owedIn log = sentIn log ++ owing

section

variable {log : List Event} {m : GenericApplicationMessage}

@[simp] theorem sentIn_append (l : List Event) : sentIn (log ++ l) = sentIn log ++ sentIn l :=
  List.filterMap_append

@[simp] theorem sentIn_singleton (e : Event) : sentIn [e] = e.sentMsg.toList := by
  cases e <;> rfl

@[simp] theorem arrivedIn_append (l : List Event) :
    arrivedIn (log ++ l) = arrivedIn log ++ arrivedIn l :=
  List.filterMap_append

@[simp] theorem arrivedIn_singleton (e : Event) : arrivedIn [e] = e.arrivedMsg.toList := by
  cases e <;> rfl

theorem owedIn_concat (e : Event) :
    owedIn (log ++ [e]) = owedIn log ++
      ((e.arrivedMsg.toList).filter (·.replyLength ≠ 0)).map GenericApplicationMessage.reply := by
  simp [owedIn]

/-! ## The client -/

theorem clientBooks_nil (N : Nat) : ClientBooks N [] (max 1 N) none :=
  ⟨each_nil, Nat.zero_add _, rfl, (fun m hm => by cases hm), fun m hm => by cases hm⟩

variable {N n : Nat}

/-- `sendRequest`, with all replies in. -/
theorem ClientBooks.send (h : ClientBooks N log (n + 1) none) (hlast : m.last = decide (n = 0)) :
    ClientBooks N ((log ++ [.decremented (n + 1)]) ++ [.sent m]) n (some m) := by
  have hrequests := h.requests
  -- a decrement is neither a request nor a reply
  have hsent : sentIn (log ++ [.decremented (n + 1)]) = sentIn log := by
    rw [sentIn_append]
    exact List.append_nil _
  have harrived : arrivedIn (log ++ [.decremented (n + 1)]) = arrivedIn log := by
    rw [arrivedIn_append]
    exact List.append_nil _
  have hreplies : (sentIn log).map GenericApplicationMessage.reply = arrivedIn log := by
    simpa using h.replies
  refine ⟨?_, ?_, ?_, ?_, ?_⟩
  · -- two events: the decrement, from a positive value, and the request
    rw [each_concat, each_concat]
    refine ⟨⟨h.safe, Nat.succ_pos n⟩, ?_⟩
    show arrivedIn (log ++ [.decremented (n + 1)]) = _ ∧ _ ∧ _
    rw [hsent, harrived, hlast, decide_eq_true_iff]
    refine ⟨hreplies.symm, ?_, ?_⟩
    · omega
    · omega
  · rw [sentIn_append, hsent, List.length_append]
    show (sentIn log).length + 1 + n = max 1 N
    omega
  · rw [sentIn_append, arrivedIn_append, hsent, harrived, List.map_append, hreplies]
    exact congrArg (· ++ _) (List.append_nil _).symm
  · intro m' hm'
    cases hm'
    rw [sentIn_append]
    exact List.mem_append_right _ (List.mem_singleton.mpr rfl)
  · intro m' hm' hzero
    rw [sentIn_append, hsent] at hm'
    rcases List.mem_append.mp hm' with hm' | hm'
    · exact absurd (h.replied m' hm' hzero) (by simp)
    · rw [List.mem_singleton.mp hm']

/-- `socketDataArrived`, with the reply that is outstanding. -/
theorem ClientBooks.arrive (h : ClientBooks N log n (some m)) (hne : m.replyLength ≠ 0) :
    ClientBooks N (log ++ [.arrived m.reply]) n none := by
  refine ⟨?_, ?_, ?_, ?_, ?_⟩
  · rw [each_concat]
    exact ⟨h.safe, trivial⟩
  · simpa [Event.sentMsg] using h.requests
  · simpa [Event.sentMsg, Event.arrivedMsg] using h.replies
  · intro m' hm'
    cases hm'
  · intro m' hm' hzero
    have hm' : m' ∈ sentIn log := by simpa [Event.sentMsg] using hm'
    have hsome := h.replied m' hm' hzero
    cases hsome
    exact absurd hzero hne

theorem ClientBooks.close (h : ClientBooks N log n none) :
    ClientBooks N (log ++ [.closed]) n none := by
  refine ⟨?_, ?_, ?_, ?_, ?_⟩
  · rw [each_concat]
    exact ⟨h.safe, trivial⟩
  · simpa [Event.sentMsg] using h.requests
  · simpa [Event.sentMsg, Event.arrivedMsg] using h.replies
  · intro m' hm'
    cases hm'
  · simpa [Event.sentMsg] using h.replied

/-! ## The server -/

theorem serverBooks_nil : ServerBooks [] [] := ⟨each_nil, rfl⟩

theorem ServerBooks.arrive (h : ServerBooks log []) (m : GenericApplicationMessage) :
    ServerBooks (log ++ [.arrived m]) (if m.replyLength = 0 then [] else [m.reply]) := by
  refine ⟨?_, ?_⟩
  · rw [each_concat]
    exact ⟨h.safe, trivial⟩
  · rw [owedIn_concat, h.replies]
    by_cases hzero : m.replyLength = 0
    · simp [Event.arrivedMsg, Event.sentMsg, hzero]
    · simp [Event.arrivedMsg, Event.sentMsg, hzero]

theorem ServerBooks.send (h : ServerBooks log [m]) : ServerBooks (log ++ [.sent m]) [] := by
  refine ⟨?_, ?_⟩
  · rw [each_concat]
    exact ⟨h.safe, trivial⟩
  · rw [owedIn_concat, h.replies]
    simp [Event.arrivedMsg, Event.sentMsg]

theorem ServerBooks.close (h : ServerBooks log []) : ServerBooks (log ++ [.closed]) [] := by
  have hall : sentIn log = owedIn log := by simpa using h.replies.symm
  refine ⟨?_, ?_⟩
  · -- nothing is owed any more, which is the condition on `closed`
    rw [each_concat]
    exact ⟨h.safe, hall⟩
  · rw [owedIn_concat, h.replies]
    simp [Event.arrivedMsg, Event.sentMsg]

end

end ScadaSim.TcpApp
