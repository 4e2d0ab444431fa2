import ManagementServer.Proofs.ModuleRegistry
import ManagementServer.Proofs.SessionRegistry
import ManagementServer.Server.Shared

/-!
# What the threads share, through their steps

`Shared.Persists` is what every step but four does to the shared state: no session is registered, no
connection opened or forgotten, no socket made. Under `Shared.Follows` no answer is written either.
-/

namespace ManagementServer.Event

/-- A delivery stays where it is, and its gate is not opened. -/
structure Delivery.Stays (d d' : Delivery) : Prop where
  stage : d'.stage = d.stage
  socket : d'.socket = d.socket
  gate : d'.gate = d.gate ∨ d'.gate = .dropped

end ManagementServer.Event

namespace ManagementServer.Server

open ManagementServer.Action (Keeps Preserves)
open Session (DeliveryRef)

namespace Shared

variable {μ α : Type}

/-- The open connections, each with its socket. -/
def carriers (s : Shared μ) : List (ConnectionId × SocketId) :=
  s.table.links.map fun link => (link.id, link.socket)

/-- The messages on a socket that are no notifications. -/
def answersOf (socket : Connection.Socket) : List Protocol.ServerMessage :=
  socket.outgoing.filter (!·.isNotification)

/-- What has been answered over a socket. -/
def answers (s : Shared μ) (id : SocketId) : List Protocol.ServerMessage :=
  answersOf (s.socket id)

/-- Nothing is added to the sessions, the connections, and the sockets. -/
structure Persists (s s' : Shared μ) : Prop where
  sessions : s.sessions.Narrows s'.sessions
  carriers : s'.carriers = s.carriers
  nextId : s'.table.nextId = s.table.nextId
  sockets : s'.sockets.length = s.sockets.length

/-- Nothing is answered either. -/
structure Follows (s s' : Shared μ) : Prop extends Persists s s' where
  answers : ∀ id, s'.answers id = s.answers id

instance : Std.Refl (Persists (μ := μ)) :=
  ⟨fun s => ⟨Std.Refl.refl s.sessions, rfl, rfl, rfl⟩⟩

instance : IsTrans (Shared μ) Persists :=
  ⟨fun _ _ _ h h' => ⟨IsTrans.trans _ _ _ h.sessions h'.sessions, h'.carriers.trans h.carriers,
    h'.nextId.trans h.nextId, h'.sockets.trans h.sockets⟩⟩

instance : Std.Refl (Follows (μ := μ)) :=
  ⟨fun s => ⟨Std.Refl.refl s, fun _ => rfl⟩⟩

instance : IsTrans (Shared μ) Follows :=
  ⟨fun _ _ _ h h' => ⟨IsTrans.trans _ _ _ h.toPersists h'.toPersists,
    fun id => (h'.answers id).trans (h.answers id)⟩⟩

/-! ## Changes of one part -/

lemma follows_of_same {s s' : Shared μ} (hs : s'.sessions = s.sessions) (ht : s'.table = s.table)
    (hk : s'.sockets = s.sockets) : Follows s s' := by
  refine ⟨⟨?_, ?_, ?_, ?_⟩, ?_⟩
  · rw [hs]
    exact Std.Refl.refl _
  · rw [carriers, ht, carriers]
  · rw [ht]
  · rw [hk]
  · intro id
    rw [answers, socket, hk, answers, socket]

lemma follows_sessions (s : Shared μ) {sessions : Session.Registry}
    (h : s.sessions.Narrows sessions) : Follows s { s with sessions } :=
  ⟨⟨h, rfl, rfl, rfl⟩, fun _ => rfl⟩

lemma follows_table (s : Shared μ) {table : Connection.Table}
    (hc : (table.links.map fun link => (link.id, link.socket)) = s.carriers)
    (hn : table.nextId = s.table.nextId) : Follows s { s with table } :=
  ⟨⟨Std.Refl.refl s.sessions, hc, hn, rfl⟩, fun _ => rfl⟩

lemma follows_flag (s : Shared μ) (id : ConnectionId) :
    Follows s { s with table := s.table.flag id } := by
  refine follows_table s ?_ rfl
  rw [Connection.Table.flag, List.map_map, carriers]
  refine List.map_congr_left fun link _ => ?_
  simp only [Function.comp]
  split <;> rfl

lemma follows_flagAll (s : Shared μ) : Follows s { s with table := s.table.flagAll } := by
  refine follows_table s ?_ rfl
  rw [Connection.Table.flagAll, List.map_map, carriers]
  rfl

lemma socket_modify (s : Shared μ) (id other : SocketId)
    (f : Connection.Socket → Connection.Socket) :
    socket other { s with sockets := s.sockets.modify id.number f } =
      if id = other ∧ id.number < s.sockets.length then f (s.socket other)
      else s.socket other := by
  unfold socket
  simp only [List.getElem?_modify]
  by_cases h : id = other
  · subst h
    by_cases hl : id.number < s.sockets.length
    · simp [hl]
    · simp [hl]
  · have hn : id.number ≠ other.number := by
      intro he
      exact h (by cases id; cases other; simpa using he)
    simp [h, hn]

lemma follows_socket (s : Shared μ) (id : SocketId) (f : Connection.Socket → Connection.Socket)
    (hf : ∀ k, answersOf (f k) = answersOf k) :
    Follows s { s with sockets := s.sockets.modify id.number f } := by
  refine ⟨⟨Std.Refl.refl s.sessions, rfl, rfl, List.length_modify _ _ _⟩, ?_⟩
  intro other
  rw [answers, socket_modify]
  split
  · exact hf _
  · rfl

/-! ## Actions -/

lemma keeps_onModules (x : Action (Device.Registry μ) α) : Keeps Follows (onModules x) :=
  fun _ => follows_of_same rfl rfl rfl

lemma keeps_changeBus (f : Event.Bus → Event.Bus) :
    Keeps Follows (changeBus f : Action (Shared μ) Unit) :=
  fun _ => follows_of_same rfl rfl rfl

lemma keeps_changeDelivery (ref : DeliveryRef) (f : Event.Delivery → Event.Delivery) :
    Keeps Follows (changeDelivery ref f : Action (Shared μ) Unit) :=
  fun _ => follows_of_same rfl rfl rfl

lemma keeps_setGate (ref : DeliveryRef) (gate : Event.Gate) :
    Keeps Follows (setGate ref gate : Action (Shared μ) Unit) :=
  keeps_changeDelivery _ _

lemma keeps_changeSessions {f : Session.Registry → Session.Registry × α}
    (hf : ∀ r : Session.Registry, r.Narrows (f r).1) :
    Keeps Follows (changeSessions f : Action (Shared μ) α) :=
  fun s => follows_sessions s (hf s.sessions)

lemma keeps_changeSocket (id : SocketId) {f : Connection.Socket → Connection.Socket}
    (hf : ∀ k, answersOf (f k) = answersOf k) :
    Keeps Follows (changeSocket id f : Action (Shared μ) Unit) :=
  fun s => follows_socket s id f hf

lemma keeps_shut (id : SocketId) : Keeps Follows (shut id : Action (Shared μ) Unit) :=
  keeps_changeSocket id fun _ => rfl

lemma read_outgoing (k : Connection.Socket) (size : Nat) :
    (k.read size).1.outgoing = k.outgoing := by
  unfold Connection.Socket.read
  split
  · rfl
  · split
    · rfl
    · split <;> rfl

lemma keeps_read (id : SocketId) (size : Nat) :
    Keeps Follows (read id size : Action (Shared μ) Connection.Reading) := by
  intro s
  have hstate : (read id size s).state =
      { s with sockets := s.sockets.modify id.number fun _ => ((s.socket id).read size).1 } := rfl
  rw [hstate]
  refine ⟨⟨Std.Refl.refl s.sessions, rfl, rfl, List.length_modify _ _ _⟩, ?_⟩
  intro other
  rw [answers, socket_modify]
  split
  · rename_i h
    rw [answersOf, read_outgoing, h.1]
    rfl
  · rfl

lemma follows_shutAll (links : List Connection.Link) (s : Shared μ) :
    Follows s
      { s with
        sockets := links.foldl
          (fun acc link => acc.modify link.socket.number fun k => { k with isShut := true })
          s.sockets } := by
  induction links generalizing s with
  | nil => exact Std.Refl.refl s
  | cons link rest ih => exact IsTrans.trans _ _ _ (keeps_shut link.socket s) (ih _)

lemma keeps_closeAllConnections : Keeps Follows (closeAllConnections : Action (Shared μ) Nat) := by
  refine Keeps.bind (Keeps.view _) fun links => Keeps.bind (fun s => ?_) fun _ => Keeps.pure _
  exact IsTrans.trans _ _ _ (follows_flagAll s)
    (follows_shutAll links { s with table := s.table.flagAll })

/-! ## Writing -/

/-- The effect of a write that succeeds. -/
def append (id : SocketId) (message : Protocol.ServerMessage) (s : Shared μ) : Shared μ :=
  { s with sockets := s.sockets.modify id.number fun k =>
      { k with outgoing := k.outgoing ++ [message] } }

lemma write_of_none {s : Shared μ} {id : SocketId} (message : Protocol.ServerMessage)
    (h : (s.socket id).writeFault? = none) :
    write id message s = ⟨.ok (), s.append id message, []⟩ := by
  simp [write, h, append, changeSocket]

lemma write_of_some {s : Shared μ} {id : SocketId} (message : Protocol.ServerMessage)
    {detail : String} (h : (s.socket id).writeFault? = some detail) :
    write id message s = ⟨.error (.io detail), s, []⟩ := by
  simp [write, h]

lemma persists_append (s : Shared μ) (id : SocketId) (message : Protocol.ServerMessage) :
    Persists s (s.append id message) :=
  ⟨Std.Refl.refl s.sessions, rfl, rfl, List.length_modify _ _ _⟩

lemma answers_append_of_ne (s : Shared μ) {id other : SocketId} (message : Protocol.ServerMessage)
    (h : id ≠ other) : (s.append id message).answers other = s.answers other := by
  rw [answers, append, socket_modify, if_neg fun hc => h hc.1, answers]

lemma answers_append_self {s : Shared μ} {id : SocketId} {message : Protocol.ServerMessage}
    (hm : message.isNotification = false) (h : id.number < s.sockets.length) :
    (s.append id message).answers id = s.answers id ++ [message] := by
  rw [answers, append, socket_modify, if_pos ⟨rfl, h⟩, answersOf, List.filter_append, answers,
    answersOf]
  simp [hm]

lemma follows_append {s : Shared μ} (id : SocketId) {message : Protocol.ServerMessage}
    (hm : message.isNotification = true) : Follows s (s.append id message) :=
  follows_socket s id _ fun k => by simp [answersOf, List.filter_append, hm]

lemma keeps_write (id : SocketId) (message : Protocol.ServerMessage) :
    Keeps Persists (write id message : Action (Shared μ) _) := by
  intro s
  cases h : (s.socket id).writeFault? with
  | none =>
    rw [write_of_none message h]
    exact persists_append s id message
  | some detail =>
    rw [write_of_some message h]
    exact Std.Refl.refl s

/-! ## Deliveries -/

lemma send_isNotification {d : Event.Delivery} {n : Event.Notification} {next stage : Event.Stage}
    {message : Protocol.ServerMessage} (h : d.send n next = .write message stage) :
    message.isNotification = true := by
  unfold Event.Delivery.send at h
  split at h
  · rename_i written hw
    obtain ⟨rfl, -⟩ := Event.Move.write.inj h
    obtain ⟨time, -, rfl⟩ := Option.map_eq_some_iff.mp hw
    rfl
  · cases h

/-- A delivery sends nothing but notifications. -/
lemma move_isNotification {d : Event.Delivery} {now : Time.Instant}
    {waiting : Option Event.Notification} {message : Protocol.ServerMessage} {stage : Event.Stage}
    (h : d.move now waiting = .write message stage) : message.isNotification = true := by
  unfold Event.Delivery.move at h
  split at h
  · cases h
  · split at h <;> cases h
  · cases h
  · exact send_isNotification h
  · exact send_isNotification h
  · cases h
  · cases h
  · split at h <;> cases h
  · exact send_isNotification h
  · exact send_isNotification h
  · cases h
  · cases h

/-! ## Changes that many steps are made of -/

/-- A property of the state and of the module calls so far outlasts what can happen to sessions and
deliveries from outside: sessions are told to end, connections to close, deliveries to stop, and
events are published and delivered. -/
structure Tolerates (I : Shared μ → List Device.Call → Prop) : Prop where
  terminate : ∀ {s history} (ref : Session.Ref), I s history →
    I { s with sessions := s.sessions.markTerminating ref } history
  flag : ∀ {s history} (id : ConnectionId), I s history →
    I { s with table := s.table.flag id } history
  shut : ∀ {s history} (id : SocketId), I s history →
    I { s with sockets := s.sockets.modify id.number fun k => { k with isShut := true } } history
  halt : ∀ {s history} (ref : DeliveryRef) {f : Event.Delivery → Event.Delivery},
    (∀ d : Event.Delivery, d.Stays (f d)) → I s history →
    I { s with deliveries := s.deliveries.modify ref.number f } history
  bus : ∀ {s history} (bus : Event.Bus), I s history →
    I { s with modules := { s.modules with bus } } history
  notify : ∀ {s history} (id : SocketId) {message : Protocol.ServerMessage},
    message.isNotification = true → I s history → I (s.append id message) history

/-- The property outlasts all changes that deliveries and requests make, other than to ask modules
and to take a session out of the registry. -/
structure Withstands (I : Shared μ → List Device.Call → Prop) : Prop where
  update : ∀ {s history} (ref : Session.Ref) {f : Session.Record → Session.Record},
    (∀ k, (f k).connection = k.connection ∧ (f k).context = k.context ∧
      k.status.rank ≤ (f k).status.rank) →
    I s history → I { s with sessions := s.sessions.update ref f } history
  flag : ∀ {s history} (id : ConnectionId), I s history →
    I { s with table := s.table.flag id } history
  shut : ∀ {s history} (id : SocketId), I s history →
    I { s with sockets := s.sockets.modify id.number fun k => { k with isShut := true } } history
  deliveries : ∀ {s history} (deliveries : List Event.Delivery), I s history →
    I { s with deliveries } history
  bus : ∀ {s history} (bus : Event.Bus), I s history →
    I { s with modules := { s.modules with bus } } history
  notify : ∀ {s history} (id : SocketId) {message : Protocol.ServerMessage},
    message.isNotification = true → I s history → I (s.append id message) history

lemma Withstands.tolerates {I : Shared μ → List Device.Call → Prop} (h : Withstands I) :
    Tolerates I where
  terminate ref hs := h.update ref (fun k => ⟨rfl, rfl, k.status.rank_terminate⟩) hs
  flag := h.flag
  shut := h.shut
  halt _ _ _ hs := h.deliveries _ hs
  bus := h.bus
  notify := h.notify

lemma withstands_follows (s₀ : Shared μ) : Withstands fun s _ => Follows s₀ s := by
  refine ⟨?_, ?_, ?_, ?_, ?_, ?_⟩
  · intro s _ ref f hf h
    have hn := s.sessions.narrows_update ref f (fun k => (hf k).1) (fun k => (hf k).2.1)
      fun k => (hf k).2.2
    exact IsTrans.trans _ _ _ h (follows_sessions s hn)
  · exact fun id h => IsTrans.trans _ _ _ h (follows_flag _ id)
  · exact fun id h => IsTrans.trans _ _ _ h (keeps_shut id _)
  · exact fun _ h => IsTrans.trans _ _ _ h (follows_of_same rfl rfl rfl)
  · exact fun _ h => IsTrans.trans _ _ _ h (follows_of_same rfl rfl rfl)
  · exact fun id _ hm h => IsTrans.trans _ _ _ h (follows_append id hm)

section Tolerating

variable {I : Shared μ → List Device.Call → Prop} (hI : Tolerates I)
include hI

lemma preserves_changeBus (f : Event.Bus → Event.Bus) :
    Preserves I (changeBus f : Action (Shared μ) Unit) :=
  Preserves.modify fun s _ h => hI.bus (f s.modules.bus) h

lemma preserves_halt (ref : DeliveryRef) {f : Event.Delivery → Event.Delivery}
    (hf : ∀ d : Event.Delivery, d.Stays (f d)) :
    Preserves I (changeDelivery ref f : Action (Shared μ) Unit) :=
  Preserves.modify fun _ _ h => hI.halt ref hf h

lemma preserves_markTerminating (ref : Session.Ref) :
    Preserves I (changeSessions (fun r => (r.markTerminating ref, ())) : Action (Shared μ) Unit) :=
  Preserves.of_silent (fun _ => rfl) fun _ _ h => hI.terminate ref h

lemma preserves_shut (id : SocketId) : Preserves I (shut id : Action (Shared μ) Unit) :=
  Preserves.modify fun _ _ h => hI.shut id h

lemma preserves_closeConnection (id : ConnectionId) (mode : CloseMode) :
    Preserves I (closeConnection id mode : Action (Shared μ) _) := by
  refine Preserves.bind Preserves.get fun s => ?_
  split
  · exact Preserves.pure _
  · refine Preserves.bind (Preserves.modify fun _ _ h => hI.flag id h) fun _ => ?_
    split
    · exact Preserves.pure _
    · refine Preserves.bind (Preserves.view _) fun _ => ?_
      split
      · exact Preserves.pure _
      · exact Preserves.bind (preserves_shut hI _) fun _ => Preserves.pure _

lemma preserves_write (id : SocketId) {message : Protocol.ServerMessage}
    (hm : message.isNotification = true) :
    Preserves I (write id message : Action (Shared μ) _) := by
  intro s history h
  cases hw : (s.socket id).writeFault? with
  | none =>
    rw [write_of_none message hw, Result.calls_nil, List.append_nil]
    exact hI.notify id hm h
  | some detail =>
    rw [write_of_some message hw, Result.calls_nil, List.append_nil]
    exact h

end Tolerating

section Withstanding

variable {I : Shared μ → List Device.Call → Prop} (hI : Withstands I)
include hI

lemma preserves_changeDelivery (ref : DeliveryRef) (f : Event.Delivery → Event.Delivery) :
    Preserves I (changeDelivery ref f : Action (Shared μ) Unit) :=
  Preserves.modify fun s _ h => hI.deliveries (s.deliveries.modify ref.number f) h

lemma preserves_markClosed (ref : Session.Ref) :
    Preserves I (changeSessions (fun r => (r.markClosed ref, ())) : Action (Shared μ) Unit) :=
  Preserves.of_silent (fun _ => rfl) fun _ _ h =>
    hI.update ref (fun k => ⟨rfl, rfl, k.status.rank_le_closed⟩) h

lemma preserves_takeSubscription (ref : Session.Ref) :
    Preserves I (changeSessions (·.takeSubscription ref) : Action (Shared μ) _) :=
  Preserves.of_silent (fun _ => rfl) fun _ _ h =>
    hI.update ref (fun _ => ⟨rfl, rfl, Nat.le_refl _⟩) h

lemma preserves_attach (ref : Session.Ref) (delivery : DeliveryRef)
    (isFinished : DeliveryRef → Bool) :
    Preserves I (changeSessions (·.attach ref delivery isFinished) : Action (Shared μ) Bool) := by
  refine Preserves.of_silent (fun _ => rfl) fun s _ h => ?_
  unfold changeSessions Session.Registry.attach
  dsimp only
  split
  · exact hI.update ref (fun _ => ⟨rfl, rfl, Nat.le_refl _⟩) h
  · exact h

lemma preserves_deliver (now : Time.Instant) (ref : DeliveryRef) :
    Preserves I (deliver now ref : Action (Shared μ) Unit) := by
  refine Preserves.bind Preserves.get fun s => ?_
  split
  · exact Preserves.pure _
  · rename_i d _
    split
    · exact Preserves.pure _
    · exact preserves_changeDelivery hI _ _
    · exact Preserves.bind (preserves_changeBus hI.tolerates _) fun _ =>
        preserves_changeDelivery hI _ _
    · rename_i message stage hm
      have hwrite := preserves_write hI.tolerates d.socket (move_isNotification hm)
      refine Preserves.bind hwrite fun outcome => ?_
      split
      · exact preserves_changeDelivery hI _ _
      · exact preserves_changeDelivery hI _ _
    · exact Preserves.bind (preserves_changeBus hI.tolerates _) fun _ =>
        preserves_changeDelivery hI _ _

end Withstanding

lemma keeps_deliver (now : Time.Instant) (ref : DeliveryRef) :
    Keeps Follows (deliver now ref : Action (Shared μ) Unit) :=
  Preserves.keeps fun s₀ => preserves_deliver (withstands_follows s₀) now ref

end Shared

/-- A step of closing a session that neither marks it nor takes its subscription away. -/
lemma Closing.preserves_mild {I : Shared μ → List Device.Call → Prop} (hI : Shared.Tolerates I)
    {c : Closing} (hm : ∀ session, c ≠ .mark session) (ht : ∀ session, c ≠ .take session) :
    Preserves I (c.step : Action (Shared μ) Closing) := by
  cases c with
  | mark session => exact absurd rfl (hm session)
  | take session => exact absurd rfl (ht session)
  | cancel delivery =>
    have hcancel := Shared.preserves_halt hI delivery (f := fun d => { d with isCancelled := true })
      fun _ => ⟨rfl, rfl, .inl rfl⟩
    exact Preserves.bind hcancel fun _ => Preserves.pure _
  | join delivery =>
    refine Preserves.bind Preserves.get fun s => ?_
    split
    · exact Preserves.pure _
    · exact Preserves.pure _
  | done => exact Preserves.pure _

lemma Closing.preserves_step {I : Shared μ → List Device.Call → Prop} (hI : Shared.Withstands I)
    (c : Closing) : Preserves I (c.step : Action (Shared μ) Closing) := by
  cases c with
  | mark session =>
    exact Preserves.bind (Shared.preserves_markClosed hI session) fun _ => Preserves.pure _
  | take session =>
    refine Preserves.bind (Shared.preserves_takeSubscription hI session) fun found => ?_
    split
    · exact Preserves.pure _
    · exact Preserves.pure _
  | cancel _ | join _ | done =>
    exact Closing.preserves_mild hI.tolerates (fun _ => Closing.noConfusion) fun _ =>
      Closing.noConfusion

lemma Closing.keeps_step (c : Closing) :
    Keeps Shared.Follows (c.step : Action (Shared μ) Closing) :=
  Preserves.keeps fun s₀ => Closing.preserves_step (Shared.withstands_follows s₀) c

end ManagementServer.Server
