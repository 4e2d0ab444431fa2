import ManagementServer.Proofs.Crowd

/-!
# Ending another session

A request to end another session takes several steps, between which other threads may do anything
to sessions and connections (`Disturbance`). It looks its target up once. From then on it touches
the record that it has found and that record's connection, and nothing else, whoever is registered
under the same id by then: `kill_confined`.
-/

namespace ManagementServer

namespace Session.Registry

/-- The sessions that are known stay what they are. They may leave, but they do not come back, and
their status moves on. -/
structure Advances (r r' : Registry) : Prop where
  ages : r.Ages r'
  list : ∀ ref : Ref, ref.number < r.records.length → ref ∈ r'.list → ref ∈ r.list

instance : Std.Refl Advances := ⟨fun r => ⟨Std.Refl.refl r, fun _ _ => id⟩⟩

lemma Narrows.advances {r r' : Registry} (h : r.Narrows r') : r.Advances r' :=
  ⟨h.ages, fun _ _ => h.list⟩

lemma Registers.advances {r r' : Registry} {ref : Ref} {s : Record} (h : Registers r r' ref s) :
    r.Advances r' := by
  refine ⟨h.ages, fun other hlt hm => (h.mem_list.mp hm).resolve_left ?_⟩
  rintro rfl
  exact absurd h.number (by omega)

lemma Advances.told {r r' : Registry} (h : r.Advances r') {ref : Ref}
    (hlt : ref.number < r.records.length) (ht : (r.record ref).status ≠ .active) :
    (r'.record ref).status ≠ .active := by
  intro hc
  have hrank := h.ages.status ref hlt
  rw [hc] at hrank
  cases hs : (r.record ref).status with
  | active => exact ht hs
  | terminating | closed =>
    rw [hs] at hrank
    exact absurd hrank (by decide)

lemma Advances.id {r r' : Registry} (h : r.Advances r') {ref : Ref}
    (hlt : ref.number < r.records.length) : (r'.record ref).id = (r.record ref).id :=
  congrArg (·.sessionId) (h.ages.context ref hlt)

end Session.Registry

lemma Connection.Table.find?_flag (t : Connection.Table) {id connection : ConnectionId}
    (h : id ≠ connection) :
    (t.flag id).find? connection = t.find? connection := by
  have hid : ((fun link : Connection.Link => link.id == connection) ∘ fun link =>
      if link.id == id then { link with isClosing := true } else link) =
        fun link => link.id == connection := by
    funext link
    dsimp only [Function.comp]
    split <;> rfl
  rw [Connection.Table.find?, Connection.Table.flag, List.find?_map, hid, Connection.Table.find?]
  cases hf : t.links.find? fun link => link.id == connection with
  | none => rfl
  | some link =>
    have hlink : link.id = connection := by simpa using List.find?_some hf
    rw [Option.map_some, if_neg]
    simpa [hlink] using fun he => h he.symm

namespace Server

open Session (Registry Ref DeliveryRef)
open ManagementServer.Action (Preserves)

variable {μ : Type}

/-! ## What other threads do -/

/-- What another thread does between two steps of a request: to the sessions, to the connections, or
to anything else. -/
inductive Disturbance (μ : Type) where
  | register (id username : String) (capabilities : CapabilitySet) (connection : ConnectionId)
  | terminate (session : Ref)
  | remove (id : String)
  | removeRef (session : Ref)
  | removeAll
  | close (rest : Closing)
  | attach (session : Ref) (delivery : DeliveryRef)
  | connect
  | forget (connection : ConnectionId)
  | disconnect (connection : ConnectionId) (mode : CloseMode)
  | disconnectAll
  | changeSocket (socket : SocketId) (f : Connection.Socket → Connection.Socket)
  | changeRest (modules : Device.Registry μ) (deliveries : List Event.Delivery)
      (isShuttingDown : Bool)

/-- Whether a disturbance leaves it as it is which sessions are known and which connections are
open. -/
def Disturbance.isQuiet : Disturbance μ → Bool
  | .register .. | .connect | .forget _ => false
  | _ => true

def Disturbance.act (s : Shared μ) : Disturbance μ → Shared μ
  | .register id username capabilities connection =>
    (Shared.onSessions (Registry.add id username capabilities connection) s).state
  | .terminate session =>
    (Shared.changeSessions (fun r => (r.markTerminating session, ())) s).state
  | .remove id => (Shared.changeSessions (·.detachId id) s).state
  | .removeRef session => (Shared.changeSessions (·.detachRef session) s).state
  | .removeAll => (Shared.changeSessions (·.detachAll) s).state
  | .close rest => (rest.step s).state
  | .attach session delivery =>
    (Shared.changeSessions (·.attach session delivery s.isFinished) s).state
  | .connect =>
    { s with
      sockets := s.sockets ++ [.fresh]
      table := (s.table.register ⟨s.sockets.length⟩).1 }
  | .forget connection => { s with table := s.table.unregister connection }
  | .disconnect connection mode => (Shared.closeConnection connection mode s).state
  | .disconnectAll => (Shared.closeAllConnections s).state
  | .changeSocket socket f => (Shared.changeSocket socket f s).state
  | .changeRest modules deliveries isShuttingDown =>
    { s with modules, deliveries, isShuttingDown }

def Shared.disturbed (s : Shared μ) (disturbances : List (Disturbance μ)) : Shared μ :=
  disturbances.foldl Disturbance.act s

/-- The tables are in order, and every connection has a socket of its own. -/
structure Shared.Wired (s : Shared μ) : Prop where
  sound : s.Sound
  sockets : (s.carriers.map (·.2)).Nodup
  inRange : ∀ connection socket, (connection, socket) ∈ s.carriers →
    socket.number < s.sockets.length

namespace Shared

variable {s s' : Shared μ}

lemma wired_ofModules (modules : Device.Registry μ) : (ofModules modules).Wired :=
  ⟨⟨Registry.coherent_empty, List.nodup_nil, by simp [carriers, ofModules, Connection.Table.empty],
    Nat.le_refl 1⟩, List.nodup_nil, by simp [carriers, ofModules, Connection.Table.empty]⟩

lemma Wired.persists (h : s.Wired) (hp : s.Persists s') : s'.Wired := by
  refine ⟨h.sound.persists hp, ?_, ?_⟩
  · rw [hp.carriers]
    exact h.sockets
  · rw [hp.carriers, hp.sockets]
    exact h.inRange

lemma persists_disturbance (h : s.Sound) {disturbance : Disturbance μ} (hq : disturbance.isQuiet) :
    s.Persists (disturbance.act s) := by
  have hkeeps : ∀ {α : Type} {x : Action (Shared μ) α},
      (∀ s₀, Preserves (fun s _ => Follows s₀ s) x) → s.Persists (x s).state :=
    fun hx => (Preserves.keeps hx s).toPersists
  cases disturbance with
  | register | connect | forget => cases hq
  | terminate session =>
    exact (follows_sessions s (s.sessions.narrows_markTerminating session)).toPersists
  | remove id => exact (follows_sessions s (h.sessions.narrows_detachId id)).toPersists
  | removeRef session =>
    exact (follows_sessions s (s.sessions.narrows_detachRef session)).toPersists
  | removeAll => exact (follows_sessions s s.sessions.narrows_detachAll).toPersists
  | close rest => exact (rest.keeps_step s).toPersists
  | attach session delivery =>
    exact hkeeps fun s₀ => preserves_attach (withstands_follows s₀) session delivery _
  | disconnect connection mode =>
    exact hkeeps fun s₀ =>
      preserves_closeConnection (withstands_follows s₀).tolerates connection mode
  | disconnectAll => exact (keeps_closeAllConnections s).toPersists
  | changeSocket socket f => exact ⟨Std.Refl.refl s.sessions, rfl, rfl, List.length_modify _ _ _⟩
  | changeRest modules deliveries isShuttingDown => exact ⟨Std.Refl.refl s.sessions, rfl, rfl, rfl⟩

/-- No disturbance breaks the tables, and the sessions that are known go only forwards. -/
lemma Wired.act (h : s.Wired) (disturbance : Disturbance μ) :
    (disturbance.act s).Wired ∧ s.sessions.Advances (disturbance.act s).sessions := by
  by_cases hq : disturbance.isQuiet
  · have hp := persists_disturbance h.sound hq
    exact ⟨h.persists hp, hp.sessions.advances⟩
  cases disturbance with
  | register id username capabilities connection =>
    rcases Registry.add_cases id username capabilities connection s.sessions with
      ⟨error, -, he⟩ | ⟨ref, -, hr⟩
    · have hsame : Disturbance.act s (.register id username capabilities connection) = s := by
        simp [Disturbance.act, onSessions, he]
      rw [hsame]
      exact ⟨h, Std.Refl.refl s.sessions⟩
    · exact ⟨⟨⟨hr.coherent h.sound.sessions, h.sound.carriers, h.sound.numbers, h.sound.nextId⟩,
        h.sockets, h.inRange⟩, hr.advances⟩
  | connect =>
    have hcarriers : carriers (Disturbance.act s .connect) =
        s.carriers ++ [(⟨s.table.nextId⟩, ⟨s.sockets.length⟩)] :=
      s.carriers_register _
    have hsound := h.sound.register ⟨s.sockets.length⟩
    refine ⟨⟨⟨hsound.sessions, hsound.carriers, hsound.numbers, hsound.nextId⟩, ?_, ?_⟩,
      Std.Refl.refl s.sessions⟩
    · rw [hcarriers, List.map_append, List.nodup_append]
      refine ⟨h.sockets, List.nodup_singleton _, ?_⟩
      rintro socket hm _ ho rfl
      obtain ⟨⟨connection, _⟩, hc, rfl⟩ := List.mem_map.mp hm
      have hlt := h.inRange connection _ hc
      have he := List.mem_singleton.mp ho
      dsimp only at he
      rw [he] at hlt
      exact Nat.lt_irrefl _ hlt
    · intro connection socket hm
      have hlength : (Disturbance.act s .connect).sockets.length = s.sockets.length + 1 := by
        simp [Disturbance.act]
      rw [hlength]
      rw [hcarriers] at hm
      rcases List.mem_append.mp hm with hm | hm
      · exact Nat.lt_succ_of_lt (h.inRange connection socket hm)
      · obtain ⟨rfl, rfl⟩ := Prod.mk.inj (List.mem_singleton.mp hm)
        exact Nat.lt_succ_self _
  | forget connection =>
    have hcarriers : (carriers (Disturbance.act s (.forget connection))).Sublist s.carriers :=
      List.Sublist.map _ List.filter_sublist
    exact ⟨⟨h.sound.unregister connection, h.sockets.sublist (hcarriers.map _),
      fun c k hm => h.inRange c k (hcarriers.subset hm)⟩, Std.Refl.refl s.sessions⟩
  | _ => exact absurd rfl hq

lemma Wired.disturbed (h : s.Wired) (disturbances : List (Disturbance μ)) :
    (s.disturbed disturbances).Wired := by
  induction disturbances generalizing s with
  | nil => exact h
  | cons disturbance rest ih => exact ih (h.act disturbance).1

end Shared

/-! ## What a step may touch -/

/-- The connection is not the one of the victim. -/
def Shared.Elsewhere (s : Shared μ) (victim : Option Ref) (connection : ConnectionId) : Prop :=
  ∀ ref, victim = some ref → (s.sessions.record ref).connection ≠ connection

/-- Nothing is touched but the victim and its connection: every other record stays what it is and is
registered if it was, every other connection is told nothing, and its socket is left alone. Without
a victim nothing happens at all. -/
structure Shared.Confines (victim : Option Ref) (s s' : Shared μ) : Prop where
  registered : ∀ ref, victim ≠ some ref → (ref ∈ s'.sessions.list ↔ ref ∈ s.sessions.list)
  records : ∀ ref, victim ≠ some ref → s'.sessions.record ref = s.sessions.record ref
  links : ∀ connection, s.Elsewhere victim connection →
    s'.table.find? connection = s.table.find? connection
  sockets : ∀ connection socket, (connection, socket) ∈ s.carriers →
    s.Elsewhere victim connection → s'.socket socket = s.socket socket
  unlinked : ∀ socket, (∀ connection, (connection, socket) ∉ s.carriers) →
    s'.socket socket = s.socket socket
  modules : s'.modules = s.modules
  nothing : victim = none → s' = s

namespace Shared

variable {s : Shared μ} {ref : Ref}

lemma confines_refl (victim : Option Ref) (s : Shared μ) : s.Confines victim s :=
  ⟨fun _ _ => Iff.rfl, fun _ _ => rfl, fun _ _ => rfl, fun _ _ _ _ => rfl, fun _ _ => rfl, rfl,
    fun _ => rfl⟩

lemma confines_sessions {sessions : Registry}
    (hl : ∀ other, other ≠ ref → (other ∈ sessions.list ↔ other ∈ s.sessions.list))
    (hr : ∀ other, other ≠ ref → sessions.record other = s.sessions.record other) :
    s.Confines (some ref) { s with sessions } where
  registered other hn := hl other fun he => hn (he ▸ rfl)
  records other hn := hr other fun he => hn (he ▸ rfl)
  links _ _ := rfl
  sockets _ _ _ _ := rfl
  unlinked _ _ := rfl
  modules := rfl
  nothing hn := absurd hn (Option.some_ne_none ref)

lemma confines_update (ref : Ref) (f : Session.Record → Session.Record) :
    s.Confines (some ref) { s with sessions := s.sessions.update ref f } :=
  confines_sessions (fun _ _ => Iff.rfl) fun _ hn =>
    s.sessions.record_update_of_ne f fun he => hn he.symm

lemma confines_detachRef (h : s.sessions.Coherent) (ref : Ref) :
    s.Confines (some ref) { s with sessions := (s.sessions.detachRef ref).1 } := by
  refine confines_sessions (fun _ hn => Registry.mem_list_detachRef h hn) fun other _ => ?_
  rw [Registry.record, Registry.record?, Registry.records_detachRef]
  rfl

/-- A connection that is told to close is flagged, and its socket may be shut down. -/
lemma closeConnection_cases {connection : ConnectionId} {link : Connection.Link}
    (hf : s.table.find? connection = some link) (mode : CloseMode) :
    (closeConnection connection mode s).state = { s with table := s.table.flag connection } ∨
      (closeConnection connection mode s).state =
        { s with
          table := s.table.flag connection
          sockets := s.sockets.modify link.socket.number fun k => { k with isShut := true } } := by
  cases mode with
  | afterReply =>
    left
    simp [closeConnection, hf]
  | immediate =>
    cases hb : (s.socket link.socket).fault with
    | some detail =>
      left
      simp only [socket] at hb
      simp [closeConnection, hf, socket, hb]
    | none =>
      right
      simp only [socket] at hb
      simp [closeConnection, hf, shut, changeSocket, socket, hb]

lemma confines_closeConnection (h : s.Wired) (ref : Ref) (mode : CloseMode) :
    s.Confines (some ref)
      (closeConnection (s.sessions.record ref).connection mode s).state := by
  generalize hc : (s.sessions.record ref).connection = connection
  cases hf : s.table.find? connection with
  | none =>
    have hstate : (closeConnection connection mode s).state = s := by simp [closeConnection, hf]
    rw [hstate]
    exact confines_refl _ s
  | some link =>
    have hid : link.id = connection := by simpa using List.find?_some hf
    have hcarried : (connection, link.socket) ∈ s.carriers :=
      List.mem_map.mpr ⟨link, List.mem_of_find?_eq_some hf, by rw [hid]⟩
    have hflag : s.Confines (some ref) { s with table := s.table.flag connection } := by
      refine ⟨fun _ _ => Iff.rfl, fun _ _ => rfl, fun other ho =>
        s.table.find?_flag ?_,
        fun _ _ _ _ => rfl, fun _ _ => rfl, rfl, fun hn => absurd hn (Option.some_ne_none ref)⟩
      exact hc ▸ ho ref rfl
    rcases closeConnection_cases hf mode with hstate | hstate
    · rw [hstate]
      exact hflag
    · rw [hstate]
      refine ⟨hflag.registered, hflag.records, hflag.links, ?_, ?_, rfl,
        fun hn => absurd hn (Option.some_ne_none ref)⟩
      · -- no two connections share a socket
        intro other socket hm ho
        refine (socket_modify s link.socket socket _).trans (if_neg fun he => ?_)
        have hsame := List.inj_on_of_nodup_map h.sockets hcarried hm he.1
        exact ho ref rfl (hc.trans (Prod.mk.inj hsame).1)
      · intro socket hn
        refine (socket_modify s link.socket socket _).trans (if_neg fun he => ?_)
        exact hn connection (he.1 ▸ hcarried)

lemma confines_closing (rest : Closing)
    (h : ∀ other, rest.session? = some other → other = ref) :
    s.Confines (some ref) (rest.step s).state := by
  have hgoes := Closing.goes_step rest s
  generalize (rest.step s).value = next at hgoes
  generalize (rest.step s).state = s' at hgoes ⊢
  cases hgoes with
  | marks session =>
    rw [h session rfl]
    exact confines_update ref _
  | takes session | findsNone session =>
    rw [h session rfl]
    exact confines_update ref _
  | cancels delivery =>
    exact ⟨fun _ _ => Iff.rfl, fun _ _ => rfl, fun _ _ => rfl, fun _ _ _ _ => rfl, fun _ _ => rfl,
      rfl, fun hn => absurd hn (Option.some_ne_none ref)⟩
  | joins | waits | rests => exact confines_refl _ _

end Shared

/-! ## A request and the disturbances between its steps -/

/-- Who asks, over which socket, and for what. -/
structure Asking where
  socket : SocketId
  session : Ref
  request : Protocol.Request

/-- Where a request stands, and which session it has found for its target. -/
structure Scene (μ : Type) where
  shared : Shared μ
  stage : Dispatch.Stage
  found : Option Ref

/-- What happens next: a step of the request, or a disturbance of another thread. -/
inductive Scene.Turn (μ : Type) where
  | own (env : Environment)
  | other (disturbance : Disturbance μ)

/-- What a stage finds under the id of its target. -/
def Dispatch.Stage.find? (s : Shared μ) : Dispatch.Stage → Option Ref
  | .killLookup target => (s.sessions.getById target).toOption
  | _ => none

namespace Scene

def start (s : Shared μ) : Scene μ := ⟨s, .routing, none⟩

/-- The session that a request to end a session is about: the one that asks, if it gives its own id,
and otherwise the one that was found. -/
def victim (a : Asking) (x : Scene μ) : Option Ref :=
  match killTarget a.request.payload with
  | .error _ => none
  | .ok target =>
    if target == (x.shared.sessions.record a.session).id then some a.session else x.found

variable [Device.DeviceModule μ]

def own (a : Asking) (env : Environment) (x : Scene μ) : Scene μ :=
  let next :=
    Dispatch.step env Shared.closeConnection a.socket a.session a.request x.stage x.shared
  ⟨next.state, next.value, x.stage.find? x.shared <|> x.found⟩

def act (a : Asking) (x : Scene μ) : Turn μ → Scene μ
  | .own env => x.own a env
  | .other disturbance => { x with shared := disturbance.act x.shared }

def after (a : Asking) (x : Scene μ) (turns : List (Turn μ)) : Scene μ := turns.foldl (act a) x

end Scene

/-! ## Where a request to end a session stands -/

/-- What is left to do to end the session that asks. -/
inductive Ending : Dispatch.Stage → Prop
  | mark : Ending .markOwn
  | close : Ending .closeOwn
  | done (closed : Dispatch.Closed) : Ending (.done ⟨Dispatch.replyOfClosed closed, true, none⟩)

/-- What is left to do to end a session that was found. -/
inductive Pursuing (s : Shared μ) (ref : Ref) : Dispatch.Stage → Prop
  | mark : Pursuing s ref (.killMark ref)
  | close (told : (s.sessions.record ref).status ≠ .active) : Pursuing s ref (.killClose ref)
  | remove (told : (s.sessions.record ref).status ≠ .active) (closed : Dispatch.Closed) :
      Pursuing s ref (.killRemove ref closed)
  | finish (told : (s.sessions.record ref).status ≠ .active) (gone : ref ∉ s.sessions.list)
      (closed : Dispatch.Closed) (rest : Closing)
      (names : ∀ other, rest.session? = some other → other = ref) :
      Pursuing s ref (.killEnd ref closed rest)
  | done (told : (s.sessions.record ref).status ≠ .active) (gone : ref ∉ s.sessions.list)
      (closed : Dispatch.Closed) :
      Pursuing s ref (.done (.ofReply (Dispatch.replyOfClosed closed)))

/-- Where a request to end a session stands. -/
inductive Scene.Stands (a : Asking) (x : Scene μ) : Prop
  | asks (stage : x.stage = .routing) (found : x.found = none)
  | refused (e : Rpc.Error) (target : killTarget a.request.payload = .error e)
      (stage : x.stage = .done (.ofError e)) (found : x.found = none)
  | ends (target : killTarget a.request.payload = .ok (x.shared.sessions.record a.session).id)
      (ending : Ending x.stage) (found : x.found = none)
  | seeks (id : String) (target : killTarget a.request.payload = .ok id)
      (other : id ≠ (x.shared.sessions.record a.session).id)
      (stage : x.stage = .killLookup id) (found : x.found = none)
  | misses (id : String) (target : killTarget a.request.payload = .ok id)
      (other : id ≠ (x.shared.sessions.record a.session).id)
      (stage : x.stage = .done (.ofError (.failed (SessionError.notFound id).message)))
      (found : x.found = none)
  | finds (ref : Ref) (known : ref.number < x.shared.sessions.records.length)
      (target : killTarget a.request.payload = .ok (x.shared.sessions.record ref).id)
      (other : (x.shared.sessions.record ref).id ≠ (x.shared.sessions.record a.session).id)
      (pursuing : Pursuing x.shared ref x.stage) (found : x.found = some ref)

/-- A request to end a session, among tables that are in order, from a session that is known. -/
structure Scene.Regular (a : Asking) (x : Scene μ) : Prop where
  wired : x.shared.Wired
  known : a.session.number < x.shared.sessions.records.length
  stands : x.Stands a

/-! ## Deeds of other threads -/

lemma Pursuing.advances {s s' : Shared μ} {ref : Ref} {stage : Dispatch.Stage}
    (h : Pursuing s ref stage) (hlt : ref.number < s.sessions.records.length)
    (ha : s.sessions.Advances s'.sessions) : Pursuing s' ref stage := by
  cases h with
  | mark => exact .mark
  | close told => exact .close (ha.told hlt told)
  | remove told closed => exact .remove (ha.told hlt told) closed
  | finish told gone closed rest names =>
    exact .finish (ha.told hlt told) (fun hm => gone (ha.list ref hlt hm)) closed rest names
  | done told gone closed =>
    exact .done (ha.told hlt told) (fun hm => gone (ha.list ref hlt hm)) closed

namespace Scene

variable {a : Asking} {x : Scene μ}

/-- Whatever other threads do, a request stands where it has stood. -/
lemma Stands.advances (h : x.Stands a) (hlt : a.session.number < x.shared.sessions.records.length)
    {s' : Shared μ} (ha : x.shared.sessions.Advances s'.sessions) :
    Stands a { x with shared := s' } := by
  have hid := ha.id hlt
  cases h with
  | asks stage found => exact .asks stage found
  | refused e target stage found => exact .refused e target stage found
  | ends target ending found => exact .ends (hid ▸ target) ending found
  | seeks id target other stage found => exact .seeks id target (hid ▸ other) stage found
  | misses id target other stage found => exact .misses id target (hid ▸ other) stage found
  | finds ref known target other pursuing found =>
    have href := ha.id known
    refine .finds ref (Nat.lt_of_lt_of_le known ha.ages.length) ?_ ?_
      (pursuing.advances known ha) found
    · exact target.trans (congrArg Except.ok href.symm)
    · dsimp only
      rw [hid, href]
      exact other

/-- Who gives its own id ends its own session. -/
lemma Stands.ending (h : x.Stands a)
    (ht : killTarget a.request.payload = .ok (x.shared.sessions.record a.session).id) :
    x.stage = .routing ∨ Ending x.stage := by
  cases h with
  | asks stage found => exact .inl stage
  | ends target ending found => exact .inr ending
  | refused e target stage found => cases ht.symm.trans target
  | seeks id target other stage found | misses id target other stage found =>
    exact absurd (Except.ok.inj (target.symm.trans ht)) other
  | finds ref known target other pursuing found =>
    exact absurd (Except.ok.inj (target.symm.trans ht)) other

lemma Regular.other (h : x.Regular a) (disturbance : Disturbance μ) :
    Regular a { x with shared := disturbance.act x.shared } := by
  obtain ⟨hwired, hadvances⟩ := h.wired.act disturbance
  exact ⟨hwired, Nat.lt_of_lt_of_le h.known hadvances.ages.length,
    h.stands.advances h.known hadvances⟩

end Scene

/-! ## Towards the answer -/

/-- How many steps closing a session takes at most, but for those in which it waits. -/
def Closing.distance : Closing → Nat
  | .mark _ => 4
  | .take _ => 3
  | .cancel _ => 2
  | .join _ => 1
  | .done => 0

/-- How many steps a request to end a session takes at most, but for those in which it waits. -/
def Dispatch.Stage.distance : Dispatch.Stage → Nat
  | .routing => 10
  | .killLookup _ => 9
  | .killMark _ => 8
  | .killClose _ => 7
  | .killRemove .. => 6
  | .killEnd _ _ rest => rest.distance + 1
  | .markOwn => 2
  | .closeOwn => 1
  | _ => 0

lemma Closing.nears (current : Closing) (s : Shared μ) :
    current = .done ∨ (current.step s).value.distance < current.distance ∨
      ∃ delivery, current = .join delivery ∧ s.isFinished delivery = false := by
  have hgoes := Closing.goes_step current s
  generalize (current.step s).value = next at hgoes ⊢
  generalize (current.step s).state = s' at hgoes
  cases hgoes with
  | waits delivery running => exact .inr (.inr ⟨delivery, rfl, running⟩)
  | rests => exact .inl rfl
  | _ => exact .inr (.inl (by simp [Closing.distance]))

/-- A step that leads nearer to the answer, unless it is there, or has to wait for a delivery. -/
def Dispatch.Stage.Nears (s : Shared μ) (stage next : Dispatch.Stage) : Prop :=
  (∃ outcome, stage = .done outcome) ∨ next.distance < stage.distance ∨
    ∃ delivery, stage.awaited? = some delivery ∧ s.isFinished delivery = false

lemma Dispatch.Stage.nears_done (s : Shared μ) (outcome : Dispatched) (next : Dispatch.Stage) :
    Nears s (.done outcome) next :=
  .inl ⟨outcome, rfl⟩

lemma Dispatch.Stage.nears_of_lt (s : Shared μ) {stage next : Dispatch.Stage}
    (h : next.distance < stage.distance) : Nears s stage next :=
  .inr (.inl h)

/-! ## Steps of the request -/

section Steps

variable [Device.DeviceModule μ] (a : Asking) (env : Environment)

lemma Ending.step {stage : Dispatch.Stage} (h : Ending stage) {s : Shared μ} (hs : s.Wired) :
    let next := Dispatch.step env Shared.closeConnection a.socket a.session a.request stage s
    s.Confines (some a.session) next.state ∧ Ending next.value ∧ stage.Nears s next.value := by
  cases h with
  | mark =>
    exact ⟨Shared.confines_update a.session _, .close, Dispatch.Stage.nears_of_lt s (Nat.lt_succ_self _)⟩
  | close =>
    exact ⟨Shared.confines_closeConnection hs a.session .afterReply, .done _,
      Dispatch.Stage.nears_of_lt s (Nat.lt_succ_self _)⟩
  | done closed =>
    exact ⟨Shared.confines_refl _ s, .done closed, Dispatch.Stage.nears_done s _ _⟩

lemma Pursuing.step {stage : Dispatch.Stage} {s : Shared μ} {ref : Ref} (h : Pursuing s ref stage)
    (hs : s.Wired) (hlt : ref.number < s.sessions.records.length) :
    let next := Dispatch.step env Shared.closeConnection a.socket a.session a.request stage s
    s.Confines (some ref) next.state ∧ Pursuing next.state ref next.value ∧
      stage.Nears s next.value := by
  have ha := (Dispatch.keeps_step env a.socket a.session a.request stage s).sessions.advances
  cases h with
  | mark =>
    refine ⟨Shared.confines_update ref _, .close ?_, Dispatch.Stage.nears_of_lt s (Nat.lt_succ_self _)⟩
    have hstatus : ((s.sessions.markTerminating ref).record ref).status =
        (s.sessions.record ref).status.terminate := by
      rw [Registry.markTerminating, Registry.record_update, if_pos ⟨rfl, hlt⟩]
    refine hstatus ▸ ?_
    cases (s.sessions.record ref).status <;> simp [SessionStatus.terminate]
  | close told =>
    exact ⟨Shared.confines_closeConnection hs ref .immediate, .remove (ha.told hlt told) _,
      Dispatch.Stage.nears_of_lt s (Nat.lt_succ_self _)⟩
  | remove told closed =>
    -- whoever has the id by now, only the record that was found can leave
    obtain ⟨hv, hstate, -⟩ := Action.gist_eq_iff.mp
      (Dispatch.step_killRemove env a.socket a.session ref a.request closed s)
    dsimp only
    rw [hv, hstate]
    refine ⟨Shared.confines_detachRef hs.sound.sessions ref,
      .finish ?_ (Registry.not_mem_detachRef hs.sound.sessions ref) closed _ ?_, Dispatch.Stage.nears_of_lt s ?_⟩
    · exact hstate ▸ ha.told hlt told
    · intro other ho
      split at ho
      · exact (Option.some.inj ho).symm
      · cases ho
    · split <;> simp [Dispatch.Stage.distance, Closing.distance]
  | finish told gone closed rest names =>
    by_cases hd : rest = .done
    · -- the session is closed, and the request is answered
      subst hd
      exact ⟨Shared.confines_refl _ s, .done told gone closed, Dispatch.Stage.nears_of_lt s (Nat.lt_succ_self _)⟩
    · obtain ⟨hv, hstate⟩ := Dispatch.step_killEnd env Shared.closeConnection a.socket a.session ref
        a.request closed hd s
      dsimp only
      rw [hv, hstate]
      rw [hstate] at ha
      refine ⟨Shared.confines_closing rest names, .finish (ha.told hlt told)
        (fun hm => gone (ha.list ref hlt hm)) closed _ fun other ho =>
          names other (rest.yields_session? s other ho), ?_⟩
      rcases rest.nears s with hdone | hless | ⟨delivery, rfl, hf⟩
      · exact absurd hdone hd
      · exact Dispatch.Stage.nears_of_lt s (Nat.succ_lt_succ hless)
      · exact .inr (.inr ⟨delivery, rfl, hf⟩)
  | done told gone closed =>
    exact ⟨Shared.confines_refl _ s, .done told gone closed, Dispatch.Stage.nears_done s _ _⟩

lemma Scene.own_routing (s : Shared μ) (found : Option Ref) :
    own a env ⟨s, .routing, found⟩ =
      ⟨s, Dispatch.start (s.sessions.record a.session) a.request (Route.ofRequest a.request),
        found⟩ :=
  rfl

/-- A step of a request to end a session touches nobody but its victim, and leads on. -/
lemma Scene.Stands.step {x : Scene μ} (h : x.Stands a)
    (hr : Route.ofRequest a.request = .killSession)
    (hw : x.shared.Wired) (hk : a.session.number < x.shared.sessions.records.length) :
    x.shared.Confines (x.victim a) (x.own a env).shared ∧ (x.own a env).Stands a ∧
      x.stage.Nears x.shared (x.own a env).stage := by
  have ha := (Dispatch.keeps_step env a.socket a.session a.request x.stage
    x.shared).sessions.advances
  have hid : ((x.own a env).shared.sessions.record a.session).id = _ := ha.id hk
  obtain ⟨s, stage, found⟩ := x
  cases h with
  | asks hstage hfound =>
    obtain rfl : stage = .routing := hstage
    obtain rfl : found = none := hfound
    rw [own_routing, hr, Dispatch.start]
    refine ⟨Shared.confines_refl _ s, ?_⟩
    cases ht : killTarget a.request.payload with
    | error e => exact ⟨.refused e ht rfl rfl, Dispatch.Stage.nears_of_lt s (Nat.succ_pos _)⟩
    | ok target =>
      dsimp only
      by_cases he : target = (s.sessions.record a.session).id
      · rw [if_pos (beq_iff_eq.mpr he)]
        exact ⟨.ends (he ▸ ht) .mark rfl, Dispatch.Stage.nears_of_lt s (by decide)⟩
      · rw [if_neg (by simpa using he)]
        exact ⟨.seeks target ht he rfl rfl, Dispatch.Stage.nears_of_lt s (Nat.lt_succ_self _)⟩
  | refused e target hstage hfound =>
    obtain rfl : stage = _ := hstage
    exact ⟨Shared.confines_refl _ s, .refused e target rfl hfound,
      Dispatch.Stage.nears_done s _ _⟩
  | ends target ending hfound =>
    -- the victim is named by the id of the session that asks, which never changes
    obtain ⟨hconfines, hending, hnears⟩ := ending.step a env hw
    have hvictim : victim a ⟨s, stage, found⟩ = some a.session := by simp [victim, target]
    have hkept : (own a env ⟨s, stage, found⟩).found = none := by cases ending <;> exact hfound
    rw [hvictim]
    exact ⟨hconfines, .ends (target.trans (congrArg Except.ok hid.symm)) hending hkept, hnears⟩
  | seeks id target other hstage hfound =>
    obtain rfl : stage = .killLookup id := hstage
    obtain rfl : found = none := hfound
    cases hget : s.sessions.byId.lookup id with
    | none =>
      have hown : own a env ⟨s, .killLookup id, none⟩ =
          ⟨s, .done (.ofError (.failed (SessionError.notFound id).message)), none⟩ := by
        simp [own, Dispatch.step, Registry.getById, hget, Dispatch.Stage.find?, Except.toOption]
      rw [hown]
      exact ⟨Shared.confines_refl _ s, .misses id target other rfl rfl,
        Dispatch.Stage.nears_of_lt s (Nat.succ_pos _)⟩
    | some ref =>
      have hown : own a env ⟨s, .killLookup id, none⟩ = ⟨s, .killMark ref, some ref⟩ := by
        simp [own, Dispatch.step, Registry.getById, hget, Dispatch.Stage.find?, Except.toOption]
      obtain ⟨hlt, href⟩ := hw.sound.sessions.recorded id ref
        (hw.sound.sessions.lookup_iff.mp hget)
      rw [hown]
      refine ⟨Shared.confines_refl _ s, .finds ref hlt ?_ ?_ .mark rfl,
        Dispatch.Stage.nears_of_lt s (Nat.lt_succ_self _)⟩
      · exact target.trans (congrArg Except.ok href.symm)
      · exact fun he => other (href.symm.trans he)
  | misses id target other hstage hfound =>
    obtain rfl : stage = _ := hstage
    exact ⟨Shared.confines_refl _ s, .misses id target other rfl hfound,
      Dispatch.Stage.nears_done s _ _⟩
  | finds ref known target other pursuing hfound =>
    obtain ⟨hconfines, hpursuing, hnears⟩ := pursuing.step a env hw known
    have href : ((own a env ⟨s, stage, found⟩).shared.sessions.record ref).id = _ := ha.id known
    have hvictim : victim a ⟨s, stage, found⟩ = some ref := by
      simp [victim, target, other, show found = some ref from hfound]
    have hkept : (own a env ⟨s, stage, found⟩).found = some ref := by
      cases pursuing <;> exact hfound
    rw [hvictim]
    refine ⟨hconfines, .finds ref (Nat.lt_of_lt_of_le known ha.ages.length)
      (target.trans (congrArg Except.ok href.symm)) ?_ hpursuing hkept, hnears⟩
    rw [href, hid]
    exact other

namespace Scene

variable {a} {x : Scene μ}

lemma Regular.own (h : x.Regular a) (hr : Route.ofRequest a.request = .killSession)
    (env : Environment) : (x.own a env).Regular a := by
  have hp := (Dispatch.keeps_step env a.socket a.session a.request x.stage x.shared).toPersists
  exact ⟨h.wired.persists hp, Nat.lt_of_lt_of_le h.known hp.sessions.ages.length,
    (h.stands.step a env hr h.wired h.known).2.1⟩

lemma Regular.after (h : x.Regular a) (hr : Route.ofRequest a.request = .killSession)
    (turns : List (Turn μ)) : (x.after a turns).Regular a := by
  induction turns generalizing x with
  | nil => exact h
  | cons turn rest ih =>
    cases turn with
    | own env => exact ih (h.own hr env)
    | other disturbance => exact ih (h.other disturbance)

/-- To end the own session by its id is to close it. -/
lemma own_eq_of_close {b : Asking} (hs : b.session = a.session)
    (ha : Route.ofRequest a.request = .killSession)
    (hb : Route.ofRequest b.request = .closeSession)
    (ht : killTarget a.request.payload = .ok (x.shared.sessions.record a.session).id)
    (h : x.stage = .routing ∨ Ending x.stage) (env : Environment) : x.own b env = x.own a env := by
  obtain ⟨s, stage, found⟩ := x
  rcases h with h | h
  · obtain rfl : stage = .routing := h
    rw [own_routing, own_routing, ha, hb, Dispatch.start, Dispatch.start, ht]
    simp
  · cases h with
    | mark => simp [own, Dispatch.step, hs, Dispatch.Stage.find?]
    | close => simp [own, Dispatch.step, hs, Dispatch.Stage.find?]
    | done closed => simp [own, Dispatch.step, Dispatch.Stage.find?]

lemma Regular.after_eq_of_close (h : x.Regular a) {b : Asking} (hs : b.session = a.session)
    (ha : Route.ofRequest a.request = .killSession)
    (hb : Route.ofRequest b.request = .closeSession)
    (ht : killTarget a.request.payload = .ok (x.shared.sessions.record a.session).id)
    (turns : List (Turn μ)) : x.after b turns = x.after a turns := by
  induction turns generalizing x with
  | nil => rfl
  | cons turn rest ih =>
    cases turn with
    | own env =>
      have heq := own_eq_of_close hs ha hb ht (h.stands.ending ht) env
      have hid := (Dispatch.keeps_step env a.socket a.session a.request x.stage
        x.shared).sessions.advances.id h.known
      refine (congrArg (Scene.after b · rest) heq).trans (ih (h.own ha env) ?_)
      exact ht.trans (congrArg Except.ok hid.symm)
    | other disturbance =>
      have hid := (h.wired.act disturbance).2.id h.known
      exact ih (h.other disturbance) (ht.trans (congrArg Except.ok hid.symm))

end Scene

end Steps

section Answer

variable [Device.DeviceModule μ] {a : Asking} {x : Scene μ}

/-- What a request to end a session does at one point of its way. The next step touches its victim
and nobody else (`touches`). Where the request names no target, or one that is not registered, there
is no victim, and it is answered with an error (`unnamed`, `unregistered`); its own id is its own
session (`itself`), and any other leads to the session that was found (`found`). Behind the answer,
whatever it is, the session that was found has ended (`ended`); and every step leads nearer to the
answer (`nears`). -/
structure Scene.Contained (a : Asking) (x : Scene μ) : Prop where
  touches : ∀ env, x.shared.Confines (x.victim a) (x.own a env).shared
  unnamed : ∀ e, killTarget a.request.payload = .error e →
    x.victim a = none ∧ ∀ outcome, x.stage = .done outcome → outcome = .ofError e
  unregistered : ∀ id, killTarget a.request.payload = .ok id →
    id ≠ (x.shared.sessions.record a.session).id → x.found = none →
      x.victim a = none ∧ ∀ outcome, x.stage = .done outcome →
        outcome = .ofError (.failed (SessionError.notFound id).message)
  itself : killTarget a.request.payload = .ok (x.shared.sessions.record a.session).id →
    x.victim a = some a.session ∧ x.found = none
  found : ∀ ref, x.found = some ref → x.victim a = some ref ∧ ref ≠ a.session ∧
    killTarget a.request.payload = .ok (x.shared.sessions.record ref).id
  ended : ∀ ref outcome, x.found = some ref → x.stage = .done outcome →
    ref ∉ x.shared.sessions.list ∧ (x.shared.sessions.record ref).status ≠ .active
  nears : ∀ env, x.stage.Nears x.shared (x.own a env).stage

lemma Scene.Regular.contained (h : x.Regular a) (hr : Route.ofRequest a.request = .killSession) :
    x.Contained a where
  touches env := (h.stands.step a env hr h.wired h.known).1
  unnamed e he := by
    refine ⟨by simp [victim, he], fun outcome ho => ?_⟩
    cases h.stands with
    | asks stage found => cases stage.symm.trans ho
    | refused e' target stage found =>
      obtain rfl : e' = e := Except.error.inj (target.symm.trans he)
      exact (Dispatch.Stage.done.inj (stage.symm.trans ho)).symm
    | ends target | seeks _ target | misses _ target | finds _ _ target =>
      cases target.symm.trans he
  unregistered id ht hne hf := by
    refine ⟨by simp [victim, ht, hne, hf], fun outcome ho => ?_⟩
    cases h.stands with
    | asks stage found => cases stage.symm.trans ho
    | refused e target stage found => cases target.symm.trans ht
    | ends target ending found => exact absurd (Except.ok.inj (ht.symm.trans target)) hne
    | seeks id' target other stage found => cases stage.symm.trans ho
    | misses id' target other stage found =>
      obtain rfl : id' = id := Except.ok.inj (target.symm.trans ht)
      exact (Dispatch.Stage.done.inj (stage.symm.trans ho)).symm
    | finds ref known target other pursuing found => cases found.symm.trans hf
  itself ht := by
    refine ⟨by simp [victim, ht], ?_⟩
    cases h.stands with
    | finds ref known target other pursuing found =>
      exact absurd (Except.ok.inj (target.symm.trans ht)) other
    | asks _ found | refused _ _ _ found | ends _ _ found | seeks _ _ _ _ found
    | misses _ _ _ _ found => exact found
  found ref hf := by
    cases h.stands with
    | finds ref' known target other pursuing found =>
      obtain rfl : ref' = ref := Option.some.inj (found.symm.trans hf)
      exact ⟨by simp [victim, target, other, hf], fun he => other (he ▸ rfl), target⟩
    | asks _ found | refused _ _ _ found | ends _ _ found | seeks _ _ _ _ found
    | misses _ _ _ _ found => cases found.symm.trans hf
  ended ref outcome hf ho := by
    cases h.stands with
    | finds ref' known target other pursuing found =>
      obtain rfl : ref' = ref := Option.some.inj (found.symm.trans hf)
      rw [ho] at pursuing
      cases pursuing with
      | done told gone closed => exact ⟨gone, told⟩
    | asks _ found | refused _ _ _ found | ends _ _ found | seeks _ _ _ _ found
    | misses _ _ _ _ found => cases found.symm.trans hf
  nears env := (h.stands.step a env hr h.wired h.known).2.2

end Answer

/-- However the steps of a request to end a session and the disturbances of other threads follow
each other, and whatever the server has come to before: every step touches its victim and nobody
else, and to give the own id is to close the own session. -/
theorem kill_confined [Device.DeviceModule μ] (modules : Device.Registry μ)
    (before : List (Disturbance μ)) (a : Asking)
    (hr : Route.ofRequest a.request = .killSession)
    (hk : a.session.number < ((Shared.ofModules modules).disturbed before).sessions.records.length)
    (turns : List (Scene.Turn μ)) :
    let s := (Shared.ofModules modules).disturbed before
    let x := (Scene.start s).after a turns
    x.Contained a ∧
      ∀ b : Asking, b.session = a.session → Route.ofRequest b.request = .closeSession →
        killTarget a.request.payload = .ok (s.sessions.record a.session).id →
          (Scene.start s).after b turns = x := by
  intro s x
  have hregular : (Scene.start s).Regular a :=
    ⟨(Shared.wired_ofModules modules).disturbed before, hk, .asks rfl rfl⟩
  exact ⟨(hregular.after hr turns).contained hr, fun b hs hb ht =>
    hregular.after_eq_of_close hs hr hb ht turns⟩

/-- Session `7` is found and told to end. Before its connection is closed, another thread removes
it, and a newer one is registered under its id on a third connection. -/
def reuseTurns : List (Scene.Turn Device.ScriptedModule) :=
  List.replicate 3 (.own .calm) ++
    [.other (.removeRef ⟨1⟩), .other (.register "7" "operator" .empty ⟨3⟩)] ++
    List.replicate 3 (.own .calm)

theorem kill_confined_reuse :
    let before : List (Disturbance Device.ScriptedModule) := [.connect, .connect, .connect,
      .register "1" "operator" .empty ⟨1⟩, .register "7" "operator" .empty ⟨2⟩]
    let a : Asking :=
      ⟨⟨0⟩, ⟨0⟩, ⟨"1", none, "kill-session", none, .ofMembers [("session-id", .string " 7 ")]⟩⟩
    let x := (Scene.start ((Shared.ofModules .empty).disturbed before)).after a reuseTurns
    x.Contained a ∧ x.found = some ⟨1⟩ ∧ x.stage.distance = 0 ∧
      x.shared.sessions.records.map (fun r => (r.id, r.status)) =
        [("1", .active), ("7", .terminating), ("7", .active)] ∧
      x.shared.sessions.list.map (·.number) = [0, 2] ∧
      x.shared.table.links.map (·.isClosing) = [false, true, false] :=
  ⟨(kill_confined _ _ _ (by decide +kernel) (by decide +kernel) reuseTurns).1, by decide +kernel,
    by decide +kernel, by decide +kernel, by decide +kernel, by decide +kernel⟩

end Server

end ManagementServer
