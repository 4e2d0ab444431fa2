import ManagementServer.Proofs.ConnectionLoop

/-!
# Answers to lines

Which message answers which line (`Answers`), and how a loop comes from a line to its answer
(`WorksOn.step`): in steps that answer nothing, and one step that writes the answer.
-/

namespace ManagementServer

namespace Protocol

/-- Whether a message tells a peer that its session is registered. -/
def ServerMessage.isRegistered : ServerMessage → Bool
  | .registered _ => true
  | _ => false

/-- Whether a message is an error, by itself or as a reply. -/
def ServerMessage.isError : ServerMessage → Bool
  | .error _ _ => true
  | .reply _ _ outcome => outcome.isError
  | _ => false

lemma AgentMessage.isRecoverable_of_parse {line : List UInt8} {fault : Fault}
    (h : AgentMessage.parse line = .error fault) : fault.isRecoverable = true := by
  unfold AgentMessage.parse at h
  split at h
  · obtain rfl := Except.error.inj h
    rfl
  · split at h
    · cases h
    · obtain rfl := Except.error.inj h
      rfl

lemma AgentMessage.isRecoverable_of_requireText {field text : String} {fault : Fault}
    (h : AgentMessage.requireText field text = .error fault) : fault.isRecoverable = true := by
  unfold AgentMessage.requireText at h
  split at h
  · obtain rfl := Except.error.inj h
    rfl
  · cases h

lemma AgentMessage.isRecoverable_of_validate {message : AgentMessage} {fault : Fault}
    (h : message.validate = .error fault) : fault.isRecoverable = true := by
  have htwo : ∀ first second : Except Fault Unit,
      (first >>= fun _ => second) = .error fault →
        first = .error fault ∨ second = .error fault := by
    intro first second hb
    cases first with
    | error e => exact .inl hb
    | ok _ => exact .inr hb
  cases message with
  | getCapabilities => cases h
  | hello hello =>
    rcases htwo _ _ h with h | h
    · exact isRecoverable_of_requireText h
    · exact isRecoverable_of_requireText h
  | rpc request =>
    rcases htwo _ _ h with h | h
    · exact isRecoverable_of_requireText h
    · exact isRecoverable_of_requireText h

end Protocol

namespace Server

open Protocol (AgentMessage ServerMessage)

/-- What a loop takes in from its peer: a line, or the beginning of one that is too long. -/
inductive Intake where
  | line (bytes : List UInt8)
  | tooLong
  deriving DecidableEq, Repr

/-- A line holds a message that has what it needs. -/
structure Reads (line : List UInt8) (message : AgentMessage) : Prop where
  parse : AgentMessage.parse line = .ok message
  valid : message.validate = .ok ()

/-- The messages that answer what a loop has taken in. `opened` says whether a session was
registered on the connection before. -/
inductive Answers (opened : Bool) : Intake → ServerMessage → Prop where
  | tooLong (bytes limit : Nat) : Answers opened .tooLong (.ofFault (.tooLarge bytes limit))
  | malformed {line : List UInt8} {fault : Protocol.Fault}
      (h : AgentMessage.parse line = .error fault) : Answers opened (.line line) (.ofFault fault)
  | invalid {line : List UInt8} {message : AgentMessage} {fault : Protocol.Fault}
      (h : AgentMessage.parse line = .ok message) (hv : message.validate = .error fault) :
      Answers opened (.line line) (.ofFault fault)
  | registered {line : List UInt8} {hello : Protocol.Hello} (h : Reads line (.hello hello)) :
      Answers opened (.line line) (.registered (Text.trim hello.sessionId))
  | refused {line : List UInt8} {hello : Protocol.Hello} (h : Reads line (.hello hello))
      (error : SessionError) : Answers opened (.line line) (.ofError error.toError)
  | capabilities {line : List UInt8} (h : Reads line .getCapabilities) (held : CapabilitySet) :
      Answers opened (.line line) (.capabilities (CapabilitySet.serverBase.extend held))
  | noSession {line : List UInt8} {request : Protocol.Request} (h : Reads line (.rpc request))
      (ho : opened = false) : Answers opened (.line line) (.ofFault .noSession)
  | reply {line : List UInt8} {request : Protocol.Request} (h : Reads line (.rpc request))
      (ho : opened = true) (reply : Rpc.Reply) :
      Answers opened (.line line) (.reply (Text.trim request.sessionId) request.messageId reply)

lemma Answers.isNotification {opened : Bool} {intake : Intake} {message : ServerMessage}
    (h : Answers opened intake message) : message.isNotification = false := by
  cases h <;> rfl

/-- Every intake has one answer, in the order of the intakes. -/
inductive Transcript : List Intake → List ServerMessage → Prop where
  | nil : Transcript [] []
  | snoc {intakes : List Intake} {answers : List ServerMessage} {intake : Intake}
      {answer : ServerMessage} (h : Transcript intakes answers)
      (ha : Answers (answers.any (·.isRegistered)) intake answer) :
      Transcript (intakes ++ [intake]) (answers ++ [answer])

lemma Transcript.length {intakes : List Intake} {answers : List ServerMessage}
    (h : Transcript intakes answers) : answers.length = intakes.length := by
  induction h with
  | nil => rfl
  | snoc _ _ ih => rw [List.length_append, List.length_append, ih, List.length_singleton,
      List.length_singleton]

/-! ## At work -/

/-- Whether a loop in the phase is at work on what it has taken in. -/
def Phase.isBusy : Phase → Bool
  | .received _ | .greeting _ | .opened _ | .describing | .finding _ | .checkActive _ _ => true
  | .dispatching .. | .answering _ | .replying _ _ | .lastWord _ => true
  | _ => false

variable {μ : Type}

/-- How far a loop is with what it has taken in, given the session that it has registered. -/
inductive WorksOn (sessions : Session.Registry) (opened : Bool) (intake : Intake) :
    Option Session.Ref → Phase → Prop where
  | received {own : Option Session.Ref} {line : List UInt8} (hi : intake = .line line)
      (ho : own.isSome = opened) : WorksOn sessions opened intake own (.received line)
  | greeting {own : Option Session.Ref} {line : List UInt8} {hello : Protocol.Hello}
      (hi : intake = .line line) (hr : Reads line (.hello hello)) (ho : own.isSome = opened) :
      WorksOn sessions opened intake own (.greeting hello)
  | opened {own : Option Session.Ref} {line : List UInt8} {hello : Protocol.Hello}
      {session : Session.Ref} (hi : intake = .line line) (hr : Reads line (.hello hello))
      (hlt : session.number < sessions.records.length)
      (hid : (sessions.record session).context.sessionId = Text.trim hello.sessionId) :
      WorksOn sessions opened intake own (.opened session)
  | describing {own : Option Session.Ref} {line : List UInt8} (hi : intake = .line line)
      (hr : Reads line .getCapabilities) (ho : own.isSome = opened) :
      WorksOn sessions opened intake own .describing
  | finding {own : Option Session.Ref} {line : List UInt8} {request : Protocol.Request}
      (hi : intake = .line line) (hr : Reads line (.rpc request)) (ho : own.isSome = opened) :
      WorksOn sessions opened intake own (.finding request)
  | checkActive {own : Option Session.Ref} {line : List UInt8} {request : Protocol.Request}
      {session : Session.Ref} (hi : intake = .line line) (hr : Reads line (.rpc request))
      (ho : own.isSome = opened) (hs : opened = true) :
      WorksOn sessions opened intake own (.checkActive request session)
  | dispatching {own : Option Session.Ref} {line : List UInt8} {request : Protocol.Request}
      {session : Session.Ref} {stage : Dispatch.Stage} (hi : intake = .line line)
      (hr : Reads line (.rpc request)) (ho : own.isSome = opened) (hs : opened = true) :
      WorksOn sessions opened intake own (.dispatching request session stage)
  | replying {own : Option Session.Ref} {line : List UInt8} {request : Protocol.Request}
      {outcome : Dispatched} (hi : intake = .line line) (hr : Reads line (.rpc request))
      (ho : own.isSome = opened) (hs : opened = true) :
      WorksOn sessions opened intake own (.replying request outcome)
  | answering {own : Option Session.Ref} {message : ServerMessage}
      (ha : Answers opened intake message) (ho : own.isSome = (opened || message.isRegistered)) :
      WorksOn sessions opened intake own (.answering message)
  | lastWord {own : Option Session.Ref} {bytes limit : Nat} (hi : intake = .tooLong)
      (ho : own.isSome = opened) :
      WorksOn sessions opened intake own (.lastWord (.ofFault (.tooLarge bytes limit)))

namespace WorksOn

variable {sessions sessions' : Session.Registry} {opened : Bool} {intake : Intake}
  {own : Option Session.Ref} {phase : Phase}

lemma isBusy (h : WorksOn sessions opened intake own phase) : phase.isBusy = true := by
  cases h <;> rfl

lemma ages (h : WorksOn sessions opened intake own phase) (ha : sessions.Ages sessions') :
    WorksOn sessions' opened intake own phase := by
  cases h with
  | received hi ho => exact .received hi ho
  | greeting hi hr ho => exact .greeting hi hr ho
  | opened hi hr hlt hid =>
    exact .opened hi hr (Nat.lt_of_lt_of_le hlt ha.length) (by rw [ha.context _ hlt]; exact hid)
  | describing hi hr ho => exact .describing hi hr ho
  | finding hi hr ho => exact .finding hi hr ho
  | checkActive hi hr ho hs => exact .checkActive hi hr ho hs
  | dispatching hi hr ho hs => exact .dispatching hi hr ho hs
  | replying hi hr ho hs => exact .replying hi hr ho hs
  | answering ha' ho => exact .answering ha' ho
  | lastWord hi ho => exact .lastWord hi ho

end WorksOn

/-- The phase in which a message is attended to. -/
def Phase.ofMessage : AgentMessage → Phase
  | .hello hello => .greeting hello
  | .getCapabilities => .describing
  | .rpc request => .finding request

/-- A line is answered with what is wrong with it, or its message is attended to. -/
lemma Loop.afterLine_cases (line : List UInt8) :
    (∃ fault, afterLine line = .answering (.ofFault fault) ∧
      ∀ opened, Answers opened (.line line) (.ofFault fault)) ∨
    ∃ message, Reads line message ∧ afterLine line = .ofMessage message := by
  unfold afterLine
  cases hp : AgentMessage.parse line with
  | error fault =>
    refine .inl ⟨fault, ?_, fun _ => .malformed hp⟩
    simp only [afterFault, AgentMessage.isRecoverable_of_parse hp, if_true]
  | ok message =>
    cases hv : message.validate with
    | error fault =>
      refine .inl ⟨fault, ?_, fun _ => .invalid hp hv⟩
      simp only [hv, afterFault, AgentMessage.isRecoverable_of_validate hv, if_true]
    | ok _ =>
      refine .inr ⟨message, ⟨hp, hv⟩, ?_⟩
      simp only [hv]
      cases message <;> rfl

/-- A request is answered with an error, or the loop goes on to check its session. -/
lemma Loop.find_cases (l : Loop) (request : Protocol.Request) (s : Shared μ) :
    l.own = none ∧ l.find request s = .answering (.ofFault .noSession) ∨
    (∃ own error, l.own = some own ∧
      l.find request s = .answering (replyMessage request (.error error))) ∨
    ∃ session, l.own = some session ∧ s.sessions.getById (sessionIdOf request) = .ok session ∧
      l.find request s = .checkActive request session := by
  unfold find
  cases ho : l.own with
  | none => exact .inl ⟨rfl, rfl⟩
  | some own =>
    refine .inr ?_
    by_cases hid : sessionIdOf request = (s.sessions.record own).id
    · cases hg : s.sessions.getById (sessionIdOf request) with
      | error e =>
        refine .inl ⟨own, e.toError, rfl, ?_⟩
        simp only [hid ▸ hg, hid, bne_self_eq_false, Bool.false_eq_true, if_false]
        rfl
      | ok found =>
        by_cases hf : found = own
        · subst hf
          refine .inr ⟨found, rfl, rfl, ?_⟩
          simp [hid ▸ hg, hid]
        · refine .inl ⟨own, terminatingError request, rfl, ?_⟩
          simp only [hid ▸ hg, hid, bne_self_eq_false, Bool.false_eq_true, if_false, hf]
          rfl
    · refine .inl ⟨own, .failed
        s!"session '{sessionIdOf request}' is not carried by this connection", rfl, ?_⟩
      simp only [bne_iff_ne, ne_eq, hid, not_false_eq_true, if_true]
      rfl

/-! ## Steps at work -/

section

variable {l : Loop} {s : Shared μ} {opened : Bool} {intake : Intake}

/-- The loop is still at work and has answered nothing. -/
structure Proceeds (opened : Bool) (intake : Intake) (socket : SocketId) (s : Shared μ)
    (r : Result (Shared μ) Loop) : Prop where
  works : WorksOn r.state.sessions opened intake r.value.own r.value.phase
  answers : r.state.answers socket = s.answers socket

/-- The loop has written its answer. -/
structure Finishes (opened : Bool) (intake : Intake) (socket : SocketId) (s : Shared μ)
    (r : Result (Shared μ) Loop) (answer : ServerMessage) : Prop where
  answers : Answers opened intake answer
  written : r.state.answers socket = s.answers socket ++ [answer]
  idle : r.value.phase.isBusy = false
  own : r.value.own.isSome = (opened || answer.isRegistered)

lemma finishes_append {journal : List Occurrence} {phase : Phase} {message : ServerMessage}
    (ha : Answers opened intake message) (hk : l.socket.number < s.sockets.length)
    (hp : phase.isBusy = false) (ho : l.own.isSome = (opened || message.isRegistered)) :
    Finishes opened intake l.socket s ⟨l.goTo phase, s.append l.socket message, journal⟩ message :=
  ⟨ha, Shared.answers_append_self ha.isNotification hk, hp, ho⟩

lemma isBusy_afterReply (outcome : Dispatched) : (Loop.afterReply outcome).isBusy = false := by
  unfold Loop.afterReply
  split
  · rfl
  · split
    · rfl
    · rfl

lemma WorksOn.received_step {line : List UInt8} (hi : intake = .line line)
    (ho : l.own.isSome = opened) (journal : List Occurrence) :
    Proceeds opened intake l.socket s ⟨l.goTo (Loop.afterLine line), s, journal⟩ := by
  refine ⟨?_, rfl⟩
  change WorksOn s.sessions opened intake l.own (Loop.afterLine line)
  rcases Loop.afterLine_cases line with ⟨fault, he, ha⟩ | ⟨message, hr, he⟩
  · rw [he]
    refine .answering (hi ▸ ha opened) ?_
    rw [ho]
    exact (Bool.or_false opened).symm
  · rw [he]
    cases message with
    | hello hello => exact .greeting hi hr ho
    | getCapabilities => exact .describing hi hr ho
    | rpc request => exact .finding hi hr ho

lemma WorksOn.finding_step {line : List UInt8} {request : Protocol.Request}
    (hi : intake = .line line) (hr : Reads line (.rpc request)) (ho : l.own.isSome = opened)
    (journal : List Occurrence) :
    Proceeds opened intake l.socket s ⟨l.goTo (l.find request s), s, journal⟩ := by
  refine ⟨?_, rfl⟩
  change WorksOn s.sessions opened intake l.own (l.find request s)
  rcases l.find_cases request s with ⟨hn, he⟩ | ⟨own, error, hs, he⟩ | ⟨session, hs, -, he⟩
  · rw [he]
    have hf : opened = false := by rw [← ho, hn]; rfl
    subst hf
    exact .answering (hi ▸ .noSession hr rfl) ho
  · rw [he]
    have ht : opened = true := by rw [← ho, hs]; rfl
    subst ht
    exact .answering (hi ▸ .reply hr rfl _) ho
  · rw [he]
    exact .checkActive hi hr ho (by rw [← ho, hs]; rfl)

/-- A loop that is at work goes on, or it writes its one answer. -/
lemma WorksOn.step [Device.DeviceModule μ] (h : WorksOn s.sessions opened intake l.own l.phase)
    (hw : l.phase.isWriting → (s.socket l.socket).writeFault? = none)
    (hk : l.socket.number < s.sockets.length) (env : Environment) (size : Nat) :
    Proceeds opened intake l.socket s (l.step env size s) ∨
      ∃ answer, Finishes opened intake l.socket s (l.step env size s) answer := by
  cases hp : l.phase with
  | received line =>
    rw [hp] at h
    cases h with
    | received hi ho =>
      rw [Loop.step_received hp]
      exact .inl (received_step hi ho [])
  | greeting hello =>
    rw [hp] at h
    cases h with
    | greeting hi hr ho =>
      refine .inl ?_
      rcases Loop.step_greeting env size s hp with
        ⟨error, he⟩ | ⟨session, sessions, journal, he, hreg⟩
      · rw [he]
        refine ⟨.answering (hi ▸ .refused hr error) ?_, rfl⟩
        exact ho.trans (Bool.or_false opened).symm
      · rw [he]
        refine ⟨.opened hi hr ?_ ?_, rfl⟩
        · simp [hreg.records, hreg.number]
        · rw [hreg.record_self]
  | opened session =>
    rw [hp] at h
    cases h with
    | opened hi hr hlt hid =>
      rw [Loop.step_opened hp]
      refine .inl ⟨.answering ?_ ?_, rfl⟩
      · rw [Session.Record.id, hid]
        exact hi ▸ .registered hr
      · exact (Bool.or_true opened).symm
  | describing =>
    rw [hp] at h
    cases h with
    | describing hi hr ho =>
      rw [Loop.step_describing hp]
      refine .inl ⟨.answering (hi ▸ .capabilities hr _) ?_, rfl⟩
      exact ho.trans (Bool.or_false opened).symm
  | finding request =>
    rw [hp] at h
    cases h with
    | finding hi hr ho =>
      rw [Loop.step_finding hp]
      exact .inl (finding_step hi hr ho [])
  | checkActive request session =>
    rw [hp] at h
    cases h with
    | checkActive hi hr ho hs =>
      rw [Loop.step_checkActive hp]
      refine .inl ⟨?_, rfl⟩
      by_cases hact : (s.sessions.record session).status = .active
      · simp only [hact, if_true]
        exact .dispatching hi hr ho hs
      · simp only [hact, if_false]
        exact .answering (hi ▸ .reply hr hs _) (ho.trans (Bool.or_false opened).symm)
  | dispatching request session stage =>
    rw [hp] at h
    cases h with
    | dispatching hi hr ho hs =>
      by_cases hd : ∃ outcome, stage = .done outcome
      · obtain ⟨outcome, rfl⟩ := hd
        rw [Loop.step_dispatching_done hp]
        exact .inl ⟨.replying hi hr ho hs, rfl⟩
      · obtain ⟨journal, he⟩ :=
          Loop.step_dispatching env size s hp fun outcome hc => hd ⟨outcome, hc⟩
        rw [he]
        have hf := Dispatch.keeps_step env l.socket session request stage s
        exact .inl ⟨.dispatching hi hr ho hs, hf.answers l.socket⟩
  | answering message =>
    rw [hp] at h
    cases h with
    | answering ha ho =>
      rw [Loop.step_answering hp (hw (by rw [hp]; rfl))]
      exact .inr ⟨message, finishes_append ha hk rfl ho⟩
  | replying request outcome =>
    rw [hp] at h
    cases h with
    | replying hi hr ho hs =>
      rw [Loop.step_replying hp (hw (by rw [hp]; rfl))]
      refine .inr ⟨_, finishes_append (hi ▸ .reply hr hs _) hk (isBusy_afterReply outcome) ?_⟩
      exact ho.trans (Bool.or_false opened).symm
  | lastWord message =>
    rw [hp] at h
    cases h with
    | lastWord hi ho =>
      rw [Loop.step_lastWord hp, Shared.write_of_none _ (hw (by rw [hp]; rfl))]
      refine .inr ⟨_, finishes_append (hi ▸ .tooLong _ _) hk rfl ?_⟩
      exact ho.trans (Bool.or_false opened).symm
  | _ =>
    have hb := h.isBusy
    rw [hp] at hb
    cases hb

end

/-! ## Steps between lines -/

section

variable [Device.DeviceModule μ] {l : Loop}

/-- Between two lines a loop registers nothing and answers nothing. -/
lemma Loop.idle_step (env : Environment) (size : Nat) (s : Shared μ) (h : l.phase.isBusy = false)
    (hn : l.phase ≠ .reading) : (l.step env size s).value.phase.isBusy = false ∧
      (l.step env size s).value.own = l.own := by
  cases hp : l.phase with
  | registering =>
    cases hf : env.socketFault with
    | none =>
      rw [step_registering hp hf]
      exact ⟨rfl, rfl⟩
    | some detail =>
      rw [step_registering_fault hp hf]
      exact ⟨rfl, rfl⟩
  | preparing =>
    rw [step_preparing hp]
    refine ⟨?_, rfl⟩
    dsimp only
    split <;> rfl
  | abandoning =>
    rw [step_abandoning hp]
    exact ⟨rfl, rfl⟩
  | dropping =>
    rw [step_dropping hp]
    exact ⟨rfl, rfl⟩
  | checkShutdown =>
    rw [step_checkShutdown hp]
    refine ⟨?_, rfl⟩
    dsimp only
    split <;> rfl
  | checkClosing =>
    rw [step_checkClosing hp]
    refine ⟨?_, rfl⟩
    dsimp only
    split <;> rfl
  | openGate delivery closes =>
    rw [step_openGate hp]
    cases closes <;> exact ⟨rfl, rfl⟩
  | terminating reason =>
    rw [step_terminating hp]
    exact ⟨rfl, rfl⟩
  | shutting reason =>
    rw [step_shutting hp]
    exact ⟨rfl, rfl⟩
  | removing reason =>
    cases ho : l.own with
    | none =>
      rw [step_removing_none hp ho]
      exact ⟨rfl, ho⟩
    | some own =>
      rw [step_removing hp ho]
      refine ⟨?_, ho⟩
      dsimp only
      split <;> rfl
  | closing reason session rest =>
    by_cases hd : rest = .done
    · subst hd
      obtain ⟨journal, he⟩ := step_closing_done env size s hp
      rw [he]
      exact ⟨rfl, rfl⟩
    · obtain ⟨journal, he⟩ := step_closing env size s hp hd
      rw [he]
      exact ⟨rfl, rfl⟩
  | reportClosed reason session =>
    obtain ⟨journal, he⟩ := step_reportClosed env size s hp
    rw [he]
    exact ⟨rfl, rfl⟩
  | unregistering =>
    rw [step_unregistering hp]
    exact ⟨rfl, rfl⟩
  | releasing =>
    obtain ⟨deliveries, he⟩ := step_releasing env size s hp
    rw [he]
    exact ⟨rfl, rfl⟩
  | ended =>
    rw [step_ended hp]
    exact ⟨hp ▸ h, rfl⟩
  | reading => exact absurd hp hn
  | _ => simp [hp, Phase.isBusy] at h

/-- A loop that is not about to write leaves all answers as they are. -/
lemma Loop.answers_step (env : Environment) (size : Nat) (s : Shared μ)
    (h : l.phase.isWriting = false) (id : SocketId) :
    (l.step env size s).state.answers id = s.answers id := by
  by_cases hs : l.phase.isSilent
  · exact (follows_step env size s hs).answers id
  · cases hp : l.phase with
    | registering =>
      cases hf : env.socketFault with
      | none =>
        rw [step_registering hp hf]
        rfl
      | some detail =>
        rw [step_registering_fault hp hf]
    | abandoning =>
      rw [step_abandoning hp]
      rfl
    | unregistering =>
      rw [step_unregistering hp]
      rfl
    | greeting hello =>
      rcases step_greeting env size s hp with ⟨error, he⟩ | ⟨session, sessions, journal, he, -⟩
      · rw [he]
      · rw [he]
        rfl
    | _ => simp [hp, Phase.isSilent, Phase.isWriting] at hs h

/-- A loop writes to its own socket only. -/
lemma Loop.answers_step_of_ne (env : Environment) (size : Nat) (s : Shared μ) {id : SocketId}
    (h : l.socket ≠ id) : (l.step env size s).state.answers id = s.answers id := by
  by_cases hw : l.phase.isWriting
  · cases hf : (s.socket l.socket).writeFault? with
    | none =>
      cases hp : l.phase with
      | answering message =>
        rw [step_answering hp hf]
        exact Shared.answers_append_of_ne s message h
      | replying request outcome =>
        rw [step_replying hp hf]
        exact Shared.answers_append_of_ne s _ h
      | lastWord message =>
        rw [step_lastWord hp, Shared.write_of_none _ hf]
        exact Shared.answers_append_of_ne s message h
      | _ => simp [hp, Phase.isWriting] at hw
    | some detail =>
      cases hp : l.phase with
      | answering message => rw [step_answering_fault hp hf]
      | replying request outcome =>
        rw [step_replying_fault hp hf]
        dsimp only
        split
        · exact (Shared.keeps_setGate _ _ s).answers id
        · rfl
      | lastWord message => rw [step_lastWord hp, Shared.write_of_some _ hf]
      | _ => simp [hp, Phase.isWriting] at hw
  · exact answers_step env size s (by simpa using hw) id

end

/-! ## Taking leave -/

/-- Whether a loop in the phase reads nothing more: it is about to say its last word, to close its
connection behind a reply, or to end. -/
def Phase.isLeaving : Phase → Bool
  | .abandoning | .dropping | .lastWord _ | .terminating _ | .shutting _ | .removing _ => true
  | .closing .. | .reportClosed .. | .unregistering | .releasing | .ended => true
  | .replying _ outcome => outcome.closes
  | .openGate _ closes => closes
  | _ => false

section

variable [Device.DeviceModule μ] {l : Loop}

lemma Loop.isLeaving_step (env : Environment) (size : Nat) (s : Shared μ)
    (h : l.phase.isLeaving = true) : (l.step env size s).value.phase.isLeaving = true := by
  cases hp : l.phase with
  | abandoning =>
    rw [step_abandoning hp]
    rfl
  | dropping =>
    rw [step_dropping hp]
    rfl
  | lastWord message =>
    rw [step_lastWord hp]
    rfl
  | terminating reason =>
    rw [step_terminating hp]
    rfl
  | shutting reason =>
    rw [step_shutting hp]
    rfl
  | removing reason =>
    cases ho : l.own with
    | none =>
      rw [step_removing_none hp ho]
      rfl
    | some own =>
      rw [step_removing hp ho]
      dsimp only
      split <;> rfl
  | closing reason session rest =>
    by_cases hd : rest = .done
    · subst hd
      obtain ⟨journal, he⟩ := step_closing_done env size s hp
      rw [he]
      rfl
    · obtain ⟨journal, he⟩ := step_closing env size s hp hd
      rw [he]
      rfl
  | reportClosed reason session =>
    obtain ⟨journal, he⟩ := step_reportClosed env size s hp
    rw [he]
    rfl
  | unregistering =>
    rw [step_unregistering hp]
    rfl
  | releasing =>
    obtain ⟨deliveries, he⟩ := step_releasing env size s hp
    rw [he]
    rfl
  | ended =>
    rw [step_ended hp]
    exact h
  | replying request outcome =>
    have hc : outcome.closes = true := by simpa [hp, Phase.isLeaving] using h
    cases hw : (s.socket l.socket).writeFault? with
    | none =>
      rw [step_replying hp hw]
      unfold afterReply
      cases hg : outcome.gate with
      | some delivery => exact hc
      | none => simp [hc, goTo, Phase.isLeaving]
    | some detail =>
      rw [step_replying_fault hp hw]
      rfl
  | openGate delivery closes =>
    have hc : closes = true := by simpa [hp, Phase.isLeaving] using h
    rw [step_openGate hp, hc]
    rfl
  | _ => simp [hp, Phase.isLeaving] at h

/-! ## Checking a request's session -/

/-- The request whose session is being checked, or has been. -/
def Phase.request? : Phase → Option (Protocol.Request × Session.Ref)
  | .checkActive request session | .dispatching request session _ => some (request, session)
  | _ => none

lemma Phase.request?_of_isBusy {phase : Phase} (h : phase.isBusy = false) :
    phase.request? = none := by
  cases phase <;> simp_all [isBusy, request?]

lemma Loop.request?_afterFault (fault : Protocol.Fault) : (afterFault fault).request? = none := by
  unfold afterFault
  split
  · rfl
  · split <;> rfl

/-- How a loop comes to a request whose session is checked: it has found the session, or found it
active, or goes on with the request. -/
lemma Loop.request?_step (env : Environment) (size : Nat) (s : Shared μ)
    {request : Protocol.Request} {session : Session.Ref}
    (h : (l.step env size s).value.phase.request? = some (request, session)) :
    (l.phase = .finding request ∧ l.own = some session ∧
      s.sessions.getById (sessionIdOf request) = .ok session ∧
      (l.step env size s).value.phase = .checkActive request session) ∨
    (l.phase = .checkActive request session ∧ (s.sessions.record session).status = .active) ∨
    ∃ stage, l.phase = .dispatching request session stage := by
  by_cases hb : l.phase.isBusy
  · cases hp : l.phase with
    | received line =>
      rw [step_received hp] at h
      rcases afterLine_cases line with ⟨fault, he, -⟩ | ⟨message, -, he⟩
      · simp [goTo, he, Phase.request?] at h
      · cases message <;> simp [goTo, he, Phase.ofMessage, Phase.request?] at h
    | greeting hello =>
      rcases step_greeting env size s hp with ⟨error, he⟩ | ⟨opened, sessions, journal, he, -⟩
      · simp [he, goTo, Phase.request?] at h
      · simp [he, goTo, Phase.request?] at h
    | opened opened => simp [step_opened hp, Phase.request?] at h
    | describing => simp [step_describing hp, goTo, Phase.request?] at h
    | finding found =>
      rw [step_finding hp] at h
      rcases l.find_cases found s with ⟨-, he⟩ | ⟨own, error, -, he⟩ | ⟨own, hown, hget, he⟩
      · simp [goTo, he, Phase.request?] at h
      · simp [goTo, he, Phase.request?] at h
      · simp only [goTo, he, Phase.request?, Option.some.injEq, Prod.mk.injEq] at h
        obtain ⟨rfl, rfl⟩ := h
        refine .inl ⟨rfl, hown, hget, ?_⟩
        rw [step_finding hp]
        exact he
    | checkActive found own =>
      rw [step_checkActive hp] at h
      by_cases ha : (s.sessions.record own).status = .active
      · simp only [goTo, ha, if_true, Phase.request?, Option.some.injEq, Prod.mk.injEq] at h
        obtain ⟨rfl, rfl⟩ := h
        exact .inr (.inl ⟨rfl, ha⟩)
      · simp [goTo, ha, refuse, Phase.request?] at h
    | dispatching found own stage =>
      by_cases hd : ∃ outcome, stage = .done outcome
      · obtain ⟨outcome, rfl⟩ := hd
        simp [step_dispatching_done hp, goTo, Phase.request?] at h
      · obtain ⟨journal, he⟩ :=
          step_dispatching env size s hp fun outcome hc => hd ⟨outcome, hc⟩
        simp only [he, goTo, Phase.request?, Option.some.injEq, Prod.mk.injEq] at h
        obtain ⟨rfl, rfl⟩ := h
        exact .inr (.inr ⟨stage, rfl⟩)
    | answering message =>
      cases hw : (s.socket l.socket).writeFault? with
      | none => simp [step_answering hp hw, goTo, Phase.request?] at h
      | some detail => simp [step_answering_fault hp hw, goTo, request?_afterFault] at h
    | replying found outcome =>
      cases hw : (s.socket l.socket).writeFault? with
      | none =>
        have hn := Phase.request?_of_isBusy (isBusy_afterReply outcome)
        simp [step_replying hp hw, goTo, hn] at h
      | some detail => simp [step_replying_fault hp hw, goTo, request?_afterFault] at h
    | lastWord message => simp [step_lastWord hp, goTo, Phase.request?] at h
    | _ => simp [hp, Phase.isBusy] at hb
  · have hb : l.phase.isBusy = false := by simpa using hb
    by_cases hr : l.phase = .reading
    · obtain ⟨reader, phase, hv, hn⟩ := yields_reading env size hr s
      rw [hv] at h
      rcases hn with rfl | ⟨line, rfl⟩ | rfl | ⟨reason, rfl⟩ | ⟨bytes, limit, rfl⟩
      all_goals cases h
    · rw [Phase.request?_of_isBusy (idle_step env size s hb hr).1] at h
      cases h

/-- Until a request is executed, a loop changes nothing of what it shares with others and lets
nothing happen: it goes on to the next check, or it answers with an error. -/
structure Loop.Checks (l : Loop) (s : Shared μ) : Prop where
  received : ∀ env size line, l.phase = .received line → ∃ phase,
    l.step env size s = ⟨l.goTo phase, s, []⟩ ∧
      ((∃ message, Reads line message ∧ phase = .ofMessage message) ∨
        ∃ answer, phase = .answering answer ∧ answer.isError = true)
  finding : ∀ env size request, l.phase = .finding request → ∃ phase,
    l.step env size s = ⟨l.goTo phase, s, []⟩ ∧
      ((∃ session, phase = .checkActive request session) ∨
        ∃ answer, phase = .answering answer ∧ answer.isError = true)
  checkActive : ∀ env size request session, l.phase = .checkActive request session → ∃ phase,
    l.step env size s = ⟨l.goTo phase, s, []⟩ ∧
      (phase = .dispatching request session .routing ∨
        ∃ answer, phase = .answering answer ∧ answer.isError = true)
  answering : ∀ env size answer, l.phase = .answering answer →
    (s.socket l.socket).writeFault? = none →
      l.step env size s = ⟨l.goTo .checkShutdown, s.append l.socket answer, []⟩

lemma Loop.checks (l : Loop) (s : Shared μ) : l.Checks s := by
  refine ⟨?_, ?_, ?_, fun _ _ _ hp hw => step_answering hp hw⟩
  · intro env size line hp
    refine ⟨_, step_received hp, ?_⟩
    rcases afterLine_cases line with ⟨fault, he, -⟩ | ⟨message, hr, he⟩
    · exact .inr ⟨_, he, rfl⟩
    · exact .inl ⟨message, hr, he⟩
  · intro env size request hp
    refine ⟨_, step_finding hp, ?_⟩
    rcases l.find_cases request s with ⟨-, he⟩ | ⟨own, error, -, he⟩ | ⟨session, -, -, he⟩
    · exact .inr ⟨_, he, rfl⟩
    · exact .inr ⟨_, he, rfl⟩
    · exact .inl ⟨session, he⟩
  · intro env size request session hp
    refine ⟨_, step_checkActive hp, ?_⟩
    split
    · exact .inl rfl
    · exact .inr ⟨_, rfl, rfl⟩

end

end Server

end ManagementServer
