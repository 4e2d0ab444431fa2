import ManagementServer.Proofs.Stopping
import ManagementServer.Proofs.SubscriptionSteps

/-!
# Who holds a subscription along a run

`Turn.Handles` lists what a turn does to deliveries and to those who hold them: a loop makes a step,
a delivery moves, or whoever stops the server goes on with closing a session. A delivery that waits
for a loop has been made (`Running.Ranged`).
-/

namespace ManagementServer.Server

open ManagementServer.Action (Keeps)
open Session (DeliveryRef)

variable {μ : Type}

/-- How far stopping a server has come with closing a session. -/
def Stopping.closing? : Stopping → Option Closing
  | .closing _ _ current _ => some current
  | _ => none

namespace Running

/-- Sessions, deliveries, and stopping the server are left alone. -/
structure Apart (s s' : Running μ) : Prop where
  sessions : s'.shared.sessions = s.shared.sessions
  deliveries : s'.shared.deliveries = s.shared.deliveries
  stopping : s'.stopping = s.stopping

instance : Std.Refl (Apart (μ := μ)) := ⟨fun _ => ⟨rfl, rfl, rfl⟩⟩

instance : IsTrans (Running μ) Apart :=
  ⟨fun _ _ _ h h' => ⟨h'.sessions.trans h.sessions, h'.deliveries.trans h.deliveries,
    h'.stopping.trans h.stopping⟩⟩

lemma apart_modify {f : Running μ → Running μ} (h : ∀ s, Apart s (f s)) :
    Keeps Apart (Action.modify f) :=
  h

lemma apart_changeHost (f : Connection.Listener → Connection.Host → Connection.Host)
    (s : Running μ) : Apart s (s.changeHost f) := by
  unfold changeHost
  split
  · exact ⟨rfl, rfl, rfl⟩
  · exact Std.Refl.refl s

lemma apart_connect : Keeps Apart (connect : Action (Running μ) (Option SocketId)) := by
  refine Keeps.bind Keeps.get fun s => ?_
  split
  · exact Keeps.pure _
  · refine Keeps.bind (apart_modify fun _ => ⟨rfl, rfl, rfl⟩) fun _ => ?_
    split
    · exact Keeps.bind (apart_modify fun _ => ⟨rfl, rfl, rfl⟩) fun _ => Keeps.pure _
    · exact Keeps.bind (apart_modify fun _ => ⟨rfl, rfl, rfl⟩) fun _ => Keeps.pure _

lemma apart_accept (env : Environment) : Keeps Apart (accept env : Action (Running μ) Unit) := by
  refine Keeps.bind Keeps.get fun s => ?_
  split
  · exact Keeps.pure _
  · exact Keeps.pure _
  · exact Keeps.pure _
  · exact apart_modify fun _ => ⟨rfl, rfl, rfl⟩
  · split
    · exact apart_modify fun _ => ⟨rfl, rfl, rfl⟩
    · split
      · exact apart_modify fun _ => ⟨rfl, rfl, rfl⟩
      · exact apart_modify fun _ => ⟨rfl, rfl, rfl⟩
  · refine apart_modify fun s => ?_
    have h := apart_changeHost Connection.Host.clean s
    exact ⟨h.sessions, h.deliveries, h.stopping⟩
  · split
    · refine apart_modify fun s => ?_
      have h := apart_changeHost Connection.Host.abandon s
      exact ⟨h.sessions, h.deliveries, h.stopping⟩
    · exact Keeps.pure _

lemma apart_crashAccepting : Keeps Apart (crashAccepting : Action (Running μ) Unit) := by
  refine Keeps.bind Keeps.get fun s => ?_
  split
  · exact Keeps.pure _
  · exact Keeps.pure _
  · exact Keeps.pure _
  · refine apart_modify fun s => ?_
    have h := apart_changeHost Connection.Host.abandon s
    exact ⟨h.sessions, h.deliveries, h.stopping⟩

end Running

namespace Turn

/-- Whether a turn is one of neither a loop nor a delivery. -/
def IsAside (s : Running μ) : Turn μ → Prop
  | .move _ (.loop index _) => s.loops[index]? = none
  | .move _ (.deliver _) => False
  | _ => True

variable [Device.DeviceModule μ]

/-- What a turn does to deliveries and to those who hold them. -/
inductive Handles (t : Turn μ) (s s' : Running μ) : Prop where
  | steps (env : Environment) (index size : Nat) (l : Loop)
      (turn : t = .move env (.loop index size)) (found : s.loops[index]? = some l)
      (loops : s'.loops = s.loops.set index (l.step env size s.shared).value)
      (shared : s'.shared = (l.step env size s.shared).state)
      (stopping : s'.stopping = s.stopping)
  | delivers (env : Environment) (ref : DeliveryRef) (turn : t = .move env (.deliver ref))
      (loops : s'.loops = s.loops) (shared : s'.shared = (s.shared.deliver env.now ref).state)
      (stopping : s'.stopping = s.stopping)
  | closes (current : Closing) (aside : t.IsAside s)
      (closing : s.stopping.closing? = some current) (busy : current ≠ .done)
      (next : s'.stopping.closing? = some (current.step s.shared).value)
      (loops : s'.loops = s.loops) (shared : s'.shared = (current.step s.shared).state)
  | rests (aside : t.IsAside s) (stays : s.shared.Stays s'.shared)
      (loops : s'.loops = s.loops ∨ ∃ socket, s'.loops = s.loops ++ [.start socket])
      (closing : ∀ current, s.stopping.closing? = some current →
        current = .done ∨ s'.stopping.closing? = some current)

lemma handles_stop (env : Environment) (s : Running μ) :
    (Turn.move env .stop).Handles s (act s (.move env .stop)) := by
  have hrefl : s.shared.sessions.Holds s.shared.sessions := Std.Refl.refl _
  have hdetach : s.shared.sessions.Holds s.shared.sessions.detachAll.1 :=
    Session.Registry.holds_of_records rfl
  have hstate : act s (.move env .stop) = (Running.stop env s).state := rfl
  have h := Running.halts_stop env s
  rw [hstate]
  generalize (Running.stop env s).state = s' at h ⊢
  generalize (Running.stop env s).calls = calls at h
  cases h with
  | closes stage busy => exact .closes _ trivial (by rw [stage]; rfl) busy rfl rfl rfl
  | closesLast stage | closesNext stage =>
    refine .rests trivial (Shared.stays_of_same hrefl rfl) (.inl rfl) ?_
    intro current hc
    rw [stage] at hc
    exact .inl (Option.some.inj hc).symm
  | drainsNone stage | drains stage =>
    exact .rests trivial (Shared.stays_of_same hdetach rfl) (.inl rfl)
      (by simp [stage, Stopping.closing?])
  | requests stage | halts stage | disconnects stage | waits stage | joins stage | takes stage
  | unloadsLast stage | unloads stage | crashes stage =>
    exact .rests trivial (Shared.stays_of_same hrefl rfl) (.inl rfl)
      (by simp [stage, Stopping.closing?])
  | rests => exact .rests trivial (Shared.stays_of_same hrefl rfl) (.inl rfl) fun _ hc => .inr hc

lemma handles_apart {t : Turn μ} {s s' : Running μ} (ha : t.IsAside s) (h : s.Apart s')
    (hl : s'.loops = s.loops ∨ ∃ socket, s'.loops = s.loops ++ [.start socket]) :
    t.Handles s s' := by
  refine .rests ha (Shared.stays_of_same ?_ h.deliveries) hl ?_
  · rw [h.sessions]
    exact Std.Refl.refl _
  · rw [h.stopping]
    exact fun _ hc => .inr hc

lemma handles (t : Turn μ) (s : Running μ) : t.Handles s (act s t) := by
  have hloops : t.IsAside s → (act s t).loops = s.loops ∨
      ∃ socket, (act s t).loops = s.loops ++ [.start socket] := by
    intro ha
    rcases t.effect s with h | ⟨socket, _, _, hl⟩ | ⟨socket, _, hl, _⟩ | ⟨_, _, _, _, rfl, hl, _⟩
    · exact .inl h.loops
    · exact hl.elim (fun h => .inr ⟨socket, h.1⟩) fun h => .inl h.1
    · exact .inr ⟨socket, hl⟩
    · have hn : s.loops[_]? = none := ha
      rw [hl] at hn
      cases hn
  cases t with
  | modules change => exact handles_apart trivial ⟨rfl, rfl, rfl⟩ (.inl rfl)
  | move env what =>
    cases what with
    | connect => exact handles_apart trivial (Running.apart_connect s) (hloops trivial)
    | accept => exact handles_apart trivial (Running.apart_accept env s) (hloops trivial)
    | crashAccepting =>
      exact handles_apart trivial (Running.apart_crashAccepting s) (hloops trivial)
    | send socket bytes | hangUp socket | breakDown socket detail | publish event =>
      exact handles_apart trivial ⟨rfl, rfl, rfl⟩ (.inl rfl)
    | deliver ref => exact .delivers env ref rfl rfl rfl rfl
    | stop => exact handles_stop env s
    | loop index size =>
      cases hl : s.loops[index]? with
      | none =>
        obtain ⟨-, hs, -⟩ := Action.gist_eq_iff.mp (Running.moveLoop_none env size hl)
        have hact : act s (.move env (.loop index size)) = s := hs
        rw [hact]
        exact handles_apart hl (Std.Refl.refl s) (.inl rfl)
      | some l =>
        obtain ⟨-, hs, -⟩ := Action.gist_eq_iff.mp (Running.moveLoop_eq env index size hl)
        have hact : act s (.move env (.loop index size)) = _ := hs
        rw [hact]
        exact .steps env index size l rfl hl rfl rfl rfl

/-- A loop behind a turn is as it was, or has been started, or has made its step. -/
lemma Handles.loop {t : Turn μ} {s s' : Running μ} (h : t.Handles s s') {i : Nat} {l' : Loop}
    (hi : s'.loops[i]? = some l') :
    s.loops[i]? = some l' ∨ (∃ socket, l' = .start socket) ∨
      ∃ env size l, s.loops[i]? = some l ∧ l' = (l.step env size s.shared).value ∧
        s'.shared = (l.step env size s.shared).state := by
  cases h with
  | steps env index size l _ found loops shared =>
    rw [loops] at hi
    rcases Running.Valid.getElem?_set_cases hi with ⟨rfl, rfl⟩ | ⟨-, hi⟩
    · exact .inr (.inr ⟨env, size, l, found, rfl, shared⟩)
    · exact .inl hi
  | delivers _ _ _ loops | closes _ _ _ _ _ loops =>
    rw [loops] at hi
    exact .inl hi
  | rests _ _ loops =>
    rcases loops with hl | ⟨socket, hl⟩
    · rw [hl] at hi
      exact .inl hi
    · rw [hl] at hi
      rcases Running.Valid.getElem?_concat hi with hi | rfl
      · exact .inl hi
      · exact .inr (.inl ⟨socket, rfl⟩)

end Turn

/-! ## Deliveries that wait for a loop -/

namespace Running

/-- Every delivery that waits for a loop has been made. -/
def Ranged (s : Running μ) : Prop :=
  ∀ (i : Nat) (l : Loop) (ref : DeliveryRef), s.loops[i]? = some l →
    l.phase.pending? = some ref ∨ l.phase.opening? = some ref →
      ref.number < s.shared.deliveries.length

lemma IsNew.ranged {s : Running μ} (h : s.IsNew) : s.Ranged := by
  intro i l ref hi
  rw [h.loops] at hi
  cases hi

variable [Device.DeviceModule μ]

lemma length_turn (t : Turn μ) (s : Running μ) :
    s.shared.deliveries.length ≤ (Turn.act s t).shared.deliveries.length := by
  cases t.handles s with
  | steps env index size l _ _ _ shared =>
    rw [shared]
    exact (l.handles_step env size s.shared).length_le
  | delivers env ref _ _ shared => exact Nat.le_of_eq (by rw [shared, Shared.length_deliver])
  | closes _ _ _ _ _ _ shared => exact Nat.le_of_eq (by rw [shared, Closing.length_step])
  | rests _ stays => exact Nat.le_of_eq stays.length.symm

lemma Ranged.turn (t : Turn μ) {s : Running μ} (h : s.Ranged) : (Turn.act s t).Ranged := by
  intro i l' ref hi hw
  have hle := length_turn t s
  rcases (t.handles s).loop hi with hi | ⟨socket, rfl⟩ | ⟨env, size, l, found, rfl, hs⟩
  · exact Nat.lt_of_lt_of_le (h i l' ref hi hw) hle
  · rcases hw with hc | hc <;> cases hc
  · have hstep := l.handles_step env size s.shared
    rw [← hs] at hstep
    rcases hw with hp | ho
    · rcases hstep.pending hp with hp | ⟨hn, hlt⟩
      · exact Nat.lt_of_lt_of_le (h i l ref found (.inl hp)) hle
      · omega
    · obtain ⟨request, outcome, hphase, hg, -⟩ := hstep.opening ho
      refine Nat.lt_of_lt_of_le (h i l ref found (.inl ?_)) hle
      rw [hphase]
      exact hg

lemma Ranged.after {s : Running μ} (h : s.Ranged) (turns : List (Turn μ)) :
    (s.after turns).Ranged := by
  induction turns generalizing s with
  | nil => exact h
  | cons t rest ih => exact ih (h.turn t)

end Running

end ManagementServer.Server
