import ManagementServer.Proofs.ReplyGate

/-!
# Whose numbers are on the bus

Deliveries subscribe to the bus, and so do guests of it that no session knows. `Shared.Numbered`
says that the bus has no other subscribers, that a delivery leaves it when it ends, and that no
number is given out twice. A delivery that is sealed does nothing but leave (`Sealed.deliver`).
-/

namespace ManagementServer

namespace Event

namespace Bus

namespace Operation

/-- The subscriber that an operation is about. -/
def subscriber? : Operation → Option Nat
  | .receive id | .unsubscribe id => some id
  | _ => none

/-- The guests of a bus behind an operation of one of them. -/
def guests (b : Bus) (guests : List Nat) : Operation → List Nat
  | .subscribe .. => guests ++ [b.nextId]
  | .unsubscribe id => guests.filter (· != id)
  | _ => guests

end Operation

variable {b : Bus}

/-- Whoever subscribes and leaves at once leaves the subscribers as they were. -/
lemma unsubscribe_subscribe (h : b.nextId ∉ b.numbers) (start stop : Option Time.Timestamp) :
    (b.subscribe start stop).1.unsubscribe b.nextId =
      { b with nextId := (b.nextId + 1) % subscriberBound } := by
  have hkept : b.subscribers.filter (fun s => s.id != b.nextId) = b.subscribers := by
    apply List.filter_eq_self.mpr
    intro s hs
    rw [bne_iff_ne]
    rintro he
    exact h (List.mem_map.mpr ⟨s, hs, he⟩)
  simp [subscribe, unsubscribe, hkept]

lemma mem_numbers_unsubscribe {id other : Nat} :
    other ∈ (b.unsubscribe id).numbers ↔ other ∈ b.numbers ∧ other ≠ id := by
  rw [numbers_unsubscribe, List.mem_filter, bne_iff_ne]

end Bus

lemma Delivery.isFinished_iff {d : Delivery} : d.isFinished = true ↔ d.stage = .ended := by
  rw [isFinished]
  cases d.stage <;> simp

/-- A delivery comes to its end from where it leaves, and stays there. -/
lemma Delivery.Goes.ended_iff {d : Delivery} {now : Time.Instant} {queue : List Notification}
    {stage next : Stage} {beat : Option Beat} (h : d.Goes now queue stage beat next)
    (hs : d.stage = stage) : next = .ended ↔ stage = .leaving ∨ stage = .ended := by
  constructor
  · intro he
    by_contra hc
    obtain ⟨hl, hn⟩ := not_or.mp hc
    subst he
    cases h with
    | ends => exact hl rfl
    | rests => exact hn rfl
  · intro hc
    by_contra he
    obtain ⟨hl, hn⟩ := h.ne_leaving he
    exact hc.elim hl hn

lemma Delivery.nextId_onBus (d : Delivery) (beat : Option Beat) (b : Bus) :
    (d.onBus beat b).nextId = b.nextId := by
  unfold onBus
  split <;> rfl

end Event

namespace Server

open Event (Bus subscriberBound)
open Session (DeliveryRef)

variable {μ : Type}

namespace Shared

variable {s s' : Shared μ} {ref other : DeliveryRef} {d : Event.Delivery} {guests : List Nat}

/-! ## Who is subscribed -/

/-- The number under which a delivery has subscribed, and whether it has ended. -/
def ticket? (s : Shared μ) (ref : DeliveryRef) : Option (Nat × Bool) :=
  (s.delivery? ref).map fun d => (d.subscriber, d.isFinished)

/-- The subscribers of the bus are its guests and those deliveries that have not ended, each with a
number of its own that is not given out again. -/
structure Numbered (s : Shared μ) (guests : List Nat) : Prop where
  guests_lt : ∀ id ∈ guests, id < s.modules.bus.nextId
  ticket_lt : ∀ ref id ended, s.ticket? ref = some (id, ended) → id < s.modules.bus.nextId
  apart : ∀ ref id ended, s.ticket? ref = some (id, ended) → id ∉ guests
  unique : ∀ ref ref' id ended ended', s.ticket? ref = some (id, ended) →
    s.ticket? ref' = some (id, ended') → ref = ref'
  numbers : ∀ id, id ∈ s.modules.bus.numbers ↔
    id ∈ guests ∨ ∃ ref, s.ticket? ref = some (id, false)

lemma ticket?_of_some (hd : s.delivery? ref = some d) :
    s.ticket? ref = some (d.subscriber, d.isFinished) := by
  rw [ticket?, hd, Option.map_some]

lemma ticket?_congr (h : s'.deliveries = s.deliveries) (ref : DeliveryRef) :
    s'.ticket? ref = s.ticket? ref := by
  rw [ticket?, delivery?_congr h, ticket?]

lemma ticket?_modify {f : Event.Delivery → Event.Delivery}
    (h : s'.deliveries = s.deliveries.modify other.number f)
    (hf : ∀ d, (f d).subscriber = d.subscriber ∧ (f d).stage = d.stage) (ref : DeliveryRef) :
    s'.ticket? ref = s.ticket? ref := by
  have hsame : ∀ d : Event.Delivery, (f d).isFinished = d.isFinished := by
    intro d
    rw [Event.Delivery.isFinished, (hf d).2, Event.Delivery.isFinished]
  rw [ticket?, delivery?, h, List.getElem?_modify, ticket?, delivery?]
  cases s.deliveries[ref.number]? with
  | none => rfl
  | some d =>
    by_cases hn : other.number = ref.number
    · simp [hn, (hf d).1, hsame]
    · simp [hn]

lemma delivery?_concat_of_ne (h : s'.deliveries = s.deliveries ++ [d])
    (hne : (⟨s.deliveries.length⟩ : DeliveryRef) ≠ ref) : s'.delivery? ref = s.delivery? ref := by
  rw [delivery?, h, delivery?]
  have hn : ref.number ≠ s.deliveries.length := fun he => hne (by cases ref; simpa using he.symm)
  rcases Nat.lt_or_gt_of_ne hn with hl | hl
  · rw [List.getElem?_append_left hl]
  · rw [List.getElem?_eq_none (by simp; omega), List.getElem?_eq_none (by omega)]

/-- A delivery that is made has a number behind all others. -/
lemma ticket?_concat (h : s'.deliveries = s.deliveries ++ [d]) (ref : DeliveryRef) :
    s'.ticket? ref = if ref = ⟨s.deliveries.length⟩ then some (d.subscriber, d.isFinished)
      else s.ticket? ref := by
  by_cases he : ref = ⟨s.deliveries.length⟩
  · subst he
    simp [ticket?, delivery?, h]
  · rw [if_neg he, ticket?, delivery?_concat_of_ne h (Ne.symm he), ticket?]

lemma nextId_deliver (now : Time.Instant) (ref : DeliveryRef) (s : Shared μ) :
    (deliver now ref s).state.modules.bus.nextId = s.modules.bus.nextId := by
  cases hd : s.delivery? ref with
  | none => simp [deliver, hd]
  | some d =>
    obtain ⟨next, hm⟩ := moved_deliver now hd
    rw [hm.bus, Event.Delivery.nextId_onBus]

namespace Numbered

/-- The next number is free. -/
lemma fresh (h : s.Numbered guests) : s.modules.bus.nextId ∉ s.modules.bus.numbers := by
  intro hm
  rcases (h.numbers _).mp hm with hg | ⟨ref, hr⟩
  · exact Nat.lt_irrefl _ (h.guests_lt _ hg)
  · exact Nat.lt_irrefl _ (h.ticket_lt ref _ _ hr)

lemma keeps (h : s.Numbered guests) (hn : s'.modules.bus.numbers = s.modules.bus.numbers)
    (hi : s.modules.bus.nextId ≤ s'.modules.bus.nextId)
    (hd : ∀ ref, s'.ticket? ref = s.ticket? ref) : s'.Numbered guests where
  guests_lt id hg := Nat.lt_of_lt_of_le (h.guests_lt id hg) hi
  ticket_lt ref id ended hr := Nat.lt_of_lt_of_le (h.ticket_lt ref id ended (hd ref ▸ hr)) hi
  apart ref id ended hr := h.apart ref id ended (hd ref ▸ hr)
  unique ref ref' id ended ended' hr hr' :=
    h.unique ref ref' id ended ended' (hd ref ▸ hr) (hd ref' ▸ hr')
  numbers id := by
    rw [hn, h.numbers]
    simp only [hd]

/-- A guest arrives. -/
lemma welcomes (h : s.Numbered guests)
    (hn : s'.modules.bus.numbers = s.modules.bus.numbers ++ [s.modules.bus.nextId])
    (hi : s'.modules.bus.nextId = s.modules.bus.nextId + 1)
    (hd : ∀ ref, s'.ticket? ref = s.ticket? ref) :
    s'.Numbered (guests ++ [s.modules.bus.nextId]) where
  guests_lt id hg := by
    rw [hi]
    rcases List.mem_append.mp hg with hg | hg
    · exact Nat.lt_succ_of_lt (h.guests_lt id hg)
    · rw [List.mem_singleton.mp hg]
      exact Nat.lt_succ_self _
  ticket_lt ref id ended hr := by
    rw [hi]
    exact Nat.lt_succ_of_lt (h.ticket_lt ref id ended (hd ref ▸ hr))
  apart ref id ended hr := by
    rw [hd] at hr
    rw [List.mem_append, List.mem_singleton, not_or]
    exact ⟨h.apart ref id ended hr, Nat.ne_of_lt (h.ticket_lt ref id ended hr)⟩
  unique ref ref' id ended ended' hr hr' :=
    h.unique ref ref' id ended ended' (hd ref ▸ hr) (hd ref' ▸ hr')
  numbers id := by
    rw [hn, List.mem_append, h.numbers, List.mem_append]
    simp only [hd]
    tauto

/-- A guest leaves. -/
lemma dismisses (h : s.Numbered guests) {leaver : Nat} (hg : leaver ∈ guests)
    (hn : ∀ id, id ∈ s'.modules.bus.numbers ↔ id ∈ s.modules.bus.numbers ∧ id ≠ leaver)
    (hi : s'.modules.bus.nextId = s.modules.bus.nextId)
    (hd : ∀ ref, s'.ticket? ref = s.ticket? ref) :
    s'.Numbered (guests.filter (· != leaver)) where
  guests_lt id hm := by
    rw [hi]
    exact h.guests_lt id (List.mem_filter.mp hm).1
  ticket_lt ref id ended hr := by
    rw [hi]
    exact h.ticket_lt ref id ended (hd ref ▸ hr)
  apart ref id ended hr hm := h.apart ref id ended (hd ref ▸ hr) (List.mem_filter.mp hm).1
  unique ref ref' id ended ended' hr hr' :=
    h.unique ref ref' id ended ended' (hd ref ▸ hr) (hd ref' ▸ hr')
  numbers id := by
    rw [hn, h.numbers, List.mem_filter, bne_iff_ne]
    simp only [hd]
    constructor
    · rintro ⟨hm | hr, hne⟩
      · exact .inl ⟨hm, hne⟩
      · exact .inr hr
    · rintro (⟨hm, hne⟩ | ⟨ref, hr⟩)
      · exact ⟨.inl hm, hne⟩
      · refine ⟨.inr ⟨ref, hr⟩, ?_⟩
        rintro rfl
        exact h.apart ref id false hr hg

/-- A delivery is made. -/
lemma subscribes (h : s.Numbered guests) {d : Event.Delivery}
    (hn : s'.modules.bus.numbers = s.modules.bus.numbers ++ [s.modules.bus.nextId])
    (hi : s'.modules.bus.nextId = s.modules.bus.nextId + 1)
    (hs : d.subscriber = s.modules.bus.nextId) (hf : d.isFinished = false)
    (hd : s'.deliveries = s.deliveries ++ [d]) : s'.Numbered guests := by
  have hticket : ∀ ref id ended, s'.ticket? ref = some (id, ended) →
      ref = ⟨s.deliveries.length⟩ ∧ id = s.modules.bus.nextId ∨
        ref ≠ ⟨s.deliveries.length⟩ ∧ s.ticket? ref = some (id, ended) := by
    intro ref id ended hr
    rw [ticket?_concat hd] at hr
    split at hr
    · rename_i he
      exact .inl ⟨he, (Prod.mk.inj (Option.some.inj hr)).1.symm.trans hs⟩
    · exact .inr ⟨‹_›, hr⟩
  refine ⟨?_, ?_, ?_, ?_, ?_⟩
  · intro id hg
    rw [hi]
    exact Nat.lt_succ_of_lt (h.guests_lt id hg)
  · intro ref id ended hr
    rw [hi]
    rcases hticket ref id ended hr with ⟨-, rfl⟩ | ⟨-, hr⟩
    · exact Nat.lt_succ_self _
    · exact Nat.lt_succ_of_lt (h.ticket_lt ref id ended hr)
  · intro ref id ended hr hg
    rcases hticket ref id ended hr with ⟨-, rfl⟩ | ⟨-, hr⟩
    · exact Nat.lt_irrefl _ (h.guests_lt _ hg)
    · exact h.apart ref id ended hr hg
  · intro ref ref' id ended ended' hr hr'
    rcases hticket ref id ended hr with ⟨rfl, rfl⟩ | ⟨-, hr⟩ <;>
      rcases hticket ref' _ ended' hr' with ⟨rfl, he⟩ | ⟨-, hr'⟩
    · rfl
    · exact absurd (h.ticket_lt ref' _ _ hr') (Nat.lt_irrefl _)
    · exact absurd (he ▸ h.ticket_lt ref id _ hr) (Nat.lt_irrefl _)
    · exact h.unique ref ref' id ended ended' hr hr'
  · intro id
    rw [hn, List.mem_append, h.numbers, List.mem_singleton, or_assoc]
    apply or_congr_right
    constructor
    · rintro (⟨ref, hr⟩ | rfl)
      · refine ⟨ref, ?_⟩
        rw [ticket?_concat hd, if_neg]
        · exact hr
        · rintro rfl
          have hnone : s.ticket? ⟨s.deliveries.length⟩ = none := by simp [ticket?, delivery?]
          rw [hnone] at hr
          cases hr
      · refine ⟨⟨s.deliveries.length⟩, ?_⟩
        rw [ticket?_concat hd, if_pos rfl, hs, hf]
    · rintro ⟨ref, hr⟩
      rcases hticket ref id false hr with ⟨-, he⟩ | ⟨-, hr⟩
      · exact .inr he
      · exact .inl ⟨ref, hr⟩

/-- A delivery that is subscribed leaves the bus. -/
lemma ends (h : s.Numbered guests) {leaver : Nat} (hr : s.ticket? ref = some (leaver, false))
    (hn : ∀ id, id ∈ s'.modules.bus.numbers ↔ id ∈ s.modules.bus.numbers ∧ id ≠ leaver)
    (hi : s'.modules.bus.nextId = s.modules.bus.nextId)
    (hself : s'.ticket? ref = some (leaver, true))
    (hother : ∀ other, other ≠ ref → s'.ticket? other = s.ticket? other) : s'.Numbered guests := by
  have hticket : ∀ other id ended, s'.ticket? other = some (id, ended) →
      ∃ earlier, s.ticket? other = some (id, earlier) := by
    intro other id ended he
    by_cases hc : other = ref
    · subst hc
      obtain ⟨rfl, rfl⟩ := Prod.mk.inj (Option.some.inj (hself.symm.trans he))
      exact ⟨false, hr⟩
    · exact ⟨ended, hother other hc ▸ he⟩
  refine ⟨?_, ?_, ?_, ?_, ?_⟩
  · rw [hi]
    exact h.guests_lt
  · intro other id ended he
    rw [hi]
    obtain ⟨earlier, he⟩ := hticket other id ended he
    exact h.ticket_lt other id earlier he
  · intro other id ended he
    obtain ⟨earlier, he⟩ := hticket other id ended he
    exact h.apart other id earlier he
  · intro other other' id ended ended' he he'
    obtain ⟨earlier, he⟩ := hticket other id ended he
    obtain ⟨earlier', he'⟩ := hticket other' id ended' he'
    exact h.unique other other' id earlier earlier' he he'
  · intro id
    rw [hn, h.numbers]
    constructor
    · rintro ⟨hg | ⟨other, he⟩, hne⟩
      · exact .inl hg
      · refine .inr ⟨other, ?_⟩
        rw [hother]
        · exact he
        · rintro rfl
          exact hne (Prod.mk.inj (Option.some.inj (he.symm.trans hr))).1
    · rintro (hg | ⟨other, he⟩)
      · refine ⟨.inl hg, ?_⟩
        rintro rfl
        exact h.apart ref _ false hr hg
      · by_cases hc : other = ref
        · subst hc
          cases (Prod.mk.inj (Option.some.inj (hself.symm.trans he))).2
        · rw [hother other hc] at he
          refine ⟨.inr ⟨other, he⟩, ?_⟩
          rintro rfl
          exact hc (h.unique other ref _ false false he hr)

/-- A guest of the bus uses it. -/
lemma serves (h : s.Numbered guests) {op : Bus.Operation}
    (ho : op.subscriber?.all (· ∈ guests))
    (hn : s.modules.bus.nextId + op.isSubscribe.toNat < subscriberBound) :
    let s' := { s with modules := { s.modules with bus := op.act s.modules.bus } }
    s'.Numbered (op.guests s.modules.bus guests) ∧
      s'.modules.bus.nextId ≤ s.modules.bus.nextId + op.isSubscribe.toNat := by
  intro s'
  have hd : ∀ ref, s'.ticket? ref = s.ticket? ref := fun _ => rfl
  cases op with
  | publish n =>
    exact ⟨h.keeps (Bus.numbers_publish _ n) (Nat.le_refl _) hd, Nat.le_refl _⟩
  | subscribe start stop =>
    have hnext : s'.modules.bus.nextId = s.modules.bus.nextId + 1 := Nat.mod_eq_of_lt hn
    exact ⟨h.welcomes (Bus.numbers_subscribe _ start stop) hnext hd, Nat.le_of_eq hnext⟩
  | receive id =>
    have hnext : s'.modules.bus.nextId = s.modules.bus.nextId := by
      rcases s.modules.bus.receive_eq id with he | he
      · exact congrArg Bus.nextId he
      · exact (congrArg Bus.nextId he).trans rfl
    exact ⟨h.keeps (Bus.numbers_receive _ id) (Nat.le_of_eq hnext.symm) hd, Nat.le_of_eq hnext⟩
  | unsubscribe id =>
    have hg : id ∈ guests := by simpa [Bus.Operation.subscriber?] using ho
    exact ⟨h.dismisses hg (fun _ => Bus.mem_numbers_unsubscribe) rfl hd, Nat.le_refl _⟩

/-- A delivery moves, and leaves the bus when it comes to its end. -/
lemma delivers (h : s.Numbered guests) (now : Time.Instant) (ref : DeliveryRef) :
    (deliver now ref s).state.Numbered guests := by
  cases hd : s.delivery? ref with
  | none =>
    have hsame : (deliver now ref s).state = s := by simp [deliver, hd]
    rw [hsame]
    exact h
  | some d =>
    obtain ⟨next, hm⟩ := moved_deliver now hd
    obtain ⟨f, hf⟩ := (deliver_alone now ref s).2
    have hnext := nextId_deliver now ref s
    generalize (deliver now ref s).state = s' at hm hf hnext
    have hother : ∀ other, other ≠ ref → s'.ticket? other = s.ticket? other := by
      intro other hne
      rw [ticket?, delivery?_modify_ne hne.symm hf, ticket?]
    have hself := ticket?_of_some hm.delivery
    have hended := hm.goes.ended_iff rfl
    by_cases hl : d.stage = .leaving
    · obtain rfl := hended.mpr (.inl hl)
      have hrunning : d.isFinished = false := by simp [Event.Delivery.isFinished, hl]
      have hwas : s.ticket? ref = some (d.subscriber, false) := by rw [ticket?_of_some hd, hrunning]
      refine h.ends hwas ?_ hnext hself hother
      · intro id
        have hleaves : d.onBus (s.beat? now ref) s.modules.bus =
            s.modules.bus.unsubscribe d.subscriber := by simp [Event.Delivery.onBus, hl]
        rw [hm.bus, hleaves, Bus.mem_numbers_unsubscribe]
    · have hnumbers : s'.modules.bus.numbers = s.modules.bus.numbers := by
        by_cases he : next = .ended
        · subst he
          rw [hm.bus, Event.Delivery.onBus_of_quiet hl]
          rw [hm.goes.silent]
          exact fun note => (Option.some_ne_none _).symm
        · rw [hm.bus]
          exact (hm.goes.channel rfl he).1
      have hfinished : (d.goTo next).isFinished = d.isFinished := by
        rw [Bool.eq_iff_iff, Event.Delivery.isFinished_iff, Event.Delivery.isFinished_iff]
        exact hended.trans (or_iff_right hl)
      refine h.keeps hnumbers (Nat.le_of_eq hnext.symm) fun other => ?_
      by_cases he : other = ref
      · subst he
        rw [hself, ticket?_of_some hd, hfinished]
        rfl
      · exact hother other he

end Numbered

end Shared

/-! ## Sealed deliveries -/

/-- A delivery that is told to stop and whose answer will not come. -/
structure Halted (d : Event.Delivery) : Prop where
  cancelled : d.isCancelled = true
  dropped : d.gate = .dropped

/-- A sealed delivery goes on towards its gate or away from it, or leaves the bus. It writes
nothing. -/
lemma Sealed.deliver {s : Shared μ} {ref : DeliveryRef} {d : Event.Delivery} (h : Sealed d)
    (hd : s.delivery? ref = some d) (now : Time.Instant) :
    (Shared.deliver now ref s).state = s ∨
      (∃ stage, (Shared.deliver now ref s).state =
        { s with deliveries := s.deliveries.modify ref.number (·.goTo stage) }) ∨
      (Shared.deliver now ref s).state =
        { s with
          modules := { s.modules with bus := s.modules.bus.unsubscribe d.subscriber }
          deliveries := s.deliveries.modify ref.number (·.goTo .ended) } := by
  have hstage := h.stage
  cases hs : d.stage with
  | awaiting =>
    refine .inr (.inl ⟨if d.isCancelled then .leaving else .atGate, Shared.deliver_go hd ?_⟩)
    simp [Event.Delivery.move, hs]
  | atGate =>
    cases hg : d.gate with
    | opened => exact absurd hg h.gate
    | waiting =>
      exact .inr (.inl ⟨.awaiting, Shared.deliver_go hd (by simp [Event.Delivery.move, hs, hg])⟩)
    | dropped =>
      exact .inr (.inl ⟨.leaving, Shared.deliver_go hd (by simp [Event.Delivery.move, hs, hg])⟩)
  | leaving => exact .inr (.inr (Shared.deliver_unsubscribe hd (by simp [Event.Delivery.move, hs])))
  | ended => exact .inl (Shared.deliver_rest hd (by simp [Event.Delivery.move, hs]))
  | _ =>
    rw [hs] at hstage
    cases hstage

end Server

end ManagementServer
