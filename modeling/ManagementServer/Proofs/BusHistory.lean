import ManagementServer.Event.Bus
import Mathlib.Data.List.Induction

/-!
# What a bus brings

A bus along any sequence of operations. A subscription is numbered by those made before it, its
replay consists of kept events published before it, and its channel brings every event published
behind it and before its end: `lawful_after`.
-/

namespace ManagementServer.Event.Bus

/-- What can be done with a bus. -/
inductive Operation where
  | publish (event : Notification)
  | subscribe (start stop : Option Time.Timestamp)
  | receive (id : Nat)
  | unsubscribe (id : Nat)

namespace Operation

/-- The bus behind an operation. -/
def act (b : Bus) : Operation → Bus
  | .publish n => b.publish n
  | .subscribe start stop => (b.subscribe start stop).1
  | .receive id => (b.receive id).1
  | .unsubscribe id => b.unsubscribe id

def published? : Operation → Option Notification
  | .publish n => some n
  | _ => none

def isSubscribe : Operation → Bool
  | .subscribe .. => true
  | _ => false

/-- Whether an operation ends the subscription of a number. -/
def drops (id : Nat) : Operation → Bool
  | .unsubscribe other => other == id
  | _ => false

/-- The event that an operation takes out of the channel of a subscription. -/
def taken (id : Nat) (b : Bus) : Operation → List Notification
  | .receive other => if other = id then (b.receive id).2.toList else []
  | _ => []

end Operation

/-- The bus behind operations that are made one after the other. -/
def after (b : Bus) (ops : List Operation) : Bus := ops.foldl Operation.act b

/-- The events that operations publish. -/
def published (ops : List Operation) : List Notification := ops.filterMap (·.published?)

/-- How many subscriptions operations make. -/
def subscriptions (ops : List Operation) : Nat := ops.countP (·.isSubscribe)

/-- The last events, at most so many. -/
def latest (capacity : Nat) (events : List Notification) : List Notification :=
  events.drop (events.length - capacity)

/-- Whether an event lies in a span of time, in which nothing lies if it has no start. -/
def isWithin (start stop : Option Time.Timestamp) (n : Notification) : Bool :=
  (start.any fun first => first.instant ≤ n.time.instant) &&
    stop.all fun last => n.time.instant ≤ last.instant

/-- What operations bring out of the channel of a subscription. -/
def received (id : Nat) (b : Bus) : List Operation → List Notification
  | [] => []
  | op :: rest => op.taken id b ++ received id (op.act b) rest

/-- The subscriptions that operations make and do not end, the first of them under a number. -/
def aliveFrom (number : Nat) : List Operation → List Nat
  | [] => []
  | .subscribe .. :: rest =>
    if rest.any (·.drops number) then aliveFrom (number + 1) rest
    else number :: aliveFrom (number + 1) rest
  | _ :: rest => aliveFrom number rest

/-! ## Histories -/

@[simp] lemma after_nil (b : Bus) : b.after [] = b := rfl

@[simp] lemma after_cons (b : Bus) (op : Operation) (rest : List Operation) :
    b.after (op :: rest) = (op.act b).after rest := rfl

@[simp] lemma after_append (b : Bus) (ops rest : List Operation) :
    b.after (ops ++ rest) = (b.after ops).after rest :=
  List.foldl_append

lemma received_append (id : Nat) (b : Bus) (ops rest : List Operation) :
    received id b (ops ++ rest) = received id b ops ++ received id (b.after ops) rest := by
  induction ops generalizing b with
  | nil => rfl
  | cons op ops ih =>
    rw [List.cons_append, received, received, ih, List.append_assoc, after_cons]

lemma published_append (ops rest : List Operation) :
    published (ops ++ rest) = published ops ++ published rest :=
  List.filterMap_append

@[simp] lemma subscriptions_subscribe (start stop : Option Time.Timestamp)
    (rest : List Operation) :
    subscriptions (.subscribe start stop :: rest) = subscriptions rest + 1 :=
  List.countP_cons_of_pos rfl

lemma subscriptions_append (ops rest : List Operation) :
    subscriptions (ops ++ rest) = subscriptions ops + subscriptions rest :=
  List.countP_append

lemma latest_concat {capacity : Nat} (h : capacity ≠ 0) (events : List Notification)
    (n : Notification) :
    latest capacity (events ++ [n]) =
      (if (latest capacity events).length = capacity then (latest capacity events).drop 1
        else latest capacity events) ++ [n] := by
  have hlen : (latest capacity events).length = events.length - (events.length - capacity) := by
    simp [latest]
  by_cases hfull : capacity ≤ events.length
  · have hdrop : (events ++ [n]).length - capacity = events.length - capacity + 1 := by
      simp only [List.length_append, List.length_singleton]
      omega
    rw [if_pos (by omega), latest, hdrop, latest, List.drop_drop]
    apply List.drop_append_of_le_length
    omega
  · have hdrop : (events ++ [n]).length - capacity = 0 := by
      simp only [List.length_append, List.length_singleton]
      omega
    have hall : events.length - capacity = 0 := by omega
    rw [if_neg (by omega), latest, hdrop, latest, hall, List.drop_zero, List.drop_zero]

lemma remember_latest (capacity : Nat) (events : List Notification) (n : Notification) :
    remember capacity (latest capacity events) n = latest capacity (events ++ [n]) := by
  by_cases h : capacity = 0
  · simp [remember, latest, h]
  · rw [latest_concat h]
    simp [remember, h]

lemma receive_eq (b : Bus) (id : Nat) : (b.receive id).1 = b ∨ (b.receive id).1 = b.advance id := by
  unfold receive
  split
  · exact .inl rfl
  · exact .inr rfl

lemma capacity_act (b : Bus) (op : Operation) : (op.act b).capacity = b.capacity := by
  cases op with
  | receive id =>
    rcases b.receive_eq id with he | he
    · rw [Operation.act, he]
    · rw [Operation.act, he, advance]
  | _ => rfl

lemma history_act (b : Bus) (op : Operation) : (op.act b).history =
    match op.published? with
    | some n => remember b.capacity b.history n
    | none => b.history := by
  cases op with
  | receive id =>
    rcases b.receive_eq id with he | he
    · simp [Operation.act, he, Operation.published?]
    · simp [Operation.act, he, advance, Operation.published?]
  | _ => rfl

lemma capacity_after (b : Bus) (ops : List Operation) : (b.after ops).capacity = b.capacity := by
  induction ops generalizing b with
  | nil => rfl
  | cons op ops ih => rw [after_cons, ih, capacity_act]

/-- A bus keeps the events that were published last. -/
lemma history_after (capacity : Nat) (ops : List Operation) :
    ((ofCapacity capacity).after ops).history = latest capacity (published ops) := by
  induction ops using List.reverseRecOn with
  | nil => simp [ofCapacity, latest, published]
  | append_singleton ops op ih =>
    have hcap : ((ofCapacity capacity).after ops).capacity = capacity := capacity_after _ _
    rw [after_append, after_cons, after_nil, history_act, hcap, ih, published_append]
    cases hop : op.published? with
    | none => simp [published, hop]
    | some n =>
      have hone : published [op] = [n] := by simp [published, hop]
      rw [hone]
      exact remember_latest capacity (published ops) n

lemma replay_after (capacity : Nat) (ops : List Operation) (start stop : Option Time.Timestamp) :
    ((ofCapacity capacity).after ops).replay start stop =
      (latest capacity (published ops)).filter (isWithin start stop) := by
  unfold replay
  rw [history_after]
  cases start with
  | none => simp [isWithin]
  | some first =>
    apply List.filter_congr
    intro n _
    simp [isWithin]

/-! ## Numbers -/

lemma nextId_after (capacity : Nat) (ops : List Operation) :
    ((ofCapacity capacity).after ops).nextId = subscriptions ops % subscriberBound := by
  induction ops using List.reverseRecOn with
  | nil => rfl
  | append_singleton ops op ih =>
    rw [after_append, after_cons, after_nil, subscriptions_append]
    cases op with
    | subscribe start stop =>
      have hnext : ((Operation.subscribe start stop).act ((ofCapacity capacity).after ops)).nextId =
          (((ofCapacity capacity).after ops).nextId + 1) % subscriberBound := rfl
      rw [hnext, ih, Nat.mod_add_mod]
      rfl
    | receive id =>
      rcases ((ofCapacity capacity).after ops).receive_eq id with he | he
      · rw [Operation.act, he, ih]
        rfl
      · rw [Operation.act, he]
        exact ih
    | _ => exact ih

/-- The numbers of the subscribers of a bus. -/
def numbers (b : Bus) : List Nat := b.subscribers.map (·.id)

lemma numbers_publish (b : Bus) (n : Notification) : (b.publish n).numbers = b.numbers := by
  simp [numbers, publish]

lemma numbers_subscribe (b : Bus) (start stop : Option Time.Timestamp) :
    (b.subscribe start stop).1.numbers = b.numbers ++ [b.nextId] := by
  simp [numbers, subscribe]

lemma numbers_unsubscribe (b : Bus) (id : Nat) :
    (b.unsubscribe id).numbers = b.numbers.filter (· != id) := by
  simp only [numbers, unsubscribe, List.filter_map]
  rfl

lemma numbers_advance (b : Bus) (id : Nat) : (b.advance id).numbers = b.numbers := by
  simp only [numbers, advance, List.map_map]
  apply List.map_congr_left
  intro s _
  by_cases h : s.id = id <;> simp [h]

lemma numbers_receive (b : Bus) (id : Nat) : (b.receive id).1.numbers = b.numbers := by
  rcases b.receive_eq id with he | he
  · rw [he]
  · rw [he, numbers_advance]

lemma aliveFrom_concat (number : Nat) (ops : List Operation) (op : Operation) :
    aliveFrom number (ops ++ [op]) =
      (aliveFrom number ops).filter (fun id => !op.drops id) ++
        if op.isSubscribe then [number + subscriptions ops] else [] := by
  induction ops generalizing number with
  | nil => cases op <;> simp [aliveFrom, Operation.isSubscribe, subscriptions]
  | cons first ops ih =>
    cases first with
    | subscribe start stop =>
      have hshift : number + 1 + subscriptions ops = number + (subscriptions ops + 1) := by omega
      rw [List.cons_append, aliveFrom, aliveFrom, ih, subscriptions_subscribe,
        hshift, List.any_append]
      by_cases hd : ops.any (·.drops number)
      · simp [hd]
      · by_cases hop : op.drops number
        · simp [hd, hop]
        · simp [hd, hop]
    | _ => exact ih number

lemma mem_aliveFrom {number id : Nat} {ops : List Operation} (h : id ∈ aliveFrom number ops) :
    number ≤ id ∧ id < number + subscriptions ops := by
  induction ops generalizing number with
  | nil => cases h
  | cons op ops ih =>
    cases op with
    | subscribe start stop =>
      rw [subscriptions_subscribe]
      rw [aliveFrom] at h
      split at h
      · have hbounds := ih h
        omega
      · rcases List.mem_cons.mp h with rfl | hm
        · omega
        · have hbounds := ih hm
          omega
    | _ => exact ih h

/-- As long as no number is given out twice, the subscribers are those that were not dropped. -/
lemma numbers_after (capacity : Nat) (ops : List Operation)
    (h : subscriptions ops ≤ subscriberBound) :
    ((ofCapacity capacity).after ops).numbers = aliveFrom 0 ops := by
  induction ops using List.reverseRecOn with
  | nil => rfl
  | append_singleton ops op ih =>
    rw [subscriptions_append] at h
    have hold := ih (by omega)
    have hnone : ∀ op : Operation, (∀ id, op.drops id = false) →
        (aliveFrom 0 ops).filter (fun id => !op.drops id) = aliveFrom 0 ops := by
      intro op hop
      apply List.filter_eq_self.mpr
      intro id _
      simp [hop id]
    rw [after_append, after_cons, after_nil, aliveFrom_concat]
    cases op with
    | publish n =>
      rw [hnone (.publish n) fun _ => rfl, Operation.act, numbers_publish, hold]
      simp [Operation.isSubscribe]
    | subscribe start stop =>
      have hlt : subscriptions ops < subscriberBound := by
        have hone : subscriptions [Operation.subscribe start stop] = 1 := rfl
        omega
      have hnext := nextId_after capacity ops
      rw [Nat.mod_eq_of_lt hlt] at hnext
      rw [hnone (.subscribe start stop) fun _ => rfl, Operation.act, numbers_subscribe, hold, hnext]
      simp [Operation.isSubscribe]
    | receive id =>
      rw [hnone (.receive id) fun _ => rfl, Operation.act, numbers_receive, hold]
      simp [Operation.isSubscribe]
    | unsubscribe id =>
      simp only [Operation.act, numbers_unsubscribe, hold, Operation.isSubscribe, if_false,
        Bool.false_eq_true, List.append_nil]
      apply List.filter_congr
      intro other _
      simp [Operation.drops, bne, BEq.comm]

/-! ## Channels -/

lemma pending_publish {b : Bus} {id : Nat} (h : id ∈ b.numbers) (n : Notification) :
    (b.publish n).pending id = b.pending id ++ [n] := by
  obtain ⟨s, hs, hid⟩ := List.mem_map.mp h
  have hfound : (b.subscribers.find? (·.id == id)).isSome :=
    List.find?_isSome.mpr ⟨s, hs, by simpa using hid⟩
  obtain ⟨found, hf⟩ := Option.isSome_iff_exists.mp hfound
  have hpublished : (b.publish n).subscribers.find? (·.id == id) =
      some { found with queue := found.queue ++ [n] } := by
    rw [publish, List.find?_map]
    exact congrArg (Option.map _) hf
  simp [pending, hpublished, hf]

lemma pending_subscribe {b : Bus} {id : Nat} (h : id ∈ b.numbers)
    (start stop : Option Time.Timestamp) :
    (b.subscribe start stop).1.pending id = b.pending id := by
  obtain ⟨s, hs, hid⟩ := List.mem_map.mp h
  have hfound : (b.subscribers.find? (·.id == id)).isSome :=
    List.find?_isSome.mpr ⟨s, hs, by simpa using hid⟩
  obtain ⟨found, hf⟩ := Option.isSome_iff_exists.mp hfound
  simp [pending, subscribe, List.find?_append, hf]

lemma pending_subscribe_self {b : Bus} (h : b.nextId ∉ b.numbers)
    (start stop : Option Time.Timestamp) :
    (b.subscribe start stop).1.pending b.nextId = [] := by
  have hnone : b.subscribers.find? (·.id == b.nextId) = none := by
    apply List.find?_eq_none.mpr
    intro s hs hid
    exact h (List.mem_map.mpr ⟨s, hs, by simpa using hid⟩)
  simp [pending, subscribe, List.find?_append, hnone]

lemma pending_advance_self (b : Bus) (id : Nat) :
    (b.advance id).pending id = (b.pending id).drop 1 := by
  have hkeep : ((fun s : Subscriber => s.id == id) ∘ fun s =>
      if s.id == id then { s with queue := s.queue.drop 1 } else s) = fun s => s.id == id := by
    funext s
    by_cases h : s.id = id <;> simp [h]
  simp only [pending, advance, List.find?_map, hkeep]
  cases hf : b.subscribers.find? (·.id == id) with
  | none => rfl
  | some found =>
    have hid : found.id = id := by simpa using List.find?_some hf
    simp [hid]

lemma pending_advance_of_ne (b : Bus) {id other : Nat} (h : other ≠ id) :
    (b.advance id).pending other = b.pending other := by
  have hkeep : ((fun s : Subscriber => s.id == other) ∘ fun s =>
      if s.id == id then { s with queue := s.queue.drop 1 } else s) = fun s => s.id == other := by
    funext s
    by_cases hs : s.id = id <;> simp [hs]
  simp only [pending, advance, List.find?_map, hkeep]
  cases hf : b.subscribers.find? (·.id == other) with
  | none => rfl
  | some found =>
    have hid : found.id = other := by simpa using List.find?_some hf
    simp [hid, h]

lemma pending_unsubscribe_of_ne (b : Bus) {id other : Nat} (h : other ≠ id) :
    (b.unsubscribe id).pending other = b.pending other := by
  have hsame : (fun s : Subscriber => decide ((s.id != id) = true ∧ (s.id == other) = true)) =
      fun s => s.id == other := by
    funext s
    by_cases hs : s.id = other
    · simp [hs, h]
    · simp [hs]
  simp only [pending, unsubscribe, List.find?_filter, hsame]

lemma pending_of_not_mem {b : Bus} {id : Nat} (h : id ∉ b.numbers) : b.pending id = [] := by
  have hnone : b.subscribers.find? (·.id == id) = none := by
    apply List.find?_eq_none.mpr
    intro s hs hid
    exact h (List.mem_map.mpr ⟨s, hs, by simpa using hid⟩)
  simp [pending, hnone]

lemma pending_receive_self (b : Bus) (id : Nat) :
    b.pending id = (b.receive id).2.toList ++ (b.receive id).1.pending id := by
  cases hp : b.pending id with
  | nil => simp [receive, hp]
  | cons n rest => simp [receive, hp, pending_advance_self]

lemma pending_receive_of_ne (b : Bus) {id other : Nat} (h : other ≠ id) :
    (b.receive id).1.pending other = b.pending other := by
  rcases b.receive_eq id with he | he
  · rw [he]
  · rw [he, pending_advance_of_ne b h]

/-- One operation that does not end a subscription: it stays, and what its channel has brought and
still holds is longer by what was published. -/
lemma channel_act {b : Bus} {id : Nat} (h : id ∈ b.numbers) {op : Operation}
    (hd : op.drops id = false) : id ∈ (op.act b).numbers ∧
      op.taken id b ++ (op.act b).pending id = b.pending id ++ op.published?.toList := by
  cases op with
  | publish n =>
    refine ⟨by rwa [Operation.act, numbers_publish], ?_⟩
    simp [Operation.taken, Operation.act, Operation.published?, pending_publish h]
  | subscribe start stop =>
    have hm : id ∈ (b.subscribe start stop).1.numbers := by
      rw [numbers_subscribe]
      exact List.mem_append_left _ h
    refine ⟨hm, ?_⟩
    simp [Operation.taken, Operation.act, Operation.published?, pending_subscribe h]
  | receive other =>
    refine ⟨by rwa [Operation.act, numbers_receive], ?_⟩
    by_cases ho : other = id
    · subst ho
      simp [Operation.taken, Operation.act, Operation.published?, ← pending_receive_self]
    · simp [Operation.taken, Operation.act, Operation.published?, ho,
        pending_receive_of_ne b (Ne.symm ho)]
  | unsubscribe other =>
    have hne : other ≠ id := by simpa [Operation.drops] using hd
    have hm : id ∈ (b.unsubscribe other).numbers := by
      rw [numbers_unsubscribe]
      exact List.mem_filter.mpr ⟨h, by simpa using Ne.symm hne⟩
    refine ⟨hm, ?_⟩
    simp [Operation.taken, Operation.act, Operation.published?,
      pending_unsubscribe_of_ne b (Ne.symm hne)]

lemma channel_after {b : Bus} {id : Nat} (h : id ∈ b.numbers) {ops : List Operation}
    (hd : ∀ op ∈ ops, op.drops id = false) : id ∈ (b.after ops).numbers ∧
      received id b ops ++ (b.after ops).pending id = b.pending id ++ published ops := by
  induction ops generalizing b with
  | nil => exact ⟨h, by simp [received, published]⟩
  | cons op ops ih =>
    obtain ⟨hm, hone⟩ := channel_act h (hd op List.mem_cons_self)
    obtain ⟨hmem, hrest⟩ := ih hm fun other ho => hd other (List.mem_cons_of_mem _ ho)
    refine ⟨hmem, ?_⟩
    have hpub : published (op :: ops) = op.published?.toList ++ published ops := by
      cases hp : op.published? <;> simp [published, hp]
    calc received id b (op :: ops) ++ (b.after (op :: ops)).pending id
        = op.taken id b ++ (received id (op.act b) ops ++ ((op.act b).after ops).pending id) := by
          rw [received, List.append_assoc, after_cons]
      _ = b.pending id ++ op.published?.toList ++ published ops := by
          rw [hrest, ← List.append_assoc, hone]
      _ = b.pending id ++ published (op :: ops) := by rw [hpub, List.append_assoc]

/-- Whoever has no subscription receives nothing. -/
lemma received_of_not_mem {b : Bus} {id : Nat} {ops : List Operation}
    (h : ∀ earlier later, ops = earlier ++ later → id ∉ (b.after earlier).numbers) :
    received id b ops = [] := by
  induction ops generalizing b with
  | nil => rfl
  | cons op ops ih =>
    have hself : b.pending id = [] := pending_of_not_mem (h [] (op :: ops) rfl)
    have hone : op.taken id b = [] := by
      cases op with
      | receive other =>
        by_cases ho : other = id
        · simp [Operation.taken, ho, receive, hself]
        · simp [Operation.taken, ho]
      | _ => rfl
    rw [received, hone, List.nil_append]
    apply ih
    intro earlier later he
    exact h (op :: earlier) later (by rw [he, List.cons_append])

/-! ## Ends of subscriptions -/

lemma unsubscribe_advance_self (b : Bus) (id : Nat) :
    (b.advance id).unsubscribe id = b.unsubscribe id := by
  have hkeep : ((fun s : Subscriber => s.id != id) ∘ fun s =>
      if s.id == id then { s with queue := s.queue.drop 1 } else s) = fun s => s.id != id := by
    funext s
    by_cases hs : s.id = id <;> simp [hs]
  simp only [unsubscribe, advance, List.filter_map, Bus.mk.injEq, and_true, hkeep]
  conv_rhs => rw [← List.map_id (b.subscribers.filter (·.id != id))]
  apply List.map_congr_left
  intro s hs
  have hne : s.id ≠ id := by simpa using (List.mem_filter.mp hs).2
  simp [hne]

lemma unsubscribe_advance (b : Bus) (id other : Nat) :
    ((b.unsubscribe id).advance other).unsubscribe id = (b.advance other).unsubscribe id := by
  simp only [unsubscribe, advance, List.filter_map, List.filter_filter, Bus.mk.injEq, and_true]
  congr 1
  apply List.filter_congr
  intro s _
  by_cases hs : s.id = other <;> simp [hs]

lemma unsubscribe_unsubscribe (b : Bus) (id : Nat) :
    (b.unsubscribe id).unsubscribe id = b.unsubscribe id := by
  simp [unsubscribe, List.filter_filter]

/-- An operation does to the other subscriptions what it would do if one had not been dropped. -/
lemma unsubscribe_act (b : Bus) (id : Nat) (op : Operation) :
    (op.act (b.unsubscribe id)).unsubscribe id = (op.act b).unsubscribe id := by
  cases op with
  | publish n =>
    simp [Operation.act, unsubscribe, publish, List.filter_map, List.filter_filter,
      Function.comp_def]
  | subscribe start stop =>
    simp [Operation.act, unsubscribe, subscribe, List.filter_append, List.filter_filter]
  | unsubscribe other =>
    simp only [Operation.act, unsubscribe, List.filter_filter, Bus.mk.injEq, and_true]
    apply List.filter_congr
    intro s _
    cases s.id != id <;> simp
  | receive other =>
    rw [Operation.act, Operation.act]
    by_cases ho : other = id
    · subst ho
      have hn : other ∉ (b.unsubscribe other).numbers := by
        rw [numbers_unsubscribe]
        simp
      have hgone : ((b.unsubscribe other).receive other).1 = b.unsubscribe other := by
        simp [receive, pending_of_not_mem hn]
      rw [hgone, unsubscribe_unsubscribe]
      rcases b.receive_eq other with he | he
      · rw [he]
      · rw [he, unsubscribe_advance_self]
    · have hp := b.pending_unsubscribe_of_ne ho
      unfold receive
      rw [hp]
      cases b.pending other with
      | nil => exact unsubscribe_unsubscribe b id
      | cons n rest => exact unsubscribe_advance b id other

lemma unsubscribe_after (b : Bus) (id : Nat) (ops : List Operation) :
    ((b.unsubscribe id).after ops).unsubscribe id = (b.after ops).unsubscribe id := by
  induction ops generalizing b with
  | nil => exact unsubscribe_unsubscribe b id
  | cons op ops ih =>
    rw [after_cons, after_cons, ← ih, unsubscribe_act, ih]

lemma received_unsubscribe (b : Bus) {id other : Nat} (h : other ≠ id) (ops : List Operation) :
    received other (b.unsubscribe id) ops = received other b ops := by
  induction ops generalizing b with
  | nil => rfl
  | cons op ops ih =>
    have hone : op.taken other (b.unsubscribe id) = op.taken other b := by
      cases op with
      | receive number =>
        by_cases ho : number = other
        · subst ho
          have hp := b.pending_unsubscribe_of_ne h
          unfold Operation.taken receive
          rw [hp]
          cases b.pending number <;> rfl
        · simp [Operation.taken, ho]
      | _ => rfl
    rw [received, received, hone, ← ih (op.act (b.unsubscribe id)), unsubscribe_act, ih]

/-! ## Numbers of subscriptions -/

lemma mem_aliveFrom_append {number id : Nat} {earlier : List Operation} (ops : List Operation)
    (h : number + subscriptions earlier ≤ id) :
    id ∈ aliveFrom number (earlier ++ ops) ↔
      id ∈ aliveFrom (number + subscriptions earlier) ops := by
  induction earlier generalizing number with
  | nil => rfl
  | cons op earlier ih =>
    cases op with
    | subscribe start stop =>
      rw [subscriptions_subscribe] at h ⊢
      have hshift : number + 1 + subscriptions earlier = number + (subscriptions earlier + 1) := by
        omega
      have hne : id ≠ number := by omega
      rw [List.cons_append, aliveFrom, ← hshift, ← ih (by omega)]
      split
      · rfl
      · simp [hne]
    | _ => exact ih h

/-- A subscription is alive unless an operation behind it drops it. -/
lemma mem_aliveFrom_iff (earlier : List Operation) (start stop : Option Time.Timestamp)
    (ops : List Operation) :
    subscriptions earlier ∈ aliveFrom 0 (earlier ++ .subscribe start stop :: ops) ↔
      ∀ op ∈ ops, op.drops (subscriptions earlier) = false := by
  have hlater : subscriptions earlier ∉ aliveFrom (subscriptions earlier + 1) ops := by
    intro hm
    have hbounds := mem_aliveFrom hm
    omega
  rw [mem_aliveFrom_append _ (by omega), Nat.zero_add, aliveFrom]
  by_cases hd : ops.any (·.drops (subscriptions earlier))
  · rw [if_pos hd]
    obtain ⟨op, hm, hop⟩ := List.any_eq_true.mp hd
    constructor
    · exact fun hc => absurd hc hlater
    · intro hall
      rw [hall op hm] at hop
      cases hop
  · rw [if_neg hd]
    simp only [List.mem_cons_self, true_iff]
    intro op hm
    by_contra hop
    exact hd (List.any_eq_true.mpr ⟨op, hm, by simpa using hop⟩)

/-- A subscription that was just made is the only one of its number, and its channel is empty. -/
lemma made_after (capacity : Nat) (earlier : List Operation) (start stop : Option Time.Timestamp)
    (h : subscriptions earlier < subscriberBound) :
    ((ofCapacity capacity).after earlier).nextId = subscriptions earlier ∧
      (((ofCapacity capacity).after earlier).subscribe start stop).1.pending
        (subscriptions earlier) = [] := by
  have hnext := nextId_after capacity earlier
  rw [Nat.mod_eq_of_lt h] at hnext
  have hfresh : ((ofCapacity capacity).after earlier).nextId ∉
      ((ofCapacity capacity).after earlier).numbers := by
    rw [numbers_after capacity earlier (by omega), hnext]
    intro hm
    have hbounds := mem_aliveFrom hm
    omega
  refine ⟨hnext, ?_⟩
  have hempty := pending_subscribe_self hfresh start stop
  rwa [hnext] at hempty

/-! ## Subscriptions -/

/-- What a subscription brings that is made behind some operations; `ops` are those behind it. While
they do not end it, what its channel has brought and still holds is all that they have published;
behind its end the bus does not know it and its channel brings nothing. No event is both in the
replay and in the channel. -/
structure Brings (capacity : Nat) (earlier : List Operation) (start stop : Option Time.Timestamp)
    (ops : List Operation) (id : Nat) (events : List Notification) (made : Bus) : Prop where
  number : id = subscriptions earlier
  replay : events = (latest capacity (published earlier)).filter (isWithin start stop)
  channel : ∀ live later, ops = live ++ later → (∀ op ∈ live, op.drops id = false) →
    id ∈ (made.after live).numbers ∧
      received id made live ++ (made.after live).pending id = published live
  ended : ∀ live later, ops = live ++ Operation.unsubscribe id :: later →
    id ∉ (made.after ops).numbers ∧
      received id (made.after (live ++ [.unsubscribe id])) later = []
  once : (events ++ published ops).Sublist
    (published (earlier ++ Operation.subscribe start stop :: ops))

/-- The laws of a bus on which operations were made: what each subscription brings, how many of them
an event reaches, and that the end of one changes nothing for the others. -/
structure Lawful (capacity : Nat) (ops : List Operation) : Prop where
  subscription : ∀ earlier start stop later,
    ops = earlier ++ Operation.subscribe start stop :: later → ∀ made id events,
      ((ofCapacity capacity).after earlier).subscribe start stop = (made, id, events) →
        Brings capacity earlier start stop later id events made
  reach : ∀ earlier n later, ops = earlier ++ Operation.publish n :: later →
    ((ofCapacity capacity).after earlier).reach = (aliveFrom 0 earlier).length
  others : ∀ earlier id later, ops = earlier ++ Operation.unsubscribe id :: later →
    ((ofCapacity capacity).after ops).unsubscribe id =
        ((ofCapacity capacity).after (earlier ++ later)).unsubscribe id ∧
      ∀ other, other ≠ id → received other (ofCapacity capacity) ops =
        received other (ofCapacity capacity) (earlier ++ later)

lemma latest_sublist (capacity : Nat) (events : List Notification) :
    (latest capacity events).Sublist events :=
  List.drop_sublist _ _

lemma brings_after (capacity : Nat) (earlier : List Operation) (start stop : Option Time.Timestamp)
    (ops : List Operation)
    (h : subscriptions (earlier ++ .subscribe start stop :: ops) ≤ subscriberBound) :
    Brings capacity earlier start stop ops ((ofCapacity capacity).after earlier).nextId
      (((ofCapacity capacity).after earlier).replay start stop)
      (((ofCapacity capacity).after earlier).subscribe start stop).1 := by
  rw [subscriptions_append, subscriptions_subscribe] at h
  obtain ⟨hnext, hempty⟩ := made_after capacity earlier start stop (by omega)
  have hrun : ∀ live, (((ofCapacity capacity).after earlier).subscribe start stop).1.after live =
      (ofCapacity capacity).after (earlier ++ .subscribe start stop :: live) := by
    intro live
    rw [after_append, after_cons]
    rfl
  have hnumbers : ∀ live later, ops = live ++ later →
      ((ofCapacity capacity).after (earlier ++ .subscribe start stop :: live)).numbers =
        aliveFrom 0 (earlier ++ .subscribe start stop :: live) := by
    intro live later he
    apply numbers_after
    rw [he, subscriptions_append] at h
    rw [subscriptions_append, subscriptions_subscribe]
    omega
  rw [hnext]
  refine ⟨rfl, replay_after capacity earlier start stop, ?_, ?_, ?_⟩
  · intro live later he hlive
    have hmade : subscriptions earlier ∈
        (((ofCapacity capacity).after earlier).subscribe start stop).1.numbers := by
      rw [numbers_subscribe, hnext]
      exact List.mem_append_right _ (List.mem_singleton.mpr rfl)
    have hchannel := channel_after hmade hlive
    rwa [hempty, List.nil_append] at hchannel
  · intro live later he
    -- Behind its end no number is given out again, so that the bus never knows it any more.
    have hgone : ∀ some_ more, later = some_ ++ more → subscriptions earlier ∉
        ((((ofCapacity capacity).after earlier).subscribe start stop).1.after
          (live ++ .unsubscribe (subscriptions earlier) :: some_)).numbers := by
      intro some_ more hsplit
      rw [hrun, hnumbers _ more (by rw [he, hsplit, List.append_assoc, List.cons_append]),
        mem_aliveFrom_iff]
      intro hall
      have hdrop := hall (.unsubscribe (subscriptions earlier)) (by simp)
      simp [Operation.drops] at hdrop
    refine ⟨?_, ?_⟩
    · rw [he]
      exact hgone later [] (by rw [List.append_nil])
    · apply received_of_not_mem
      intro some_ more hsplit
      rw [← after_append, List.append_assoc]
      exact hgone some_ more hsplit
  · rw [published_append, replay_after]
    have hkept := (List.filter_sublist (p := isWithin start stop)).trans
      (latest_sublist capacity (published earlier))
    exact hkept.append (List.Sublist.refl _)

/-- A bus does what its laws say, whatever is done with it, as long as no number of a subscription
is given out twice. -/
theorem lawful_after (capacity : Nat) (ops : List Operation)
    (h : subscriptions ops ≤ subscriberBound) : Lawful capacity ops := by
  refine ⟨?_, ?_, ?_⟩
  · intro earlier start stop later he made id events hmade
    rw [he] at h
    have hbrings := brings_after capacity earlier start stop later h
    obtain ⟨rfl, hrest⟩ := Prod.mk.inj hmade
    obtain ⟨rfl, rfl⟩ := Prod.mk.inj hrest
    exact hbrings
  · intro earlier n later he
    rw [he, subscriptions_append] at h
    have hnumbers := numbers_after capacity earlier (by omega)
    rw [← hnumbers, numbers, List.length_map, reach]
  · intro earlier id later he
    rw [he]
    refine ⟨?_, ?_⟩
    · rw [after_append, after_cons, after_append]
      exact unsubscribe_after _ id later
    · intro other hne
      rw [received_append, received_append, received]
      have hrest := received_unsubscribe ((ofCapacity capacity).after earlier) hne later
      rw [← hrest]
      rfl

/-- Three events on a bus that keeps two, a subscription to those of a span, one more event, a
second subscription, the end of the first, and a last event that the second receives. -/
def evictionOps : List Operation :=
  [.publish (.at 1 "lost" .null), .publish (.at 2 "kept" .null), .publish (.at 9 "later" .null),
    .subscribe (some (.utc 1)) (some (.utc 5)), .publish (.at 3 "live" .null),
    .subscribe none none, .unsubscribe 0, .publish (.at 4 "last" .null), .receive 1]

theorem lawful_after_eviction : subscriptions evictionOps ≤ subscriberBound ∧
    Lawful 2 evictionOps ∧
    ((((ofCapacity 2).after (evictionOps.take 3)).replay (some (.utc 1)) (some (.utc 5))).map
      (·.event)) = ["kept"] ∧
    ((((ofCapacity 2).after (evictionOps.take 6)).pending 0).map (·.event)) = ["live"] ∧
    ((received 1 (ofCapacity 2) evictionOps).map (·.event)) = ["last"] ∧
    ((ofCapacity 2).after (evictionOps.take 7)).reach = 1 :=
  have hfew : subscriptions evictionOps ≤ subscriberBound := by decide
  ⟨hfew, lawful_after 2 evictionOps hfew, by decide +kernel, by decide +kernel,
    by decide +kernel, by decide +kernel⟩

end ManagementServer.Event.Bus
