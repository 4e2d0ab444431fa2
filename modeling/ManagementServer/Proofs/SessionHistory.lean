import ManagementServer.Proofs.Crowd
import ManagementServer.Server.Removal

/-!
# A registry of sessions from its beginning

Whatever sequence of calls a registry goes through that was empty at first, its two tables stay
inverse to each other, they hold the sessions that are not closed, and the list of them is in the
order of their ids (`Registry.Orderly`). A call moves the status of a session onwards only, and a
call that is refused, or that comes too late, changes nothing (`Shared.Careful`): `orderly_after`.
-/

namespace ManagementServer

namespace Session.Registry

open ManagementServer.Server (Shared)

/-! ## Closing sessions -/

/-- A session that is closed and has lost its subscription. -/
def close (r : Registry) (ref : Ref) : Registry := ((r.markClosed ref).takeSubscription ref).1

def closeAll (r : Registry) (refs : List Ref) : Registry := refs.foldl close r

@[simp] lemma closeAll_nil (r : Registry) : r.closeAll [] = r := rfl

@[simp] lemma closeAll_cons (r : Registry) (ref : Ref) (rest : List Ref) :
    r.closeAll (ref :: rest) = (r.close ref).closeAll rest := rfl

lemma narrows_close (r : Registry) (ref : Ref) : r.Narrows (r.close ref) :=
  IsTrans.trans _ _ _ (r.narrows_markClosed ref)
    (narrows_update _ ref _ (fun _ => rfl) (fun _ => rfl) fun _ => Nat.le_refl _)

lemma record_close (r : Registry) (ref other : Ref) :
    (r.close ref).record other =
      if ref = other ∧ ref.number < r.records.length then
        { r.record other with status := .closed, subscription := none }
      else r.record other := by
  have hlen : (r.markClosed ref).records.length = r.records.length :=
    (r.narrows_markClosed ref).length
  rw [close, takeSubscription, record_update, hlen, markClosed, record_update]
  split
  · rfl
  · rfl

lemma narrows_closeAll (r : Registry) (refs : List Ref) : r.Narrows (r.closeAll refs) := by
  induction refs generalizing r with
  | nil => exact Std.Refl.refl r
  | cons ref rest ih => exact IsTrans.trans _ _ _ (r.narrows_close ref) (ih _)

lemma byId_closeAll (r : Registry) (refs : List Ref) : (r.closeAll refs).byId = r.byId := by
  induction refs generalizing r with
  | nil => rfl
  | cons ref rest ih => exact ih _

lemma record_closeAll_of_notMem (r : Registry) {refs : List Ref} {ref : Ref} (h : ref ∉ refs) :
    (r.closeAll refs).record ref = r.record ref := by
  induction refs generalizing r with
  | nil => rfl
  | cons other rest ih =>
    obtain ⟨hne, hrest⟩ := not_or.mp (mt List.mem_cons.mpr h)
    rw [closeAll_cons, ih _ hrest, record_close, if_neg fun hc => hne hc.1.symm]

lemma status_closeAll (r : Registry) {refs : List Ref} {ref : Ref} (h : ref ∈ refs)
    (hlt : ref.number < r.records.length) : ((r.closeAll refs).record ref).status = .closed := by
  induction refs generalizing r with
  | nil => cases h
  | cons other rest ih =>
    have hlt' : ref.number < (r.close other).records.length :=
      (r.narrows_close other).length ▸ hlt
    rw [closeAll_cons]
    by_cases he : other = ref
    · refine (narrows_closeAll _ rest).ages.closed hlt' ?_
      rw [record_close, if_pos ⟨he, he ▸ hlt⟩]
    · exact ih _ ((List.mem_cons.mp h).resolve_left fun hc => he hc.symm) hlt'

/-! ## Sessions that leave -/

/-- Some sessions leave, and they are closed; all others stay what they were. -/
structure Expels (r : Registry) (gone : List Ref) (r' : Registry) : Prop where
  narrows : r.Narrows r'
  registered : ∀ ref, ref ∈ r'.list ↔ ref ∈ r.list ∧ ref ∉ gone
  left : ∀ ref ∈ gone, ref ∈ r.list
  closed : ∀ ref ∈ gone, (r'.record ref).status = .closed
  kept : ∀ ref, ref ∉ gone → r'.record ref = r.record ref

lemma expels_of_takenOut {r r' : Registry} (h : r.Coherent) (hn : r.Narrows r')
    (hr : r'.records = r.records) {gone : List Ref}
    (hl : ∀ ref, ref ∈ r'.list ↔ ref ∈ r.list ∧ ref ∉ gone) (hg : ∀ ref ∈ gone, ref ∈ r.list) :
    r.Expels gone (r'.closeAll gone) := by
  have hrecord : ∀ ref, r'.record ref = r.record ref := by
    intro ref
    rw [record, record?, hr, record, record?]
  refine ⟨IsTrans.trans _ _ _ hn (r'.narrows_closeAll gone), ?_, hg, ?_, ?_⟩
  · intro ref
    rw [list, byId_closeAll]
    exact hl ref
  · intro ref hm
    exact r'.status_closeAll hm (hr ▸ h.lt_of_mem_list (hg ref hm))
  · intro ref hm
    rw [r'.record_closeAll_of_notMem hm, hrecord]

/-- To take out whichever session is registered under an id is to take out that session. -/
lemma Coherent.detachId_eq {r : Registry} (h : r.Coherent) {id : String} {ref : Ref}
    (hl : r.byId.lookup id = some ref) : r.detachId id = ((r.detachRef ref).1, some ref) := by
  have hid : (r.record ref).id = id := (h.recorded id ref (h.lookup_iff.mp hl)).2
  simp [detachId, detachRef, hid, hl]

lemma Coherent.expels_detachRef {r : Registry} (h : r.Coherent) {ref : Ref} (hm : ref ∈ r.list) :
    r.Expels [ref] ((r.detachRef ref).1.closeAll [ref]) := by
  refine expels_of_takenOut h (r.narrows_detachRef ref) (r.records_detachRef ref) ?_ ?_
  · intro other
    rw [List.mem_singleton]
    by_cases he : other = ref
    · subst he
      simp [not_mem_detachRef h]
    · simp [mem_list_detachRef h he, he]
  · intro other ho
    exact List.mem_singleton.mp ho ▸ hm

lemma Coherent.expels_detachAll {r : Registry} (h : r.Coherent) :
    r.Expels r.list (r.detachAll.1.closeAll r.list) :=
  expels_of_takenOut h r.narrows_detachAll rfl (by simp [detachAll, list]) fun _ => id

/-! ## The order of ids -/

/-- The registrations stand in the order of their ids. -/
def IsSorted (r : Registry) : Prop := r.byId.Pairwise fun a b => a.1 < b.1

lemma Narrows.isSorted {r r' : Registry} (h : r.Narrows r') (hs : r.IsSorted) : r'.IsSorted :=
  hs.sublist h.byId

lemma pairwise_insertSorted (id : String) (ref : Ref) {l : List (String × Ref)}
    (h : l.Pairwise fun a b => a.1 < b.1) (hn : ∀ other, (id, other) ∉ l) :
    (insertSorted id ref l).Pairwise fun a b => a.1 < b.1 := by
  induction l with
  | nil => exact List.pairwise_singleton _ _
  | cons y rest ih =>
    obtain ⟨i, t⟩ := y
    obtain ⟨hfirst, hrest⟩ := List.pairwise_cons.mp h
    simp only [insertSorted]
    split
    · rename_i hlt
      refine List.pairwise_cons.mpr ⟨fun x hx => ?_, h⟩
      rcases List.mem_cons.mp hx with rfl | hx
      · exact hlt
      · exact String.lt_trans hlt (hfirst x hx)
    · rename_i hge
      have hgt : i < id := by
        by_contra hle
        have he : id = i := String.le_antisymm (String.not_lt.mp hle) (String.not_lt.mp hge)
        exact hn t (he ▸ List.mem_cons_self)
      refine List.pairwise_cons.mpr ⟨fun x hx => ?_, ih hrest ?_⟩
      · rcases (mem_insertSorted id ref rest x).mp hx with rfl | hx
        · exact hgt
        · exact hfirst x hx
      · exact fun other ho => hn other (List.mem_cons_of_mem _ ho)

lemma isSorted_add (id username : String) (capabilities : CapabilitySet)
    (connection : ConnectionId) {r : Registry} (h : r.IsSorted) :
    (add id username capabilities connection r).state.IsSorted := by
  cases hc : r.conflict? id connection with
  | some error => simpa [add, hc] using h
  | none =>
    have hfresh : ∀ other, (id, other) ∉ r.byId := by
      intro other hm
      have hid := ((conflict?_eq_none_iff r id connection).mp hc).2.1
      simpa using List.lookup_eq_none_iff.mp hid _ hm
    unfold IsSorted
    simpa [add, hc] using pairwise_insertSorted id ⟨r.records.length⟩ h hfresh

/-! ## Lookups -/

lemma getById_eq_ok_iff (r : Registry) (id : String) (ref : Ref) :
    r.getById id = .ok ref ↔ r.byId.lookup id = some ref := by
  unfold getById
  split
  · rename_i other hl
    rw [hl, Except.ok.injEq, Option.some.injEq]
  · rename_i hl
    simp [hl]

lemma getByConnection_eq_ok_iff (r : Registry) (connection : ConnectionId) (ref : Ref) :
    r.getByConnection connection = .ok ref ↔
      ∃ id, r.byConnection.lookup connection = some id ∧ r.byId.lookup id = some ref := by
  rw [← Option.bind_eq_some_iff, getByConnection, Option.bind_eq_bind]
  split
  · rename_i other hl
    rw [hl, Except.ok.injEq, Option.some.injEq]
  · rename_i hl
    simp [hl]

namespace Coherent

variable {r : Registry}

lemma getById_iff (h : r.Coherent) (id : String) (ref : Ref) :
    r.getById id = .ok ref ↔ ref ∈ r.list ∧ (r.record ref).id = id := by
  rw [getById_eq_ok_iff, h.lookup_iff]
  constructor
  · intro hm
    exact ⟨List.mem_map.mpr ⟨_, hm, rfl⟩, (h.recorded id ref hm).2⟩
  · rintro ⟨hm, rfl⟩
    exact h.mem_list.mp hm

lemma getByConnection_iff (h : r.Coherent) (connection : ConnectionId) (ref : Ref) :
    r.getByConnection connection = .ok ref ↔
      ref ∈ r.list ∧ (r.record ref).connection = connection := by
  rw [getByConnection_eq_ok_iff]
  constructor
  · rintro ⟨id, hc, hl⟩
    obtain ⟨other, ho, hconnection⟩ := (h.paired id connection).mp
      ((lookup_eq_some_iff_mem h.connections).mp hc)
    obtain rfl : other = ref := Option.some.inj ((h.lookup_iff.mpr ho).symm.trans hl)
    exact ⟨List.mem_map.mpr ⟨_, ho, rfl⟩, hconnection⟩
  · rintro ⟨hm, rfl⟩
    have hid := h.mem_list.mp hm
    have hp := (h.paired _ _).mpr ⟨ref, hid, rfl⟩
    exact ⟨_, (lookup_eq_some_iff_mem h.connections).mpr hp, h.lookup_iff.mpr hid⟩

/-- Every connection that the registry knows leads to a session. -/
lemma lookup_connection_isSome_iff (h : r.Coherent) (connection : ConnectionId) :
    (r.byConnection.lookup connection).isSome ↔ ∃ ref, r.getByConnection connection = .ok ref := by
  rw [Option.isSome_iff_exists]
  simp only [getByConnection_eq_ok_iff]
  constructor
  · rintro ⟨id, hl⟩
    obtain ⟨ref, hm, -⟩ := (h.paired id connection).mp
      ((lookup_eq_some_iff_mem h.connections).mp hl)
    exact ⟨ref, id, hl, h.lookup_iff.mpr hm⟩
  · rintro ⟨ref, id, hl, -⟩
    exact ⟨id, hl⟩

/-- A session is refused for its id or for its connection, and for nothing else. -/
lemma conflict?_isSome_iff (h : r.Coherent) (id : String) (connection : ConnectionId) :
    (r.conflict? id connection).isSome ↔ Text.isBlank id ∨ (∃ ref, r.getById id = .ok ref) ∨
      ∃ ref, r.getByConnection connection = .ok ref := by
  simp only [← h.lookup_connection_isSome_iff, getById_eq_ok_iff, ← Option.isSome_iff_exists]
  unfold conflict?
  cases Text.isBlank id <;> cases (r.byId.lookup id) <;> simp

/-- The two tables have the same number of entries, since each entry of one has its own in the
other. -/
lemma length_eq (h : r.Coherent) : r.byId.length = r.byConnection.length := by
  have hids : (r.byId.map fun x => ((r.record x.2).connection, x.1)).Nodup := by
    refine List.Nodup.of_map (·.2) ?_
    simpa [List.map_map, Function.comp_def] using h.ids
  have hperm : (r.byId.map fun x => ((r.record x.2).connection, x.1)).Perm r.byConnection := by
    refine (List.perm_ext_iff_of_nodup hids (List.Nodup.of_map (·.1) h.connections)).mpr ?_
    rintro ⟨connection, id⟩
    rw [h.paired, List.mem_map]
    constructor
    · rintro ⟨⟨_, ref⟩, hm, he⟩
      obtain ⟨rfl, rfl⟩ := Prod.mk.inj he
      exact ⟨ref, hm, rfl⟩
    · rintro ⟨ref, hm, rfl⟩
      exact ⟨_, hm, rfl⟩
  simpa using hperm.length_eq

end Coherent

end Session.Registry

namespace Server

variable {μ : Type}

open Session (Registry Ref)

/-! ## The sessions behind a removal -/

namespace Closing

lemma sessions_step (current : Closing) (h : current.session? = none) (s : Shared μ) :
    (current.step s).state.sessions = s.sessions := by
  cases current with
  | mark session | take session => cases h
  | cancel delivery | done => rfl
  | join delivery =>
    by_cases hf : s.isFinished delivery
    · simp [Closing.step, hf]
    · simp [Closing.step, hf]

lemma session?_step (current : Closing) (h : current.session? = none) (s : Shared μ) :
    (current.step s).value.session? = none := by
  refine Option.eq_none_iff_forall_ne_some.mpr fun session hc => ?_
  cases h.symm.trans (current.yields_session? s session hc)

lemma take_step (session : Ref) (s : Shared μ) :
    ((Closing.take session).step s).state.sessions = (s.sessions.takeSubscription session).1 ∧
      ((Closing.take session).step s).value.session? = none := by
  cases hs : (s.sessions.takeSubscription session).2 with
  | none => simp [Closing.step, Shared.changeSessions, hs, Closing.session?]
  | some delivery => simp [Closing.step, Shared.changeSessions, hs, Closing.session?]

/-- Waiting for the end of a delivery does nothing to the sessions. -/
lemma sessions_run (now : Time.Instant) (fuel : Nat) (current : Closing) (s : Shared μ)
    (h : current.session? = none) :
    (Closing.run now fuel current s).state.sessions = s.sessions := by
  induction fuel generalizing current s with
  | zero => cases current <;> rfl
  | succ fuel ih =>
    cases current with
    | mark session | take session => cases h
    | done => rfl
    | cancel delivery => exact ih (.join delivery) _ rfl
    | join delivery =>
      have hstep := sessions_step (.join delivery) rfl (Shared.deliver now delivery s).state
      have hnext := session?_step (.join delivery) rfl (Shared.deliver now delivery s).state
      refine (ih _ _ hnext).trans (hstep.trans ?_)
      exact (Shared.deliver_alone now delivery s).1

end Closing

namespace Shared

lemma sessions_closed (now : Time.Instant) (session : Ref) (s : Shared μ) :
    (Closing.run now (Dispatch.enough s) (.mark session) s).state.sessions =
      s.sessions.close session := by
  obtain ⟨fuel, hfuel⟩ : ∃ fuel, Dispatch.enough s = fuel + 2 :=
    ⟨_, (Nat.sub_add_cancel (by unfold Dispatch.enough; omega)).symm⟩
  rw [hfuel]
  obtain ⟨htake, hnext⟩ := Closing.take_step session ((Closing.mark session).step s).state
  exact (Closing.sessions_run now fuel _ _ hnext).trans htake

lemma sessions_closeSession (now : Time.Instant) (session : Ref) (s : Shared μ) :
    (closeSession now session s).state.sessions = s.sessions.close session :=
  sessions_closed now session s

lemma sessions_closeSessions (now : Time.Instant) (sessions : List Ref) (s : Shared μ) :
    (closeSessions now sessions s).state.sessions = s.sessions.closeAll sessions := by
  induction sessions generalizing s with
  | nil => rfl
  | cons session rest ih =>
    refine (ih _).trans ?_
    rw [Registry.closeAll_cons]
    exact congrArg (·.closeAll rest) (sessions_closed now session s)

/-! ## Removals -/

lemma removeRef_of_notMem (now : Time.Instant) {s : Shared μ} (h : s.sessions.Coherent) {ref : Ref}
    (hm : ref ∉ s.sessions.list) : removeRef now ref s = ⟨false, s, []⟩ := by
  simp [removeRef, changeSessions, h.detachRef_of_notMem hm]

lemma removeRef_of_mem (now : Time.Instant) {s : Shared μ} (h : s.sessions.Coherent) {ref : Ref}
    (hm : ref ∈ s.sessions.list) :
    (removeRef now ref s).value = true ∧
      s.sessions.Expels [ref] (removeRef now ref s).state.sessions := by
  have hd := h.detachRef_of_mem hm
  refine ⟨by simp [removeRef, changeSessions, hd], ?_⟩
  have hs : (removeRef now ref s).state.sessions =
      (s.sessions.detachRef ref).1.closeAll [ref] := by
    simpa [removeRef, changeSessions, hd] using sessions_closeSession now ref _
  rw [hs]
  exact h.expels_detachRef hm

lemma remove_of_none (now : Time.Instant) {s : Shared μ} {id : String}
    (hl : s.sessions.byId.lookup id = none) : remove now id s = ⟨none, s, []⟩ := by
  simp [remove, changeSessions, Registry.detachId, hl]

lemma remove_of_some (now : Time.Instant) {s : Shared μ} (h : s.sessions.Coherent) {id : String}
    {ref : Ref} (hl : s.sessions.byId.lookup id = some ref) :
    (remove now id s).value = some ref ∧
      s.sessions.Expels [ref] (remove now id s).state.sessions := by
  have hd := h.detachId_eq hl
  refine ⟨by simp [remove, changeSessions, hd], ?_⟩
  have hs : (remove now id s).state.sessions = (s.sessions.detachRef ref).1.closeAll [ref] := by
    simpa [remove, changeSessions, hd] using sessions_closeSession now ref _
  rw [hs]
  exact h.expels_detachRef (List.mem_map.mpr ⟨_, h.lookup_iff.mp hl, rfl⟩)

lemma expels_drain (now : Time.Instant) {s : Shared μ} (h : s.sessions.Coherent) :
    s.sessions.Expels s.sessions.list (drain now s).state.sessions := by
  have hs : (drain now s).state.sessions =
      s.sessions.detachAll.1.closeAll s.sessions.list :=
    sessions_closeSessions now s.sessions.list _
  rw [hs]
  exact h.expels_detachAll

end Shared

/-! ## Calls on the registry -/

/-- A call on the registry of sessions. -/
inductive Visit where
  | add (id username : String) (capabilities : CapabilitySet) (connection : ConnectionId)
  | remove (now : Time.Instant) (id : String)
  | removeRef (now : Time.Instant) (session : Ref)
  | drain (now : Time.Instant)
  | terminate (session : Ref)

def Visit.act (s : Shared μ) : Visit → Shared μ
  | .add id username capabilities connection =>
    (Shared.onSessions (Registry.add id username capabilities connection) s).state
  | .remove now id => (Shared.remove now id s).state
  | .removeRef now session => (Shared.removeRef now session s).state
  | .drain now => (Shared.drain now s).state
  | .terminate session =>
    (Shared.changeSessions (fun r => (r.markTerminating session, ())) s).state

/-- The session that a call creates. -/
def Visit.created? (s : Shared μ) : Visit → Option Ref
  | .add id username capabilities connection =>
    (Shared.onSessions (Registry.add id username capabilities connection) s).value.toOption
  | _ => none

def Visit.told? : Visit → Option Ref
  | .terminate session => some session
  | _ => none

/-- The sessions that a call removes. -/
def Visit.leaving (s : Shared μ) : Visit → List Ref
  | .remove _ id => (s.sessions.getById id).toOption.toList
  | .removeRef _ session => if session ∈ s.sessions.list then [session] else []
  | .drain _ => s.sessions.list
  | _ => []

namespace Shared

def visited (s : Shared μ) (visits : List Visit) : Shared μ := visits.foldl Visit.act s

/-- The sessions that a sequence of calls creates. -/
def created (s : Shared μ) : List Visit → List Ref
  | [] => []
  | visit :: rest => (visit.created? s).toList ++ (visit.act s).created rest

end Shared

/-! ## What a call comes to -/

/-- What a call comes to: nothing at all, one session more, some sessions less, or a session that
is told to end. -/
inductive Visit.Comes (s : Shared μ) (visit : Visit) : Prop
  | nothing (created : visit.created? s = none) (leaving : visit.leaving s = [])
      (told : visit.told? = none) (same : visit.act s = s)
  | registers (ref : Ref) (record : Session.Record) (created : visit.created? s = some ref)
      (leaving : visit.leaving s = []) (told : visit.told? = none)
      (registers : Registry.Registers s.sessions (visit.act s).sessions ref record)
      (sorted : s.sessions.IsSorted → (visit.act s).sessions.IsSorted)
  | expels (created : visit.created? s = none) (told : visit.told? = none)
      (expels : s.sessions.Expels (visit.leaving s) (visit.act s).sessions)
  | terminates (session : Ref) (created : visit.created? s = none) (leaving : visit.leaving s = [])
      (told : visit.told? = some session)
      (same : (visit.act s).sessions = s.sessions.markTerminating session)

lemma Visit.comes {s : Shared μ} (h : s.sessions.Coherent) (visit : Visit) : visit.Comes s := by
  cases visit with
  | add id username capabilities connection =>
    rcases Registry.add_cases id username capabilities connection s.sessions with
      ⟨error, -, he⟩ | ⟨ref, hv, hr⟩
    · refine .nothing ?_ rfl rfl ?_
      · simp [created?, Shared.onSessions, he, Except.toOption]
      · simp [act, Shared.onSessions, he]
    · refine .registers ref _ ?_ rfl rfl hr
        (Registry.isSorted_add id username capabilities connection)
      simp [created?, Shared.onSessions, hv, Except.toOption]
  | remove now id =>
    cases hl : s.sessions.byId.lookup id with
    | none =>
      refine .nothing rfl ?_ rfl ?_
      · simp [leaving, Registry.getById, hl, Except.toOption]
      · simp [act, Shared.remove_of_none now hl]
    | some ref =>
      have hleaving : leaving s (.remove now id) = [ref] := by
        simp [leaving, Registry.getById, hl, Except.toOption]
      exact .expels rfl rfl (hleaving ▸ (Shared.remove_of_some now h hl).2)
  | removeRef now session =>
    by_cases hm : session ∈ s.sessions.list
    · have hleaving : leaving s (.removeRef now session) = [session] := if_pos hm
      exact .expels rfl rfl (hleaving ▸ (Shared.removeRef_of_mem now h hm).2)
    · refine .nothing rfl (if_neg hm) rfl ?_
      simp [act, Shared.removeRef_of_notMem now h hm]
  | drain now => exact .expels rfl rfl (Shared.expels_drain now h)
  | terminate session => exact .terminates session rfl rfl rfl rfl

/-! ## From one call to the next -/

/-- The tables of a registry fit together and are in order, and the sessions that were created are
registered until they are closed. -/
structure Accounts (r : Registry) (created : List Ref) : Prop where
  coherent : r.Coherent
  sorted : r.IsSorted
  numbered : ∀ ref, ref ∈ created ↔ ref.number < r.records.length
  registered : ∀ ref ∈ created, ref ∈ r.list ↔ (r.record ref).status ≠ .closed

namespace Accounts

variable {s : Shared μ} {earlier : List Ref}

lemma of_empty (h : s.sessions = .empty) : Accounts s.sessions [] := by
  rw [h]
  exact ⟨Registry.coherent_empty, List.Pairwise.nil, by simp [Registry.empty], by simp⟩

lemma act (h : Accounts s.sessions earlier) (visit : Visit) :
    Accounts (visit.act s).sessions (earlier ++ (visit.created? s).toList) := by
  cases visit.comes h.coherent with
  | nothing created leaving told same =>
    rw [created, same, Option.toList_none, List.append_nil]
    exact h
  | registers ref record created leaving told registers sorted =>
    rw [created, Option.toList_some]
    have hnumbered : ∀ other, other ∈ earlier ++ [ref] ↔
        other.number < (visit.act s).sessions.records.length := by
      intro other
      rw [List.mem_append, h.numbered, List.mem_singleton, registers.lt_length_iff, or_comm]
    refine ⟨registers.coherent h.coherent, sorted h.sorted, hnumbered, fun other hm => ?_⟩
    rw [registers.mem_list]
    rcases List.mem_append.mp hm with hm | hm
    · have hlt := (h.numbered other).mp hm
      have hne : other ≠ ref := by
        rintro rfl
        exact absurd registers.number (by omega)
      rw [registers.record_of_lt hlt, ← h.registered other hm]
      simp [hne]
    · rw [List.mem_singleton.mp hm, registers.record_self, registers.active]
      simp
  | expels created told expels =>
    rw [created, Option.toList_none, List.append_nil]
    refine ⟨expels.narrows.coherent h.coherent, expels.narrows.isSorted h.sorted, ?_, ?_⟩
    · intro ref
      rw [h.numbered, expels.narrows.length]
    · intro ref hm
      rw [expels.registered]
      by_cases hg : ref ∈ visit.leaving s
      · simp [hg, expels.closed ref hg]
      · rw [expels.kept ref hg, ← h.registered ref hm]
        simp [hg]
  | terminates session created leaving told same =>
    have hn := s.sessions.narrows_markTerminating session
    rw [created, Option.toList_none, List.append_nil, same]
    refine ⟨hn.coherent h.coherent, hn.isSorted h.sorted, ?_, ?_⟩
    · intro ref
      rw [h.numbered, hn.length]
    · intro ref hm
      rw [Ne, (s.sessions.holds_markTerminating session).closed ref]
      exact h.registered ref hm

lemma visited (h : Accounts s.sessions earlier) (visits : List Visit) :
    Accounts (s.visited visits).sessions (earlier ++ s.created visits) := by
  induction visits generalizing s earlier with
  | nil => simpa [Shared.visited, Shared.created] using h
  | cons visit rest ih =>
    rw [Shared.created, ← List.append_assoc]
    exact ih (h.act visit)

end Accounts

/-! ## A registry in order -/

/-- What holds of a registry at any time, given the sessions that were ever created. -/
structure Orderly (r : Registry) (created : List Ref) : Prop where
  size : r.byId.length = r.byConnection.length
  ids : (r.byId.map (·.1)).Nodup
  connections : (r.byConnection.map (·.1)).Nodup
  inverse : ∀ connection id, (connection, id) ∈ r.byConnection ↔
    ∃ ref, (id, ref) ∈ r.byId ∧ (r.record ref).connection = connection
  byId : ∀ id ref, r.getById id = .ok ref ↔ ref ∈ r.list ∧ (r.record ref).id = id
  byConnection : ∀ connection ref, r.getByConnection connection = .ok ref ↔
    ref ∈ r.list ∧ (r.record ref).connection = connection
  registered : ∀ ref, ref ∈ r.list ↔ ref ∈ created ∧ (r.record ref).status ≠ .closed
  sorted : r.list.Pairwise fun a b => (r.record a).id < (r.record b).id

namespace Accounts

variable {r : Registry} {created : List Ref}

lemma orderly (h : Accounts r created) : Orderly r created := by
  refine ⟨h.coherent.length_eq, h.coherent.ids, h.coherent.connections,
    fun connection id => h.coherent.paired id connection, h.coherent.getById_iff,
    h.coherent.getByConnection_iff, ?_, ?_⟩
  · intro ref
    constructor
    · intro hm
      have hc := (h.numbered ref).mpr (h.coherent.lt_of_mem_list hm)
      exact ⟨hc, (h.registered ref hc).mp hm⟩
    · rintro ⟨hc, hs⟩
      exact (h.registered ref hc).mpr hs
  · refine List.pairwise_map.mpr (h.sorted.imp_of_mem fun {a b} ha hb hlt => ?_)
    rw [(h.coherent.recorded a.1 a.2 ha).2, (h.coherent.recorded b.1 b.2 hb).2]
    exact hlt

end Accounts

/-- Every call does what it is for and nothing else, given the sessions that were created before. A
registration is refused for its id or for its connection; it is a new session that is registered. To
remove a session that is not the registered one changes nothing, whoever has its id. A session that
is told to end is terminating, one that is removed is closed, and no other session is touched. -/
structure Shared.Precise (s : Shared μ) (created : List Ref) : Prop where
  refused : ∀ id username capabilities connection,
    (∃ error, (onSessions (Registry.add id username capabilities connection) s).value =
      .error error) ↔
    Text.isBlank id ∨ (∃ ref, s.sessions.getById id = .ok ref) ∨
      ∃ ref, s.sessions.getByConnection connection = .ok ref
  refusal : ∀ id username capabilities connection error,
    (onSessions (Registry.add id username capabilities connection) s).value = .error error →
      onSessions (Registry.add id username capabilities connection) s = ⟨.error error, s, []⟩
  fresh : ∀ id username capabilities connection ref,
    (onSessions (Registry.add id username capabilities connection) s).value = .ok ref →
      ref ∉ created ∧
        ((onSessions (Registry.add id username capabilities connection) s).state.sessions.record
          ref) = ⟨connection, ⟨id, username, capabilities⟩, .active, none⟩
  late : ∀ now ref, s.sessions.getById (s.sessions.record ref).id ≠ .ok ref →
    removeRef now ref s = ⟨false, s, []⟩
  told : ∀ (visit : Visit), ∀ ref ∈ created, visit.told? = some ref →
    ((visit.act s).sessions.record ref).status = (s.sessions.record ref).status.terminate
  left : ∀ (visit : Visit), ∀ ref ∈ visit.leaving s,
    ((visit.act s).sessions.record ref).status = .closed
  stayed : ∀ (visit : Visit), ∀ ref ∈ created, visit.told? ≠ some ref → ref ∉ visit.leaving s →
    (visit.act s).sessions.record ref = s.sessions.record ref

namespace Accounts

variable {s : Shared μ} {created : List Ref}

lemma add_error_iff (h : Accounts s.sessions created) (id username : String)
    (capabilities : CapabilitySet) (connection : ConnectionId) :
    (∃ error, (Registry.add id username capabilities connection s.sessions).value =
      .error error) ↔
    Text.isBlank id ∨ (∃ ref, s.sessions.getById id = .ok ref) ∨
      ∃ ref, s.sessions.getByConnection connection = .ok ref := by
  rw [← h.coherent.conflict?_isSome_iff]
  cases hc : s.sessions.conflict? id connection with
  | some error => simp [Registry.add, hc]
  | none => simp [Registry.add, hc]

lemma precise (h : Accounts s.sessions created) : s.Precise created where
  refused := h.add_error_iff
  refusal id username capabilities connection error he := by
    rcases Registry.add_cases id username capabilities connection s.sessions with
      ⟨other, -, hother⟩ | ⟨ref, hv, -⟩
    · have hsame : other = error := by simpa [Shared.onSessions, hother] using he
      simp [Shared.onSessions, hother, hsame]
    · simp [Shared.onSessions, hv] at he
  fresh id username capabilities connection ref hv := by
    rcases Registry.add_cases id username capabilities connection s.sessions with
      ⟨error, -, he⟩ | ⟨other, hother, hr⟩
    · simp [Shared.onSessions, he] at hv
    · obtain rfl : other = ref := by simpa [Shared.onSessions, hother] using hv
      refine ⟨fun hm => ?_, hr.record_self⟩
      exact absurd ((h.numbered other).mp hm) (by rw [hr.number]; omega)
  late now ref hn := by
    refine Shared.removeRef_of_notMem now h.coherent fun hm => hn ?_
    exact (h.coherent.getById_iff _ ref).mpr ⟨hm, rfl⟩
  told visit ref hm ht := by
    cases visit.comes h.coherent with
    | nothing _ _ told _ | registers _ _ _ _ told _ _ | expels _ told _ => cases told.symm.trans ht
    | terminates session _ _ told same =>
      obtain rfl : session = ref := Option.some.inj (told.symm.trans ht)
      rw [same, Registry.markTerminating, Registry.record_update,
        if_pos ⟨rfl, (h.numbered session).mp hm⟩]
  left visit ref hm := by
    cases visit.comes h.coherent with
    | nothing _ leaving _ _ | registers _ _ _ leaving _ _ _ | terminates _ _ leaving _ _ =>
      rw [leaving] at hm
      cases hm
    | expels _ _ expels => exact expels.closed ref hm
  stayed visit ref hm ht hl := by
    cases visit.comes h.coherent with
    | nothing _ _ _ same => rw [same]
    | registers _ _ _ _ _ registers _ => exact registers.record_of_lt ((h.numbered ref).mp hm)
    | expels _ _ expels => exact expels.kept ref hl
    | terminates session _ _ told same =>
      rw [same]
      refine Registry.record_update_of_ne _ _ ?_
      rintro rfl
      exact ht told

end Accounts

lemma Visit.ages {s : Shared μ} (h : s.sessions.Coherent) (visit : Visit) :
    s.sessions.Ages (visit.act s).sessions := by
  cases visit.comes h with
  | nothing created leaving told same =>
    rw [same]
    exact Std.Refl.refl s.sessions
  | registers ref record created leaving told registers sorted => exact registers.ages
  | expels created told expels => exact expels.narrows.ages
  | terminates session created leaving told same =>
    rw [same]
    exact (s.sessions.narrows_markTerminating session).ages

lemma Accounts.ages {s : Shared μ} {earlier : List Ref} (h : Accounts s.sessions earlier)
    (visits : List Visit) : s.sessions.Ages (s.visited visits).sessions := by
  induction visits generalizing s earlier with
  | nil => exact Std.Refl.refl s.sessions
  | cons visit rest ih =>
    exact IsTrans.trans _ _ _ (visit.ages h.coherent) (ih (h.act visit))

/-- Whatever is called on a registry that was empty at first, it is in order, every further call
does what it is for, and no session goes back on its way. -/
theorem registry_orderly_after (s : Shared μ) (h : s.sessions = .empty) (visits : List Visit) :
    Orderly (s.visited visits).sessions (s.created visits) ∧
      (s.visited visits).Precise (s.created visits) ∧
      ∀ earlier later, visits = earlier ++ later → ∀ ref ∈ s.created earlier,
        ((s.visited earlier).sessions.record ref).status.rank ≤
          ((s.visited visits).sessions.record ref).status.rank := by
  have haccounts := fun visits => (Accounts.of_empty h).visited visits
  simp only [List.nil_append] at haccounts
  refine ⟨(haccounts visits).orderly, (haccounts visits).precise, ?_⟩
  rintro earlier later rfl ref hm
  have happend : s.visited (earlier ++ later) = (s.visited earlier).visited later :=
    List.foldl_append
  rw [happend]
  exact ((haccounts earlier).ages later).status ref (((haccounts earlier).numbered ref).mp hm)

/-- A session is told to end and removed, and a later one gets its id and its connection. The first
is removed once more, a third and a fourth are refused, and the second one is removed by its id. -/
def reuseVisits : List Visit :=
  [.add "b" "operator" .empty ⟨1⟩, .add "a" "operator" .empty ⟨2⟩, .terminate ⟨0⟩,
    .removeRef 0 ⟨0⟩, .add "b" "operator" .empty ⟨1⟩, .removeRef 0 ⟨0⟩,
    .add "a" "operator" .empty ⟨3⟩, .add "c" "operator" .empty ⟨2⟩, .remove 0 "a"]

theorem registry_orderly_after_reuse :
    let start : Shared Device.ScriptedModule := .ofModules .empty
    let now := start.visited reuseVisits
    start.sessions = .empty ∧ Orderly now.sessions (start.created reuseVisits) ∧
      now.Precise (start.created reuseVisits) ∧
      (start.created reuseVisits).map (·.number) = [0, 1, 2] ∧
      now.sessions.records.map (fun r => (r.id, r.connection.number, r.status)) =
        [("b", 1, .closed), ("a", 2, .closed), ("b", 1, .active)] ∧
      now.sessions.list.map (·.number) = [2] :=
  have h :=
    registry_orderly_after (.ofModules .empty : Shared Device.ScriptedModule) rfl reuseVisits
  ⟨rfl, h.1, h.2.1, by decide +kernel, by decide +kernel, by decide +kernel⟩

end Server

end ManagementServer
