import Mathlib.Data.List.Nodup
import ManagementServer.Proofs.Action
import ManagementServer.Session.Registry

/-!
# The session registry through its operations

`Registry.Coherent` ties the two tables of the registry and its records together.
`Registry.Narrows` is what every operation but a registration does to the registry: sessions may
leave it and their status may move on, and nothing else changes that tells one session from another.
-/

namespace ManagementServer

/-- How far a status is on its way. -/
def SessionStatus.rank : SessionStatus → Nat
  | .active => 0
  | .terminating => 1
  | .closed => 2

lemma SessionStatus.rank_terminate (s : SessionStatus) : s.rank ≤ s.terminate.rank := by
  cases s <;> decide

lemma SessionStatus.rank_le_closed (s : SessionStatus) : s.rank ≤ SessionStatus.closed.rank := by
  cases s <;> decide

namespace Session.Registry

lemma lookup_eq_some_iff_mem {α β : Type} [BEq α] [LawfulBEq α] {l : List (α × β)}
    (h : (l.map (·.1)).Nodup) {a : α} {b : β} : l.lookup a = some b ↔ (a, b) ∈ l := by
  induction l with
  | nil => simp
  | cons x rest ih =>
    obtain ⟨k, v⟩ := x
    simp only [List.map_cons, List.nodup_cons, List.mem_map, not_exists, not_and] at h
    rw [List.lookup_cons, List.mem_cons, Prod.mk.injEq]
    by_cases hk : a = k
    · subst a
      have hn : (k, b) ∉ rest := fun hm => h.1 _ hm rfl
      simp [hn, eq_comm]
    · have hb : (a == k) = false := by simpa using hk
      simp only [hb, hk, false_and, false_or]
      exact ih h.2

/-- The tables of a registry fit together and to its records. -/
structure Coherent (r : Registry) : Prop where
  ids : (r.byId.map (·.1)).Nodup
  connections : (r.byConnection.map (·.1)).Nodup
  recorded : ∀ id ref, (id, ref) ∈ r.byId → ref.number < r.records.length ∧ (r.record ref).id = id
  paired : ∀ id connection, (connection, id) ∈ r.byConnection ↔
    ∃ ref, (id, ref) ∈ r.byId ∧ (r.record ref).connection = connection

lemma coherent_empty : Coherent empty :=
  ⟨List.nodup_nil, List.nodup_nil, by simp [empty], by simp [empty]⟩

namespace Coherent

variable {r : Registry}

lemma lookup_iff (h : r.Coherent) {id : String} {ref : Ref} :
    r.byId.lookup id = some ref ↔ (id, ref) ∈ r.byId :=
  lookup_eq_some_iff_mem h.ids

lemma mem_list (h : r.Coherent) {ref : Ref} :
    ref ∈ r.list ↔ ((r.record ref).id, ref) ∈ r.byId := by
  simp only [list, List.mem_map, Prod.exists, exists_eq_right]
  constructor
  · rintro ⟨id, hm⟩
    rw [(h.recorded id ref hm).2]
    exact hm
  · intro hm
    exact ⟨_, hm⟩

lemma lt_of_mem_list (h : r.Coherent) {ref : Ref} (hm : ref ∈ r.list) :
    ref.number < r.records.length :=
  (h.recorded _ ref (h.mem_list.mp hm)).1

/-- A connection carries at most one registered session. -/
lemma eq_of_connection (h : r.Coherent) {a b : Ref} (ha : a ∈ r.list) (hb : b ∈ r.list)
    (he : (r.record a).connection = (r.record b).connection) : a = b := by
  have hma := h.mem_list.mp ha
  have hmb := h.mem_list.mp hb
  have hca := (h.paired _ _).mpr ⟨a, hma, rfl⟩
  have hcb := (h.paired _ _).mpr ⟨b, hmb, rfl⟩
  rw [he] at hca
  have hid : (r.record a).id = (r.record b).id :=
    Option.some.inj (((lookup_eq_some_iff_mem h.connections).mpr hca).symm.trans
      ((lookup_eq_some_iff_mem h.connections).mpr hcb))
  rw [hid] at hma
  exact Option.some.inj ((h.lookup_iff.mpr hma).symm.trans (h.lookup_iff.mpr hmb))

end Coherent

/-! ## Operations that register nothing -/

/-- Sessions leave a registry and their status moves on; the records stay what they are. -/
structure Narrows (r r' : Registry) : Prop where
  byId : r'.byId.Sublist r.byId
  length : r'.records.length = r.records.length
  connection : ∀ ref, (r'.record ref).connection = (r.record ref).connection
  context : ∀ ref, (r'.record ref).context = (r.record ref).context
  status : ∀ ref, (r.record ref).status.rank ≤ (r'.record ref).status.rank
  coherent : r.Coherent → r'.Coherent

namespace Narrows

instance : Std.Refl Narrows :=
  ⟨fun _ => ⟨List.Sublist.refl _, rfl, fun _ => rfl, fun _ => rfl, fun _ => Nat.le_refl _, id⟩⟩

instance : IsTrans Registry Narrows :=
  ⟨fun _ _ _ h h' => ⟨h'.byId.trans h.byId, h'.length.trans h.length,
    fun ref => (h'.connection ref).trans (h.connection ref),
    fun ref => (h'.context ref).trans (h.context ref),
    fun ref => Nat.le_trans (h.status ref) (h'.status ref), h'.coherent ∘ h.coherent⟩⟩

lemma list {r r' : Registry} (h : Narrows r r') {ref : Ref} (hm : ref ∈ r'.list) :
    ref ∈ r.list :=
  (h.byId.map _).subset hm

end Narrows

lemma record_update (r : Registry) (ref other : Ref) (f : Record → Record) :
    (r.update ref f).record other =
      if ref = other ∧ ref.number < r.records.length then f (r.record other)
      else r.record other := by
  unfold record record? update
  simp only [List.getElem?_modify]
  by_cases h : ref = other
  · subst h
    by_cases hl : ref.number < r.records.length
    · simp [hl]
    · simp [hl]
  · have hn : ref.number ≠ other.number := by
      intro he
      exact h (by cases ref; cases other; simpa using he)
    simp [h, hn]

lemma record_update_of_ne (r : Registry) {ref other : Ref} (f : Record → Record) (h : ref ≠ other) :
    (r.update ref f).record other = r.record other := by
  rw [record_update, if_neg fun hc => h hc.1]

lemma narrows_update (r : Registry) (ref : Ref) (f : Record → Record)
    (hc : ∀ s, (f s).connection = s.connection) (hx : ∀ s, (f s).context = s.context)
    (hs : ∀ s, s.status.rank ≤ (f s).status.rank) : r.Narrows (r.update ref f) := by
  have hcon : ∀ other,
      ((r.update ref f).record other).connection = (r.record other).connection := by
    intro other
    rw [record_update]
    split
    · exact hc _
    · rfl
  have hctx : ∀ other, ((r.update ref f).record other).context = (r.record other).context := by
    intro other
    rw [record_update]
    split
    · exact hx _
    · rfl
  have hlen : (r.update ref f).records.length = r.records.length := by simp [update]
  refine ⟨List.Sublist.refl _, hlen, hcon, hctx, ?_, ?_⟩
  · intro other
    rw [record_update]
    split
    · exact hs _
    · omega
  · intro h
    refine ⟨h.ids, h.connections, ?_, ?_⟩
    · intro id other hm
      obtain ⟨hlt, hid⟩ := h.recorded id other hm
      refine ⟨hlen ▸ hlt, ?_⟩
      rw [Record.id, hctx]
      exact hid
    · intro id connection
      simp only [hcon]
      exact h.paired id connection

lemma narrows_markTerminating (r : Registry) (ref : Ref) : r.Narrows (r.markTerminating ref) :=
  narrows_update r ref _ (fun _ => rfl) (fun _ => rfl) fun s => s.status.rank_terminate

lemma narrows_markClosed (r : Registry) (ref : Ref) : r.Narrows (r.markClosed ref) :=
  narrows_update r ref _ (fun _ => rfl) (fun _ => rfl) fun s => s.status.rank_le_closed

/-- Taking a registered session out leaves the tables in accord, because its id and its connection
belong to nobody else. -/
lemma narrows_detach (r : Registry) (ref : Ref) (hm : r.byId.lookup (r.record ref).id = some ref) :
    r.Narrows (r.detach (r.record ref).id (r.record ref).connection) := by
  refine ⟨List.filter_sublist, rfl, fun _ => rfl, fun _ => rfl, fun _ => Nat.le_refl _, ?_⟩
  intro h
  refine ⟨h.ids.sublist (List.filter_sublist.map _), h.connections.sublist
    (List.filter_sublist.map _), ?_, ?_⟩
  · intro id other ho
    exact h.recorded id other (List.mem_of_mem_filter ho)
  · intro id connection
    simp only [detach, List.mem_filter, bne_iff_ne, ne_eq]
    have hr := h.mem_list.mpr (h.lookup_iff.mp hm)
    constructor
    · rintro ⟨hc, hne⟩
      obtain ⟨other, ho, he⟩ := (h.paired id connection).mp hc
      refine ⟨other, ⟨ho, ?_⟩, he⟩
      intro hid
      subst hid
      have heq : other = ref := Option.some.inj ((h.lookup_iff.mpr ho).symm.trans hm)
      exact hne (by rw [← he, heq])
    · rintro ⟨other, ⟨ho, hne⟩, he⟩
      refine ⟨(h.paired id connection).mpr ⟨other, ho, he⟩, ?_⟩
      intro hcon
      have hid := (h.recorded id other ho).2
      have hl := h.mem_list.mpr (hid.symm ▸ ho)
      have heq := h.eq_of_connection hl hr (he.trans hcon)
      exact hne (by rw [← hid, heq])

lemma narrows_detachRef (r : Registry) (ref : Ref) : r.Narrows (r.detachRef ref).1 := by
  unfold detachRef
  dsimp only
  split
  · rename_i h
    exact narrows_detach r ref (by simpa using h)
  · exact Std.Refl.refl r

lemma not_mem_detachRef {r : Registry} (h : r.Coherent) (ref : Ref) :
    ref ∉ (r.detachRef ref).1.list := by
  intro hm
  unfold detachRef at hm
  dsimp only at hm
  split at hm
  · obtain ⟨⟨id, other⟩, hx, rfl⟩ := List.mem_map.mp hm
    obtain ⟨hid, hne⟩ := List.mem_filter.mp hx
    have he := (h.recorded id other hid).2
    simp [he] at hne
  · rename_i hn
    exact hn (by simpa using h.lookup_iff.mpr (h.mem_list.mp hm))

lemma mem_list_detachRef {r : Registry} (h : r.Coherent) {ref other : Ref} (hne : other ≠ ref) :
    other ∈ (r.detachRef ref).1.list ↔ other ∈ r.list := by
  refine ⟨(narrows_detachRef r ref).list, fun hm => ?_⟩
  unfold detachRef
  dsimp only
  split
  · rename_i hl
    have hm' := h.mem_list.mp hm
    refine List.mem_map.mpr ⟨_, List.mem_filter.mpr ⟨hm', ?_⟩, rfl⟩
    rw [bne_iff_ne]
    intro hid
    have hother : r.byId.lookup (r.record ref).id = some other := hid ▸ h.lookup_iff.mpr hm'
    exact hne (Option.some.inj (hother.symm.trans (by simpa using hl)))
  · exact hm

lemma Coherent.detachRef_of_notMem {r : Registry} (h : r.Coherent) {ref : Ref}
    (hm : ref ∉ r.list) : r.detachRef ref = (r, false) := by
  have hl : ¬ r.byId.lookup (r.record ref).id = some ref :=
    fun hc => hm (h.mem_list.mpr (h.lookup_iff.mp hc))
  simp [detachRef, hl]

lemma Coherent.detachRef_of_mem {r : Registry} (h : r.Coherent) {ref : Ref} (hm : ref ∈ r.list) :
    (r.detachRef ref).2 = true := by
  simp [detachRef, h.lookup_iff.mpr (h.mem_list.mp hm)]

lemma narrows_detachAll (r : Registry) : r.Narrows r.detachAll.1 :=
  ⟨List.nil_sublist _, rfl, fun _ => rfl, fun _ => rfl, fun _ => Nat.le_refl _, fun _ =>
    ⟨List.nodup_nil, List.nodup_nil, by simp [detachAll], by simp [detachAll]⟩⟩

/-! ## Registration -/

/-- What a successful registration does: one session more, under the next number. -/
structure Registers (r r' : Registry) (ref : Ref) (s : Record) : Prop where
  number : ref.number = r.records.length
  records : r'.records = r.records ++ [s]
  byId : ∀ x, x ∈ r'.byId ↔ x = (s.id, ref) ∨ x ∈ r.byId
  freshId : ∀ other, (s.id, other) ∉ r.byId
  free : ∀ id, (s.connection, id) ∉ r.byConnection
  active : s.status = .active
  coherent : r.Coherent → r'.Coherent

namespace Registers

variable {r r' : Registry} {ref : Ref} {s : Record}

lemma record_self (h : Registers r r' ref s) : r'.record ref = s := by
  simp [record, record?, h.records, h.number]

lemma record_of_lt (h : Registers r r' ref s) {other : Ref}
    (hlt : other.number < r.records.length) : r'.record other = r.record other := by
  simp [record, record?, h.records, List.getElem?_append_left hlt]

lemma lt_length_iff (h : Registers r r' ref s) {other : Ref} :
    other.number < r'.records.length ↔ other = ref ∨ other.number < r.records.length := by
  rw [h.records, List.length_append, List.length_singleton]
  constructor
  · intro hlt
    by_cases hn : other.number = r.records.length
    · left
      cases other
      cases ref
      simpa using hn.trans h.number.symm
    · exact .inr (by omega)
  · rintro (rfl | hlt)
    · rw [h.number]
      omega
    · omega

lemma mem_list (h : Registers r r' ref s) {other : Ref} :
    other ∈ r'.list ↔ other = ref ∨ other ∈ r.list := by
  simp only [list, List.mem_map, h.byId, Prod.exists, exists_eq_right, Prod.mk.injEq]
  constructor
  · rintro ⟨id, ⟨-, rfl⟩ | hm⟩
    · exact .inl rfl
    · exact .inr ⟨id, hm⟩
  · rintro (rfl | ⟨id, hm⟩)
    · exact ⟨s.id, .inl ⟨rfl, rfl⟩⟩
    · exact ⟨id, .inr hm⟩

end Registers

lemma mem_insertSorted (id : String) (ref : Ref) (l : List (String × Ref)) (x : String × Ref) :
    x ∈ insertSorted id ref l ↔ x = (id, ref) ∨ x ∈ l := by
  induction l with
  | nil => simp [insertSorted]
  | cons y rest ih =>
    obtain ⟨i, t⟩ := y
    simp only [insertSorted]
    split
    · rw [List.mem_cons]
    · rw [List.mem_cons, ih, List.mem_cons]
      tauto

lemma nodup_insertSorted (id : String) (ref : Ref) {l : List (String × Ref)}
    (h : (l.map (·.1)).Nodup) (hn : ∀ other, (id, other) ∉ l) :
    ((insertSorted id ref l).map (·.1)).Nodup := by
  induction l with
  | nil => simp [insertSorted]
  | cons y rest ih =>
    obtain ⟨i, t⟩ := y
    have hne : id ≠ i := by
      rintro rfl
      exact hn t List.mem_cons_self
    have hrest : ∀ other, (id, other) ∉ rest :=
      fun other hm => hn other (List.mem_cons_of_mem _ hm)
    have hkeys := List.nodup_cons.mp h
    simp only [insertSorted]
    split
    · refine List.nodup_cons.mpr ⟨?_, h⟩
      intro hm
      obtain ⟨⟨_, other⟩, hx, rfl⟩ := List.mem_map.mp hm
      exact hn other hx
    · refine List.nodup_cons.mpr ⟨?_, ih hkeys.2 hrest⟩
      intro hm
      obtain ⟨x, hm, hx⟩ := List.mem_map.mp hm
      rcases (mem_insertSorted id ref rest x).mp hm with rfl | hm
      · exact hne hx
      · exact hkeys.1 (List.mem_map.mpr ⟨x, hm, hx⟩)

lemma conflict?_eq_none_iff (r : Registry) (id : String) (connection : ConnectionId) :
    r.conflict? id connection = none ↔
      Text.isBlank id = false ∧ r.byId.lookup id = none ∧
        r.byConnection.lookup connection = none := by
  unfold conflict?
  cases Text.isBlank id <;> cases r.byId.lookup id <;> simp

/-- A session under a free id on a free connection. -/
lemma registers_of_fresh (r : Registry) (id username : String) (capabilities : CapabilitySet)
    (connection : ConnectionId) (hfresh : ∀ other, (id, other) ∉ r.byId)
    (hfree : ∀ other, (connection, other) ∉ r.byConnection) :
    Registers r
      ⟨r.records ++ [⟨connection, ⟨id, username, capabilities⟩, .active, none⟩],
        insertSorted id ⟨r.records.length⟩ r.byId, (connection, id) :: r.byConnection⟩
      ⟨r.records.length⟩ ⟨connection, ⟨id, username, capabilities⟩, .active, none⟩ := by
  refine ⟨rfl, rfl, mem_insertSorted id _ r.byId, hfresh, hfree, rfl, fun h => ?_⟩
  have hself : ∀ i j, record ⟨r.records ++ [⟨connection, ⟨id, username, capabilities⟩, .active,
      none⟩], i, j⟩ ⟨r.records.length⟩ =
        ⟨connection, ⟨id, username, capabilities⟩, .active, none⟩ := by
    simp [record, record?]
  have hold : ∀ i j (ref : Ref), ref.number < r.records.length →
      record ⟨r.records ++ [⟨connection, ⟨id, username, capabilities⟩, .active, none⟩], i, j⟩ ref =
        r.record ref := by
    intro i j ref hlt
    simp [record, record?, List.getElem?_append_left hlt]
  refine ⟨nodup_insertSorted id _ h.ids hfresh, ?_, ?_, ?_⟩
  · refine List.nodup_cons.mpr ⟨?_, h.connections⟩
    intro hm
    obtain ⟨⟨_, other⟩, hx, rfl⟩ := List.mem_map.mp hm
    exact hfree other hx
  · intro i ref hm
    rcases (mem_insertSorted id _ r.byId (i, ref)).mp hm with he | hm
    · obtain ⟨rfl, rfl⟩ := Prod.mk.inj he
      exact ⟨by simp, by rw [hself]; rfl⟩
    · obtain ⟨hlt, hid⟩ := h.recorded i ref hm
      exact ⟨by simp only [List.length_append]; omega, by rw [hold _ _ _ hlt]; exact hid⟩
  · intro i c
    constructor
    · intro hm
      rcases List.mem_cons.mp hm with he | hm
      · obtain ⟨rfl, rfl⟩ := Prod.mk.inj he
        exact ⟨_, (mem_insertSorted _ _ _ _).mpr (.inl rfl), by rw [hself]⟩
      · obtain ⟨ref, hr, hc⟩ := (h.paired i c).mp hm
        refine ⟨ref, (mem_insertSorted _ _ _ _).mpr (.inr hr), ?_⟩
        rw [hold _ _ _ (h.recorded i ref hr).1]
        exact hc
    · rintro ⟨ref, hr, hc⟩
      rcases (mem_insertSorted id _ r.byId (i, ref)).mp hr with he | hm
      · obtain ⟨rfl, rfl⟩ := Prod.mk.inj he
        rw [hself] at hc
        exact List.mem_cons.mpr (.inl (by rw [← hc]))
      · rw [hold _ _ _ (h.recorded i ref hm).1] at hc
        exact List.mem_cons_of_mem _ ((h.paired i c).mpr ⟨ref, hm, hc⟩)

/-- A registration is refused, and then changes nothing, or it adds the session. -/
lemma add_cases (id username : String) (capabilities : CapabilitySet) (connection : ConnectionId)
    (r : Registry) :
    (∃ error, r.conflict? id connection = some error ∧
      add id username capabilities connection r = ⟨.error error, r, []⟩) ∨
    ∃ ref, (add id username capabilities connection r).value = .ok ref ∧
      Registers r (add id username capabilities connection r).state ref
        ⟨connection, ⟨id, username, capabilities⟩, .active, none⟩ := by
  cases hc : r.conflict? id connection with
  | some error => exact .inl ⟨error, rfl, by simp [add, hc]⟩
  | none =>
    right
    obtain ⟨-, hid, hcon⟩ := (conflict?_eq_none_iff r id connection).mp hc
    have hfresh : ∀ other, (id, other) ∉ r.byId := by
      intro other hm
      simpa using List.lookup_eq_none_iff.mp hid _ hm
    have hfree : ∀ other, (connection, other) ∉ r.byConnection := by
      intro other hm
      simpa using List.lookup_eq_none_iff.mp hcon _ hm
    have hstate : (add id username capabilities connection r).state =
        ⟨r.records ++ [⟨connection, ⟨id, username, capabilities⟩, .active, none⟩],
          insertSorted id ⟨r.records.length⟩ r.byId, (connection, id) :: r.byConnection⟩ := by
      simp [add, hc]
    refine ⟨⟨r.records.length⟩, by simp [add, hc], ?_⟩
    rw [hstate]
    exact registers_of_fresh r id username capabilities connection hfresh hfree

lemma add_calls (id username : String) (capabilities : CapabilitySet) (connection : ConnectionId)
    (r : Registry) : (add id username capabilities connection r).calls = [] := by
  cases hc : r.conflict? id connection with
  | some error => simp [add, hc]
  | none => simp [add, hc, Result.calls, Occurrence.call?]

/-! ## Records in the course of time -/

/-- The records that there are keep their sessions, and their status moves on. -/
structure Ages (r r' : Registry) : Prop where
  length : r.records.length ≤ r'.records.length
  context : ∀ ref : Ref, ref.number < r.records.length →
    (r'.record ref).context = (r.record ref).context
  status : ∀ ref : Ref, ref.number < r.records.length →
    (r.record ref).status.rank ≤ (r'.record ref).status.rank

instance : Std.Refl Ages := ⟨fun _ => ⟨Nat.le_refl _, fun _ _ => rfl, fun _ _ => Nat.le_refl _⟩⟩

instance : IsTrans Registry Ages := by
  refine ⟨fun r r' r'' h h' => ⟨Nat.le_trans h.length h'.length, ?_, ?_⟩⟩
  · intro ref hlt
    have hlt' := Nat.lt_of_lt_of_le hlt h.length
    exact (h'.context ref hlt').trans (h.context ref hlt)
  · intro ref hlt
    have hlt' := Nat.lt_of_lt_of_le hlt h.length
    exact Nat.le_trans (h.status ref hlt) (h'.status ref hlt')

lemma Narrows.ages {r r' : Registry} (h : Narrows r r') : Ages r r' :=
  ⟨Nat.le_of_eq h.length.symm, fun ref _ => h.context ref, fun ref _ => h.status ref⟩

lemma Registers.ages {r r' : Registry} {ref : Ref} {s : Record} (h : Registers r r' ref s) :
    Ages r r' := by
  refine ⟨?_, ?_, ?_⟩
  · rw [h.records, List.length_append]
    omega
  · intro other hlt
    rw [h.record_of_lt hlt]
  · intro other hlt
    exact Nat.le_of_eq (congrArg (·.status.rank) (h.record_of_lt hlt)).symm

lemma Ages.closed {r r' : Registry} (h : Ages r r') {ref : Ref}
    (hlt : ref.number < r.records.length)
    (hs : (r.record ref).status = .closed) : (r'.record ref).status = .closed := by
  have hrank := h.status ref hlt
  rw [hs] at hrank
  cases hs' : (r'.record ref).status with
  | closed => rfl
  | _ =>
    rw [hs'] at hrank
    exact absurd hrank (by decide)

/-! ## Sessions that are being closed -/

/-- Whichever session was ever registered is closed or registered still, unless it is in the hands
of somebody who closes it. -/
def Tracks (r : Registry) (hands : Ref → Prop) : Prop :=
  ∀ ref : Ref, ref.number < r.records.length →
    (r.record ref).status = .closed ∨ ref ∈ r.list ∨ hands ref

namespace Tracks

variable {r r' : Registry} {hands hands' : Ref → Prop}

lemma mono (h : r.Tracks hands) (hh : ∀ ref, hands ref → hands' ref) : r.Tracks hands' :=
  fun ref hlt => (h ref hlt).imp_right fun hr => hr.imp_right (hh ref)

lemma attended (h : r.Tracks hands) (hb : r'.byId = r.byId)
    (hl : r'.records.length = r.records.length) (ha : r.Ages r') : r'.Tracks hands := by
  intro ref hlt
  rw [hl] at hlt
  rcases h ref hlt with hc | hm | hh
  · exact .inl (ha.closed hlt hc)
  · refine .inr (.inl ?_)
    rw [list, hb]
    exact hm
  · exact .inr (.inr hh)

lemma registers (h : r.Tracks hands) {ref : Ref} {s : Record} (hr : Registers r r' ref s) :
    r'.Tracks hands := by
  intro other hlt
  rcases hr.lt_length_iff.mp hlt with heq | hold
  · exact .inr (.inl (hr.mem_list.mpr (.inl heq)))
  · rcases h other hold with hc | hm | hh
    · exact .inl (hr.ages.closed hold hc)
    · exact .inr (.inl (hr.mem_list.mpr (.inr hm)))
    · exact .inr (.inr hh)

/-- Who takes a session out has it in hand. -/
lemma detachRef (h : r.Tracks hands) (hc : r.Coherent) (ref : Ref) :
    (r.detachRef ref).1.Tracks fun other =>
      (r.detachRef ref).2 = true ∧ other = ref ∨ hands other := by
  have hages := (narrows_detachRef r ref).ages
  intro other hlt
  rw [(narrows_detachRef r ref).length] at hlt
  rcases h other hlt with hclosed | hm | hh
  · exact .inl (hages.closed hlt hclosed)
  · by_cases he : other = ref
    · subst he
      refine .inr (.inr (.inl ⟨?_, rfl⟩))
      have hlookup := hc.lookup_iff.mpr (hc.mem_list.mp hm)
      simp [Registry.detachRef, hlookup]
    · exact .inr (.inl ((mem_list_detachRef hc he).mpr hm))
  · exact .inr (.inr (.inr hh))

lemma detachAll (h : r.Tracks hands) :
    r.detachAll.1.Tracks fun other => other ∈ r.list ∨ hands other := by
  intro other hlt
  rcases h other hlt with hclosed | hm | hh
  · exact .inl ((narrows_detachAll r).ages.closed hlt hclosed)
  · exact .inr (.inr (.inl hm))
  · exact .inr (.inr (.inr hh))

lemma markClosed {ref : Ref} (h : r.Tracks fun other => other = ref ∨ hands other) :
    (r.markClosed ref).Tracks hands := by
  intro other hlt
  rw [(narrows_markClosed r ref).length] at hlt
  have hages := (narrows_markClosed r ref).ages
  rcases h other hlt with hclosed | hm | heq | hh
  · exact .inl (hages.closed hlt hclosed)
  · exact .inr (.inl hm)
  · subst heq
    left
    rw [Registry.markClosed, record_update, if_pos ⟨rfl, hlt⟩]
  · exact .inr (.inr hh)

end Tracks

end Session.Registry

end ManagementServer
