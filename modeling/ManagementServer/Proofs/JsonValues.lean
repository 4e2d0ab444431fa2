import ManagementServer.Json.Decode
import Mathlib.Tactic.Common

/-!
# JSON values

Members of objects, and what a value has to be like to come back when its text is read: its numbers
are integers, its objects have increasing keys, and its containers are not nested too deeply. The
draft of a value with increasing keys stands for that value (`Json.toJson?_ofJson`).
-/

namespace ManagementServer

/-- What goes in one after the other, each behind all that is there, comes to stand as it was. -/
lemma foldl_of_pairwise {α β : Type} {R : α → α → Prop} {add : β → α → β} (hold : List α → β)
    {l : List α} (hl : l.Pairwise R)
    (hadd : ∀ done, ∀ a ∈ l, (∀ b ∈ done, R b a) → add (hold done) a = hold (done ++ [a])) :
    l.foldl add (hold []) = hold l := by
  have hfold : ∀ done todo : List α, done ++ todo = l →
      todo.foldl add (hold done) = hold (done ++ todo) := by
    intro done todo hall
    induction todo generalizing done with
    | nil => rw [List.foldl_nil, List.append_nil]
    | cons a rest ih =>
      have ha : a ∈ l := hall ▸ List.mem_append_right _ List.mem_cons_self
      have hbefore : ∀ b ∈ done, R b a := fun b hb =>
        (List.pairwise_append.mp (hall ▸ hl)).2.2 b hb a List.mem_cons_self
      rw [List.foldl_cons, hadd done a ha hbefore, ih _ (by simpa using hall), List.append_assoc,
        List.singleton_append]
  exact hfold [] l rfl

namespace Json

/-! ## Members of objects -/

variable {key k : String} (value v : Json) (rest : List (String × Json))

lemma insertMember_nil (key : String) : insertMember key value [] = [(key, value)] := rfl

lemma insertMember_of_lt (h : key < k) :
    insertMember key value ((k, v) :: rest) = (key, value) :: (k, v) :: rest :=
  if_pos h

lemma insertMember_self : insertMember key value ((key, v) :: rest) = (key, value) :: rest := by
  rw [insertMember, if_neg (String.lt_irrefl key), if_pos (beq_self_eq_true key)]

lemma insertMember_of_gt (h : k < key) :
    insertMember key value ((k, v) :: rest) = (k, v) :: insertMember key value rest := by
  have hne : key ≠ k := by
    rintro rfl
    exact String.lt_irrefl key h
  rw [insertMember, if_neg fun hc => String.lt_irrefl k (String.lt_trans h hc),
    if_neg (by simpa using hne)]

lemma member?_insertMember (key' : String) (l : List (String × Json)) :
    member? key' (insertMember key value l) =
      if key = key' then some value else member? key' l := by
  induction l with
  | nil => simp [insertMember, member?]
  | cons x rest ih =>
    obtain ⟨k, v⟩ := x
    rw [insertMember]
    split
    · simp [member?]
    · split
      · rename_i he
        obtain rfl : key = k := by simpa using he
        by_cases hk : key = key' <;> simp [member?, hk]
      · rename_i hne
        rw [member?, ih, member?]
        by_cases hk : key = key'
        · subst hk
          have hk' : ¬ k = key := fun he => hne (by simp [he])
          simp [hk']
        · simp [hk]

lemma insertMember_of_forall_lt (l : List (String × Json)) (h : ∀ m ∈ l, m.1 < key) :
    insertMember key value l = l ++ [(key, value)] := by
  induction l with
  | nil => rfl
  | cons m rest ih =>
    rw [insertMember_of_gt value m.2 rest (h m List.mem_cons_self),
      ih fun x hx => h x (List.mem_cons_of_mem _ hx), List.cons_append]

lemma ofMembers_of_pairwise {members : List (String × Json)}
    (h : members.Pairwise fun a b => a.1 < b.1) : ofMembers members = .object members := by
  have hfold : members.foldl (fun acc m => insertMember m.1 m.2 acc) [] = members :=
    foldl_of_pairwise id h fun done m _ => insertMember_of_forall_lt m.2 done
  rw [ofMembers, hfold]

/-! ## Values as a whole -/

mutual

/-- How deeply containers are nested in a value. -/
def depth : Json → Nat
  | .array items => itemsDepth items + 1
  | .object members => membersDepth members + 1
  | _ => 0

def itemsDepth : List Json → Nat
  | [] => 0
  | item :: rest => max (depth item) (itemsDepth rest)

def membersDepth : List (String × Json) → Nat
  | [] => 0
  | (_, item) :: rest => max (depth item) (membersDepth rest)

end

mutual

/-- Whether every number in a value is an integer of 64 bits. -/
def isIntegral : Json → Bool
  | .number (.integer n) => Number.isExact n
  | .number (.double _) => false
  | .array items => itemsAreIntegral items
  | .object members => membersAreIntegral members
  | _ => true

def itemsAreIntegral : List Json → Bool
  | [] => true
  | item :: rest => isIntegral item && itemsAreIntegral rest

def membersAreIntegral : List (String × Json) → Bool
  | [] => true
  | (_, item) :: rest => isIntegral item && membersAreIntegral rest

end

mutual

/-- Whether the keys of every object in a value increase. -/
def isOrdered : Json → Bool
  | .array items => itemsAreOrdered items
  | .object members =>
    decide (members.Pairwise fun a b => a.1 < b.1) && membersAreOrdered members
  | _ => true

def itemsAreOrdered : List Json → Bool
  | [] => true
  | item :: rest => isOrdered item && itemsAreOrdered rest

def membersAreOrdered : List (String × Json) → Bool
  | [] => true
  | (_, item) :: rest => isOrdered item && membersAreOrdered rest

end

mutual

/-- The draft of a value stands for that value. -/
theorem toJson?_ofJson : (v : Json) → v.isOrdered = true → (Draft.ofJson v).toJson? = some v
  | .null, _ => rfl
  | .bool _, _ => rfl
  | .number _, _ => rfl
  | .string _, _ => rfl
  | .array items, h => by
    rw [Draft.ofJson, Draft.toJson?, itemsToJson?_ofItems items (by simpa [isOrdered] using h)]
    rfl
  | .object members, h => by
    rw [isOrdered, Bool.and_eq_true, decide_eq_true_eq] at h
    rw [Draft.ofJson, Draft.toJson?, membersToJson?_ofMembers members h.2, Option.map_some,
      ofMembers_of_pairwise h.1]

theorem itemsToJson?_ofItems : (items : List Json) → itemsAreOrdered items = true →
    Draft.itemsToJson? (Draft.ofItems items) = some items
  | [], _ => rfl
  | item :: rest, h => by
    rw [itemsAreOrdered, Bool.and_eq_true] at h
    rw [Draft.ofItems, Draft.itemsToJson?, toJson?_ofJson item h.1, itemsToJson?_ofItems rest h.2]
    rfl

theorem membersToJson?_ofMembers : (members : List (String × Json)) →
    membersAreOrdered members = true →
    Draft.membersToJson? (Draft.ofMembers members) = some members
  | [], _ => rfl
  | (key, item) :: rest, h => by
    rw [membersAreOrdered, Bool.and_eq_true] at h
    rw [Draft.ofMembers, Draft.membersToJson?, toJson?_ofJson item h.1,
      membersToJson?_ofMembers rest h.2]
    rfl

end

mutual

/-- The draft of a value stands for some value, whatever the order of its keys. -/
theorem toJson?_ofJson_isSome : (v : Json) → (Draft.ofJson v).toJson?.isSome = true
  | .null => rfl
  | .bool _ => rfl
  | .number _ => rfl
  | .string _ => rfl
  | .array items => by
    obtain ⟨values, hvalues⟩ := Option.isSome_iff_exists.mp (itemsToJson?_isSome items)
    rw [Draft.ofJson, Draft.toJson?, hvalues]
    rfl
  | .object members => by
    obtain ⟨values, hvalues⟩ := Option.isSome_iff_exists.mp (membersToJson?_isSome members)
    rw [Draft.ofJson, Draft.toJson?, hvalues]
    rfl

theorem itemsToJson?_isSome : (items : List Json) →
    (Draft.itemsToJson? (Draft.ofItems items)).isSome = true
  | [] => rfl
  | item :: rest => by
    obtain ⟨value, hvalue⟩ := Option.isSome_iff_exists.mp (toJson?_ofJson_isSome item)
    obtain ⟨values, hvalues⟩ := Option.isSome_iff_exists.mp (itemsToJson?_isSome rest)
    rw [Draft.ofItems, Draft.itemsToJson?, hvalue, hvalues]
    rfl

theorem membersToJson?_isSome : (members : List (String × Json)) →
    (Draft.membersToJson? (Draft.ofMembers members)).isSome = true
  | [] => rfl
  | (key, item) :: rest => by
    obtain ⟨value, hvalue⟩ := Option.isSome_iff_exists.mp (toJson?_ofJson_isSome item)
    obtain ⟨values, hvalues⟩ := Option.isSome_iff_exists.mp (membersToJson?_isSome rest)
    rw [Draft.ofMembers, Draft.membersToJson?, hvalue, hvalues]
    rfl

end

end Json

end ManagementServer
