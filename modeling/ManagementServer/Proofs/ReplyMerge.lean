import ManagementServer.Proofs.FanOut
import ManagementServer.Proofs.JsonMerge
import Mathlib.Data.List.Induction

/-!
# Merging replies

What many replies come to, grouped in any way (`Grouping`). The first error among them is the
result. Without one, data are merged, and every grouping comes to what merging from left to right
comes to, unless data in the middle interrupt those on both sides (`Harmonious`). The replies to
`get` are grouped by modules: each module's reply is merged with its state first.
-/

namespace ManagementServer

namespace Rpc.Reply

/-! ## Two and three replies -/

lemma ok_merge (r : Reply) : merge .ok r = r := by
  cases r with
  | ok => rfl
  | data value => rfl
  | error e => rfl

lemma merge_ok (r : Reply) : merge r .ok = r := by
  cases r with
  | ok => rfl
  | data value => rfl
  | error e => rfl

/-- The earlier error wins. -/
lemma error?_merge (a b : Reply) : (a.merge b).error? = a.error?.or b.error? := by
  cases a with
  | error e => rfl
  | ok => rw [ok_merge]; rfl
  | data value =>
    cases b with
    | ok => rfl
    | data value' => rfl
    | error e => rfl

lemma eq_error_of_error? {r : Reply} {e : Error} (h : r.error? = some e) : r = .error e := by
  cases r with
  | error e' => exact congrArg _ (Option.some.inj h)
  | ok => cases h
  | data value => cases h

/-- The keys of the data increase. -/
def IsOrdered (r : Reply) : Prop :=
  ∀ value, r = .data value → value.isOrdered = true

lemma isOrdered_data {value : Json} (h : value.isOrdered = true) : (data value).IsOrdered := by
  rintro _ ⟨⟩
  exact h

lemma isOrdered_ok : ok.IsOrdered := by
  rintro _ ⟨⟩

/-- A merge is data if one side is and the other adds nothing, or if both are. -/
lemma merge_eq_data {a b : Reply} {value : Json} (h : a.merge b = .data value) :
    a = .ok ∧ b = .data value ∨ a = .data value ∧ b = .ok ∨
      ∃ x y, a = .data x ∧ b = .data y ∧ value = Json.merge x y := by
  cases a with
  | error e => cases h
  | ok => exact .inl ⟨rfl, (ok_merge b).symm.trans h⟩
  | data x =>
    cases b with
    | error e => cases h
    | ok => exact .inr (.inl ⟨h, rfl⟩)
    | data y =>
      cases h
      exact .inr (.inr ⟨x, y, rfl, rfl, rfl⟩)

lemma IsOrdered.merge {a b : Reply} (ha : a.IsOrdered) (hb : b.IsOrdered) :
    (a.merge b).IsOrdered := by
  intro value h
  rcases merge_eq_data h with ⟨-, hvalue⟩ | ⟨hvalue, -⟩ | ⟨x, y, hx, hy, rfl⟩
  · exact hb value hvalue
  · exact ha value hvalue
  · exact Json.isOrdered_merge (ha x hx) (hb y hy)

lemma merge_assoc {a b c : Reply} (ha : a.IsOrdered) (hb : b.IsOrdered) (hc : c.IsOrdered)
    (h : ∀ x y z, a = .data x → b = .data y → c = .data z → ¬ Json.Interrupted x y z) :
    (a.merge b).merge c = a.merge (b.merge c) := by
  cases a with
  | error e => rfl
  | ok => rw [ok_merge, ok_merge]
  | data x =>
    cases b with
    | error e => rfl
    | ok => rw [merge_ok, ok_merge]
    | data y =>
      cases c with
      | error e => rfl
      | ok => rfl
      | data z =>
        exact congrArg data
          (Json.merge_assoc (ha x rfl) (hb y rfl) (hc z rfl) (h x y z rfl rfl rfl))

/-! ## Many replies -/

lemma mergeAll_concat (replies : List Reply) (r : Reply) :
    mergeAll (replies ++ [r]) = (mergeAll replies).merge r := by
  rw [mergeAll, List.foldl_append]
  rfl

lemma isOrdered_mergeAll {replies : List Reply} (h : ∀ r ∈ replies, r.IsOrdered) :
    (mergeAll replies).IsOrdered := by
  induction replies using List.reverseRecOn with
  | nil => exact isOrdered_ok
  | append_singleton earlier r ih =>
    rw [mergeAll_concat]
    exact (ih fun x hx => h x (List.mem_append_left _ hx)).merge (h r (by simp))

/-- Where the merged data hold a value, the data of one of the replies do, and an object if the
merged data do. -/
lemma exists_of_mergeAll {replies : List Reply} (h : ∀ r ∈ replies, r.IsOrdered) {value x : Json}
    (hvalue : mergeAll replies = .data value) {path : List String}
    (hx : value.at? path = some x) :
    ∃ w, .data w ∈ replies ∧ ∃ y, w.at? path = some y ∧ y.isObject = x.isObject := by
  induction replies using List.reverseRecOn generalizing value x with
  | nil => cases hvalue
  | append_singleton earlier r ih =>
    have hearlier : ∀ r ∈ earlier, r.IsOrdered := fun x hx => h x (List.mem_append_left _ hx)
    rw [mergeAll_concat] at hvalue
    rcases merge_eq_data hvalue with ⟨-, rfl⟩ | ⟨hsum, -⟩ | ⟨sum, last, hsum, rfl, rfl⟩
    · exact ⟨value, by simp, x, hx, rfl⟩
    · obtain ⟨w, hw, hheld⟩ := ih hearlier hsum hx
      exact ⟨w, List.mem_append_left _ hw, hheld⟩
    · rcases Json.at?_of_merge (h _ (by simp) last rfl) hx with ⟨y, hy, hkind⟩ | hheld
      · obtain ⟨w, hw, y', hy', hkind'⟩ := ih hearlier hsum hy
        exact ⟨w, List.mem_append_left _ hw, y', hy', hkind'.trans hkind⟩
      · exact ⟨last, by simp, hheld⟩

/-- No data among the replies interrupt data before and data behind them. -/
def Harmonious (replies : List Reply) : Prop :=
  ∀ a b c, [data a, data b, data c].Sublist replies → ¬ Json.Interrupted a b c

lemma Harmonious.sublist {replies replies' : List Reply} (h : Harmonious replies)
    (hs : replies'.Sublist replies) : Harmonious replies' :=
  fun a b c habc => h a b c (habc.trans hs)

/-- Replies can be cut anywhere, and what both parts come to merged. -/
lemma mergeAll_append {front back : List Reply} (h : ∀ r ∈ front ++ back, r.IsOrdered)
    (hharmonious : Harmonious (front ++ back)) :
    mergeAll (front ++ back) = (mergeAll front).merge (mergeAll back) := by
  induction back using List.reverseRecOn with
  | nil => rw [List.append_nil, mergeAll, mergeAll, List.foldl_nil, merge_ok]
  | append_singleton earlier r ih =>
    have hfront : ∀ r ∈ front, r.IsOrdered := fun x hx => h x (List.mem_append_left _ hx)
    have hearlier : ∀ r ∈ earlier, r.IsOrdered := fun x hx =>
      h x (List.mem_append_right _ (List.mem_append_left _ hx))
    have hsub : (front ++ earlier).Sublist (front ++ (earlier ++ [r])) :=
      (List.sublist_append_left earlier [r]).append_left front
    rw [← List.append_assoc, mergeAll_concat, mergeAll_concat,
      ih (fun x hx => h x (hsub.subset hx)) (hharmonious.sublist hsub)]
    refine merge_assoc (isOrdered_mergeAll hfront) (isOrdered_mergeAll hearlier) (h r (by simp)) ?_
    -- Where merged data hold an object, or something else, data of one of the replies do.
    rintro x y z hx hy rfl ⟨path, u, v, w, hu, hv, hw, hu', hv', hw'⟩
    obtain ⟨a, ha, u', hau, hkind⟩ := exists_of_mergeAll hfront hx hu
    obtain ⟨b, hb, v', hbv, hkind'⟩ := exists_of_mergeAll hearlier hy hv
    refine hharmonious a b z ?_
      ⟨path, u', v', w, hau, hbv, hw, hkind.trans hu', hkind'.trans hv', hw'⟩
    exact (List.singleton_sublist.mpr ha).append
      ((List.singleton_sublist.mpr hb).append (List.Sublist.refl [data z]))

/-! ## Replies in groups -/

/-- Replies in groups of groups. -/
inductive Grouping where
  | empty
  | one (reply : Reply)
  | pair (first second : Grouping)

namespace Grouping

/-- The replies in their order. -/
def replies : Grouping → List Reply
  | empty => []
  | one reply => [reply]
  | pair first second => first.replies ++ second.replies

/-- What the replies come to, one group after the other. -/
def merged : Grouping → Reply
  | empty => .ok
  | one reply => reply
  | pair first second => first.merged.merge second.merged

lemma error?_merged (g : Grouping) : g.merged.error? = g.replies.findSome? error? := by
  induction g with
  | empty => rfl
  | one reply => simp [merged, replies]
  | pair first second ih ih' =>
    rw [merged, replies, error?_merge, List.findSome?_append, ih, ih']

lemma merged_of_error {g : Grouping} {before behind : List Reply} {e : Error}
    (hbefore : ∀ r ∈ before, r.isError = false) (h : g.replies = before ++ .error e :: behind) :
    g.merged = .error e := by
  refine eq_error_of_error? ?_
  have hnone : before.findSome? error? = none :=
    List.findSome?_eq_none_iff.mpr fun r hr => Option.isSome_eq_false_iff.mp (hbefore r hr) |>
      Option.isNone_iff_eq_none.mp
  rw [error?_merged, h, List.findSome?_append, hnone]
  rfl

lemma merged_eq_mergeAll {g : Grouping} (h : ∀ r ∈ g.replies, r.IsOrdered)
    (hharmonious : Harmonious g.replies) : g.merged = mergeAll g.replies := by
  induction g with
  | empty => rfl
  | one reply => exact (ok_merge reply).symm
  | pair first second ih ih' =>
    rw [replies, mergeAll_append h hharmonious, merged,
      ih (fun r hr => h r (List.mem_append_left _ hr))
        (hharmonious.sublist (List.sublist_append_left _ _)),
      ih' (fun r hr => h r (List.mem_append_right _ hr))
        (hharmonious.sublist (List.sublist_append_right _ _))]

end Grouping

/-- Replies that are merged group by group, and the groups after that. -/
lemma mergeAll_flatten {groups : List (List Reply)} (h : ∀ r ∈ groups.flatten, r.IsOrdered)
    (hharmonious : Harmonious groups.flatten) :
    mergeAll (groups.map mergeAll) = mergeAll groups.flatten := by
  induction groups using List.reverseRecOn with
  | nil => rfl
  | append_singleton earlier group ih =>
    rw [List.flatten_append, List.flatten_singleton] at h hharmonious ⊢
    rw [List.map_append, List.map_singleton, mergeAll_concat, mergeAll_append h hharmonious,
      ih (fun r hr => h r (List.mem_append_left _ hr))
        (hharmonious.sublist (List.sublist_append_left _ _))]

end Rpc.Reply

namespace Server

open Rpc (Reply)

/-- What one module contributes to the answer to `get`: its reply, and its state if it has one. -/
def Dispatch.contributions : Reply × Json → List Reply
  | (reply, .null) => [reply]
  | (reply, state) => [reply, .data state]

lemma Dispatch.mergeAll_contributions (reply : Reply) (state : Json) :
    Reply.mergeAll (contributions (reply, state)) = withState reply (.ok state) := by
  cases state with
  | null => exact Reply.ok_merge reply
  | bool value => exact congrArg (Reply.merge · _) (Reply.ok_merge reply)
  | number value => exact congrArg (Reply.merge · _) (Reply.ok_merge reply)
  | string value => exact congrArg (Reply.merge · _) (Reply.ok_merge reply)
  | array items => exact congrArg (Reply.merge · _) (Reply.ok_merge reply)
  | object members => exact congrArg (Reply.merge · _) (Reply.ok_merge reply)

/-- What replies come to does not depend on their grouping. An answer without data adds nothing, and
the first error is the result. All other groupings come to the same, also the one that merges each
module's reply with its state first, unless data in the middle hold something else where data on
both sides hold objects. Merging the same data twice changes nothing more; and where both sides hold
objects, the merge holds the keys of both, the later value where they are in conflict. -/
theorem merged_by_any_grouping :
    (∀ r : Reply, Reply.merge .ok r = r ∧ r.merge .ok = r) ∧
      (∀ (g : Reply.Grouping) (before behind : List Reply) (e : Rpc.Error),
        (∀ r ∈ before, r.isError = false) → g.replies = before ++ .error e :: behind →
          g.merged = .error e) ∧
      (∀ g : Reply.Grouping, (∀ r ∈ g.replies, r.IsOrdered) → Reply.Harmonious g.replies →
        g.merged = Reply.mergeAll g.replies) ∧
      (∀ answers : List (Reply × Json),
        (∀ r ∈ answers.flatMap Dispatch.contributions, r.IsOrdered) →
          Reply.Harmonious (answers.flatMap Dispatch.contributions) →
            Reply.mergeAll (answers.map fun a => Dispatch.withState a.1 (.ok a.2)) =
              Reply.mergeAll (answers.flatMap Dispatch.contributions)) ∧
      (∀ a b c : Json, a.isOrdered = true → b.isOrdered = true → c.isOrdered = true →
        ¬ Json.Interrupted a b c →
          Json.merge (Json.merge a b) c = Json.merge a (Json.merge b c)) ∧
      (∀ base overlay : Json, base.isOrdered = true → overlay.isOrdered = true →
        Json.merge (Json.merge base overlay) overlay = Json.merge base overlay) ∧
      ∀ (base overlay : Json) (path : List String) (target source : List (String × Json)),
        base.isOrdered = true → overlay.isOrdered = true →
          base.at? path = some (.object target) → overlay.at? path = some (.object source) →
            ∃ members, (Json.merge base overlay).at? path = some (.object members) ∧
              (∀ key, key ∈ members.map (·.1) ↔
                key ∈ target.map (·.1) ∨ key ∈ source.map (·.1)) ∧
              (∀ key v, (key, v) ∈ source →
                (∀ u, (key, u) ∈ target → u.isObject = true → v.isObject = false) →
                  (key, v) ∈ members) ∧
              ∀ key u, (key, u) ∈ target → key ∉ source.map (·.1) → (key, u) ∈ members := by
  refine ⟨fun r => ⟨r.ok_merge, r.merge_ok⟩,
    fun g before behind e => Reply.Grouping.merged_of_error,
    fun g => Reply.Grouping.merged_eq_mergeAll, ?_, fun a b c => Json.merge_assoc,
    fun base overlay => Json.merge_merge_self, ?_⟩
  · intro answers hordered hharmonious
    have houtcomes : (answers.map fun a => Dispatch.withState a.1 (.ok a.2)) =
        (answers.map Dispatch.contributions).map Reply.mergeAll := by
      rw [List.map_map]
      exact List.map_congr_left fun a _ => (Dispatch.mergeAll_contributions a.1 a.2).symm
    rw [houtcomes]
    exact Reply.mergeAll_flatten hordered hharmonious
  · intro base overlay path target source hbase hoverlay htarget hsource
    refine ⟨Json.mergeMembers target source, Json.at?_merge hoverlay htarget hsource, ?_⟩
    have hkeys := (Json.isOrdered_object_iff.mp (Json.isOrdered_of_at? hbase htarget)).1
    have hkeys' := (Json.isOrdered_object_iff.mp (Json.isOrdered_of_at? hoverlay hsource)).1
    exact ⟨fun key => Json.mem_keys_mergeMembers hkeys',
      fun key v => Json.mem_mergeMembers_of_source hkeys',
      fun key u => Json.mem_mergeMembers_of_target hkeys hkeys'⟩

/-- The middle value holds an object wherever the two others do, so three answers come to the same
in pairs as one by one; with an error behind them they come to that error. -/
theorem merged_by_any_grouping_pairs :
    let first : Json :=
      .single "system" (.object [("contact", .string "ops"), ("hostname", .string "a")])
    let middle : Json := .single "system" (.single "hostname" (.string "b"))
    let last : Json :=
      .object [("interfaces", .array []), ("system", .single "hostname" (.string "c"))]
    let g : Reply.Grouping :=
      .pair (.pair (.one (.data first)) (.one .ok))
        (.pair (.one (.data middle)) (.one (.data last)))
    let e : Rpc.Error := .failed "off"
    (∀ r ∈ g.replies, r.IsOrdered) ∧ Reply.Harmonious g.replies ∧
      g.merged = Reply.mergeAll g.replies ∧
      g.merged = .data (.object [("interfaces", .array []),
        ("system", .object [("contact", .string "ops"), ("hostname", .string "c")])]) ∧
      (Reply.Grouping.pair g (.one (.error e))).merged = .error e ∧
      Json.merge (Json.merge first last) last = Json.merge first last := by
  intro first middle last g e
  obtain ⟨-, herror, hgrouping, -, -, htwice, -⟩ := merged_by_any_grouping
  have hcases (r : Reply) (hr : r ∈ g.replies) :
      r = .data first ∨ r = .ok ∨ r = .data middle ∨ r = .data last := by
    simpa [g, Reply.Grouping.replies] using hr
  have hordered : ∀ r ∈ g.replies, r.IsOrdered := by
    intro r hr
    rcases hcases r hr with rfl | rfl | rfl | rfl
    · exact Reply.isOrdered_data rfl
    · exact Reply.isOrdered_ok
    · exact Reply.isOrdered_data rfl
    · exact Reply.isOrdered_data rfl
  have hharmonious : Reply.Harmonious g.replies := by
    intro a b c habc hinterrupted
    obtain ⟨rfl, rfl, rfl⟩ : a = first ∧ b = middle ∧ c = last := by
      simpa [g, Reply.Grouping.replies, List.cons_sublist_cons'] using habc
    rcases hinterrupted.cases with htop | ⟨key, a', b', c', ha, hb, -, hinner⟩
    · cases htop
    · obtain ⟨rfl, rfl⟩ : "system" = key ∧ .single "hostname" (.string "b") = b' := by
        simpa [middle, Json.single, Json.get?, Json.member?] using hb
      obtain rfl : a' = .object [("contact", .string "ops"), ("hostname", .string "a")] :=
        (Option.some.inj ha).symm
      rcases hinner.cases with htop | ⟨key, a'', b'', c'', ha, hb, -, hinner⟩
      · cases htop
      · obtain ⟨rfl, -⟩ : "hostname" = key ∧ .string "b" = b'' := by
          simpa [Json.single, Json.get?, Json.member?] using hb
        obtain rfl : a'' = .string "a" := (Option.some.inj ha).symm
        cases hinner.isObject.1
  have hanswered : ∀ r ∈ g.replies, r.isError = false := by
    intro r hr
    rcases hcases r hr with rfl | rfl | rfl | rfl <;> rfl
  exact ⟨hordered, hharmonious, hgrouping g hordered hharmonious, rfl,
    herror (.pair g (.one (.error e))) g.replies [] e hanswered rfl, htwice first last rfl rfl⟩

/-- A value in the middle that is no object makes the grouping matter. -/
example :
    let name : Json := .single "hostname" (.string "a")
    let contact : Json := .single "contact" (.string "ops")
    Json.Interrupted name .null contact ∧ Json.merge (Json.merge name .null) contact = contact ∧
      Json.merge name (Json.merge .null contact) =
        .object [("contact", .string "ops"), ("hostname", .string "a")] :=
  ⟨⟨[], _, _, _, rfl, rfl, rfl, rfl, rfl, rfl⟩, rfl, rfl⟩

end Server

end ManagementServer
