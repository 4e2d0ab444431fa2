import ManagementServer.Event.Window
import ManagementServer.Proofs.TimestampText

/-!
# Which subscriptions can be asked for

The parameters of a subscription have seven rules, in the order in which they are checked
(`Window.Rule`). A payload that keeps them all gives the window that it spells, and any other is
answered with the error of the first rule that it breaks (`Window.ofPayload_judged`).
-/

namespace ManagementServer.Event.Window

open Time (Instant Timestamp)

/-! ## What a payload gives -/

section Gives

variable {payload : Json} {key : String}

/-- What a payload gives under a key: nothing, or a text without blanks around it. -/
inductive Gives (payload : Json) (key : String) : Option String → Prop
  | absent (h : payload.get? key = none) : Gives payload key none
  | null (h : payload.get? key = some .null) : Gives payload key none
  | text {raw : String} (h : payload.get? key = some (.string raw)) :
    Gives payload key (some (Text.trim raw))

/-- The time that a payload gives under a key: none, or one in the form of RFC 3339. -/
inductive GivesTime (payload : Json) (key : String) : Option Timestamp → Prop
  | none (h : Gives payload key none) : GivesTime payload key none
  | time {text : String} {t : Timestamp} (h : Gives payload key (some text))
    (ht : Timestamp.Rfc3339 text.toList t) : GivesTime payload key (some t)

lemma textField_eq_ok {value : Option String} :
    textField payload key = .ok value ↔ Gives payload key value := by
  refine ⟨fun h => ?_, fun h => ?_⟩
  · unfold textField at h
    split at h
    · cases h
      exact .absent ‹_›
    · cases h
      exact .null ‹_›
    · cases h
      exact .text ‹_›
    · cases h
  · cases h with
    | absent h | null h | text h =>
      rw [textField, h]

lemma textField_eq_error {fault : Fault} (h : textField payload key = .error fault) :
    fault = .notAString key ∧ (∀ raw, payload.get? key ≠ some (.string raw)) ∧
      ∀ value, ¬ Gives payload key value := by
  have hnone (value : Option String) : ¬ Gives payload key value := fun hgives => by
    rw [textField_eq_ok.mpr hgives] at h
    cases h
  refine ⟨?_, fun raw hraw => hnone _ (.text hraw), hnone⟩
  unfold textField at h
  split at h
  · cases h
  · cases h
  · cases h
  · cases h
    rfl

lemma Gives.unique {value value' : Option String} (h : Gives payload key value)
    (h' : Gives payload key value') : value = value' :=
  Except.ok.inj ((textField_eq_ok.mpr h).symm.trans (textField_eq_ok.mpr h'))

lemma timeField_of_text {text : String} (h : Gives payload key (some text)) :
    timeField payload key = match Timestamp.parse? text.toList with
      | some t => .ok (some t)
      | none => .error (.notATimestamp key) := by
  rw [timeField, textField_eq_ok.mpr h]
  dsimp only [bind, Except.bind]
  cases Timestamp.parse? text.toList with
  | none => rfl
  | some t => rfl

lemma timeField_eq_ok {value : Option Timestamp} :
    timeField payload key = .ok value ↔ GivesTime payload key value := by
  constructor
  · intro h
    cases htext : textField payload key with
    | error fault =>
      rw [timeField, htext] at h
      cases h
    | ok given =>
      have hgives := textField_eq_ok.mp htext
      cases given with
      | none =>
        rw [timeField, htext] at h
        cases h
        exact .none hgives
      | some text =>
        rw [timeField_of_text hgives] at h
        cases ht : Timestamp.parse? text.toList with
        | none =>
          rw [ht] at h
          cases h
        | some t =>
          rw [ht] at h
          cases h
          exact .time hgives (Timestamp.parse?_eq_some.mp ht)
  · intro h
    cases h with
    | none hgives =>
      rw [timeField, textField_eq_ok.mpr hgives]
      rfl
    | time hgives ht => rw [timeField_of_text hgives, Timestamp.parse?_eq_some.mpr ht]

lemma GivesTime.unique {value value' : Option Timestamp} (h : GivesTime payload key value)
    (h' : GivesTime payload key value') : value = value' :=
  Except.ok.inj ((timeField_eq_ok.mpr h).symm.trans (timeField_eq_ok.mpr h'))

/-- How it is said that no time can be read under a key. -/
def timeMessage (payload : Json) (key : String) : String :=
  match payload.get? key with
  | some (.string _) => s!"{key} is not an RFC 3339 timestamp: <detail>"
  | _ => s!"{key} must be a string"

lemma timeField_eq_error {fault : Fault} (h : timeField payload key = .error fault) :
    fault.toError = .invalidValue key (timeMessage payload key) ∧
      ∀ value, ¬ GivesTime payload key value := by
  refine ⟨?_, fun value hgives => ?_⟩
  · cases htext : textField payload key with
    | error fault' =>
      obtain ⟨rfl, hraw, -⟩ := textField_eq_error htext
      rw [timeField, htext] at h
      cases h
      unfold timeMessage
      split
      · exact absurd ‹_› (hraw _)
      · rfl
    | ok given =>
      have hgives := textField_eq_ok.mp htext
      cases hgives with
      | absent | null =>
        rw [timeField, htext] at h
        cases h
      | text hraw =>
        rw [timeField_of_text (.text hraw)] at h
        split at h
        · cases h
        · cases h
          rw [timeMessage, hraw]
          rfl
  · rw [timeField_eq_ok.mpr hgives] at h
    cases h

end Gives

/-! ## The rules -/

/-- The rules for the parameters of a subscription, in the order in which they are checked. -/
inductive Rule where
  | shape
  | stream
  | startText
  | stopText
  | stopWithStart
  | startNotInFuture
  | startNotBehindStop
  deriving DecidableEq

namespace Rule

/-- All rules, in order. -/
def all : List Rule :=
  [.shape, .stream, .startText, .stopText, .stopWithStart, .startNotInFuture, .startNotBehindStop]

/-- Whether a payload keeps a rule. -/
def Holds (payload : Json) (now : Instant) : Rule → Prop
  | .shape => payload = .null ∨ ∃ members, payload = .object members
  | .stream => Gives payload "stream" none ∨ Gives payload "stream" (some "NETCONF")
  | .startText => ∃ start, GivesTime payload "startTime" start
  | .stopText => ∃ stop, GivesTime payload "stopTime" stop
  | .stopWithStart => ∀ stop, GivesTime payload "stopTime" (some stop) →
    ∃ start, GivesTime payload "startTime" (some start)
  | .startNotInFuture => ∀ start, GivesTime payload "startTime" (some start) → start.instant ≤ now
  | .startNotBehindStop => ∀ start stop, GivesTime payload "startTime" (some start) →
    GivesTime payload "stopTime" (some stop) → start.instant ≤ stop.instant

/-- The element that is to blame if a rule is broken. -/
def element : Rule → String
  | .shape => "create-subscription"
  | .stream => "stream"
  | .startText | .startNotInFuture => "startTime"
  | .stopText | .stopWithStart | .startNotBehindStop => "stopTime"

/-- How it is said that a rule is broken. -/
def message (payload : Json) : Rule → String
  | .shape => "subscription parameters must be an object"
  | .stream =>
    match payload.get? "stream" with
    | some (.string raw) => s!"unknown event stream '{Text.trim raw}'"
    | _ => "stream must be a string"
  | .startText => timeMessage payload "startTime"
  | .stopText => timeMessage payload "stopTime"
  | .stopWithStart => "stopTime requires startTime"
  | .startNotInFuture => "startTime lies in the future"
  | .startNotBehindStop => "stopTime precedes startTime"

/-- The error for a payload that breaks a rule. -/
def error (payload : Json) (rule : Rule) : Rpc.Error :=
  .invalidValue rule.element (rule.message payload)

/-- A payload breaks a rule, but none of those that are checked before. -/
structure IsFirstBroken (payload : Json) (now : Instant) (rule : Rule) : Prop where
  earlier : ∀ other ∈ all.takeWhile (· ≠ rule), other.Holds payload now
  broken : ¬ rule.Holds payload now

lemma IsFirstBroken.unique {payload : Json} {now : Instant} {rule rule' : Rule}
    (h : rule.IsFirstBroken payload now) (h' : rule'.IsFirstBroken payload now) : rule = rule' := by
  have hordered : ∀ rule rule' : Rule, rule = rule' ∨ rule ∈ all.takeWhile (· ≠ rule') ∨
      rule' ∈ all.takeWhile (· ≠ rule) := by
    intro rule rule'
    cases rule <;> cases rule' <;> decide
  rcases hordered rule rule' with heq | hbefore | hbehind
  · exact heq
  · exact absurd (h'.earlier rule hbefore) h.broken
  · exact absurd (h.earlier rule' hbehind) h'.broken

end Rule

/-! ## What a payload is answered with -/

/-- A payload that keeps all the rules gives the window that it spells; any other is answered with
the error of the first rule that it breaks. -/
inductive Judged (payload : Json) (now : Instant) : Except Fault Window → Prop
  | accepted {start stop : Option Timestamp} (hholds : ∀ rule : Rule, rule.Holds payload now)
    (hstart : GivesTime payload "startTime" start) (hstop : GivesTime payload "stopTime" stop) :
    Judged payload now (.ok ⟨"NETCONF", start, stop⟩)
  | refused (rule : Rule) {fault : Fault} (hfirst : rule.IsFirstBroken payload now)
    (herror : fault.toError = rule.error payload) : Judged payload now (.error fault)

section Judging

variable {payload : Json} {now : Instant}

lemma holds_shape_iff : Rule.shape.Holds payload now ↔ isParameters payload = true := by
  cases payload <;> simp [Rule.Holds, isParameters]

lemma holds_stream_of_gives {given : Option String} (h : Gives payload "stream" given) :
    Rule.stream.Holds payload now ↔ given.getD defaultStream = defaultStream := by
  constructor
  · rintro (hnone | hsome)
    · rw [h.unique hnone]
      rfl
    · rw [h.unique hsome]
      rfl
  · intro hknown
    cases given with
    | none => exact .inl h
    | some stream =>
      obtain rfl : stream = "NETCONF" := hknown
      exact .inr h

lemma checkSpan_judged {start stop : Option Timestamp} (hshape : Rule.shape.Holds payload now)
    (hstream : Rule.stream.Holds payload now) (hstart : GivesTime payload "startTime" start)
    (hstop : GivesTime payload "stopTime" stop) :
    Judged payload now ((checkSpan now start stop).map fun _ => ⟨"NETCONF", start, stop⟩) := by
  have hstartText : Rule.startText.Holds payload now := ⟨start, hstart⟩
  have hstopText : Rule.stopText.Holds payload now := ⟨stop, hstop⟩
  cases start with
  | none =>
    have hnone (t : Timestamp) (ht : GivesTime payload "startTime" (some t)) : False :=
      nomatch hstart.unique ht
    cases stop with
    | none =>
      refine .accepted (fun rule => ?_) hstart hstop
      cases rule with
      | shape => exact hshape
      | stream => exact hstream
      | startText => exact hstartText
      | stopText => exact hstopText
      | stopWithStart => exact fun stop hsome => nomatch hstop.unique hsome
      | startNotInFuture => exact fun t ht => (hnone t ht).elim
      | startNotBehindStop => exact fun t _ ht => (hnone t ht).elim
    | some stop =>
      refine .refused .stopWithStart ⟨?_, fun hwith => ?_⟩ rfl
      · simp [Rule.all, hshape, hstream, hstartText, hstopText]
      · obtain ⟨t, ht⟩ := hwith stop hstop
        exact hnone t ht
  | some start =>
    have hwith : Rule.stopWithStart.Holds payload now := fun _ _ => ⟨start, hstart⟩
    have hof {t : Timestamp} (ht : GivesTime payload "startTime" (some t)) : t = start :=
      Option.some.inj (ht.unique hstart)
    rw [checkSpan]
    by_cases hfuture : now < start.instant
    · rw [if_pos hfuture]
      refine .refused .startNotInFuture ⟨?_, fun hpast => ?_⟩ rfl
      · simp [Rule.all, hshape, hstream, hstartText, hstopText, hwith]
      · exact Int.not_lt.mpr (hpast start hstart) hfuture
    · have hpast : Rule.startNotInFuture.Holds payload now :=
        fun t ht => hof ht ▸ Int.not_lt.mp hfuture
      rw [if_neg hfuture]
      by_cases hbehind : stop.any fun last => last.instant < start.instant
      · rw [if_pos hbehind]
        refine .refused .startNotBehindStop ⟨?_, fun hordered => ?_⟩ rfl
        · simp [Rule.all, hshape, hstream, hstartText, hstopText, hwith, hpast]
        · cases stop with
          | none => cases hbehind
          | some last =>
            exact Int.not_lt.mpr (hordered start last hstart hstop) (of_decide_eq_true hbehind)
      · rw [if_neg hbehind]
        refine .accepted (fun rule => ?_) hstart hstop
        cases rule with
        | shape => exact hshape
        | stream => exact hstream
        | startText => exact hstartText
        | stopText => exact hstopText
        | stopWithStart => exact hwith
        | startNotInFuture => exact hpast
        | startNotBehindStop =>
          intro t last ht hlast
          rw [hof ht]
          rw [hstop.unique hlast] at hbehind
          simpa using hbehind

lemma ofPayload_of_parameters (h : isParameters payload = true) :
    ofPayload payload now = (textField payload "stream").bind fun given =>
      if given.getD defaultStream = defaultStream then
        (timeField payload "startTime").bind fun start =>
        (timeField payload "stopTime").bind fun stop =>
        (checkSpan now start stop).map fun _ => ⟨"NETCONF", start, stop⟩
      else .error (.unknownStream (given.getD defaultStream)) := by
  have hgo : ¬ (!true) = true := by decide
  unfold ofPayload
  rw [h, if_neg hgo]
  cases textField payload "stream" with
  | error fault => rfl
  | ok given =>
    dsimp only [bind, Except.bind]
    by_cases hknown : given.getD defaultStream = defaultStream
    · rw [if_pos hknown, if_neg (by simpa using hknown), hknown]
      cases timeField payload "startTime" with
      | error fault => rfl
      | ok start =>
        cases timeField payload "stopTime" with
        | error fault => rfl
        | ok stop => cases checkSpan now start stop <;> rfl
    · rw [if_neg hknown, if_pos (by simpa using hknown)]
      rfl

lemma ofPayload_judged (payload : Json) (now : Instant) :
    Judged payload now (ofPayload payload now) := by
  by_cases hshape : Rule.shape.Holds payload now
  · rw [ofPayload_of_parameters (holds_shape_iff.mp hshape)]
    cases hgiven : textField payload "stream" with
    | error fault =>
      obtain ⟨rfl, hraw, hno⟩ := textField_eq_error hgiven
      refine .refused .stream ⟨?_, ?_⟩ ?_
      · simp [Rule.all, hshape]
      · exact fun h => h.elim (hno _) (hno _)
      · rw [Rule.error, Rule.message]
        split
        · exact absurd ‹_› (hraw _)
        · rfl
    | ok given =>
      have hgives := textField_eq_ok.mp hgiven
      dsimp only [Except.bind]
      by_cases hknown : given.getD defaultStream = defaultStream
      · have hstream : Rule.stream.Holds payload now := (holds_stream_of_gives hgives).mpr hknown
        rw [if_pos hknown]
        cases hstart : timeField payload "startTime" with
        | error fault =>
          obtain ⟨herror, hno⟩ := timeField_eq_error hstart
          refine .refused .startText ⟨?_, ?_⟩ herror
          · simp [Rule.all, hshape, hstream]
          · exact fun ⟨start, h⟩ => hno start h
        | ok start =>
          have hstarts := timeField_eq_ok.mp hstart
          have hstartText : Rule.startText.Holds payload now := ⟨start, hstarts⟩
          cases hstop : timeField payload "stopTime" with
          | error fault =>
            obtain ⟨herror, hno⟩ := timeField_eq_error hstop
            refine .refused .stopText ⟨?_, ?_⟩ herror
            · simp [Rule.all, hshape, hstream, hstartText]
            · exact fun ⟨stop, h⟩ => hno stop h
          | ok stop => exact checkSpan_judged hshape hstream hstarts (timeField_eq_ok.mp hstop)
      · rw [if_neg hknown]
        refine .refused .stream ⟨?_, (holds_stream_of_gives hgives).not.mpr hknown⟩ ?_
        · simp [Rule.all, hshape]
        · cases hgives with
          | absent | null => exact absurd rfl hknown
          | text hraw =>
            rw [Rule.error, Rule.message, hraw]
            rfl
  · have hno : isParameters payload = false := by simpa using holds_shape_iff.not.mp hshape
    rw [ofPayload, hno]
    refine .refused .shape ⟨?_, hshape⟩ rfl
    simp [Rule.all]

end Judging

/-- A request to subscribe is accepted exactly if its payload keeps all the rules, and then asks for
the window that the payload spells. Any other is answered with the error of the first rule that is
broken, which names the element that is to blame. -/
theorem window_of_payload (payload : Json) (now : Instant) :
    (∀ window, ofPayload payload now = .ok window ↔
      (∀ rule : Rule, rule.Holds payload now) ∧ window.stream = "NETCONF" ∧
        GivesTime payload "startTime" window.start ∧ GivesTime payload "stopTime" window.stop) ∧
    ∀ error, (ofPayload payload now).mapError Fault.toError = .error error ↔
      ∃ rule : Rule, rule.IsFirstBroken payload now ∧ error = rule.error payload ∧
        error.kind = .invalidValue ∧ error.badElement = some rule.element := by
  have hjudged := ofPayload_judged payload now
  revert hjudged
  generalize ofPayload payload now = answer
  rintro (⟨hholds, hstart, hstop⟩ | ⟨rule, hfirst, herror⟩)
  · refine ⟨fun window => ⟨?_, ?_⟩, fun error => ⟨nofun, ?_⟩⟩
    · rintro ⟨⟩
      exact ⟨hholds, rfl, hstart, hstop⟩
    · rintro ⟨-, hstream, hstart', hstop'⟩
      rw [hstart.unique hstart', hstop.unique hstop', ← hstream]
    · rintro ⟨rule, hfirst, -⟩
      exact absurd (hholds rule) hfirst.broken
  · refine ⟨fun window => ⟨nofun, ?_⟩, fun error => ⟨?_, ?_⟩⟩
    · rintro ⟨hholds, -⟩
      exact absurd (hholds rule) hfirst.broken
    · rintro ⟨⟩
      exact ⟨rule, hfirst, herror, by rw [herror]; rfl, by rw [herror]; rfl⟩
    · rintro ⟨rule', hfirst', rfl, -⟩
      rw [hfirst'.unique hfirst, ← herror]
      rfl

/-- A start that lies both in the future and behind the stop is blamed for the former. -/
example :
    ofPayload (.object [("startTime", .string " 1970-01-02T00:00:00+01:00 "),
      ("stopTime", .string "1970-01-01T00:00:00Z")]) 0 = .error .startInFuture := by
  decide +kernel

end ManagementServer.Event.Window
