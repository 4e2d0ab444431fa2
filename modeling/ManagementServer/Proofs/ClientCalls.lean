import ManagementServer.Proofs.ClientReading

/-!
# Who gets which answer

A client takes the first message that is no notification for the answer to its call. What it reads
is divided among its calls: notifications go to `receive`, in order and each once, and answers to
whoever asks next, in order and each once (`Client.Shares`). So an answer goes to the call that it
answers as long as no call before failed and `receive` was handed no answer
(`answered_in_turn`).
-/

namespace ManagementServer

open Connection (Reading Cuts IsLine)
open Protocol (AgentMessage ServerMessage)

namespace Client

inductive Ask where
  | call (message : AgentMessage)
  | receive

def perform (c : Client) (readings : List Reading) :
    Ask → Except ClientError ServerMessage × Client × List Reading
  | .call message => c.call message readings
  | .receive => c.receive readings

/-- What was done, and what it came to. -/
abbrev Entry := Ask × Except ClientError ServerMessage

def course : List Ask → Client → List Reading → List Entry × Client × List Reading
  | [], c, readings => ([], c, readings)
  | ask :: asks, c, readings =>
    let (outcome, c, readings) := c.perform readings ask
    let (entries, c, readings) := course asks c readings
    ((ask, outcome) :: entries, c, readings)

def notifications (ms : List ServerMessage) : List ServerMessage :=
  ms.filter fun m => m.isNotification

def answers (ms : List ServerMessage) : List ServerMessage :=
  ms.filter fun m => !m.isNotification

def handed (outcome : Except ClientError ServerMessage) : List ServerMessage :=
  outcome.toOption.toList

/-- The notifications that `receive` handed out. -/
def noted (entries : List Entry) : List ServerMessage :=
  entries.flatMap fun
    | (.receive, outcome) => notifications (handed outcome)
    | (.call _, _) => []

/-- The answers that were handed out. -/
def answered (entries : List Entry) : List ServerMessage :=
  entries.flatMap fun entry => answers (handed entry.2)

/-- The messages that calls are given to send. -/
def asked (asks : List Ask) : List AgentMessage :=
  asks.flatMap fun
    | .call q => [q]
    | .receive => []

/-- The messages of the parts that can be read. -/
def messages (parts : List (List UInt8)) : List ServerMessage :=
  parts.flatMap fun part => handed (messageOf part)

section Append

variable (ms₁ ms : List ServerMessage) (entries₁ entries : List Entry)

lemma notifications_append :
    notifications (ms₁ ++ ms) = notifications ms₁ ++ notifications ms :=
  List.filter_append ..

lemma answers_append : answers (ms₁ ++ ms) = answers ms₁ ++ answers ms :=
  List.filter_append ..

lemma noted_append : noted (entries₁ ++ entries) = noted entries₁ ++ noted entries :=
  List.flatMap_append

lemma answered_append : answered (entries₁ ++ entries) = answered entries₁ ++ answered entries :=
  List.flatMap_append

lemma asked_append (asks₁ asks : List Ask) : asked (asks₁ ++ asks) = asked asks₁ ++ asked asks :=
  List.flatMap_append

lemma messages_append (parts₁ parts : List (List UInt8)) :
    messages (parts₁ ++ parts) = messages parts₁ ++ messages parts :=
  List.flatMap_append

end Append

/-- What is read is divided: notifications are handed to `receive`, behind those that were kept, or
kept; answers are handed out. No call is handed a notification. -/
structure Shares (kept : List ServerMessage) (left : List (List UInt8)) (entries : List Entry)
    (c' : Client) (rest : List Reading) (taken more : List (List UInt8)) : Prop where
  parts : left = taken ++ more
  ahead : Ahead c'.buffer rest more
  noted : noted entries ++ c'.pending = kept ++ notifications (messages taken)
  answered : answered entries = answers (messages taken)
  called : ∀ q m, (Ask.call q, Except.ok m) ∈ entries → m.isNotification = false

variable {c c' c₁ : Client} {readings rest mid : List Reading} {kept : List ServerMessage}
  {left more more₁ taken taken₁ : List (List UInt8)} {entries entries₁ : List Entry}

lemma shares_nil (h : Ahead c.buffer readings left) :
    Shares c.pending left [] c readings [] left :=
  ⟨rfl, h, (List.append_nil _).symm, rfl, fun _ _ hm => absurd hm List.not_mem_nil⟩

lemma Shares.append (h₁ : Shares kept left entries₁ c₁ mid taken₁ more₁)
    (h : Shares c₁.pending more₁ entries c' rest taken more) :
    Shares kept left (entries₁ ++ entries) c' rest (taken₁ ++ taken) more where
  parts := by rw [h₁.parts, h.parts, List.append_assoc]
  ahead := h.ahead
  noted := by
    rw [noted_append, List.append_assoc, h.noted, ← List.append_assoc, h₁.noted,
      List.append_assoc, messages_append, notifications_append]
  answered := by
    rw [answered_append, h₁.answered, h.answered, messages_append, answers_append]
  called q m hm := (List.mem_append.mp hm).elim (h₁.called q m) (h.called q m)

/-! ## One call -/

section Messages

variable {m : ServerMessage}

lemma notifications_of_true (h : m.isNotification = true) : notifications [m] = [m] := by
  simp [notifications, h]

lemma notifications_of_false (h : m.isNotification = false) : notifications [m] = [] := by
  simp [notifications, h]

lemma answers_of_true (h : m.isNotification = true) : answers [m] = [] := by
  simp [answers, h]

lemma noted_receive (outcome : Except ClientError ServerMessage) :
    noted [(.receive, outcome)] = notifications (handed outcome) :=
  List.flatMap_singleton ..

lemma noted_call (q : AgentMessage) (outcome : Except ClientError ServerMessage) :
    noted [(.call q, outcome)] = [] := rfl

lemma messages_singleton (part : List UInt8) : messages [part] = handed (messageOf part) :=
  List.flatMap_singleton ..

end Messages

/-- A call that fails before it has read anything. -/
lemma shares_failed (ask : Ask) (error : ClientError) (h : Ahead c'.buffer rest left)
    (hkept : c'.pending = kept) : Shares kept left [(ask, .error error)] c' rest [] left := by
  refine ⟨rfl, h, ?_, rfl, ?_⟩
  · rw [hkept]
    cases ask <;> exact (List.append_nil _).symm
  · rintro q m hm
    cases List.mem_singleton.mp hm

/-- A part is read and handed out; a notification is handed out by `receive` only, and only if none
is kept. -/
lemma shares_handed {ask : Ask} {part : List UInt8} (hleft : left = part :: more)
    (h : Ahead c'.buffer rest more) (hkept : c'.pending = kept)
    (hask : ∀ m, messageOf part = .ok m → m.isNotification = true → ask = .receive ∧ kept = []) :
    Shares kept left [(ask, messageOf part)] c' rest [part] more := by
  refine ⟨hleft, h, ?_, ?_, ?_⟩
  · rw [messages_singleton, hkept]
    cases hmessage : messageOf part with
    | error error => cases ask <;> exact (List.append_nil _).symm
    | ok m =>
      cases hm : m.isNotification with
      | true =>
        obtain ⟨rfl, rfl⟩ := hask m hmessage hm
        rw [noted_receive, List.append_nil, List.nil_append]
      | false =>
        have hnone : notifications (handed (.ok m)) = [] := notifications_of_false hm
        cases ask with
        | call q => rw [noted_call, hnone, List.append_nil, List.nil_append]
        | receive => rw [noted_receive, hnone, List.append_nil, List.nil_append]
  · rw [messages_singleton]
    exact List.append_nil _
  · rintro q m hm
    obtain ⟨rfl, hmessage⟩ := Prod.mk.inj (List.mem_singleton.mp hm)
    cases hnotification : m.isNotification with
    | true => cases (hask m hmessage.symm hnotification).1
    | false => rfl

/-- A part is read, and its notification is kept. -/
lemma shares_kept {part : List UInt8} {m : ServerMessage} (hleft : left = part :: more)
    (h : Ahead c'.buffer rest more) (hmessage : messageOf part = .ok m)
    (hm : m.isNotification = true) (hkept : c'.pending = kept ++ [m]) :
    Shares kept left [] c' rest [part] more := by
  refine ⟨hleft, h, ?_, ?_, fun _ _ hm => absurd hm List.not_mem_nil⟩
  · rw [messages_singleton, hmessage, hkept]
    exact congrArg (kept ++ ·) (notifications_of_true hm).symm
  · rw [messages_singleton, hmessage]
    exact (answers_of_true hm).symm

/-- Waiting for an answer: the notifications before it are kept. -/
theorem shares_answerWithin (q : AgentMessage) {fuel : Nat} (h : Ahead c.buffer readings left)
    (hfuel : left.length < fuel) :
    ∃ taken more, Shares c.pending left [(.call q, (answerWithin fuel c readings).1)]
      (answerWithin fuel c readings).2.1 (answerWithin fuel c readings).2.2 taken more := by
  induction fuel generalizing c readings left with
  | zero => exact absurd hfuel (Nat.not_lt_zero _)
  | succ fuel ih =>
    have hread := h.read
    rw [answerWithin]
    generalize c.readMessage readings = result at hread
    cases hread with
    | message part more hleft hpart hahead hrest =>
      rename_i buffer rest
      cases hmessage : messageOf part with
      | error error =>
        refine ⟨[part], more, ?_⟩
        dsimp only
        rw [← hmessage]
        refine shares_handed hleft hahead rfl fun m hm => ?_
        rw [hmessage] at hm
        cases hm
      | ok m =>
        dsimp only
        split_ifs with hm
        · -- The answer is still to come, and a part fewer is left.
          have hfewer : more.length < fuel := by
            rw [hleft, List.length_cons] at hfuel
            exact Nat.lt_of_succ_lt_succ hfuel
          have hkept : Shares c.pending left []
              { c with buffer, pending := c.pending ++ [m] } rest [part] more :=
            shares_kept hleft hahead hmessage hm rfl
          obtain ⟨taken, others, hshares⟩ := ih hkept.ahead hfewer
          exact ⟨_, others, hkept.append hshares⟩
        · refine ⟨[part], more, ?_⟩
          rw [← hmessage]
          refine shares_handed hleft hahead rfl fun m' hm' => ?_
          rw [hmessage] at hm'
          cases hm'
          exact fun h => absurd h hm
    | timeout hahead hrest => exact ⟨[], left, shares_failed _ _ hahead rfl⟩
    | closed hleft hahead hrest =>
      rw [hleft]
      exact ⟨[], [], shares_failed _ _ hahead rfl⟩

/-! A part takes a byte at least, so the fuel of `answer` suffices. -/

lemma length_stream {most : Nat} {stream : List UInt8} (hcuts : Cuts most stream readings)
    (before : Nat) : (readings.map bytesIn).foldl (· + ·) before = before + stream.length := by
  induction hcuts generalizing before with
  | done => rfl
  | bytes chunk _ _ _ ih =>
    rw [List.map_cons, List.foldl_cons, ih, bytesIn, List.length_append, Nat.add_assoc]
  | timeout _ ih => exact ih before
  | interrupted _ ih => exact ih before
  | ended _ ih => exact ih before

lemma length_le_flatten {lines : List (List UInt8)} (hlines : ∀ line ∈ lines, IsLine line) :
    lines.length ≤ lines.flatten.length := by
  induction lines with
  | nil => exact Nat.le_refl _
  | cons line rest ih =>
    obtain ⟨front, -, rfl⟩ := hlines line List.mem_cons_self
    have hrest := ih fun line hl => hlines line (List.mem_cons_of_mem _ hl)
    simp only [List.flatten_cons, List.length_cons, List.length_append, List.length_nil]
    omega

lemma Ahead.length_le (h : Ahead c.buffer readings left) :
    left.length ≤ c.buffer.length + (readings.map bytesIn).foldl (· + ·) 0 := by
  obtain ⟨start, come, lines, hcuts, hlines, hcome, hcontent⟩ := h
  have hlength := congrArg List.length hcontent
  rw [List.length_append, List.length_drop] at hlength
  rw [length_parts, length_stream hcuts, Nat.zero_add, hlength]
  cases lines with
  | nil => exact Nat.zero_le _
  | cons line rest =>
    have hinside : come < line.length := hcome line rfl
    have hrest := length_le_flatten fun line hl => hlines line (List.mem_cons_of_mem _ hl)
    rw [List.flatten_cons, List.length_append, List.length_cons]
    omega

/-- Whatever is done, what is read is divided. -/
theorem shares_perform (ask : Ask) (hkept : ∀ m ∈ c.pending, m.isNotification = true)
    (h : Ahead c.buffer readings left) :
    ∃ taken more, Shares c.pending left [(ask, (c.perform readings ask).1)]
      (c.perform readings ask).2.1 (c.perform readings ask).2.2 taken more := by
  cases ask with
  | call q =>
    rw [perform, call, send]
    cases c.fault with
    | some detail => exact ⟨[], left, shares_failed _ _ h rfl⟩
    | none =>
      have hsent : Ahead (Client.buffer { c with sent := c.sent ++ [q], fault := none }) readings
          left := h
      exact shares_answerWithin q hsent (Nat.lt_succ_of_le hsent.length_le)
  | receive =>
    rw [perform, receive]
    cases hpending : c.pending with
    | cons m later =>
      rw [hpending] at hkept
      have hm := hkept m List.mem_cons_self
      refine ⟨[], left, rfl, h, ?_, ?_, ?_⟩
      · have hfirst : notifications (handed (.ok m)) ++ later = m :: later ++ [] := by
          rw [List.append_nil]
          exact congrArg (· ++ later) (notifications_of_true hm)
        rw [noted_receive]
        exact hfirst
      · exact congrArg (· ++ []) (answers_of_true hm)
      · rintro q m hm
        cases List.mem_singleton.mp hm
    | nil =>
      have hread := h.read
      dsimp only
      generalize c.readMessage readings = result at hread
      cases hread with
      | message part more hleft hpart hahead hrest =>
        exact ⟨[part], more, shares_handed hleft hahead hpending fun _ _ _ => ⟨rfl, rfl⟩⟩
      | timeout hahead hrest => exact ⟨[], left, shares_failed _ _ hahead hpending⟩
      | closed hleft hahead hrest =>
        rw [hleft]
        exact ⟨[], [], shares_failed _ _ hahead hpending⟩

/-! ## What is sent -/

lemma readLine_keeps (c : Client) (readings : List Reading) :
    (c.readLine readings).2.1.sent = c.sent ∧ (c.readLine readings).2.1.fault = c.fault := by
  induction readings generalizing c with
  | nil =>
    rw [readLine]
    cases Connection.LineReader.cut [] c.buffer <;> exact ⟨rfl, rfl⟩
  | cons reading rest ih =>
    rw [readLine.eq_def]
    cases Connection.LineReader.cut [] c.buffer with
    | some found => exact ⟨rfl, rfl⟩
    | none =>
      cases reading with
      | bytes chunk => exact ih _
      | interrupted => exact ih _
      | _ => exact ⟨rfl, rfl⟩

lemma readMessage_keeps (c : Client) (readings : List Reading) :
    (c.readMessage readings).2.1.sent = c.sent ∧ (c.readMessage readings).2.1.fault = c.fault :=
  c.readLine_keeps readings

lemma answerWithin_keeps (fuel : Nat) (c : Client) (readings : List Reading) :
    (answerWithin fuel c readings).2.1.sent = c.sent ∧
      (answerWithin fuel c readings).2.1.fault = c.fault := by
  induction fuel generalizing c readings with
  | zero => exact ⟨rfl, rfl⟩
  | succ fuel ih =>
    have hread := c.readMessage_keeps readings
    rw [answerWithin]
    generalize c.readMessage readings = result at hread
    obtain ⟨outcome, c₁, mid⟩ := result
    cases outcome with
    | error error => exact hread
    | ok m =>
      dsimp only at hread ⊢
      split_ifs
      · rw [← hread.1, ← hread.2]
        exact ih _ _
      · exact hread

lemma sent_perform (ask : Ask) (readings : List Reading) (hfault : c.fault = none) :
    (c.perform readings ask).2.1.sent = c.sent ++ asked [ask] ∧
      (c.perform readings ask).2.1.fault = none := by
  cases ask with
  | call q =>
    rw [perform, call, send, hfault]
    exact answerWithin_keeps _ _ readings
  | receive =>
    have hread := c.readMessage_keeps readings
    rw [hfault] at hread
    rw [perform, receive]
    cases c.pending with
    | cons m later => exact ⟨(List.append_nil _).symm, hfault⟩
    | nil => exact ⟨hread.1.trans (List.append_nil _).symm, hread.2⟩

/-! ## Any course -/

lemma map_course (asks : List Ask) (c : Client) (readings : List Reading) :
    (course asks c readings).1.map (·.1) = asks := by
  induction asks generalizing c readings with
  | nil => rfl
  | cons ask asks ih => exact congrArg (ask :: ·) (ih _ _)

lemma sent_course (asks : List Ask) (readings : List Reading) (hfault : c.fault = none) :
    (course asks c readings).2.1.sent = c.sent ++ asked asks := by
  induction asks generalizing c readings with
  | nil => exact (List.append_nil _).symm
  | cons ask asks ih =>
    obtain ⟨hsent, hfault'⟩ := sent_perform ask readings hfault
    have hcourse := ih (c.perform readings ask).2.2 hfault'
    rw [hsent, List.append_assoc, ← asked_append] at hcourse
    exact hcourse

lemma Shares.kept_isNotification (h : Shares kept left entries c' rest taken more)
    (hkept : ∀ m ∈ kept, m.isNotification = true) : ∀ m ∈ c'.pending, m.isNotification = true := by
  intro m hm
  have hall : m ∈ kept ++ notifications (messages taken) :=
    h.noted ▸ List.mem_append_right _ hm
  rcases List.mem_append.mp hall with hm | hm
  · exact hkept m hm
  · exact (List.mem_filter.mp hm).2

/-- Whatever is done in a course, what is read is divided. -/
theorem shares_course (asks : List Ask) (hkept : ∀ m ∈ c.pending, m.isNotification = true)
    (h : Ahead c.buffer readings left) :
    ∃ taken more, Shares c.pending left (course asks c readings).1 (course asks c readings).2.1
      (course asks c readings).2.2 taken more := by
  induction asks generalizing c readings left with
  | nil => exact ⟨[], left, shares_nil h⟩
  | cons ask asks ih =>
    obtain ⟨taken₁, more₁, hfirst⟩ := shares_perform ask hkept h
    obtain ⟨taken, more, hothers⟩ := ih (hfirst.kept_isNotification hkept) hfirst.ahead
    exact ⟨_, more, hfirst.append hothers⟩

lemma answers_of_called {m : ServerMessage} (h : m.isNotification = false) :
    answers (handed (.ok m)) = [m] := by
  simp [answers, handed, Except.toOption, h]

lemma answered_cons (entry : Entry) (entries : List Entry) :
    answered (entry :: entries) = answers (handed entry.2) ++ answered entries :=
  List.flatMap_cons

/-- A call was answered, or `receive` was handed no answer. -/
def IsSettled : Entry → Prop
  | (.call _, outcome) => ∃ m, outcome = .ok m
  | (.receive, outcome) => answers (handed outcome) = []

/-- While all is settled, there are as many answers as questions. -/
lemma length_answered (hcalled : ∀ q m, (Ask.call q, Except.ok m) ∈ entries →
    m.isNotification = false) (hsettled : ∀ entry ∈ entries, IsSettled entry) :
    (answered entries).length = (asked (entries.map (·.1))).length := by
  induction entries with
  | nil => rfl
  | cons entry rest ih =>
    have hrest := ih (fun q m hm => hcalled q m (List.mem_cons_of_mem _ hm))
      fun entry he => hsettled entry (List.mem_cons_of_mem _ he)
    have hentry := hsettled entry List.mem_cons_self
    obtain ⟨ask, outcome⟩ := entry
    cases ask with
    | call q =>
      obtain ⟨m, rfl⟩ := hentry
      rw [answered_cons, answers_of_called (hcalled q m List.mem_cons_self)]
      exact congrArg (· + 1) hrest
    | receive =>
      have hnone : answers (handed outcome) = [] := hentry
      rw [answered_cons, hnone]
      exact hrest

lemma messages_of_read {ms : List ServerMessage} {parts : List (List UInt8)}
    (h : parts.map messageOf = ms.map .ok) (count : Nat) :
    messages (parts.take count) = ms.take count := by
  have htake : (parts.take count).map messageOf = (ms.take count).map .ok := by
    rw [List.map_take, h, List.map_take]
  have hhanded : ∀ ms : List ServerMessage, (ms.map Except.ok).flatMap handed = ms := by
    intro ms
    induction ms with
    | nil => rfl
    | cons m rest ih => rw [List.map_cons, List.flatMap_cons, ih]; rfl
  rw [messages, ← List.flatMap_map, htake, hhanded]

/-- Of the messages that are read in a course, the notifications are handed to `receive`, in order
and each once, or still kept, and the answers are handed out in order and each once. If the server
answers what was sent in order, a call that is answered while all before it was settled gets the
answer to its message. -/
theorem answered_in_turn {most : Nat} {ms : List ServerMessage}
    (hcuts : Cuts most (ms.map ServerMessage.bytes).flatten readings) (asks : List Ask) :
    let places := pauses 0 readings
    let left := parts 0 places 0 (ms.map ServerMessage.bytes)
    let entries := (course asks fresh readings).1
    let c := (course asks fresh readings).2.1
    entries.map (·.1) = asks ∧ c.sent = asked asks ∧
    (∃ count, noted entries ++ c.pending = notifications (messages (left.take count)) ∧
      answered entries = answers (messages (left.take count))) ∧
    ((∀ m ∈ ms, m.IsReadable) → (∀ i < ms.length, IsUncut places ms i) →
      (∃ count, noted entries ++ c.pending = notifications (ms.take count) ∧
        answered entries = answers (ms.take count)) ∧
      ∀ Answers : AgentMessage → ServerMessage → Prop,
        (∀ (k : Nat) q a, c.sent[k]? = some q → (answers ms)[k]? = some a → Answers q a) →
        ∀ before q a after, entries = before ++ (.call q, .ok a) :: after →
          (∀ entry ∈ before, IsSettled entry) → Answers q a) := by
  intro places left entries c
  have hsent : c.sent = asked asks := sent_course asks readings rfl
  have hasks : entries.map (·.1) = asks := map_course asks _ _
  obtain ⟨taken, more, hshares⟩ := shares_course asks (c := fresh)
    (fun _ h => absurd h List.not_mem_nil) (ahead_fresh hcuts)
  have htaken : taken = left.take taken.length := by
    rw [show left = taken ++ more from hshares.parts, List.take_left]
  have hdivided : noted entries ++ c.pending =
      notifications (messages (left.take taken.length)) ∧
      answered entries = answers (messages (left.take taken.length)) := by
    rw [← htaken]
    exact ⟨hshares.noted, hshares.answered⟩
  refine ⟨hasks, hsent, ⟨_, hdivided⟩, fun hreadable huncut => ?_⟩
  have hread : left.map messageOf = ms.map .ok := map_messageOf_parts hreadable huncut
  rw [messages_of_read hread] at hdivided
  refine ⟨⟨_, hdivided⟩, fun Answers hserver before q a after hentries hsettled => ?_⟩
  have hcalled := hshares.called
  rw [show (course asks fresh readings).1 = _ from hentries] at hcalled
  have ha := hcalled q a (List.mem_append_right _ List.mem_cons_self)
  -- As many calls as answers went before, so the two have one number, in what is sent and in what
  -- the server answers.
  have hlength := length_answered (fun q m hm => hcalled q m (List.mem_append_left _ hm)) hsettled
  refine hserver (asked (before.map (·.1))).length q a ?_ ?_
  · rw [hsent, ← hasks, hentries, List.map_append, asked_append,
      List.getElem?_append_right (Nat.le_refl _), Nat.sub_self]
    rfl
  · have hanswers : answers ms =
        answered before ++ a :: (answered after ++ answers (ms.drop taken.length)) := by
      have hall := hdivided.2
      rw [hentries, answered_append, answered_cons, answers_of_called ha] at hall
      conv_lhs => rw [← List.take_append_drop taken.length ms, answers_append, ← hall]
      rw [List.append_assoc, List.append_assoc, List.singleton_append]
    rw [hanswers, ← hlength, List.getElem?_append_right (Nat.le_refl _), Nat.sub_self]
    rfl

def numbered (id : String) : AgentMessage :=
  .rpc ⟨"s1", some id, "get", none, .null⟩

def answerTo (id : String) : ServerMessage :=
  .reply "s1" (some id) .ok

def replyId? : ServerMessage → Option String
  | .reply _ id _ => id
  | _ => none

/-- Two calls with a notification in between, and a timeout before. -/
theorem answered_in_turn_twice :
    let note := ServerMessage.notification "s1" "" "NETCONF" "tick" .null
    let ms := [note, answerTo "7", answerTo "8"]
    let asks := [.receive, .call (numbered "7"), .receive, .call (numbered "8")]
    let readings := [.timeout, .bytes (note.bytes ++ (answerTo "7").bytes.take 9),
      .bytes ((answerTo "7").bytes.drop 9), .bytes (answerTo "8").bytes]
    let entries := (course asks fresh readings).1
    (entries.map fun entry => entry.2.toOption.bind replyId?) = [none, some "7", none, some "8"] ∧
      (∃ count, noted entries ++ (course asks fresh readings).2.1.pending =
          notifications (ms.take count) ∧ answered entries = answers (ms.take count)) ∧
      ∀ before q a after, entries = before ++ (.call q, .ok a) :: after →
        (∀ entry ∈ before, IsSettled entry) → ∃ id, q = numbered id ∧ a = answerTo id := by
  intro note ms asks readings entries
  have hcuts : Cuts 1024 (ms.map ServerMessage.bytes).flatten readings := by
    have hpieces : Cuts 1024 ((note.bytes ++ (answerTo "7").bytes.take 9) ++
        ((answerTo "7").bytes.drop 9 ++ ((answerTo "8").bytes ++ []))) readings :=
      .timeout (.bytes _ (by decide +kernel) (by decide +kernel)
        (.bytes _ (by decide +kernel) (by decide +kernel)
          (.bytes _ (by decide +kernel) (by decide +kernel) .done)))
    have hline : (answerTo "7").bytes.take 9 ++ (answerTo "7").bytes.drop 9 =
        (answerTo "7").bytes := List.take_append_drop 9 _
    rwa [List.append_assoc, ← List.append_assoc (List.take 9 _), hline] at hpieces
  have hreadable : ∀ m ∈ ms, m.IsReadable := by
    simp only [ms, List.forall_mem_cons]
    exact ⟨⟨⟨rfl, rfl⟩, by decide⟩, ⟨trivial, by decide⟩, ⟨trivial, by decide⟩,
      fun _ h => absurd h List.not_mem_nil⟩
  obtain ⟨-, hsent, -, hturn⟩ := answered_in_turn hcuts asks
  obtain ⟨hdivided, hanswers⟩ := hturn hreadable (by unfold IsUncut; decide +kernel)
  refine ⟨by decide +kernel, hdivided, hanswers _ fun k q a hq ha => ?_⟩
  rw [hsent] at hq
  match k, hq, ha with
  | 0, hq, ha => exact ⟨"7", (Option.some.inj hq).symm, (Option.some.inj ha).symm⟩
  | 1, hq, ha => exact ⟨"8", (Option.some.inj hq).symm, (Option.some.inj ha).symm⟩

/-- A call that times out leaves its answer to the next call. -/
theorem late_answer_goes_to_next_call :
    let ms := [answerTo "7", answerTo "8"]
    let asks := [.call (numbered "7"), .call (numbered "8")]
    let readings := [.timeout, .bytes (answerTo "7").bytes, .bytes (answerTo "8").bytes]
    Cuts 1024 (ms.map ServerMessage.bytes).flatten readings ∧ (∀ m ∈ ms, m.IsReadable) ∧
      ((course asks fresh readings).1.map fun entry => entry.2.toOption.bind replyId?) =
        [none, some "7"] := by
  intro ms asks readings
  have hcuts : Cuts 1024 ((answerTo "7").bytes ++ ((answerTo "8").bytes ++ [])) readings :=
    .timeout (.bytes _ (by decide +kernel) (by decide +kernel)
      (.bytes _ (by decide +kernel) (by decide +kernel) .done))
  have hreadable : ∀ m ∈ ms, m.IsReadable := by
    simp only [ms, List.forall_mem_cons]
    exact ⟨⟨trivial, by decide⟩, ⟨trivial, by decide⟩, fun _ h => absurd h List.not_mem_nil⟩
  exact ⟨hcuts, hreadable, by decide +kernel⟩

end Client

end ManagementServer
