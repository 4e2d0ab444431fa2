import ManagementServer.Connection.Line
import ManagementServer.Proofs.Utf8
import ManagementServer.Protocol.Answer
import ManagementServer.Proofs.JsonText

/-!
# Lines do not depend on how bytes are cut

`segments` splits a whole stream behind its line feeds. A `LineReader` sees the stream in pieces,
with pauses anywhere (`Cuts`), and comes to the same lines (`LineReader.Call.yields` for one call,
`LineReader.heard_results` for all of them); at every moment the lines that it handed out, its
buffer and the bytes to come are the stream (`LineReader.Reads.conserves`).
-/

namespace ManagementServer.Connection

/-! ## Splitting a whole stream -/

/-- The bytes up to each line feed, with it, and what stands behind the last one. -/
def segments : List UInt8 → List (List UInt8)
  | [] => []
  | b :: rest =>
    if b == lineFeed then [b] :: segments rest
    else match segments rest with
      | [] => [[b]]
      | first :: more => (b :: first) :: more

def body (segment : List UInt8) : List UInt8 :=
  segment.takeWhile (· != lineFeed)

lemma segments_lineFeed (rest : List UInt8) :
    segments (lineFeed :: rest) = [lineFeed] :: segments rest :=
  if_pos (beq_self_eq_true lineFeed)

lemma segments_cons {b : UInt8} (hb : b ≠ lineFeed) (rest : List UInt8) :
    segments (b :: rest) = match segments rest with
      | [] => [[b]]
      | first :: more => (b :: first) :: more := by
  rw [segments, if_neg (by simpa using hb)]

theorem flatten_segments (bytes : List UInt8) : (segments bytes).flatten = bytes := by
  induction bytes with
  | nil => rfl
  | cons b rest ih =>
    by_cases hb : b = lineFeed
    · rw [hb, segments_lineFeed, List.flatten_cons, ih, List.singleton_append]
    · rw [segments_cons hb]
      cases hrest : segments rest with
      | nil =>
        rw [hrest] at ih
        rw [← ih]
        rfl
      | cons first more =>
        rw [hrest] at ih
        rw [← ih]
        rfl

lemma segments_line {line : List UInt8} (hline : lineFeed ∉ line) (rest : List UInt8) :
    segments (line ++ lineFeed :: rest) = (line ++ [lineFeed]) :: segments rest := by
  induction line with
  | nil => exact segments_lineFeed rest
  | cons b more ih =>
    rw [List.mem_cons, not_or] at hline
    rw [List.cons_append, segments_cons (Ne.symm hline.1), ih hline.2]
    rfl

lemma segments_tail {tail : List UInt8} (htail : lineFeed ∉ tail) (hne : tail ≠ []) :
    segments tail = [tail] := by
  induction tail with
  | nil => exact absurd rfl hne
  | cons b more ih =>
    rw [List.mem_cons, not_or] at htail
    rw [segments_cons (Ne.symm htail.1)]
    cases more with
    | nil => rfl
    | cons c more => rw [ih htail.2 (List.cons_ne_nil c more)]

/-- Bytes without a line feed all belong to the first segment. -/
lemma segments_append {front : List UInt8} (hfront : lineFeed ∉ front) (hne : front ≠ [])
    (rest : List UInt8) :
    ∃ back more, segments (front ++ rest) = (front ++ back) :: more := by
  induction front with
  | nil => exact absurd rfl hne
  | cons b front ih =>
    rw [List.mem_cons, not_or] at hfront
    rw [List.cons_append, segments_cons (Ne.symm hfront.1)]
    cases front with
    | nil =>
      cases hrest : segments rest with
      | nil => exact ⟨[], [], by simp [hrest]⟩
      | cons first more => exact ⟨first, more, by simp [hrest]⟩
    | cons c front =>
      obtain ⟨back, more, hsegments⟩ := ih hfront.2 (List.cons_ne_nil c front)
      exact ⟨back, more, by rw [hsegments]; rfl⟩

lemma body_cons {b : UInt8} (hb : b ≠ lineFeed) (rest : List UInt8) :
    body (b :: rest) = b :: body rest := by
  simp [body, hb]

lemma body_line {line : List UInt8} (hline : lineFeed ∉ line) (rest : List UInt8) :
    body (line ++ lineFeed :: rest) = line := by
  induction line with
  | nil => rfl
  | cons b more ih =>
    rw [List.mem_cons, not_or] at hline
    rw [List.cons_append, body_cons (Ne.symm hline.1), ih hline.2]

lemma length_le_body {front : List UInt8} (hfront : lineFeed ∉ front) (back : List UInt8) :
    front.length ≤ (body (front ++ back)).length := by
  induction front with
  | nil => exact Nat.zero_le _
  | cons b more ih =>
    rw [List.mem_cons, not_or] at hfront
    rw [List.cons_append, body_cons (Ne.symm hfront.1), List.length_cons, List.length_cons]
    exact Nat.succ_le_succ (ih hfront.2)

lemma length_body_le (segment : List UInt8) : (body segment).length ≤ segment.length :=
  (List.takeWhile_prefix _).length_le

/-! ## Cutting a stream -/

/-- The readings bring the bytes of the stream in order, at least one and at most `most` at a time,
with timeouts and interruptions anywhere. Behind the last byte the input is at its end. -/
inductive Cuts (most : Nat) : List UInt8 → List Reading → Prop
  | done : Cuts most [] []
  | bytes {stream readings} (chunk : List UInt8) : chunk ≠ [] → chunk.length ≤ most →
    Cuts most stream readings → Cuts most (chunk ++ stream) (.bytes chunk :: readings)
  | timeout {stream readings} : Cuts most stream readings → Cuts most stream (.timeout :: readings)
  | interrupted {stream readings} : Cuts most stream readings →
    Cuts most stream (.interrupted :: readings)
  | ended {readings} : Cuts most [] readings → Cuts most [] (.endOfInput :: readings)

namespace LineReader

/-! ## What a reader says -/

lemma cut_none {done bytes : List UInt8} (h : cut done bytes = none) : lineFeed ∉ bytes := by
  induction bytes generalizing done with
  | nil => exact List.not_mem_nil
  | cons b rest ih =>
    rw [cut] at h
    split_ifs at h with hb
    rw [List.mem_cons, not_or]
    exact ⟨fun he => hb (by simp [he]), ih h⟩

lemma cut_some {done bytes line rest : List UInt8} (h : cut done bytes = some (line, rest)) :
    ∃ front, line = done.reverse ++ front ∧ lineFeed ∉ front ∧
      bytes = front ++ lineFeed :: rest := by
  induction bytes generalizing done with
  | nil => cases h
  | cons b bytes ih =>
    rw [cut] at h
    split_ifs at h with hb
    · obtain ⟨rfl, rfl⟩ := Prod.mk.inj (Option.some.inj h)
      refine ⟨[], (List.append_nil _).symm, List.not_mem_nil, ?_⟩
      rw [beq_iff_eq.mp hb]
      rfl
    · obtain ⟨front, hline, hfront, hbytes⟩ := ih h
      refine ⟨b :: front, ?_, ?_, ?_⟩
      · rw [hline, List.reverse_cons, List.append_assoc, List.singleton_append]
      · rw [List.mem_cons, not_or]
        exact ⟨fun he => hb (by simp [he]), hfront⟩
      · rw [hbytes]
        rfl

lemma ready?_ok {r r' : LineReader} {line : List UInt8} (h : r.ready? = some (.ok (line, r'))) :
    ∃ front, lineFeed ∉ front ∧ line = front ++ [lineFeed] ∧ front.length ≤ maxLineSize ∧
      r.buffer = front ++ lineFeed :: r'.buffer := by
  unfold ready? at h
  split at h
  · rename_i found left hcut
    split_ifs at h with hlong
    · cases h
    · cases h
      obtain ⟨front, hline, hfront, hbuffer⟩ := cut_some hcut
      obtain rfl : found = front := hline
      exact ⟨found, hfront, rfl, Nat.le_of_not_lt hlong, hbuffer⟩
  · split_ifs at h
    cases h

lemma ready?_error {r : LineReader} {fault : Protocol.Fault} (h : r.ready? = some (.error fault)) :
    ∃ size front back, fault = .tooLarge size maxLineSize ∧ lineFeed ∉ front ∧
      maxLineSize < front.length ∧ r.buffer = front ++ back := by
  unfold ready? at h
  split at h
  · rename_i found left hcut
    split_ifs at h with hlong
    · cases h
      obtain ⟨front, hline, hfront, hbuffer⟩ := cut_some hcut
      obtain rfl : found = front := hline
      exact ⟨_, found, _, rfl, hfront, hlong, hbuffer⟩
    · cases h
  · rename_i hcut
    split_ifs at h with hlong
    cases h
    exact ⟨_, r.buffer, [], rfl, cut_none hcut, hlong, (List.append_nil _).symm⟩

lemma ready?_none {r : LineReader} (h : r.ready? = none) :
    lineFeed ∉ r.buffer ∧ r.buffer.length ≤ maxLineSize := by
  unfold ready? at h
  split at h
  · split_ifs at h
  · rename_i hcut
    split_ifs at h with hlong
    exact ⟨cut_none hcut, Nat.le_of_not_lt hlong⟩

/-! ## One step -/

/-- One step of a reader: it hands on a line that is ready, or refuses one that is too long, or else
reads once; when the readings run out, the input is at its end. -/
inductive Step : LineReader → List Reading → Option (Except Protocol.Fault ReadEvent) →
    LineReader → List Reading → Prop
  | hands {r readings line r'} : r.ready? = some (.ok (line, r')) →
    Step r readings (some (.ok (.line line))) r' readings
  | refuses {r readings fault} : r.ready? = some (.error fault) →
    Step r readings (some (.error fault)) r readings
  | takes {r reading rest said r'} : r.ready? = none → r.take reading = (said, r') →
    Step r (reading :: rest) said r' rest
  | ends {r said r'} : r.ready? = none → r.take .endOfInput = (said, r') → Step r [] said r' []

/-- What a step or a call makes of the bytes that are not handed on yet: all of them stay, or the
first segment goes, or it is too long, or there are none. -/
inductive Yields (content : List UInt8) :
    Option (Except Protocol.Fault ReadEvent) → List UInt8 → Prop
  | silence : Yields content none content
  | timeout : Yields content (some (.ok .timeout)) content
  | line {segment left} : segments content = segment :: segments left →
    (body segment).length ≤ maxLineSize → Yields content (some (.ok (.line segment))) left
  | tooLarge {size segment more} : segments content = segment :: more →
    maxLineSize < (body segment).length →
    Yields content (some (.error (.tooLarge size maxLineSize))) content
  | hangUp : content = [] → Yields content (some (.ok .hangUp)) []

lemma Yields.eq_of_none {content left : List UInt8} (h : Yields content none left) :
    left = content := by
  cases h
  rfl

variable {most : Nat} {r r' : LineReader} {stream : List UInt8} {readings rest : List Reading}
  {said : Option (Except Protocol.Fault ReadEvent)}

/-- At the end of the input what is in the buffer is the last line. -/
lemma yields_endOfInput (hready : r.ready? = none) (htake : r.take .endOfInput = (said, r')) :
    Yields r.buffer said r'.buffer := by
  obtain ⟨hbuffer, hshort⟩ := ready?_none hready
  rw [take] at htake
  split_ifs at htake with hempty
  · cases htake
    rw [List.isEmpty_iff.mp hempty]
    exact .hangUp rfl
  · cases htake
    have hne : r.buffer ≠ [] := fun h => hempty (List.isEmpty_iff.mpr h)
    exact .line (segments_tail hbuffer hne) (Nat.le_trans (length_body_le r.buffer) hshort)

/-- One step, with the bytes that come behind. -/
theorem Step.yields (h : Step r readings said r' rest) (hcuts : Cuts most stream readings) :
    ∃ stream', Cuts most stream' rest ∧
      Yields (r.buffer ++ stream) said (r'.buffer ++ stream') := by
  cases h with
  | hands hready =>
    obtain ⟨front, hfront, rfl, hshort, hbuffer⟩ := ready?_ok hready
    refine ⟨stream, hcuts, .line ?_ ?_⟩
    · rw [hbuffer, List.append_assoc, List.cons_append, segments_line hfront]
    · rw [body_line hfront]
      exact hshort
  | refuses hready =>
    obtain ⟨size, front, back, rfl, hfront, hlong, hbuffer⟩ := ready?_error hready
    -- The line feed may be far behind: what is too long already is a beginning of the segment.
    have hne : front ≠ [] := by
      rintro rfl
      exact Nat.not_lt_zero _ hlong
    obtain ⟨more, others, hsegments⟩ := segments_append hfront hne (back ++ stream)
    rw [← List.append_assoc, ← hbuffer] at hsegments
    exact ⟨stream, hcuts,
      .tooLarge hsegments (Nat.lt_of_lt_of_le hlong (length_le_body hfront more))⟩
  | takes hready htake =>
    cases hcuts with
    | bytes chunk hne hmost hcuts =>
      cases htake
      refine ⟨_, hcuts, ?_⟩
      rw [List.append_assoc]
      exact .silence
    | timeout hcuts =>
      cases htake
      exact ⟨stream, hcuts, .timeout⟩
    | interrupted hcuts =>
      cases htake
      exact ⟨stream, hcuts, .silence⟩
    | ended hcuts =>
      refine ⟨[], hcuts, ?_⟩
      rw [List.append_nil, List.append_nil]
      exact yields_endOfInput hready htake
  | ends hready htake =>
    cases hcuts
    refine ⟨[], .done, ?_⟩
    rw [List.append_nil, List.append_nil]
    exact yields_endOfInput hready htake

lemma length_take_endOfInput (htake : r.take .endOfInput = (said, r')) :
    r'.buffer.length ≤ r.buffer.length := by
  rw [take] at htake
  split_ifs at htake
  · cases htake
    exact Nat.le_refl _
  · cases htake
    exact Nat.zero_le _

/-- A reader reads on only when what it holds is not too long. -/
theorem Step.length_buffer_le (h : Step r readings said r' rest) (hcuts : Cuts most stream readings)
    (hr : r.buffer.length ≤ maxLineSize + most) : r'.buffer.length ≤ maxLineSize + most := by
  cases h with
  | hands hready =>
    obtain ⟨front, -, -, -, hbuffer⟩ := ready?_ok hready
    rw [hbuffer, List.length_append, List.length_cons] at hr
    omega
  | refuses => exact hr
  | takes hready htake =>
    cases hcuts with
    | bytes chunk hne hmost hcuts =>
      cases htake
      rw [List.length_append]
      exact Nat.add_le_add (ready?_none hready).2 hmost
    | timeout hcuts =>
      cases htake
      exact hr
    | interrupted hcuts =>
      cases htake
      exact hr
    | ended hcuts => exact Nat.le_trans (length_take_endOfInput htake) hr
  | ends hready htake => exact Nat.le_trans (length_take_endOfInput htake) hr

/-- Silence and timeouts take a reading. -/
lemma Step.length_readings (h : Step r readings said r' rest) :
    rest.length ≤ readings.length ∧
      (said = none ∨ said = some (.ok .timeout) → rest.length < readings.length) := by
  cases h with
  | hands => simp
  | refuses => simp
  | takes => simp
  | ends hready htake =>
    rw [take] at htake
    split_ifs at htake <;> cases htake <;> simp

/-! ## One call -/

/-- A call is made of steps, of which the last says something. -/
inductive Call : LineReader → List Reading → Except Protocol.Fault ReadEvent → LineReader →
    List Reading → Prop
  | speaks {r readings outcome r' rest} : Step r readings (some outcome) r' rest →
    Call r readings outcome r' rest
  | reads {r readings r₁ mid outcome r' rest} : Step r readings none r₁ mid →
    Call r₁ mid outcome r' rest → Call r readings outcome r' rest

lemma take_endOfInput_isSome (r : LineReader) : (r.take .endOfInput).1.isSome = true := by
  rw [take]
  split_ifs <;> rfl

theorem call_next (r : LineReader) (readings : List Reading) :
    Call r readings (r.next readings).1 (r.next readings).2.1 (r.next readings).2.2 := by
  induction readings generalizing r with
  | nil =>
    rw [next]
    cases hready : r.ready? with
    | some said => cases said with
      | ok found => exact .speaks (.hands hready)
      | error fault => exact .speaks (.refuses hready)
    | none =>
      cases htake : r.take .endOfInput with
      | mk said r' =>
        have hsome := take_endOfInput_isSome r
        rw [htake] at hsome
        obtain ⟨outcome, rfl⟩ := Option.isSome_iff_exists.mp hsome
        exact .speaks (.ends hready htake)
  | cons reading rest ih =>
    rw [next]
    cases hready : r.ready? with
    | some said => cases said with
      | ok found => exact .speaks (.hands hready)
      | error fault => exact .speaks (.refuses hready)
    | none =>
      cases htake : r.take reading with
      | mk said r' => cases said with
        | some outcome => exact .speaks (.takes hready htake)
        | none => exact .reads (.takes hready htake) (ih r')

variable {outcome : Except Protocol.Fault ReadEvent}

theorem Call.yields (h : Call r readings outcome r' rest) (hcuts : Cuts most stream readings) :
    ∃ stream', Cuts most stream' rest ∧
      Yields (r.buffer ++ stream) (some outcome) (r'.buffer ++ stream') := by
  induction h generalizing stream with
  | speaks hstep => exact hstep.yields hcuts
  | reads hstep _ ih =>
    obtain ⟨stream', hcuts', hsilent⟩ := hstep.yields hcuts
    rw [← hsilent.eq_of_none]
    exact ih hcuts'

lemma Call.length_readings (h : Call r readings outcome r' rest) :
    rest.length ≤ readings.length ∧ (outcome = .ok .timeout → rest.length < readings.length) := by
  induction h with
  | speaks hstep =>
    obtain ⟨hle, hlt⟩ := hstep.length_readings
    exact ⟨hle, fun ho => hlt (.inr (congrArg some ho))⟩
  | reads hstep _ ih =>
    have hlt := hstep.length_readings.2 (.inl rfl)
    exact ⟨Nat.le_trans ih.1 (Nat.le_of_lt hlt), fun _ => Nat.lt_of_le_of_lt ih.1 hlt⟩

/-! ## Calls one after the other -/

def lineOf : Except Protocol.Fault ReadEvent → List (List UInt8)
  | .ok (.line line) => [line]
  | _ => []

/-- A moment of reading: the lines handed on, the reader, and the readings to come. -/
inductive Reads (readings : List Reading) : List (List UInt8) → LineReader → List Reading → Prop
  | start : Reads readings [] empty readings
  | step {lines r mid said r' rest} : Reads readings lines r mid → Step r mid said r' rest →
    Reads readings (lines ++ said.toList.flatMap lineOf) r' rest

/-- Calls pass through such moments. -/
theorem Reads.call {lines : List (List UInt8)} {mid : List Reading}
    (h : Reads readings lines r mid) (hcall : Call r mid outcome r' rest) :
    Reads readings (lines ++ lineOf outcome) r' rest := by
  induction hcall generalizing lines with
  | speaks hstep =>
    have hnext := h.step hstep
    rwa [Option.toList_some, List.flatMap_singleton] at hnext
  | reads hstep _ ih =>
    have hnext := h.step hstep
    rw [Option.toList_none, List.flatMap_nil, List.append_nil] at hnext
    exact ih hnext

/-- At every moment the lines that were handed on are the first segments of the stream, and the
buffer is bounded. -/
theorem Reads.conserves {lines : List (List UInt8)} (h : Reads readings lines r rest)
    (hcuts : Cuts most stream readings) :
    r.buffer.length ≤ maxLineSize + most ∧ ∃ stream', Cuts most stream' rest ∧
      segments stream = lines ++ segments (r.buffer ++ stream') := by
  induction h with
  | start => exact ⟨Nat.zero_le _, stream, hcuts, rfl⟩
  | step _ hstep ih =>
    obtain ⟨hbuffer, before, hbefore, hsegments⟩ := ih
    obtain ⟨behind, hbehind, hyields⟩ := hstep.yields hbefore
    refine ⟨hstep.length_buffer_le hbefore hbuffer, behind, hbehind, ?_⟩
    rw [hsegments, List.append_assoc]
    refine congrArg _ ?_
    -- From here on only the two contents matter, not where their bytes are.
    generalize _ ++ before = content at hyields
    generalize _ ++ behind = left at hyields
    cases hyields with
    | line hline _ => exact hline
    | hangUp hnil =>
      rw [hnil]
      rfl
    | _ => rfl

def goesOn : Except Protocol.Fault ReadEvent → Bool
  | .ok (.line _) | .ok .timeout => true
  | _ => false

/-- What repeated calls come to, at most `n` of them, up to the hang-up or a fault. -/
def results : Nat → LineReader → List Reading → List (Except Protocol.Fault ReadEvent)
  | 0, _, _ => []
  | n + 1, r, readings =>
    let (outcome, r', rest) := r.next readings
    outcome :: if goesOn outcome then results n r' rest else []

/-- Without the number of bytes in which a line was found too long. -/
def unsized : Except Protocol.Fault ReadEvent → Except Protocol.Fault ReadEvent
  | .error (.tooLarge _ limit) => .error (.tooLarge 0 limit)
  | outcome => outcome

def isTimeout : Except Protocol.Fault ReadEvent → Bool
  | .ok .timeout => true
  | _ => false

/-- What does not depend on when bytes come. -/
def heard (outcomes : List (Except Protocol.Fault ReadEvent)) :
    List (Except Protocol.Fault ReadEvent) :=
  (outcomes.filter fun outcome => !isTimeout outcome).map unsized

/-- What there is to hear of segments: each as a line, up to one that is too long, and then the
hang-up. -/
def toHear : List (List UInt8) → List (Except Protocol.Fault ReadEvent)
  | [] => [.ok .hangUp]
  | segment :: rest =>
    if maxLineSize < (body segment).length then [.error (.tooLarge 0 maxLineSize)]
    else .ok (.line segment) :: toHear rest

lemma length_lt_of_segments {content segment left : List UInt8}
    (h : segments content = segment :: segments left) : left.length < content.length := by
  have hcontent : segment ++ left = content := by
    have hflatten := congrArg List.flatten h
    rw [List.flatten_cons, flatten_segments, flatten_segments] at hflatten
    exact hflatten.symm
  have hne : segment ≠ [] := by
    rintro rfl
    rw [List.nil_append] at hcontent
    rw [hcontent] at h
    exact absurd (congrArg List.length h) (Nat.ne_of_lt (Nat.lt_succ_self _))
  have hpos := List.length_pos_iff.mpr hne
  rw [← hcontent, List.length_append]
  omega

/-- Repeated calls come to what there is to hear, and enough of them to all of it. -/
theorem heard_results (n : Nat) (r : LineReader) (hcuts : Cuts most stream readings) :
    ∃ missing, heard (results n r readings) ++ missing = toHear (segments (r.buffer ++ stream)) ∧
      ((r.buffer ++ stream).length + readings.length < n → missing = []) := by
  induction n generalizing r stream readings with
  | zero => exact ⟨_, rfl, fun h => absurd h (Nat.not_lt_zero _)⟩
  | succ n ih =>
    have hcall := call_next r readings
    rw [results]
    generalize r.next readings = next at hcall
    obtain ⟨outcome, r', rest⟩ := next
    dsimp only at hcall ⊢
    obtain ⟨stream', hcuts', hyields⟩ := hcall.yields hcuts
    obtain ⟨hle, hlt⟩ := hcall.length_readings
    obtain ⟨missing, hmissing, hall⟩ := ih r' hcuts'
    generalize r.buffer ++ stream = content at hyields
    generalize r'.buffer ++ stream' = left at hyields hmissing hall
    -- A timeout takes a reading and a line takes bytes, so enough calls come to the end.
    cases hyields with
    | timeout =>
      have hfewer := hlt rfl
      exact ⟨missing, hmissing, fun h => hall (by omega)⟩
    | line hsegments hshort =>
      rename_i segment
      have hfewer := length_lt_of_segments hsegments
      refine ⟨missing, ?_, fun h => hall (by omega)⟩
      rw [hsegments, toHear, if_neg (Nat.not_lt_of_le hshort), ← hmissing]
      rfl
    | tooLarge hsegments hlong =>
      refine ⟨[], ?_, fun _ => rfl⟩
      rw [hsegments, toHear, if_pos hlong]
      rfl
    | hangUp hnil =>
      refine ⟨[], ?_, fun _ => rfl⟩
      rw [hnil]
      rfl

end LineReader

/-! ## Lines of messages -/

/-- What the peers write: messages, each on a line of its own. -/
inductive IsMessageLine : List UInt8 → Prop
  | agent (m : Protocol.AgentMessage) : IsMessageLine m.line
  | server (m : Protocol.ServerMessage) : IsMessageLine (Text.Utf8.encode m.line)

/-- A line with one line feed, at its end. -/
def IsLine (line : List UInt8) : Prop :=
  ∃ front, lineFeed ∉ front ∧ line = front ++ [lineFeed]

theorem IsMessageLine.isLine {line : List UInt8} (h : IsMessageLine line) : IsLine line := by
  cases h with
  | agent m =>
    exact ⟨_, Text.Utf8.not_mem_encode m.encode.newline_not_mem_chars,
      Text.Utf8.encode_append m.encode.chars ['\n']⟩
  | server m =>
    exact ⟨_, Text.Utf8.not_mem_encode m.encode.newline_not_mem_chars,
      Text.Utf8.encode_append m.encode.chars ['\n']⟩

lemma toHear_lines {lines : List (List UInt8)}
    (h : ∀ line ∈ lines, IsMessageLine line ∧ line.length ≤ maxLineSize + 1) :
    LineReader.toHear (segments lines.flatten) =
      lines.map (fun line => .ok (.line line)) ++ [.ok .hangUp] := by
  induction lines with
  | nil => rfl
  | cons line rest ih =>
    obtain ⟨hmessage, hshort⟩ := h line List.mem_cons_self
    obtain ⟨front, hfront, rfl⟩ := hmessage.isLine
    rw [List.length_append, List.length_singleton] at hshort
    rw [List.flatten_cons, List.append_assoc, List.singleton_append, segments_line hfront,
      LineReader.toHear, body_line hfront, if_neg (by omega),
      ih fun line hl => h line (List.mem_cons_of_mem _ hl)]
    rfl

/-! ## Any stream, cut anyhow -/

open LineReader in
/-- However a stream is cut, what is heard of it is what there is to hear of its segments; at every
moment the bytes handed on, those in the buffer and those to come are the stream, and the buffer is
bounded. Messages, each a line with one line feed at its end, come out one by one. -/
theorem lines_of_any_cut {stream : List UInt8} {readings : List Reading}
    (hcuts : Cuts readSize stream readings) :
    (∀ n, heard (results n empty readings) <+: toHear (segments stream) ∧
      (stream.length + readings.length < n →
        heard (results n empty readings) = toHear (segments stream))) ∧
    (∀ lines r rest, Reads readings lines r rest →
      r.buffer.length ≤ maxLineSize + readSize ∧
      (∃ left, Cuts readSize left rest ∧ lines.flatten ++ r.buffer ++ left = stream ∧
        segments stream = lines ++ segments (r.buffer ++ left)) ∧
      Reads readings (lines ++ lineOf (r.next rest).1) (r.next rest).2.1 (r.next rest).2.2) ∧
    (∀ lines : List (List UInt8),
      (∀ line ∈ lines, IsMessageLine line ∧ line.length ≤ maxLineSize + 1) →
      (∀ line ∈ lines, IsLine line) ∧
        (stream = lines.flatten → ∀ n, stream.length + readings.length < n →
          heard (results n empty readings) =
            lines.map (fun line => .ok (.line line)) ++ [.ok .hangUp])) := by
  have hheard : ∀ n, stream.length + readings.length < n →
      heard (results n empty readings) = toHear (segments stream) := by
    intro n hn
    obtain ⟨missing, hmissing, hall⟩ := heard_results n empty hcuts
    rwa [hall hn, List.append_nil] at hmissing
  refine ⟨fun n => ⟨?_, hheard n⟩, fun lines r rest hreads => ?_, ?_⟩
  · obtain ⟨missing, hmissing, -⟩ := heard_results n empty hcuts
    exact ⟨missing, hmissing⟩
  · obtain ⟨hbuffer, left, hleft, hsegments⟩ := hreads.conserves hcuts
    have hbytes := congrArg List.flatten hsegments
    rw [List.flatten_append, flatten_segments, flatten_segments, ← List.append_assoc] at hbytes
    exact ⟨hbuffer, ⟨left, hleft, hbytes.symm, hsegments⟩, hreads.call (call_next r rest)⟩
  · intro lines hlines
    refine ⟨fun line hl => (hlines line hl).1.isLine, ?_⟩
    rintro rfl n hn
    rw [hheard n hn, toHear_lines hlines]

open LineReader in
/-- Two lines and a tail, cut in the middle of each, with pauses. -/
theorem lines_of_one_cut :
    heard (results 20 empty [.bytes [0x61], .timeout, .bytes [0x62, lineFeed, lineFeed, 0x63],
      .interrupted, .timeout, .timeout, .bytes [0x64], .timeout, .endOfInput, .timeout]) =
      [.ok (.line [0x61, 0x62, lineFeed]), .ok (.line [lineFeed]), .ok (.line [0x63, 0x64]),
        .ok .hangUp] := by
  have hcuts : Cuts readSize ([0x61] ++ ([0x62, lineFeed, lineFeed, 0x63] ++ ([0x64] ++ [])))
      [.bytes [0x61], .timeout, .bytes [0x62, lineFeed, lineFeed, 0x63], .interrupted, .timeout,
        .timeout, .bytes [0x64], .timeout, .endOfInput, .timeout] :=
    .bytes _ (by decide) (by decide) (.timeout
      (.bytes _ (by decide) (by decide) (.interrupted (.timeout (.timeout
        (.bytes _ (by decide) (by decide) (.timeout (.ended (.timeout .done)))))))))
  exact ((lines_of_any_cut hcuts).1 20).2 (by decide)

end ManagementServer.Connection
