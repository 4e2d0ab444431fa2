import ManagementServer.Client
import ManagementServer.Proofs.LineSplit
import ManagementServer.Proofs.RoundTrip

/-!
# What a client reads

A client reads its server's lines in order, however their bytes are cut. A timeout between two lines
changes nothing; one inside a line loses the part of the line that had come (`lost`), and what is
left is read as if it were the line. `Client.Ahead` is what a client has still to read, and
`Client.Ahead.read` what reading a message makes of it; `received_of_any_cut` is about any number
of calls.
-/

namespace ManagementServer

open Connection (Reading Cuts IsLine lineFeed)
open Protocol (ServerMessage)

/-! ## The line of a message -/

namespace Text

lemma toList_trimEnd_newline {front : List Char} {last : Char} (hlast : isBlankChar last = false) :
    (trimEnd (String.ofList (front ++ [last] ++ ['\n']))).toList = front ++ [last] := by
  have hnewline : isBlankChar '\n' = true := by decide
  rw [trimEnd, String.toList_ofList, String.toList_ofList, List.reverse_append,
    List.reverse_singleton, List.singleton_append, List.dropWhile_cons_of_pos hnewline,
    List.reverse_append, List.reverse_singleton, List.singleton_append,
    List.dropWhile_cons_of_neg (by simp [hlast]), List.reverse_cons, List.reverse_reverse]

end Text

def Protocol.ServerMessage.bytes (m : ServerMessage) : List UInt8 :=
  Text.Utf8.encode m.line

/-- A message that reads back from its text. -/
structure Protocol.ServerMessage.IsReadable (m : ServerMessage) : Prop where
  built : m.IsBuilt
  depth : m.encode.depth ≤ Draft.maxDepth

namespace Client

theorem messageOf_bytes {m : ServerMessage} (h : m.IsReadable) : messageOf m.bytes = .ok m := by
  obtain ⟨members, hmembers⟩ : ∃ members, m.encode = .object members := by
    cases m <;> exact ⟨_, rfl⟩
  have hchars : m.encode.chars = '{' :: Json.memberChars members ++ ['}'] := by
    rw [hmembers, Json.chars]
  have hbrace : Text.isBlankChar '}' = false := by decide
  have htrim : (Text.trimEnd (String.ofList m.line)).toList = m.encode.chars := by
    rw [ServerMessage.line, hchars]
    exact Text.toList_trimEnd_newline hbrace
  have hsome : m.bytes.isEmpty = false := by
    obtain ⟨front, -, hfront⟩ := (Connection.IsMessageLine.server m).isLine
    rw [ServerMessage.bytes, hfront]
    cases front <;> rfl
  rw [messageOf, hsome, ServerMessage.bytes, Text.Utf8.decode?_encode]
  simp only [Bool.false_eq_true, if_false, htrim, ServerMessage.fromText_encode h.built h.depth]

/-! ## One line -/

/-- How many bytes have come before each timeout. -/
def pauses (before : Nat) : List Reading → List Nat
  | [] => []
  | .bytes chunk :: rest => pauses (before + chunk.length) rest
  | .timeout :: rest => before :: pauses before rest
  | _ :: rest => pauses before rest

lemma le_of_mem_pauses {before pause : Nat} {readings : List Reading}
    (h : pause ∈ pauses before readings) : before ≤ pause := by
  induction readings generalizing before with
  | nil => cases h
  | cons reading rest ih =>
    cases reading with
    | bytes chunk => exact Nat.le_trans (Nat.le_add_right _ _) (ih h)
    | timeout =>
      rcases List.mem_cons.mp h with rfl | h
      · exact Nat.le_refl _
      · exact ih h
    | _ => exact ih h

/-- The error of a read that had to wait for too long. -/
def timedOut : ClientError := .io "timed out"

variable {most : Nat} {c : Client} {stream : List UInt8} {readings : List Reading} {before : Nat}
  {result : Except ClientError (List UInt8) × Client × List Reading}

/-- What reading a line comes to, with the bytes that come behind: a line; at the end of the input
all that is left; or a timeout, and the part of the line that had come is lost. Of the stream
`taken` has been read. -/
inductive LineRead (most : Nat) (c : Client) (stream : List UInt8) (readings : List Reading)
    (before : Nat) : Except ClientError (List UInt8) × Client × List Reading → Prop
  | line {front buffer rest} (taken stream' : List UInt8) : lineFeed ∉ front →
    c.buffer ++ stream = front ++ lineFeed :: (buffer ++ stream') → stream = taken ++ stream' →
    Cuts most stream' rest → rest.length ≤ readings.length →
    pauses before readings = pauses (before + taken.length) rest →
    LineRead most c stream readings before (.ok (front ++ [lineFeed]), { c with buffer }, rest)
  | tail {rest} : lineFeed ∉ c.buffer ++ stream → Cuts most [] rest →
    rest.length ≤ readings.length →
    pauses before readings = pauses (before + stream.length) rest →
    LineRead most c stream readings before
      (.ok (c.buffer ++ stream), { c with buffer := [] }, rest)
  | timeout {rest} (taken stream' : List UInt8) : lineFeed ∉ c.buffer ++ taken →
    stream = taken ++ stream' → Cuts most stream' rest → rest.length < readings.length →
    pauses before readings = (before + taken.length) :: pauses (before + taken.length) rest →
    LineRead most c stream readings before (.error timedOut, { c with buffer := [] }, rest)

lemma LineRead.bytes {chunk : List UInt8}
    (h : LineRead most { c with buffer := c.buffer ++ chunk } stream readings
      (before + chunk.length) result) :
    LineRead most c (chunk ++ stream) (.bytes chunk :: readings) before result := by
  have hlength : ∀ taken : List UInt8,
      before + chunk.length + taken.length = before + (chunk ++ taken).length := by
    intro taken
    rw [List.length_append, Nat.add_assoc]
  cases h with
  | line taken stream' hfront hcontent htaken hcuts hrest hpauses =>
    rw [hlength] at hpauses
    refine .line (chunk ++ taken) stream' hfront ?_ ?_ hcuts (Nat.le_succ_of_le hrest) hpauses
    · rw [← List.append_assoc]
      exact hcontent
    · rw [htaken, List.append_assoc]
  | tail hcontent hcuts hrest hpauses =>
    rw [hlength] at hpauses
    dsimp only at hcontent ⊢
    rw [List.append_assoc] at hcontent ⊢
    exact .tail hcontent hcuts (Nat.le_succ_of_le hrest) hpauses
  | timeout taken stream' hcontent htaken hcuts hrest hpauses =>
    rw [hlength] at hpauses
    refine .timeout (chunk ++ taken) stream' ?_ ?_ hcuts (Nat.lt_succ_of_lt hrest) hpauses
    · rw [← List.append_assoc]
      exact hcontent
    · rw [htaken, List.append_assoc]

lemma LineRead.interrupted (h : LineRead most c stream readings before result) :
    LineRead most c stream (.interrupted :: readings) before result := by
  cases h with
  | line taken stream' hfront hcontent htaken hcuts hrest hpauses =>
    exact .line taken stream' hfront hcontent htaken hcuts (Nat.le_succ_of_le hrest) hpauses
  | tail hcontent hcuts hrest hpauses =>
    exact .tail hcontent hcuts (Nat.le_succ_of_le hrest) hpauses
  | timeout taken stream' hcontent htaken hcuts hrest hpauses =>
    exact .timeout taken stream' hcontent htaken hcuts (Nat.lt_succ_of_lt hrest) hpauses

lemma lineRead_of_cut {line rest : List UInt8} (hcuts : Cuts most stream readings)
    (h : Connection.LineReader.cut [] c.buffer = some (line, rest)) :
    LineRead most c stream readings before
      (.ok (line ++ [lineFeed]), { c with buffer := rest }, readings) := by
  obtain ⟨front, hline, hfront, hbuffer⟩ := Connection.LineReader.cut_some h
  obtain rfl : line = front := hline
  refine .line [] stream hfront ?_ rfl hcuts (Nat.le_refl _) rfl
  rw [hbuffer, List.append_assoc, List.cons_append]

lemma lineRead_of_end {rest : List Reading} (h : Connection.LineReader.cut [] c.buffer = none)
    (hcuts : Cuts most [] rest) (hrest : rest.length ≤ readings.length)
    (hpauses : pauses before readings = pauses before rest) :
    LineRead most c [] readings before (.ok c.buffer, { c with buffer := [] }, rest) := by
  have hbuffer := Connection.LineReader.cut_none h
  rw [← List.append_nil c.buffer] at hbuffer
  have htail : LineRead most c [] readings before
      (.ok (c.buffer ++ []), { c with buffer := [] }, rest) := .tail hbuffer hcuts hrest hpauses
  rwa [List.append_nil] at htail

theorem lineRead_readLine (c : Client) (before : Nat) (hcuts : Cuts most stream readings) :
    LineRead most c stream readings before (c.readLine readings) := by
  induction hcuts generalizing c before with
  | done =>
    rw [readLine]
    cases hcut : Connection.LineReader.cut [] c.buffer with
    | some found => exact lineRead_of_cut .done hcut
    | none => exact lineRead_of_end hcut .done (Nat.le_refl _) rfl
  | bytes chunk hne hmost hcuts ih =>
    rw [readLine]
    cases hcut : Connection.LineReader.cut [] c.buffer with
    | some found => exact lineRead_of_cut (.bytes chunk hne hmost hcuts) hcut
    | none => exact LineRead.bytes (ih _ _)
  | timeout hcuts ih =>
    rw [readLine]
    cases hcut : Connection.LineReader.cut [] c.buffer with
    | some found => exact lineRead_of_cut (.timeout hcuts) hcut
    | none =>
      refine .timeout [] _ ?_ rfl hcuts (Nat.lt_succ_self _) rfl
      rw [List.append_nil]
      exact Connection.LineReader.cut_none hcut
  | interrupted hcuts ih =>
    rw [readLine]
    cases hcut : Connection.LineReader.cut [] c.buffer with
    | some found => exact lineRead_of_cut (.interrupted hcuts) hcut
    | none => exact LineRead.interrupted (ih _ _)
  | ended hcuts ih =>
    rw [readLine]
    cases hcut : Connection.LineReader.cut [] c.buffer with
    | some found => exact lineRead_of_cut (.ended hcuts) hcut
    | none => exact lineRead_of_end hcut hcuts (Nat.le_succ _) rfl

/-! ## What pauses leave of lines -/

/-- How much of a line that begins at `start` is lost: what had come of it at the last pause inside,
or `least` if that is more. -/
def lost (least : Nat) (pauses : List Nat) (start : Nat) (line : List UInt8) : Nat :=
  (pauses.filter fun pause => pause < start + line.length).foldl
    (fun lost pause => max lost (pause - start)) least

/-- What is read of lines, of which the first begins at `start` and has lost `least` already. -/
def parts (least : Nat) (pauses : List Nat) (start : Nat) : List (List UInt8) → List (List UInt8)
  | [] => []
  | line :: rest =>
    line.drop (lost least pauses start line) :: parts 0 pauses (start + line.length) rest

section Parts

variable {least pause start : Nat} {line : List UInt8} {places : List Nat}

lemma lost_of_forall_le (h : ∀ pause ∈ places, start + line.length ≤ pause) :
    lost least places start line = least := by
  have hnone : places.filter (fun pause => pause < start + line.length) = [] :=
    List.filter_eq_nil_iff.mpr fun pause hp => by simpa using h pause hp
  rw [lost, hnone, List.foldl_nil]

lemma lost_cons (h : pause < start + line.length) :
    lost least (pause :: places) start line =
      lost (max least (pause - start)) places start line := by
  rw [lost, List.filter_cons_of_pos (by simpa using h), List.foldl_cons, lost]

lemma lost_cons_of_le (h : pause ≤ start) :
    lost 0 (pause :: places) start line = lost 0 places start line := by
  by_cases hp : pause < start + line.length
  · rw [lost_cons hp, Nat.sub_eq_zero_of_le h, Nat.max_self]
  · rw [lost, List.filter_cons_of_neg (by simpa using hp), lost]

lemma lost_eq_zero (h : ∀ pause ∈ places, ¬ (start < pause ∧ pause < start + line.length)) :
    lost 0 places start line = 0 := by
  induction places with
  | nil => rfl
  | cons pause rest ih =>
    have hrest := ih fun p hp => h p (List.mem_cons_of_mem _ hp)
    by_cases hp : pause ≤ start
    · rw [lost_cons_of_le hp, hrest]
    · have hbehind : ¬ pause < start + line.length := fun hlt =>
        h pause List.mem_cons_self ⟨Nat.lt_of_not_le hp, hlt⟩
      rw [lost, List.filter_cons_of_neg (by simpa using hbehind)]
      exact hrest

lemma parts_cons_of_le (h : pause ≤ start) (lines : List (List UInt8)) :
    parts 0 (pause :: places) start lines = parts 0 places start lines := by
  induction lines generalizing start with
  | nil => rfl
  | cons line rest ih =>
    rw [parts, parts, lost_cons_of_le h, ih (Nat.le_trans h (Nat.le_add_right _ _))]

lemma parts_pause {come : Nat} (hleast : least ≤ come) (hcome : come < line.length)
    (rest : List (List UInt8)) :
    parts least ((start + come) :: places) start (line :: rest) =
      parts come places start (line :: rest) := by
  have hinside : start + come < start + line.length := Nat.add_lt_add_left hcome start
  rw [parts, parts, lost_cons hinside, Nat.add_sub_cancel_left, Nat.max_eq_right hleast,
    parts_cons_of_le (Nat.le_of_lt hinside)]

lemma length_parts (lines : List (List UInt8)) :
    (parts least places start lines).length = lines.length := by
  induction lines generalizing least start with
  | nil => rfl
  | cons line rest ih => rw [parts, List.length_cons, ih, List.length_cons]

end Parts

/-! ## What is still to be read -/

/-- What a client with these bytes in its buffer has still to read: parts of lines, the first of
which may have lost its beginning before. -/
inductive Ahead (buffer : List UInt8) (readings : List Reading) : List (List UInt8) → Prop
  | intro {most : Nat} {stream : List UInt8} (start come : Nat) (lines : List (List UInt8)) :
    Cuts most stream readings → (∀ line ∈ lines, IsLine line) →
    (∀ line ∈ lines.head?, come < line.length) → buffer ++ stream = lines.flatten.drop come →
    Ahead buffer readings (parts come (pauses (start + come + buffer.length) readings) start lines)

lemma ahead_nil {rest : List Reading} (hcuts : Cuts most [] rest) : Ahead [] rest [] :=
  .intro 0 0 [] hcuts (fun _ h => absurd h List.not_mem_nil) (fun _ h => by cases h) rfl

/-- The first line feed stands at one place. -/
lemma append_lineFeed_inj {front front' left left' : List UInt8} (hfront : lineFeed ∉ front)
    (hfront' : lineFeed ∉ front') (h : front ++ lineFeed :: left = front' ++ lineFeed :: left') :
    front = front' ∧ left = left' := by
  have hsegments := congrArg Connection.segments h
  rw [Connection.segments_line hfront, Connection.segments_line hfront'] at hsegments
  obtain rfl := List.append_cancel_right (List.cons.inj hsegments).1
  exact ⟨rfl, (List.cons.inj (List.append_cancel_left h)).2⟩

lemma length_le_of_append {part back front left : List UInt8} (hpart : lineFeed ∉ part)
    (hfront : lineFeed ∉ front) (h : part ++ back = front ++ lineFeed :: left) :
    part.length ≤ front.length := by
  have hle := Connection.length_le_body hpart back
  rwa [h, Connection.body_line hfront] at hle

lemma drop_line {front : List UInt8} {come : Nat} (h : come < (front ++ [lineFeed]).length)
    (rest : List (List UInt8)) :
    (List.flatten ((front ++ [lineFeed]) :: rest)).drop come =
      front.drop come ++ lineFeed :: rest.flatten := by
  rw [List.length_append, List.length_singleton] at h
  rw [List.flatten_cons, List.append_assoc, List.singleton_append,
    List.drop_append_of_le_length (Nat.le_of_lt_succ h)]

section Steps

variable {buffer front taken stream' : List UInt8} {later : List (List UInt8)} {rest : List Reading}
  {start come : Nat}

/-- Behind a whole line the others are still to be read. -/
lemma ahead_behind_line {after : List UInt8} (hlines : ∀ line ∈ later, IsLine line)
    (hinside : come ≤ front.length)
    (hline : buffer ++ (taken ++ stream') = front.drop come ++ lineFeed :: (after ++ stream'))
    (hlater : after ++ stream' = later.flatten) (hcuts : Cuts most stream' rest) :
    let places := pauses (start + come + buffer.length + taken.length) rest
    (∀ pause ∈ places, start + (front ++ [lineFeed]).length ≤ pause) ∧
      Ahead after rest (parts 0 places (start + (front ++ [lineFeed]).length) later) := by
  have hbefore : start + come + buffer.length + taken.length =
      start + (front ++ [lineFeed]).length + 0 + after.length := by
    have hlength := congrArg List.length hline
    simp only [List.length_append, List.length_cons, List.length_drop, List.length_nil]
      at hlength ⊢
    omega
  intro places
  have hplaces : places = pauses (start + (front ++ [lineFeed]).length + 0 + after.length) rest :=
    congrArg (pauses · rest) hbefore
  rw [hplaces]
  refine ⟨fun pause hp => Nat.le_trans (Nat.le_add_right _ _) (le_of_mem_pauses hp), ?_⟩
  refine .intro _ 0 later hcuts hlines (fun line hl => ?_) hlater
  obtain ⟨front, -, rfl⟩ := hlines line (List.mem_of_mem_head? hl)
  rw [List.length_append]
  exact Nat.succ_pos _

/-- Behind a timeout the line at hand has lost what had come of it. -/
lemma ahead_behind_timeout (hlines : ∀ line ∈ (front ++ [lineFeed]) :: later, IsLine line)
    (hfront : lineFeed ∉ front) (hinside : come < (front ++ [lineFeed]).length)
    (hnone : lineFeed ∉ buffer ++ taken)
    (hcontent : buffer ++ taken ++ stream' =
      (List.flatten ((front ++ [lineFeed]) :: later)).drop come) (hcuts : Cuts most stream' rest) :
    let place := start + come + buffer.length + taken.length
    Ahead [] rest
      (parts come (place :: pauses place rest) start ((front ++ [lineFeed]) :: later)) := by
  -- No line feed has come, so the timeout is inside the line.
  have hpart : (buffer ++ taken).length ≤ (front.drop come).length := by
    have hleft := hcontent
    rw [drop_line hinside] at hleft
    exact length_le_of_append hnone (fun hm => hfront (List.mem_of_mem_drop hm)) hleft
  have hmore : come + (buffer ++ taken).length < (front ++ [lineFeed]).length := by
    rw [List.length_drop] at hpart
    simp only [List.length_append, List.length_singleton] at hpart hinside ⊢
    omega
  have hplace : start + come + buffer.length + taken.length =
      start + (come + (buffer ++ taken).length) := by
    rw [List.length_append]
    omega
  have hbehind : stream' = (List.flatten ((front ++ [lineFeed]) :: later)).drop
      (come + (buffer ++ taken).length) := by
    rw [← List.drop_drop, ← hcontent, List.drop_left]
  dsimp only
  rw [hplace, parts_pause (Nat.le_add_right _ _) hmore]
  refine .intro start _ _ hcuts hlines ?_ hbehind
  rintro line ⟨⟩
  exact hmore

end Steps

/-- What reading a message comes to: the message of the next part; or a timeout; or the connection
is closed, as nothing is left. -/
inductive MessageRead (c : Client) (readings : List Reading) (left : List (List UInt8)) :
    Except ClientError ServerMessage × Client × List Reading → Prop
  | message {buffer rest} (part : List UInt8) (more : List (List UInt8)) : left = part :: more →
    part ≠ [] → Ahead buffer rest more → rest.length ≤ readings.length →
    MessageRead c readings left (messageOf part, { c with buffer }, rest)
  | timeout {buffer rest} : Ahead buffer rest left → rest.length < readings.length →
    MessageRead c readings left (.error timedOut, { c with buffer }, rest)
  | closed {buffer rest} : left = [] → Ahead buffer rest [] → rest.length ≤ readings.length →
    MessageRead c readings left (.error .closed, { c with buffer }, rest)

theorem Ahead.read {left : List (List UInt8)} (h : Ahead c.buffer readings left) :
    MessageRead c readings left (c.readMessage readings) := by
  obtain ⟨start, come, lines, hcuts, hlines, hcome, hcontent⟩ := h
  have hread := lineRead_readLine c (start + come + c.buffer.length) hcuts
  rw [readMessage]
  generalize c.readLine readings = result at hread ⊢
  cases hread with
  | line taken stream' hfront' hline htaken hcuts' hrest hpauses =>
    -- What is read and what is left of the first line ahead both end at the first line feed.
    rw [hline] at hcontent
    cases lines with
    | nil => simp at hcontent
    | cons line later =>
      obtain ⟨front, hfront, rfl⟩ := hlines line List.mem_cons_self
      have hinside : come < (front ++ [lineFeed]).length := hcome _ rfl
      have hle : come ≤ front.length := by
        rw [List.length_append] at hinside
        exact Nat.le_of_lt_succ hinside
      have hdrop : lineFeed ∉ front.drop come := fun hm => hfront (List.mem_of_mem_drop hm)
      rw [drop_line hinside] at hcontent
      obtain ⟨rfl, hlater⟩ := append_lineFeed_inj hfront' hdrop hcontent
      rw [htaken] at hline
      obtain ⟨hpassed, hahead⟩ := ahead_behind_line
        (fun line hl => hlines line (List.mem_cons_of_mem _ hl)) hle hline hlater hcuts'
      rw [hpauses]
      refine .message _ _ ?_ (by simp) hahead hrest
      rw [parts, lost_of_forall_le hpassed, List.drop_append_of_le_length hle]
  | tail hnone hcuts' hrest hpauses =>
    have hnil : lines = [] := by
      cases lines with
      | nil => rfl
      | cons line later =>
        obtain ⟨front, -, rfl⟩ := hlines line List.mem_cons_self
        rw [hcontent, drop_line (hcome _ rfl)] at hnone
        exact absurd (List.mem_append_right _ List.mem_cons_self) hnone
    subst hnil
    rw [List.flatten_nil, List.drop_nil] at hcontent
    rw [hcontent]
    exact .closed rfl (ahead_nil hcuts') hrest
  | timeout taken stream' hnone htaken hcuts' hrest hpauses =>
    rw [htaken, ← List.append_assoc] at hcontent
    rw [hpauses]
    cases lines with
    | nil =>
      rw [List.flatten_nil, List.drop_nil] at hcontent
      obtain ⟨-, rfl⟩ := List.append_eq_nil_iff.mp hcontent
      exact .timeout (ahead_nil hcuts') hrest
    | cons line later =>
      obtain ⟨front, hfront, rfl⟩ := hlines line List.mem_cons_self
      exact .timeout (ahead_behind_timeout hlines hfront (hcome _ rfl) hnone hcontent hcuts') hrest

/-! ## Calls one after the other -/

def isTimeout : Except ClientError ServerMessage → Bool
  | .error error => error == timedOut
  | .ok _ => false

def isClosed : Except ClientError ServerMessage → Bool
  | .error error => error == .closed
  | .ok _ => false

/-- What repeated calls come to, at most `n` of them, until the connection is closed. -/
def receipts : Nat → Client → List Reading → List (Except ClientError ServerMessage)
  | 0, _, _ => []
  | n + 1, c, readings =>
    let (outcome, c, rest) := c.receive readings
    outcome :: if isClosed outcome then [] else receipts n c rest

def heard (outcomes : List (Except ClientError ServerMessage)) :
    List (Except ClientError ServerMessage) :=
  outcomes.filter fun outcome => !isTimeout outcome

lemma messageOf_goesOn {part : List UInt8} (h : part ≠ []) :
    isTimeout (messageOf part) = false ∧ isClosed (messageOf part) = false := by
  rw [messageOf, if_neg (by simpa using h)]
  split
  · exact ⟨by decide, by decide⟩
  · dsimp only
    split
    · exact ⟨rfl, rfl⟩
    · exact ⟨rfl, rfl⟩

/-- Repeated calls hand out the parts that are left, and enough of them all. -/
theorem heard_receipts (n : Nat) (hc : c.pending = []) {left : List (List UInt8)}
    (h : Ahead c.buffer readings left) :
    ∃ missing, heard (receipts n c readings) ++ missing = left.map messageOf ++ [.error .closed] ∧
      (left.length + readings.length < n → missing = []) := by
  induction n generalizing c readings left with
  | zero => exact ⟨_, rfl, fun hn => absurd hn (Nat.not_lt_zero _)⟩
  | succ n ih =>
    have hread := h.read
    have hreceive : c.receive readings = c.readMessage readings := by rw [receive, hc]
    rw [receipts, hreceive]
    generalize c.readMessage readings = result at hread
    cases hread with
    | message part more hleft hpart hahead hrest =>
      rename_i buffer rest
      obtain ⟨hheard, hgoes⟩ := messageOf_goesOn hpart
      obtain ⟨missing, hmissing, hall⟩ := ih (c := { c with buffer }) hc hahead
      refine ⟨missing, ?_, fun hn => hall ?_⟩
      · simp only [hgoes, Bool.false_eq_true, if_false]
        rw [heard, List.filter_cons_of_pos (by simp [hheard]), List.cons_append, ← heard, hmissing,
          hleft, List.map_cons, List.cons_append]
      · rw [hleft, List.length_cons] at hn
        omega
    | timeout hahead hrest =>
      rename_i buffer rest
      obtain ⟨missing, hmissing, hall⟩ := ih (c := { c with buffer }) hc hahead
      exact ⟨missing, hmissing, fun hn => hall (by omega)⟩
    | closed hleft hahead hrest =>
      rw [hleft]
      exact ⟨[], rfl, fun _ => rfl⟩

/-- A client that has just connected has all messages ahead. -/
lemma ahead_fresh {most : Nat} {ms : List ServerMessage}
    (hcuts : Cuts most (ms.map ServerMessage.bytes).flatten readings) :
    Ahead [] readings (parts 0 (pauses 0 readings) 0 (ms.map ServerMessage.bytes)) := by
  have hlines : ∀ line ∈ ms.map ServerMessage.bytes, IsLine line := by
    intro line hl
    obtain ⟨m, -, rfl⟩ := List.mem_map.mp hl
    exact (Connection.IsMessageLine.server m).isLine
  refine .intro 0 0 _ hcuts hlines (fun line hl => ?_) rfl
  obtain ⟨front, -, rfl⟩ := hlines line (List.mem_of_mem_head? hl)
  rw [List.length_append]
  exact Nat.succ_pos _

def startOf (ms : List ServerMessage) (i : Nat) : Nat :=
  ((ms.take i).map ServerMessage.bytes).flatten.length

lemma startOf_succ {ms : List ServerMessage} {i : Nat} {m : ServerMessage} (hm : ms[i]? = some m) :
    startOf ms (i + 1) = startOf ms i + m.bytes.length := by
  rw [startOf, List.take_add_one, hm, Option.toList_some, List.map_append, List.flatten_append,
    List.length_append, List.map_singleton, List.flatten_singleton, startOf]

lemma startOf_cons (first : ServerMessage) (rest : List ServerMessage) (i : Nat) :
    startOf (first :: rest) (i + 1) = first.bytes.length + startOf rest i := by
  rw [startOf, List.take_succ_cons, List.map_cons, List.flatten_cons, List.length_append, startOf]

/-- No pause is inside the line of the message at `i`. -/
def IsUncut (places : List Nat) (ms : List ServerMessage) (i : Nat) : Prop :=
  ∀ pause ∈ places, ¬ (startOf ms i < pause ∧ pause < startOf ms (i + 1))

lemma getElem?_parts {ms : List ServerMessage} {i start : Nat} {m : ServerMessage}
    {places : List Nat} (hm : ms[i]? = some m) (hplaces : ∀ pause ∈ places,
      ¬ (start + startOf ms i < pause ∧ pause < start + startOf ms (i + 1))) :
    (parts 0 places start (ms.map ServerMessage.bytes))[i]? = some m.bytes := by
  induction ms generalizing i start with
  | nil => cases hm
  | cons first rest ih =>
    rw [List.map_cons, parts]
    cases i with
    | zero =>
      obtain rfl : first = m := Option.some.inj hm
      rw [startOf_succ hm, ← Nat.add_assoc] at hplaces
      have hnone : lost 0 places start first.bytes = 0 := lost_eq_zero hplaces
      rw [List.getElem?_cons_zero, hnone, List.drop_zero]
    | succ i =>
      rw [List.getElem?_cons_succ]
      refine ih hm fun pause hp => ?_
      have hpause := hplaces pause hp
      rwa [startOf_cons, startOf_cons, ← Nat.add_assoc, ← Nat.add_assoc] at hpause

/-- A message that reads back is read unless there is a pause inside its line. -/
lemma getElem?_map_messageOf {places : List Nat} {ms : List ServerMessage} {i : Nat}
    {m : ServerMessage} (hm : ms[i]? = some m) (hreadable : m.IsReadable)
    (huncut : IsUncut places ms i) :
    ((parts 0 places 0 (ms.map ServerMessage.bytes)).map messageOf)[i]? = some (.ok m) := by
  have hpart : (parts 0 places 0 (ms.map ServerMessage.bytes))[i]? = some m.bytes :=
    getElem?_parts hm (by simpa [IsUncut] using huncut)
  rw [List.getElem?_map, hpart, Option.map_some, messageOf_bytes hreadable]

/-- Messages that read back are read if there is no pause inside a line. -/
lemma map_messageOf_parts {places : List Nat} {ms : List ServerMessage}
    (hreadable : ∀ m ∈ ms, m.IsReadable) (huncut : ∀ i < ms.length, IsUncut places ms i) :
    (parts 0 places 0 (ms.map ServerMessage.bytes)).map messageOf = ms.map .ok := by
  refine List.ext_getElem? fun i => ?_
  cases hm : ms[i]? with
  | none =>
    have hi : ms.length ≤ i := List.getElem?_eq_none_iff.mp hm
    rw [List.getElem?_eq_none (by simpa [length_parts] using hi), List.getElem?_map, hm,
      Option.map_none]
  | some m =>
    have hi : i < ms.length := (List.getElem?_eq_some_iff.mp hm).1
    rw [getElem?_map_messageOf hm (hreadable m (List.mem_of_getElem? hm)) (huncut i hi),
      List.getElem?_map, hm, Option.map_some]

/-- However the lines of messages are cut, and wherever timeouts are, calling until the connection
is closed hands out, in order, what is read of the part of each line that comes behind the last
timeout inside it; so a message that reads back is handed out unless there is a timeout inside its
line. -/
theorem received_of_any_cut {most : Nat} {ms : List ServerMessage}
    (hcuts : Cuts most (ms.map ServerMessage.bytes).flatten readings) :
    let places := pauses 0 readings
    let read := (parts 0 places 0 (ms.map ServerMessage.bytes)).map messageOf
    (∀ n, heard (receipts n fresh readings) <+: read ++ [.error .closed] ∧
      (ms.length + readings.length < n →
        heard (receipts n fresh readings) = read ++ [.error .closed])) ∧
    read.length = ms.length ∧
    (∀ i m, ms[i]? = some m → m.IsReadable → IsUncut places ms i → read[i]? = some (.ok m)) ∧
    ((∀ m ∈ ms, m.IsReadable) → (∀ i < ms.length, IsUncut places ms i) →
      read = ms.map Except.ok) := by
  intro places read
  have hlength : read.length = ms.length := by
    rw [List.length_map, length_parts, List.length_map]
  refine ⟨fun n => ?_, hlength, fun i m => getElem?_map_messageOf, map_messageOf_parts⟩
  obtain ⟨missing, hmissing, hall⟩ := heard_receipts (c := fresh) n rfl (ahead_fresh hcuts)
  refine ⟨⟨missing, hmissing⟩, fun hn => ?_⟩
  rw [length_parts, List.length_map] at hall
  rwa [hall hn, List.append_nil] at hmissing

/-- Two messages, cut inside their lines, and timeouts before, between and behind them. -/
theorem received_between_timeouts :
    let first := ServerMessage.registered "s1"
    let second := ServerMessage.reply "s1" (some "7") .ok
    heard (receipts 20 fresh [.timeout, .bytes (first.bytes.take 7), .interrupted,
      .bytes (first.bytes.drop 7), .timeout, .bytes (second.bytes.take 9),
      .bytes (second.bytes.drop 9), .timeout]) = [.ok first, .ok second, .error .closed] := by
  intro first second
  have hcuts : Cuts 1024 ([first, second].map ServerMessage.bytes).flatten
      [.timeout, .bytes (first.bytes.take 7), .interrupted, .bytes (first.bytes.drop 7), .timeout,
        .bytes (second.bytes.take 9), .bytes (second.bytes.drop 9), .timeout] := by
    have hpieces : Cuts 1024 (first.bytes.take 7 ++ (first.bytes.drop 7 ++
        (second.bytes.take 9 ++ (second.bytes.drop 9 ++ [])))) _ :=
      .timeout (.bytes _ (by decide +kernel) (by decide +kernel) (.interrupted
        (.bytes _ (by decide +kernel) (by decide +kernel) (.timeout
          (.bytes _ (by decide +kernel) (by decide +kernel)
            (.bytes _ (by decide +kernel) (by decide +kernel) (.timeout .done)))))))
    simpa [← List.append_assoc] using hpieces
  have hreadable : ∀ m ∈ [first, second], m.IsReadable := by
    simp only [List.forall_mem_cons]
    exact ⟨⟨trivial, by decide⟩, ⟨trivial, by decide⟩, fun _ h => absurd h List.not_mem_nil⟩
  obtain ⟨hall, -, -, hread⟩ := received_of_any_cut hcuts
  rw [(hall 20).2 (by decide), hread hreadable (by unfold IsUncut; decide +kernel)]
  rfl

/-- A timeout inside the line of a message: the client reads what comes behind it as if it were the
line, where a `LineReader` hands out the whole line. -/
theorem timeout_inside_line_loses_message :
    let m := ServerMessage.registered "s1"
    let readings := [.bytes (m.bytes.take 16), .timeout, .bytes (m.bytes.drop 16)]
    m.IsReadable ∧ Cuts Connection.readSize ([m].map ServerMessage.bytes).flatten readings ∧
      heard (receipts 6 fresh readings) =
        [.error (.decode "red\",\"session_id\":\"s1\"\x7d" .malformed), .error .closed] ∧
      heard (receipts 6 fresh readings) ≠ [.ok m, .error .closed] ∧
      Connection.LineReader.heard (Connection.LineReader.results 6 .empty readings) =
        [.ok (.line m.bytes), .ok .hangUp] := by
  intro m readings
  have hcuts : Cuts Connection.readSize (m.bytes.take 16 ++ (m.bytes.drop 16 ++ [])) readings :=
    .bytes _ (by decide +kernel) (by decide +kernel)
      (.timeout (.bytes _ (by decide +kernel) (by decide +kernel) .done))
  have hheard : heard (receipts 6 fresh readings) =
      [.error (.decode "red\",\"session_id\":\"s1\"\x7d" .malformed), .error .closed] := by rfl
  refine ⟨⟨trivial, by decide⟩, by simpa using hcuts, hheard, ?_, by rfl⟩
  rw [hheard]
  intro h
  cases (List.cons.inj h).1

end Client

end ManagementServer
