import ManagementServer.Device.Descriptor
import ManagementServer.Proofs.Descriptors
import ManagementServer.Proofs.JsonText
import ManagementServer.Proofs.RecordReading
import ManagementServer.Proofs.Utf8
import ManagementServer.Protocol.Answer
import ManagementServer.Settings.Endpoint

/-!
# What is written reads back

Every value that is sent, and every value that can be stored, is read back from the text that it is
written as: capability sets, descriptors, endpoints, errors, replies, and the messages of both
sides. The values are those that can be built: a capability set by insertion, operations sorted, a
port of 16 bits, and JSON in messages with its keys in order and no number but integers; and the
text must not be nested deeper than is read.

For each type `decode_encode` is about the draft of what is written, and `fromText_encode` about its
text; `AgentMessage.parse_encode` is about the bytes of a line with any blanks behind.
-/

namespace ManagementServer

/-- A value that texts bring back: keys in order, and no number but integers. -/
structure Json.IsPlain (v : Json) : Prop where
  ordered : v.isOrdered = true
  integral : v.isIntegral = true

namespace Json

lemma itemsAreIntegral_texts (texts : List String) :
    itemsAreIntegral (texts.map .string) = true := by
  induction texts with
  | nil => rfl
  | cons text rest ih => simp [itemsAreIntegral, isIntegral, ih]

lemma isIntegral_texts (items : List String) : (texts items).isIntegral = true :=
  itemsAreIntegral_texts items

lemma itemsDepth_texts (texts : List String) : itemsDepth (texts.map .string) = 0 := by
  induction texts with
  | nil => rfl
  | cons text rest ih => simp [itemsDepth, depth, ih]

lemma depth_texts (items : List String) : (texts items).depth = 1 := by
  rw [texts, depth, itemsDepth_texts]

end Json

namespace Decoder

lemma value_ofJson {v : Json} (h : v.isOrdered = true) : value (.ofJson v) = .ok v := by
  rw [value, Json.toJson?_ofJson v h]

lemma items_texts (texts : List String) :
    items text (Draft.ofItems (texts.map .string)) = .ok texts := by
  induction texts with
  | nil => rfl
  | cons first rest ih =>
    rw [List.map_cons, Draft.ofItems, Draft.ofJson, items, ih]
    rfl

lemma list_texts (texts : List String) : list text (.ofJson (Json.texts texts)) = .ok texts := by
  rw [Json.texts, Draft.ofJson]
  exact items_texts texts

end Decoder

/-! ## What modules declare -/

namespace CapabilitySet

/-- The sets that insertion builds. -/
def IsBuilt (s : CapabilitySet) : Prop :=
  ∃ uris, s = ofList uris

theorem decode_encode {s : CapabilitySet} (h : s.IsBuilt) : decode (.ofJson s.encode) = .ok s := by
  obtain ⟨uris, rfl⟩ := h
  rw [decode, encode, Decoder.list_texts]
  exact congrArg Except.ok (ofList_uris (isProper_ofList uris))

theorem fromText_encode {s : CapabilitySet} (h : s.IsBuilt) :
    decode.fromText s.encode.chars = .ok s :=
  Decoder.fromText_chars (Json.isIntegral_texts s.uris)
    (by rw [encode, Json.depth_texts]; decide) (decode_encode h)

end CapabilitySet

namespace Device.Descriptor

/-- What a descriptor can declare: a set of capabilities and a set of operations. -/
structure IsBuilt (d : Descriptor) : Prop where
  capabilities : d.capabilities.IsBuilt
  operations : ∃ operations, d.operations = sortOperations operations

/-- The fields as they are written. -/
def contents (d : Descriptor) : Contents :=
  [("name", some (.string d.name)), ("capabilities", some d.capabilities.encode),
    ("operations", some (Json.texts d.operations)),
    ("repository", d.repository.map fun r => .string r.name), ("allowed", some (.bool d.allowed))]

lemma encode_eq (d : Descriptor) : d.encode = .object d.contents.present := by
  obtain ⟨name, capabilities, operations, repository, allowed⟩ := d
  cases repository <;> rfl

lemma takes_operations (operations : List String) :
    (Record.required "operations" fun draft =>
        sortOperations <$> Decoder.list Decoder.text draft).Takes
      [("operations", some (Json.texts (sortOperations operations)))]
      (sortOperations operations) := by
  refine Record.takes_required ?_ "operations"
  rw [Decoder.list_texts]
  exact congrArg Except.ok (sortOperations_sortOperations operations)

lemma takes_contents {d : Descriptor} (h : d.IsBuilt) : fields.Takes d.contents d := by
  obtain ⟨capabilities, operations, hoperations⟩ := h
  obtain ⟨name, _, _, repository, allowed⟩ := d
  subst hoperations
  have hrepository := Record.takes_optional (fun draft => Repository.mk <$> Decoder.text draft)
    Repository.name (fun _ => rfl) "repository" repository
  exact ((((Record.takes_text "name" name).map mk |>.seq
    (Record.takes_required (CapabilitySet.decode_encode capabilities) "capabilities")).seq
    (takes_operations operations)).seq hrepository).seq (Record.takes_flag "allowed" allowed)

theorem decode_encode {d : Descriptor} (h : d.IsBuilt) : decode (.ofJson d.encode) = .ok d := by
  rw [encode_eq]
  exact Record.read_present (takes_contents h) (by decide) .malformed

theorem fromText_encode {d : Descriptor} (h : d.IsBuilt) :
    decode.fromText d.encode.chars = .ok d := by
  have hintegral : d.encode.isIntegral = true := by
    obtain ⟨name, capabilities, operations, repository, allowed⟩ := d
    cases repository <;> simp [encode, CapabilitySet.encode, Json.isIntegral,
      Json.membersAreIntegral, Json.isIntegral_texts]
  have hdepth : d.encode.depth ≤ Draft.maxDepth := by
    obtain ⟨name, capabilities, operations, repository, allowed⟩ := d
    cases repository <;> simp [encode, CapabilitySet.encode, Json.depth, Json.membersDepth,
      Json.depth_texts, Draft.maxDepth]
  exact Decoder.fromText_chars hintegral hdepth (decode_encode h)

end Device.Descriptor

/-! ## Where the server listens -/

namespace Settings.Endpoint

def IsBuilt : Endpoint → Prop
  | .unix _ => True
  | .tcp _ port => port < 65536

lemma takes_port {port : Nat} (h : port < 65536) :
    (Record.required "port" (Decoder.natBelow 65536)).Takes [("port", some (.ofNat port))]
      port := by
  refine Record.takes_required ?_ "port"
  have hrange : 0 ≤ (port : Int) ∧ (port : Int) < (65536 : Nat) := by omega
  rw [Json.ofNat, Draft.ofJson, Decoder.natBelow, if_pos hrange, Int.toNat_natCast]

theorem decode_encode {e : Endpoint} (h : e.IsBuilt) : decode (.ofJson e.encode) = .ok e := by
  cases e with
  | unix path =>
    exact Tagged.read_present rfl ((Record.takes_text "path" path).map unix) (by decide)
  | tcp host port =>
    have hport : port < 65536 := h
    have htakes := ((Record.takes_text "host" host).map tcp).seq (takes_port hport)
    have hcase : tagged.cases.lookup "tcp" = some (tcp <$> Record.required "host" Decoder.text
        <*> Record.required "port" (Decoder.natBelow 65536)) := rfl
    have hread := Tagged.read_present hcase htakes (by decide)
    exact hread

theorem fromText_encode {e : Endpoint} (h : e.IsBuilt) :
    decode.fromText e.encode.chars = .ok e := by
  have hintegral : e.encode.isIntegral = true := by
    cases e with
    | unix path => rfl
    | tcp host port =>
      have hport : port < 65536 := h
      simp [encode, Json.isIntegral, Json.membersAreIntegral, Json.ofNat, Number.isExact]
      omega
  have hdepth : e.encode.depth ≤ Draft.maxDepth := by
    cases e <;> simp [encode, Json.depth, Json.membersDepth, Json.ofNat, Draft.maxDepth]
  exact Decoder.fromText_chars hintegral hdepth (decode_encode h)

end Settings.Endpoint

/-! ## Answers to requests -/

namespace Rpc

def Error.contents (e : Error) : Contents :=
  [("kind", some (.string e.kind.name)), ("message", some (.string e.message)),
    ("bad_element", e.badElement.map Json.string)]

lemma Error.members_eq (e : Error) : e.members = e.contents.present := by
  obtain ⟨kind, message, badElement⟩ := e
  cases badElement <;> rfl

lemma ErrorKind.decode_name (k : ErrorKind) :
    ErrorKind.decode.withinMessage (.ofJson (.string k.name)) = .ok k := by
  cases k <;> rfl

lemma Error.takes_contents (e : Error) : fields.Takes e.contents e :=
  (((Record.takes_required e.kind.decode_name "kind").map mk).seq
    (Record.takes_text "message" e.message)).seq
    (Record.takes_optional Decoder.text id (fun _ => rfl) "bad_element" e.badElement)

theorem Error.decode_encode (e : Error) : decode (.ofJson e.encode) = .ok e := by
  rw [encode, members_eq]
  exact Record.read_present e.takes_contents (by decide) .malformed

lemma Error.membersAreIntegral (e : Error) : Json.membersAreIntegral e.members = true := by
  obtain ⟨kind, message, badElement⟩ := e
  cases badElement <;> rfl

lemma Error.membersDepth (e : Error) : Json.membersDepth e.members = 0 := by
  obtain ⟨kind, message, badElement⟩ := e
  cases badElement <;> rfl

theorem Error.fromText_encode (e : Error) : decode.fromText e.encode.chars = .ok e := by
  refine Decoder.fromText_chars e.membersAreIntegral ?_ e.decode_encode
  rw [encode, Json.depth, membersDepth]
  decide

namespace Reply

def IsBuilt : Reply → Prop
  | .data value => value.IsPlain
  | _ => True

theorem decode_encode {r : Reply} (h : r.IsBuilt) : decode (.ofJson r.encode) = .ok r := by
  cases r with
  | ok => exact Tagged.read_present rfl (Record.takes_pure Reply.ok) (by decide)
  | data value =>
    have hdata := Record.takes_required (Decoder.value_ofJson (Json.IsPlain.ordered h)) "data"
    exact Tagged.read_present rfl (hdata.map Reply.data) (by decide)
  | error e =>
    rw [encode, Error.members_eq]
    exact Tagged.read_present rfl (e.takes_contents.map Reply.error) (by decide)

lemma isIntegral_encode {r : Reply} (h : r.IsBuilt) : r.encode.isIntegral = true := by
  cases r with
  | ok => rfl
  | data value =>
    simp [encode, Json.isIntegral, Json.membersAreIntegral, Json.IsPlain.integral h]
  | error e =>
    simp [encode, Json.isIntegral, Json.membersAreIntegral, e.membersAreIntegral]

theorem fromText_encode {r : Reply} (h : r.IsBuilt) (hd : r.encode.depth ≤ Draft.maxDepth) :
    decode.fromText r.encode.chars = .ok r :=
  Decoder.fromText_chars (isIntegral_encode h) hd (decode_encode h)

end Reply

end Rpc

/-! ## Messages from agents -/

namespace Protocol

namespace AgentMessage

/-- The capabilities of a hello are a set, the payload of a request is plain. -/
def IsBuilt : AgentMessage → Prop
  | .hello h => h.capabilities.IsBuilt
  | .getCapabilities => True
  | .rpc r => r.payload.IsPlain

end AgentMessage

lemma OperationKind.decode_name (k : OperationKind) :
    OperationKind.decode.withinMessage (.string (some k.name)) = .ok k := by
  cases k <;> rfl

def Request.contents (r : Request) : Contents :=
  [("session_id", some (.string r.sessionId)), ("message_id", r.messageId.map Json.string),
    ("operation", some (.string r.operation)),
    ("op_kind", r.kind.map fun k => .string k.name),
    ("payload", if r.payload == .null then none else some r.payload)]

lemma takes_payload {payload : Json} (h : payload.isOrdered = true) :
    (Record.defaulted "payload" Decoder.value .null).Takes
      [("payload", if payload == .null then none else some payload)] payload := by
  cases payload with
  | null => exact Record.takes_absent "payload" Decoder.value .null
  | _ => exact Record.takes_field (Decoder.value_ofJson h) "payload" (some .null)

namespace AgentMessage

lemma encode_rpc (r : Request) :
    (rpc r).encode = .object (("kind", .string "rpc") :: r.contents.present) := by
  obtain ⟨sessionId, messageId, operation, kind, payload⟩ := r
  by_cases hnull : (payload == .null) = true <;> cases messageId <;> cases kind <;>
    simp [encode, optionalMember, Request.contents, Contents.present, hnull]

theorem decode_encode {m : AgentMessage} (h : m.IsBuilt) : decode (.ofJson m.encode) = .ok m := by
  cases m with
  | hello hello =>
    have htakes := (((Record.takes_text "session_id" hello.sessionId).map
      fun i u c => AgentMessage.hello ⟨i, u, c⟩).seq
      (Record.takes_text "username" hello.username)).seq
      (Record.takes_field (CapabilitySet.decode_encode h) "capabilities" (some .empty))
    exact Tagged.read_present rfl htakes (by decide)
  | getCapabilities =>
    exact Tagged.read_present rfl (Record.takes_pure getCapabilities) (by decide)
  | rpc r =>
    have htakes := (((((Record.takes_text "session_id" r.sessionId).map
      fun i m o k p => AgentMessage.rpc ⟨i, m, o, k, p⟩).seq
      (Record.takes_optional Decoder.text id (fun _ => rfl) "message_id" r.messageId)).seq
      (Record.takes_text "operation" r.operation)).seq
      (Record.takes_optional OperationKind.decode.withinMessage OperationKind.name
        OperationKind.decode_name "op_kind" r.kind)).seq
      (takes_payload (Json.IsPlain.ordered h))
    rw [encode_rpc]
    exact Tagged.read_present rfl htakes (by decide)

lemma isIntegral_encode {m : AgentMessage} (h : m.IsBuilt) : m.encode.isIntegral = true := by
  cases m with
  | hello hello =>
    simp [encode, CapabilitySet.encode, Json.isIntegral, Json.membersAreIntegral,
      Json.isIntegral_texts]
  | getCapabilities => rfl
  | rpc r =>
    obtain ⟨sessionId, messageId, operation, kind, payload⟩ := r
    have hpayload : payload.isIntegral = true := Json.IsPlain.integral h
    by_cases hnull : (payload == .null) = true <;> cases messageId <;> cases kind <;>
      simp [encode, optionalMember, Json.isIntegral, Json.membersAreIntegral, hnull, hpayload]

theorem fromText_encode {m : AgentMessage} (h : m.IsBuilt) (hd : m.encode.depth ≤ Draft.maxDepth) :
    decode.fromText m.encode.chars = .ok m :=
  Decoder.fromText_chars (isIntegral_encode h) hd (decode_encode h)

/-! A message ends with its closing brace, so the blanks behind it are found. -/

lemma encode_eq_object (m : AgentMessage) : ∃ members, m.encode = .object members := by
  cases m <;> exact ⟨_, rfl⟩

lemma trimTrailing_append (used : List UInt8) {last : UInt8} {blanks : List UInt8}
    (hlast : isTrailingBlank last = false) (hblanks : ∀ b ∈ blanks, isTrailingBlank b = true) :
    trimTrailing (used ++ [last] ++ blanks) = used ++ [last] := by
  have hreverse : ∀ b ∈ blanks.reverse, isTrailingBlank b = true := fun b hb =>
    hblanks b (List.mem_reverse.mp hb)
  rw [trimTrailing, List.reverse_append, List.dropWhile_append_of_pos hreverse,
    List.reverse_append, List.reverse_singleton, List.singleton_append,
    List.dropWhile_cons_of_neg (by simp [hlast]), List.reverse_cons, List.reverse_reverse]

/-- A line reads as the message that it carries, whatever blanks stand behind. -/
theorem parse_encode {m : AgentMessage} (h : m.IsBuilt) (hd : m.encode.depth ≤ Draft.maxDepth)
    {blanks : List UInt8} (hblanks : ∀ b ∈ blanks, isTrailingBlank b = true) :
    parse (Text.Utf8.encode m.encode.chars ++ blanks) = .ok m := by
  obtain ⟨members, hmembers⟩ := m.encode_eq_object
  have hbytes : Text.Utf8.encode m.encode.chars =
      Text.Utf8.encode ('{' :: Json.memberChars members) ++ [0x7D] := by
    rw [hmembers, Json.chars, Text.Utf8.encode_append]
    rfl
  have hbrace : isTrailingBlank 0x7D = false := rfl
  have htrim := trimTrailing_append (Text.Utf8.encode ('{' :: Json.memberChars members)) hbrace
    hblanks
  rw [← hbytes] at htrim
  rw [parse, htrim]
  split
  · rename_i hempty
    rw [hbytes] at hempty
    exact absurd hempty (List.append_ne_nil_of_right_ne_nil _ (List.cons_ne_nil _ _))
  · rw [Text.Utf8.readable_encode, fromText_encode h hd]

end AgentMessage

/-! ## Messages from the server -/

namespace ServerMessage

/-- Capabilities are a set, the data of a reply and the body of a notification are plain. -/
def IsBuilt : ServerMessage → Prop
  | .capabilities c => c.IsBuilt
  | .reply _ _ r => r.IsBuilt
  | .notification _ _ _ _ body => body.IsPlain
  | _ => True

theorem decode_encode {m : ServerMessage} (h : m.IsBuilt) : decode (.ofJson m.encode) = .ok m := by
  cases m with
  | registered id =>
    exact Tagged.read_present rfl ((Record.takes_text "session_id" id).map registered) (by decide)
  | capabilities c =>
    have hset := Record.takes_required (CapabilitySet.decode_encode h) "capabilities"
    exact Tagged.read_present rfl (hset.map capabilities) (by decide)
  | reply sessionId messageId r =>
    have htakes := (((Record.takes_text "session_id" sessionId).map reply).seq
      (Record.takes_optional Decoder.text id (fun _ => rfl) "message_id" messageId)).seq
      (Record.takes_required (Rpc.Reply.decode_encode h) "reply")
    have hcase : tagged.cases.lookup "reply" = some _ := rfl
    have hread := Tagged.read_present hcase htakes (by decide)
    cases messageId <;> exact hread
  | notification id time stream event body =>
    have htakes := (((((Record.takes_text "session_id" id).map notification).seq
      (Record.takes_text "event_time" time)).seq (Record.takes_text "stream" stream)).seq
      (Record.takes_text "event" event)).seq
      (Record.takes_required (Decoder.value_ofJson (Json.IsPlain.ordered h)) "body")
    exact Tagged.read_present rfl htakes (by decide)
  | error kind message =>
    have htakes := ((Record.takes_optional Rpc.ErrorKind.decode.withinMessage Rpc.ErrorKind.name
      Rpc.ErrorKind.decode_name "error_kind" kind).map error).seq
      (Record.takes_text "message" message)
    have hcase : tagged.cases.lookup "error" = some _ := rfl
    have hread := Tagged.read_present hcase htakes (by decide)
    cases kind <;> exact hread

lemma isIntegral_encode {m : ServerMessage} (h : m.IsBuilt) : m.encode.isIntegral = true := by
  cases m with
  | registered id => rfl
  | capabilities c =>
    simp [encode, CapabilitySet.encode, Json.isIntegral, Json.membersAreIntegral,
      Json.isIntegral_texts]
  | reply id messageId r =>
    have hreply := Rpc.Reply.isIntegral_encode h
    cases messageId <;>
      simp [encode, AgentMessage.optionalMember, Json.isIntegral, Json.membersAreIntegral, hreply]
  | notification id time stream event body =>
    simp [encode, Json.isIntegral, Json.membersAreIntegral, Json.IsPlain.integral h]
  | error kind message => cases kind <;> rfl

theorem fromText_encode {m : ServerMessage} (h : m.IsBuilt) (hd : m.encode.depth ≤ Draft.maxDepth) :
    decode.fromText m.encode.chars = .ok m :=
  Decoder.fromText_chars (isIntegral_encode h) hd (decode_encode h)

end ServerMessage

end Protocol

/-! ## All that is written -/

open Protocol in
/-- Whatever is written reads back as what it was. -/
theorem written_reads_back :
    (∀ s : CapabilitySet, s.IsBuilt → CapabilitySet.decode.fromText s.encode.chars = .ok s) ∧
    (∀ d : Device.Descriptor, d.IsBuilt →
      Device.Descriptor.decode.fromText d.encode.chars = .ok d) ∧
    (∀ e : Settings.Endpoint, e.IsBuilt →
      Settings.Endpoint.decode.fromText e.encode.chars = .ok e) ∧
    (∀ e : Rpc.Error, Rpc.Error.decode.fromText e.encode.chars = .ok e) ∧
    (∀ r : Rpc.Reply, r.IsBuilt → r.encode.depth ≤ Draft.maxDepth →
      Rpc.Reply.decode.fromText r.encode.chars = .ok r) ∧
    (∀ m : ServerMessage, m.IsBuilt → m.encode.depth ≤ Draft.maxDepth →
      ServerMessage.decode.fromText m.encode.chars = .ok m) ∧
    (∀ m : AgentMessage, m.IsBuilt → m.encode.depth ≤ Draft.maxDepth →
      AgentMessage.decode.fromText m.encode.chars = .ok m ∧
      ∀ blanks, (∀ b ∈ blanks, AgentMessage.isTrailingBlank b = true) →
        AgentMessage.parse (Text.Utf8.encode m.encode.chars ++ blanks) = .ok m) :=
  ⟨fun _ => CapabilitySet.fromText_encode, fun _ => Device.Descriptor.fromText_encode,
    fun _ => Settings.Endpoint.fromText_encode, Rpc.Error.fromText_encode,
    fun _ => Rpc.Reply.fromText_encode, fun _ => ServerMessage.fromText_encode,
    fun _ h hd => ⟨AgentMessage.fromText_encode h hd, fun _ => AgentMessage.parse_encode h hd⟩⟩

open Protocol in
/-- A request with nested data, escapes and a character of four bytes, two blanks behind it, and a
set that was built with a repetition. -/
theorem written_request_reads_back :
    let payload : Json := .object [("list", .array [.null, .number (.integer (-1)), .object
      [("quote \" \\ \n \x01", .string "é 😀"), ("zero", .bool false)]])]
    let request := AgentMessage.rpc ⟨"s1", some "7", "edit-config", some .device, payload⟩
    let set := CapabilitySet.ofList ["urn:b?revision=1", " urn:a ", "urn:b"]
    AgentMessage.parse (Text.Utf8.encode request.encode.chars ++ [0x0D, 0x0A]) = .ok request ∧
      CapabilitySet.decode.fromText set.encode.chars = .ok set := by
  intro payload request set
  obtain ⟨hset, -, -, -, -, -, hmessage⟩ := written_reads_back
  have hplain : request.IsBuilt := ⟨by decide, by decide⟩
  have hblanks : ∀ b ∈ [(0x0D : UInt8), 0x0A], AgentMessage.isTrailingBlank b = true := by
    simp only [List.forall_mem_cons]
    exact ⟨rfl, rfl, fun _ h => absurd h List.not_mem_nil⟩
  exact ⟨(hmessage request hplain (by decide)).2 _ hblanks, hset set ⟨_, rfl⟩⟩

end ManagementServer
