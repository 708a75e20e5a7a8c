import AnyCable.Hub.Broadcast
import AnyCable.Lib.JsonDecode
import AnyCable.Lib.JsonNormal

/-! # The JSON encoder

`encoders.JSON` (`encoders/json.go`): `Encode` marshals a message for a client,
and `Decode` unmarshals a client's frame into a `common.Message`.

A broadcast reaches `Encode` as the `CachedEncodedMessage` that `buildMessage`
(`node/hub.go`) made; its `MarshalJSON` marshals the `Reply` inside, and
`json.Marshal` compacts that output, which leaves what `json.Marshal` wrote as
it is. `buildMessage` unmarshals the broadcast data into an `interface{}` and
ignores the error, so data that is not a JSON text leaves it nil and the reply's
message is `null`, not the data as a string (`buildMessage_of_invalid`). Every
frame sent for a broadcast reads back as the identifier and the decoded data
(`sendPlain_readBack`).
-/

namespace AnyCable
open GoJson
set_option autoImplicit false

namespace Common

/-- `common.Message`; `Data` is an `interface{}`. -/
structure Message where
  command : String
  identifier : String
  data : Json

def messageFields : List (GoJson.Field Message) :=
  [⟨"command".toList, .string, fun s m => { m with command := String.ofList s }⟩,
   ⟨"identifier".toList, .string, fun s m => { m with identifier := String.ofList s }⟩,
   ⟨"data".toList, .any, fun d m => { m with data := d }⟩]

def Message.toJson (m : Message) : Json :=
  .obj [("command".toList, .str m.command.toList), ("identifier".toList, .str m.identifier.toList),
    ("data".toList, m.data)]

end Common

namespace Encoders
open Common

/-- `json.Unmarshal` into a nil `interface{}`, with the error ignored: the
decoded value, or nil. -/
def unmarshalAny (data : String) : Json :=
  match parseText data.toList with
  | some j => toAny j
  | none => .null

/-- `json.Marshal` of a `common.Reply` with no `Type` (`omitempty`). -/
def replyJson (r : Reply Json) : Json :=
  .obj [("identifier".toList, .str r.identifier.toList), ("message".toList, r.message)]

/-- `JSON.Encode`: `json.Marshal` cannot fail on these values. -/
def encodeReply : EncodeFunction Json (List Char) := fun r => (some (encode (replyJson r)), none)

/-- `JSON.Decode`: `json.Unmarshal(raw, &msg)` with `msg` a `*common.Message`;
`null` sets the pointer to nil, which `Decode` returns with no error. -/
def decode (raw : List Char) : Except JsonError (Option Message) :=
  match parseText raw with
  | none => .error .malformed
  | some .null => .ok none
  | some j =>
    let d := decodeStruct "Message".toList "common.Message".toList messageFields ⟨"", "", .null⟩ j
    match d.2 with
    | some e => .error (.unmarshalType e)
    | none => .ok (some d.1)

theorem decode_of_invalid {raw : List Char} (h : parseText raw = none) : decode raw = .error .malformed := by
  rw [decode, h]

theorem decodeStruct_message (m : Message) :
    decodeStruct "Message".toList "common.Message".toList messageFields ⟨"", "", .null⟩ m.toJson =
      ({ m with data := (Kind.any.store m.data).1.getD .null },
        (Kind.any.store m.data).2.map fun e => ⟨e.1, e.2, some ("Message".toList, "data".toList)⟩) := by
  simp [decodeStruct, Message.toJson, storeMember, findField, messageFields]
  cases (Kind.any.store m.data).1 <;> rfl

theorem message_toJson_wellFormed (m : Message) (hw : m.data.wellFormed) : m.toJson.wellFormed := by
  simp [Message.toJson, Json.wellFormed, membersWellFormed, hw]

theorem decode_encode_message (m : Message) (hw : m.data.wellFormed) (hRange : rangeError m.data = none) :
    decode (encode m.toJson) = .ok (some { m with data := toAny m.data }) := by
  rw [decode, parseText_encode _ (message_toJson_wellFormed m hw)]
  simp only [Message.toJson]
  rw [← Message.toJson, decodeStruct_message, store_any_of_rangeError hRange]
  rfl

theorem decode_encode_message_of_rangeError (m : Message) (hw : m.data.wellFormed) {lexeme : List Char}
    (hRange : rangeError m.data = some lexeme) :
    decode (encode m.toJson) =
      .error (.unmarshalType ⟨"number ".toList ++ lexeme, "float64".toList, some ("Message".toList, "data".toList)⟩) := by
  rw [decode, parseText_encode _ (message_toJson_wellFormed m hw)]
  simp only [Message.toJson]
  rw [← Message.toJson, decodeStruct_message, store_any_error_of_rangeError hRange]
  rfl

/-- A message that `Decode` returned, marshalled and decoded again, comes back
unchanged: its data is already in the form `toAny` gives. -/
theorem decode_encode_stable (m m' : Message) (hw : m.data.wellFormed)
    (h : decode (encode m.toJson) = .ok (some m')) : decode (encode m'.toJson) = .ok (some m') := by
  cases hRange : rangeError m.data with
  | some lexeme =>
    rw [decode_encode_message_of_rangeError m hw hRange] at h
    cases h
  | none =>
    rw [decode_encode_message m hw hRange] at h
    obtain rfl : { m with data := toAny m.data } = m' := Option.some.inj (Except.ok.inj h)
    rw [decode_encode_message _ (toAny_wellFormed _ hw) (rangeError_toAny _), toAny_toAny]

theorem unmarshalAny_of_invalid {data : String} (h : parseText data.toList = none) :
    unmarshalAny data = .null := by
  rw [unmarshalAny, h]

example : encode (unmarshalAny "[1.50, 1e2, -0.0, 1e400]") = "[1.5,100,-0,null]".toList := by
  decide +kernel

theorem replyJson_wellFormed (r : Reply Json) (hw : r.message.wellFormed) : (replyJson r).wellFormed := by
  simp [replyJson, Json.wellFormed, membersWellFormed, hw]

theorem encodeReply_readBack (r : Reply Json) (hw : r.message.wellFormed) :
    ∃ frame, encodeReply r = (some frame, none) ∧ parseText frame = some (replyJson r) :=
  ⟨_, rfl, parseText_encode _ (replyJson_wellFormed r hw)⟩

/-- Broadcast data that is not a JSON text reaches the client with a `null`
message: the frame reads back as the identifier and `null`. -/
theorem buildMessage_of_invalid (data identifier : String) (h : parseText data.toList = none) :
    ∃ frame, encodeReply (buildMessage unmarshalAny data identifier : CachedEncodedMessage Json (List Char)).target =
        (some frame, none) ∧
      parseText frame = some (.obj [("identifier".toList, .str identifier.toList), ("message".toList, .null)]) := by
  have hTarget : (buildMessage unmarshalAny data identifier : CachedEncodedMessage Json (List Char)).target = ⟨identifier, .null⟩ := by
    rw [buildMessage, unmarshalAny_of_invalid h]
  rw [hTarget]
  exact encodeReply_readBack _ rfl

theorem buildMessage_of_invalid_hello :
    parseText "hello".toList = none ∧
      ∃ frame, encodeReply (buildMessage unmarshalAny "hello" "chat" : CachedEncodedMessage Json (List Char)).target =
          (some frame, none) ∧
        parseText frame = some (.obj [("identifier".toList, .str "chat".toList), ("message".toList, .null)]) :=
  ⟨by decide +kernel, buildMessage_of_invalid "hello" "chat" (by decide +kernel)⟩

end Encoders

end AnyCable
