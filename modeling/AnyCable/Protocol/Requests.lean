import AnyCable.Common.SessionEnv
import AnyCable.Lib.JsonDecode

/-! # The payloads of the RPC calls

`NewConnectMessage`, `NewCommandMessage` and `NewDisconnectMessage`
(`protocol/protocol.go`) build the payload of each RPC call from the session's
env. Every payload carries the URL, the headers and the connection state. A
command also carries the state of its own channel, as a map. A disconnect
carries the states of all the channels, each as the text `json.Marshal` writes
for it. That text reads back as the channel's state (`newDisconnectMessage_istate`).

Every builder dereferences `env.Headers`, so a nil `Headers` panics, and the
builders then return `none` (`requests_eq_none_iff`).
-/

namespace AnyCable.Protocol
open GoMap GoJson Common
set_option autoImplicit false

/-- `pb.Env`; a map the message leaves nil reads as empty. -/
structure ProtoEnv where
  url : String
  headers : Map String String
  cstate : Map String String
  istate : Map String String

def buildEnv (env : SessionEnv) : Option ProtoEnv :=
  match env.headers with
  | none => none
  | some headers => some ⟨env.url, headers, env.connectionState.getD ∅, ∅⟩

def stringMapMembers (m : Map String String) : List (List Char × Json) :=
  m.entries.foldl (fun acc e => insertKey e.1.toList (.str e.2.toList) acc) []

def encodeChannelStates (states : Map String (Map String String)) : Map String String :=
  states.entries.foldl (fun acc e => acc.insert e.1 (String.ofList (encode (.obj (stringMapMembers e.2))))) ∅

def buildDisconnectEnv (env : SessionEnv) : Option ProtoEnv :=
  (buildEnv env).map fun protoEnv =>
    match env.channelStates with
    | none => protoEnv
    | some states => { protoEnv with istate := encodeChannelStates states }

def buildChannelEnv (id : String) (env : SessionEnv) : Option ProtoEnv :=
  (buildEnv env).map fun protoEnv =>
    match env.channelStates with
    | none => protoEnv
    | some states =>
      match states.lookup id with
      | some state => { protoEnv with istate := state }
      | none => protoEnv

structure CommandMessage where
  command : String
  identifier : String
  connectionIdentifiers : String
  data : String
  env : ProtoEnv

structure DisconnectRequest where
  identifiers : String
  subscriptions : List String
  env : ProtoEnv

/-- `NewConnectMessage`: the `ConnectionRequest` holds only the env. -/
def newConnectMessage (env : SessionEnv) : Option ProtoEnv := buildEnv env

def newCommandMessage (env : SessionEnv) (command channel identifiers data : String) :
    Option CommandMessage :=
  (buildChannelEnv channel env).map fun protoEnv => ⟨command, channel, identifiers, data, protoEnv⟩

def newDisconnectMessage (env : SessionEnv) (identifiers : String) (subscriptions : List String) :
    Option DisconnectRequest :=
  (buildDisconnectEnv env).map fun protoEnv => ⟨identifiers, subscriptions, protoEnv⟩

/-! ## What the builders carry -/

theorem buildEnv_eq_none_iff (env : SessionEnv) : buildEnv env = none ↔ env.headers = none := by
  unfold buildEnv
  cases env.headers with
  | none => simp
  | some headers => simp

theorem requests_eq_none_iff (env : SessionEnv) (command channel identifiers data : String)
    (subscriptions : List String) :
    (newConnectMessage env = none ↔ env.headers = none) ∧
      (newCommandMessage env command channel identifiers data = none ↔ env.headers = none) ∧
      (newDisconnectMessage env identifiers subscriptions = none ↔ env.headers = none) := by
  refine ⟨buildEnv_eq_none_iff env, ?_, ?_⟩
  · simp [newCommandMessage, buildChannelEnv, buildEnv_eq_none_iff]
  · simp [newDisconnectMessage, buildDisconnectEnv, buildEnv_eq_none_iff]

/-! ## A state as JSON text -/

theorem stringMapMembers_wellFormed (m : Map String String) : membersWellFormed (stringMapMembers m) := by
  unfold stringMapMembers
  suffices h : ∀ (l : List (Sigma fun _ : String => String)) (acc : List (List Char × Json)),
      membersWellFormed acc → membersWellFormed (l.foldl (fun acc e => insertKey e.1.toList (.str e.2.toList) acc) acc) from
    h _ [] rfl
  intro l
  induction l with
  | nil => exact fun _ hAcc => hAcc
  | cons e l ih => exact fun acc hAcc => ih _ (insertKey_wellFormed _ rfl hAcc)

theorem lookup_foldl_insertKey (l : List (Sigma fun _ : String => String)) (hl : l.NodupKeys)
    (acc : List (List Char × Json)) (k : String) :
    (l.foldl (fun acc e => insertKey e.1.toList (.str e.2.toList) acc) acc).lookup k.toList =
      (l.dlookup k).elim (acc.lookup k.toList) fun v => some (.str v.toList) := by
  induction l generalizing acc with
  | nil => rfl
  | cons e l ih =>
    obtain ⟨k₀, v₀⟩ := e
    obtain ⟨hNotMem, hl⟩ := List.nodupKeys_cons.mp hl
    rw [List.foldl_cons, ih hl]
    by_cases hKey : k = k₀
    · subst hKey
      rw [List.dlookup_eq_none.mpr hNotMem, List.dlookup_cons_eq]
      simp [lookup_insertKey]
    · have hChars : k.toList ≠ k₀.toList := fun h => hKey (String.toList_inj.mp h)
      rw [List.dlookup_cons_ne l _ hKey]
      cases l.dlookup k with
      | none => simp [lookup_insertKey, hChars]
      | some v => rfl

theorem stringMapMembers_readBack (m : Map String String) :
    parseText (encode (.obj (stringMapMembers m))) = some (.obj (stringMapMembers m)) ∧
      ∀ k, (stringMapMembers m).lookup k.toList = (m.lookup k).map fun v => .str v.toList := by
  refine ⟨parseText_encode _ (stringMapMembers_wellFormed m), fun k => ?_⟩
  rw [stringMapMembers, lookup_foldl_insertKey _ m.nodupKeys]
  cases h : m.entries.dlookup k <;> simp [AList.lookup, h]

theorem lookup_encodeChannelStates (states : Map String (Map String String)) (id : String) :
    (encodeChannelStates states).lookup id =
      (states.lookup id).map fun state => String.ofList (encode (.obj (stringMapMembers state))) := by
  rw [encodeChannelStates, lookup_foldl_insert (fun _ state => String.ofList (encode (.obj (stringMapMembers state))))
    _ states.nodupKeys]
  cases h : states.lookup id <;> simp_all [AList.lookup]

/-- The disconnect request holds, for every channel with a state and for no
other, JSON text that reads back as an object with exactly that state's
entries. -/
theorem newDisconnectMessage_istate (env : SessionEnv) (identifiers : String) (subscriptions : List String)
    (headers : Map String String) (states : Map String (Map String String))
    (hHeaders : env.headers = some headers) (hStates : env.channelStates = some states) :
    ∃ req, newDisconnectMessage env identifiers subscriptions = some req ∧
      (∀ id, id ∉ states → req.env.istate.lookup id = none) ∧
      ∀ id state, states.lookup id = some state →
        ∃ text members, req.env.istate.lookup id = some text ∧ parseText text.toList = some (.obj members) ∧
          ∀ k, members.lookup k.toList = (state.lookup k).map fun v => .str v.toList := by
  have hReq : newDisconnectMessage env identifiers subscriptions =
      some ⟨identifiers, subscriptions, ⟨env.url, headers, env.connectionState.getD ∅, encodeChannelStates states⟩⟩ := by
    simp [newDisconnectMessage, buildDisconnectEnv, buildEnv, hHeaders, hStates]
  refine ⟨_, hReq, ?_, ?_⟩
  · intro id hId
    rw [lookup_encodeChannelStates, AList.lookup_eq_none.mpr hId, Option.map_none]
  · intro id state hState
    rw [lookup_encodeChannelStates, hState, Option.map_some]
    obtain ⟨hRead, hLookup⟩ := stringMapMembers_readBack state
    exact ⟨_, _, rfl, by rw [String.toList_ofList]; exact hRead, hLookup⟩

theorem newDisconnectMessage_istate_chat :
    (⟨"ws://demo", some ∅, some ∅, some ((∅ : Map String (Map String String)).insert "chat" ((∅ : Map String String).insert "k" "v"))⟩ : SessionEnv).headers = some ∅ ∧
      (⟨"ws://demo", some ∅, some ∅, some ((∅ : Map String (Map String String)).insert "chat" ((∅ : Map String String).insert "k" "v"))⟩ : SessionEnv).channelStates =
        some ((∅ : Map String (Map String String)).insert "chat" ((∅ : Map String String).insert "k" "v")) ∧
      ∃ req, newDisconnectMessage ⟨"ws://demo", some ∅, some ∅,
          some ((∅ : Map String (Map String String)).insert "chat" ((∅ : Map String String).insert "k" "v"))⟩ "alice" ["chat"] = some req :=
  ⟨rfl, rfl,
    (newDisconnectMessage_istate ⟨"ws://demo", some ∅, some ∅,
      some ((∅ : Map String (Map String String)).insert "chat" ((∅ : Map String String).insert "k" "v"))⟩ "alice" ["chat"]
      ∅ _ rfl rfl).imp fun _ h => h.1⟩

end AnyCable.Protocol
