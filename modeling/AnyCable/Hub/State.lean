import AnyCable.Lib.GoMap

/-! # The hub's registry and subscription index

`Hub` (`node/hub.go`) keeps four nested maps: registered sessions by UID, UIDs
by connection identifiers, `stream → sid → identifier` for broadcasting, and
the auxiliary `sid → identifier → [stream]` that the removal paths walk. Every
function below is one critical section of `hub.go` on the hub as a value; the
mutexes only make each of them atomic.

The read lemmas at the end say what each operation does to the two relations
the rest of the development uses: `Subscribed` (the triple is in `streams`) and
`listed` (the stream is in `sessionsStreams`).
-/

namespace AnyCable
open GoMap
set_option autoImplicit false

structure SessionRef where
  ref : Nat
  uid : String
  identifiers : String
  encoder : String
  deriving DecidableEq, Repr

structure Hub where
  sessions : Map String SessionRef
  identifiers : Map String (Map String Bool)
  streams : Map String (Map String (Map String Bool))
  sessionsStreams : Map String (Map String (List String))

namespace Hub

def newHub : Hub := ⟨∅, ∅, ∅, ∅⟩

def addSession (h : Hub) (session : SessionRef) : Hub :=
  { h with
    sessions := h.sessions.insert session.uid session
    identifiers := h.identifiers.insert session.identifiers
      ((get h.identifiers session.identifiers).insert session.uid true) }

def dropStream (streams : Map String (Map String (Map String Bool)))
    (sid identifier stream : String) : Map String (Map String (Map String Bool)) :=
  let streams := modify streams stream (fun sessions => modify sessions sid (·.erase identifier))
  let streams :=
    if len (get (get streams stream) sid) = 0 then modify streams stream (·.erase sid) else streams
  if len (get streams stream) = 0 then streams.erase stream else streams

/-- `Hub.unsubscribeSessionFromChannel`: walks the listed streams of the pair,
leaving the list itself in place. -/
def unsubscribeSessionFromChannel (h : Hub) (sid identifier : String) : Hub :=
  if sid ∉ h.sessionsStreams then h
  else
    { h with
      streams := (get (get h.sessionsStreams sid) identifier).foldl
        (fun streams stream => dropStream streams sid identifier stream) h.streams }

def unsubscribeSessionFromAllChannels (h : Hub) (sid : String) : Hub :=
  let h' := (get h.sessionsStreams sid).keys.foldl
    (fun h channel => unsubscribeSessionFromChannel h sid channel) h
  { h' with sessionsStreams := h'.sessionsStreams.erase sid }

/-- `Hub.removeSession`: ignored for a UID that is not registered. -/
def removeSession (h : Hub) (session : SessionRef) : Hub :=
  if session.uid ∉ h.sessions then h
  else
    let h := unsubscribeSessionFromAllChannels h session.uid
    let identifiers := modify h.identifiers session.identifiers (·.erase session.uid)
    { h with
      sessions := h.sessions.erase session.uid
      identifiers :=
        if len (get identifiers session.identifiers) = 0 then
          identifiers.erase session.identifiers
        else identifiers }

/-- `Hub.subscribeSession`: creates the missing levels and appends the stream
to the pair's list, also when it is listed already. -/
def subscribeSession (h : Hub) (sid stream identifier : String) : Hub :=
  let sessions := get h.streams stream
  let channels := get h.sessionsStreams sid
  { h with
    streams := h.streams.insert stream
      (sessions.insert sid ((get sessions sid).insert identifier true))
    sessionsStreams := h.sessionsStreams.insert sid
      (channels.insert identifier (get channels identifier ++ [stream])) }

/-- `Hub.unsubscribeSession`: deletes the identifier and nothing else. -/
def unsubscribeSession (h : Hub) (sid stream identifier : String) : Hub :=
  if stream ∉ h.streams then h
  else if sid ∉ get h.streams stream then h
  else if identifier ∉ get (get h.streams stream) sid then h
  else { h with streams := modify h.streams stream (fun sessions => modify sessions sid (·.erase identifier)) }

def size (h : Hub) : Nat := len h.sessions

def uniqSize (h : Hub) : Nat := len h.identifiers

def streamsSize (h : Hub) : Nat := len h.streams

structure HubRegistration where
  event : String
  session : SessionRef
  deriving DecidableEq

structure HubSubscription where
  event : String
  session : String
  stream : String
  identifier : String
  deriving DecidableEq

def handleRegistration (h : Hub) (r : HubRegistration) : Hub :=
  if r.event = "add" then addSession h r.session else removeSession h r.session

def handleSubscription (h : Hub) (info : HubSubscription) : Hub :=
  if info.event = "add" then subscribeSession h info.session info.stream info.identifier
  else if info.event = "removeAll" then unsubscribeSessionFromChannel h info.session info.identifier
  else unsubscribeSession h info.session info.stream info.identifier

/-! ### The two relations and what each operation does to them -/

/-- `streams[stream][sid][identifier]` is present. -/
def Subscribed (streams : Map String (Map String (Map String Bool)))
    (stream sid identifier : String) : Prop :=
  identifier ∈ get (get streams stream) sid

def listed (h : Hub) (sid identifier : String) : List String :=
  get (get h.sessionsStreams sid) identifier

instance (streams : Map String (Map String (Map String Bool))) (stream sid identifier : String) :
    Decidable (Subscribed streams stream sid identifier) := by
  unfold Subscribed; infer_instance

theorem get_get_dropStream (streams : Map String (Map String (Map String Bool)))
    (sid identifier stream s' sid' : String) :
    get (get (dropStream streams sid identifier stream) s') sid' =
      if s' = stream ∧ sid' = sid then (get (get streams stream) sid).erase identifier
      else get (get streams s') sid' := by
  unfold dropStream
  rw [get_eraseIfEmpty, get_get_eraseIfEmpty,
    get_modify _ _ _ (modify_empty sid (·.erase identifier))]
  split
  · subst s'
    rw [get_modify _ _ _ (erase_empty identifier)]
    by_cases hSid : sid' = sid <;> simp [hSid]
  · simp [*]

theorem subscribed_dropStream (streams : Map String (Map String (Map String Bool)))
    (sid identifier stream s' sid' id' : String) :
    Subscribed (dropStream streams sid identifier stream) s' sid' id' ↔
      Subscribed streams s' sid' id' ∧ ¬(s' = stream ∧ sid' = sid ∧ id' = identifier) := by
  unfold Subscribed
  rw [get_get_dropStream]
  split
  · rename_i hPair
    obtain ⟨rfl, rfl⟩ := hPair
    simp [AList.mem_erase, and_comm]
  · rename_i hPair
    exact ⟨fun hSub => ⟨hSub, fun hEq => hPair ⟨hEq.1, hEq.2.1⟩⟩, And.left⟩

theorem subscribed_foldl_dropStream (sid identifier : String) (streams0 : List String)
    (streams : Map String (Map String (Map String Bool))) (s' sid' id' : String) :
    Subscribed (streams0.foldl (fun streams stream => dropStream streams sid identifier stream) streams)
        s' sid' id' ↔
      Subscribed streams s' sid' id' ∧ ¬(sid' = sid ∧ id' = identifier ∧ s' ∈ streams0) := by
  induction streams0 generalizing streams with
  | nil => simp
  | cons stream rest ih =>
    rw [List.foldl_cons, ih, subscribed_dropStream]
    by_cases hPair : sid' = sid ∧ id' = identifier
    · obtain ⟨rfl, rfl⟩ := hPair
      simp only [List.mem_cons, true_and, and_true, not_or]
      tauto
    · simp only [hPair, not_false_eq_true, and_true, and_false]
      tauto

theorem subscribed_subscribeSession (h : Hub) (sid stream identifier s' sid' id' : String) :
    Subscribed (h.subscribeSession sid stream identifier).streams s' sid' id' ↔
      Subscribed h.streams s' sid' id' ∨ (s' = stream ∧ sid' = sid ∧ id' = identifier) := by
  unfold Subscribed subscribeSession
  simp only [get_insert]
  by_cases hStream : s' = stream
  · subst hStream
    by_cases hSid : sid' = sid
    · subst hSid
      simp [AList.mem_insert, or_comm]
    · simp [hSid, get_insert]
  · simp [hStream]

theorem subscribed_unsubscribeSession (h : Hub) (sid stream identifier s' sid' id' : String) :
    Subscribed (h.unsubscribeSession sid stream identifier).streams s' sid' id' ↔
      Subscribed h.streams s' sid' id' ∧ ¬(s' = stream ∧ sid' = sid ∧ id' = identifier) := by
  by_cases hPresent : Subscribed h.streams stream sid identifier
  · have hStream : stream ∈ h.streams := by
      by_contra hNot
      simp [Subscribed, get_of_notMem hNot] at hPresent
    have hSid : sid ∈ get h.streams stream := by
      by_contra hNot
      simp [Subscribed, get_of_notMem hNot] at hPresent
    have hId : identifier ∈ get (get h.streams stream) sid := hPresent
    unfold unsubscribeSession Subscribed
    rw [if_neg (not_not_intro hStream), if_neg (not_not_intro hSid), if_neg (not_not_intro hId),
      get_modify _ _ _ (modify_empty sid _)]
    split
    · subst s'
      rw [get_modify _ _ _ (erase_empty identifier)]
      by_cases hSid' : sid' = sid
      · subst hSid'
        simp [AList.mem_erase, and_comm]
      · simp [hSid']
    · simp [*]
  · have hAbsent : identifier ∉ get (get h.streams stream) sid := hPresent
    have hSame : h.unsubscribeSession sid stream identifier = h := by
      unfold unsubscribeSession
      simp [hAbsent]
    rw [hSame]
    constructor
    · intro hSub
      refine ⟨hSub, ?_⟩
      rintro ⟨rfl, rfl, rfl⟩
      exact hPresent hSub
    · exact fun hSub => hSub.1

/-! Frame lemmas: the maps an operation does not write. -/

@[simp] theorem subscribeSession_sessions (h : Hub) (sid stream identifier : String) :
    (h.subscribeSession sid stream identifier).sessions = h.sessions := rfl

@[simp] theorem subscribeSession_identifiers (h : Hub) (sid stream identifier : String) :
    (h.subscribeSession sid stream identifier).identifiers = h.identifiers := rfl

@[simp] theorem unsubscribeSession_sessions (h : Hub) (sid stream identifier : String) :
    (h.unsubscribeSession sid stream identifier).sessions = h.sessions := by
  unfold unsubscribeSession
  split_ifs <;> rfl

@[simp] theorem unsubscribeSession_identifiers (h : Hub) (sid stream identifier : String) :
    (h.unsubscribeSession sid stream identifier).identifiers = h.identifiers := by
  unfold unsubscribeSession
  split_ifs <;> rfl

@[simp] theorem unsubscribeSession_sessionsStreams (h : Hub) (sid stream identifier : String) :
    (h.unsubscribeSession sid stream identifier).sessionsStreams = h.sessionsStreams := by
  unfold unsubscribeSession
  split_ifs <;> rfl

@[simp] theorem unsubscribeSessionFromChannel_sessions (h : Hub) (sid identifier : String) :
    (h.unsubscribeSessionFromChannel sid identifier).sessions = h.sessions := by
  unfold unsubscribeSessionFromChannel
  split_ifs <;> rfl

@[simp] theorem unsubscribeSessionFromChannel_identifiers (h : Hub) (sid identifier : String) :
    (h.unsubscribeSessionFromChannel sid identifier).identifiers = h.identifiers := by
  unfold unsubscribeSessionFromChannel
  split_ifs <;> rfl

@[simp] theorem unsubscribeSessionFromChannel_sessionsStreams (h : Hub) (sid identifier : String) :
    (h.unsubscribeSessionFromChannel sid identifier).sessionsStreams = h.sessionsStreams := by
  unfold unsubscribeSessionFromChannel
  split_ifs <;> rfl

@[simp] theorem addSession_streams (h : Hub) (session : SessionRef) :
    (h.addSession session).streams = h.streams := rfl

@[simp] theorem addSession_sessionsStreams (h : Hub) (session : SessionRef) :
    (h.addSession session).sessionsStreams = h.sessionsStreams := rfl

theorem subscribed_unsubscribeSessionFromChannel (h : Hub) (sid identifier s' sid' id' : String) :
    Subscribed (h.unsubscribeSessionFromChannel sid identifier).streams s' sid' id' ↔
      Subscribed h.streams s' sid' id' ∧
        ¬(sid' = sid ∧ id' = identifier ∧ s' ∈ listed h sid identifier) := by
  unfold unsubscribeSessionFromChannel
  split
  · rename_i hNone
    simp [listed, get_of_notMem hNone]
  · exact subscribed_foldl_dropStream sid identifier _ h.streams s' sid' id'

theorem listed_subscribeSession (h : Hub) (sid stream identifier sid' id' : String) :
    listed (h.subscribeSession sid stream identifier) sid' id' =
      if sid' = sid ∧ id' = identifier then listed h sid' id' ++ [stream] else listed h sid' id' := by
  unfold listed subscribeSession
  by_cases hSid : sid' = sid
  · subst hSid
    by_cases hId : id' = identifier
    · subst hId
      simp
    · simp [hId, get_insert]
  · simp [hSid, get_insert]

theorem foldl_unsubscribeSessionFromChannel (h : Hub) (sid : String) (channels : List String) :
    let h' := channels.foldl (fun h channel => h.unsubscribeSessionFromChannel sid channel) h
    h'.sessions = h.sessions ∧ h'.identifiers = h.identifiers ∧
      h'.sessionsStreams = h.sessionsStreams ∧
      ∀ s' sid' id', Subscribed h'.streams s' sid' id' ↔
        Subscribed h.streams s' sid' id' ∧ ¬(sid' = sid ∧ id' ∈ channels ∧ s' ∈ listed h sid id') := by
  induction channels generalizing h with
  | nil => simp
  | cons channel rest ih =>
    obtain ⟨hSessions, hIdentifiers, hLists, hSub⟩ := ih (h.unsubscribeSessionFromChannel sid channel)
    refine ⟨by simpa using hSessions, by simpa using hIdentifiers, by simpa using hLists, ?_⟩
    intro s' sid' id'
    rw [List.foldl_cons, hSub, subscribed_unsubscribeSessionFromChannel]
    have hListed : listed (h.unsubscribeSessionFromChannel sid channel) sid id' = listed h sid id' := by
      simp [listed]
    rw [hListed]
    by_cases hId : id' = channel
    · subst hId
      simp only [List.mem_cons, true_or]
      tauto
    · simp only [List.mem_cons, hId, false_or, false_and, and_false, not_false_eq_true, and_true]

@[simp] theorem unsubscribeSessionFromAllChannels_sessions (h : Hub) (sid : String) :
    (h.unsubscribeSessionFromAllChannels sid).sessions = h.sessions :=
  (foldl_unsubscribeSessionFromChannel h sid _).1

@[simp] theorem unsubscribeSessionFromAllChannels_identifiers (h : Hub) (sid : String) :
    (h.unsubscribeSessionFromAllChannels sid).identifiers = h.identifiers :=
  (foldl_unsubscribeSessionFromChannel h sid _).2.1

theorem subscribed_unsubscribeSessionFromAllChannels (h : Hub) (sid s' sid' id' : String) :
    Subscribed (h.unsubscribeSessionFromAllChannels sid).streams s' sid' id' ↔
      Subscribed h.streams s' sid' id' ∧ ¬(sid' = sid ∧ s' ∈ listed h sid id') := by
  unfold unsubscribeSessionFromAllChannels
  rw [(foldl_unsubscribeSessionFromChannel h sid _).2.2.2]
  by_cases hId : id' ∈ get h.sessionsStreams sid
  · simp [AList.mem_keys.mp hId]
  · simp [listed, get_of_notMem hId]

theorem listed_unsubscribeSessionFromAllChannels (h : Hub) (sid sid' id' : String) :
    listed (h.unsubscribeSessionFromAllChannels sid) sid' id' =
      if sid' = sid then [] else listed h sid' id' := by
  unfold unsubscribeSessionFromAllChannels listed
  rw [get_erase, (foldl_unsubscribeSessionFromChannel h sid _).2.2.1]
  split <;> rfl

theorem removeSession_of_notMem (h : Hub) (session : SessionRef) (hNot : session.uid ∉ h.sessions) :
    h.removeSession session = h := by
  unfold removeSession
  rw [if_pos hNot]

theorem removeSession_sessions (h : Hub) (session : SessionRef) :
    (h.removeSession session).sessions = h.sessions.erase session.uid := by
  unfold removeSession
  split
  · exact (erase_of_notMem ‹_›).symm
  · simp

theorem subscribed_removeSession (h : Hub) (session : SessionRef) (s' sid' id' : String) :
    Subscribed (h.removeSession session).streams s' sid' id' ↔
      Subscribed h.streams s' sid' id' ∧
        ¬(session.uid ∈ h.sessions ∧ sid' = session.uid ∧ s' ∈ listed h session.uid id') := by
  unfold removeSession
  split
  · rename_i hNot
    simp [hNot]
  · rename_i hMem
    rw [subscribed_unsubscribeSessionFromAllChannels]
    simp [not_not.mp hMem]

theorem listed_removeSession (h : Hub) (session : SessionRef) (sid' id' : String) :
    listed (h.removeSession session) sid' id' =
      if session.uid ∈ h.sessions ∧ sid' = session.uid then [] else listed h sid' id' := by
  unfold removeSession
  split
  · rename_i hNot
    simp [hNot]
  · rename_i hMem
    simp only [not_not] at hMem
    simp only [hMem, true_and]
    exact listed_unsubscribeSessionFromAllChannels h session.uid sid' id'

end Hub

end AnyCable
