import AnyCable.Hub.State

/-! # Broadcasting to a stream

`Hub.broadcastToStream` (`node/hub.go`) checks the stream and schedules a
task. The task snapshots `streams[stream]`, looks every sid up in `sessions`
and calls `Session.Send` once per identifier, sharing two memo tables: `buf`,
one `CachedEncodedMessage` per identifier across sessions, and inside each such
message the `EncodingCache` (`node/encoding_cache.go`), one frame per encoder
ID across sessions.

Encoders are named by their `ID()`; `encoders e` is the `Encode` method of the
encoder whose ID is `e`, so distinct encoders have distinct IDs. The decoding
`json.Unmarshal` does in `buildMessage` is the parameter `unmarshal`; nothing
here depends on it.
-/

namespace AnyCable
open GoMap
set_option autoImplicit false

variable {Value Frame : Type}

/-- `common.Reply` as `buildMessage` fills it. -/
structure Reply (Value : Type) where
  identifier : String
  message : Value

/-- `encoders.Encoder.Encode`: a frame or nil, and an error or nil. -/
abbrev EncodeFunction (Value Frame : Type) := Reply Value → Option Frame × Option String

/-- `CachedEncodedMessage` with its `EncodingCache.encodedBytes`. -/
structure CachedEncodedMessage (Value Frame : Type) where
  target : Reply Value
  encodedBytes : Map String (Option Frame)

def buildMessage (unmarshal : String → Value) (data identifier : String) :
    CachedEncodedMessage Value Frame :=
  ⟨⟨identifier, unmarshal data⟩, ∅⟩

def cacheEntry (answer : Option Frame × Option String) : Option Frame :=
  if answer.2.isSome then none else answer.1

def fill (msg : CachedEncodedMessage Value Frame) (encoder : String)
    (callback : EncodeFunction Value Frame) : CachedEncodedMessage Value Frame :=
  if encoder ∈ msg.encodedBytes then msg
  else { msg with encodedBytes := msg.encodedBytes.insert encoder (cacheEntry (callback msg.target)) }

def fetchAnswer : Option Frame → Option Frame × Option String
  | none => (none, some "Encoding failed")
  | some b => (some b, none)

/-- `EncodingCache.Fetch` through `CachedEncodedMessage.Fetch`: the message
with its cache afterwards and the `(frame, err)` returned. -/
def fetch (msg : CachedEncodedMessage Value Frame) (encoder : String)
    (callback : EncodeFunction Value Frame) :
    CachedEncodedMessage Value Frame × (Option Frame × Option String) :=
  let msg := fill msg encoder callback
  (msg, fetchAnswer (msg.encodedBytes.lookup encoder).join)

def sentFrame (answer : Option Frame × Option String) : Option Frame :=
  if answer.2.isNone then answer.1 else none

/-- `Session.Send` of a cached message: the message afterwards and the frame sent. -/
def send (encoders : String → EncodeFunction Value Frame) (session : SessionRef)
    (msg : CachedEncodedMessage Value Frame) : CachedEncodedMessage Value Frame × Option Frame :=
  let (msg, answer) := fetch msg session.encoder (encoders session.encoder)
  (msg, sentFrame answer)

/-- `Session.Send` of a plain message, `s.encoder.Encode(msg)` directly. -/
def sendPlain (encoders : String → EncodeFunction Value Frame) (session : SessionRef)
    (msg : Reply Value) : Option Frame :=
  sentFrame (encoders session.encoder msg)

/-- `streamSessionsSnapshot`: every sid with the identifiers it is subscribed under. -/
def streamSessionsSnapshot (src : Map String (Map String Bool)) : Map String (List String) :=
  ⟨src.entries.map (fun e => ⟨e.1, e.2.keys⟩), by
    have hKeys : (src.entries.map (fun e => (⟨e.1, e.2.keys⟩ : (_ : String) × List String))).keys =
        src.entries.keys := by
      simp [List.keys, Function.comp_def]
    rw [List.NodupKeys, hKeys]
    exact src.nodupKeys⟩

structure Delivery (Frame : Type) where
  sid : String
  session : SessionRef
  identifier : String
  frame : Option Frame

structure TaskState (Value Frame : Type) where
  buf : Map String (CachedEncodedMessage Value Frame)
  sent : List (Delivery Frame)
  encoderCalls : List (String × String)

section Task
variable (unmarshal : String → Value) (encoders : String → EncodeFunction Value Frame)
  (data : String)

/-- `bdata` in the inner loop: `buf[id]`, or a new `buildMessage(data, id)`. -/
def bufferedMessage (st : TaskState Value Frame) (identifier : String) :
    CachedEncodedMessage Value Frame :=
  (st.buf.lookup identifier).getD (buildMessage unmarshal data identifier)

def sendIdentifier (sid : String) (session : SessionRef) (st : TaskState Value Frame)
    (identifier : String) : TaskState Value Frame :=
  let bdata := bufferedMessage unmarshal data st identifier
  let (bdata', frame) := send encoders session bdata
  { buf := st.buf.insert identifier bdata'
    sent := st.sent ++ [⟨sid, session, identifier, frame⟩]
    encoderCalls := st.encoderCalls ++
      if session.encoder ∈ bdata.encodedBytes then [] else [(identifier, session.encoder)] }

def sendSession (sessions : Map String SessionRef) (st : TaskState Value Frame)
    (entry : (_ : String) × List String) : TaskState Value Frame :=
  match sessions.lookup entry.1 with
  | none => st
  | some session => entry.2.foldl (sendIdentifier unmarshal encoders data entry.1 session) st

def broadcastTask (h : Hub) (stream : String) : TaskState Value Frame :=
  (streamSessionsSnapshot (get h.streams stream)).entries.foldl
    (sendSession unmarshal encoders data h.sessions) ⟨∅, [], []⟩

end Task

/-- `Hub.broadcastToStream`: whether a task is scheduled at all. -/
def Hub.broadcastToStream (h : Hub) (stream : String) : Bool := decide (stream ∈ h.streams)

/-! ### The caches agree with the plain encoding -/

theorem sentFrame_eq_cacheEntry (answer : Option Frame × Option String) :
    sentFrame answer = cacheEntry answer := by
  obtain ⟨b, _ | e⟩ := answer <;> rfl

theorem sentFrame_fetchAnswer (b : Option Frame) : sentFrame (fetchAnswer b) = b := by
  cases b <;> rfl

theorem sentFrame_of_ok (answer : Option Frame × Option String) (hOk : answer.2 = none) :
    sentFrame answer = answer.1 := by
  simp [sentFrame, hOk]

theorem sentFrame_of_error (answer : Option Frame × Option String) (hErr : answer.2.isSome) :
    sentFrame answer = none := by
  obtain ⟨b, _ | e⟩ := answer
  · simp at hErr
  · rfl

theorem fill_encodedBytes (msg : CachedEncodedMessage Value Frame) (encoder : String)
    (callback : EncodeFunction Value Frame) :
    (fill msg encoder callback).encodedBytes =
      if encoder ∈ msg.encodedBytes then msg.encodedBytes
      else msg.encodedBytes.insert encoder (cacheEntry (callback msg.target)) := by
  unfold fill
  split <;> rfl

theorem mem_fill (msg : CachedEncodedMessage Value Frame) (encoder e : String)
    (callback : EncodeFunction Value Frame) :
    e ∈ (fill msg encoder callback).encodedBytes ↔ e ∈ msg.encodedBytes ∨ e = encoder := by
  rw [fill_encodedBytes]
  split
  · rename_i hMem
    constructor
    · exact Or.inl
    · rintro (h | rfl)
      · exact h
      · exact hMem
  · simp [AList.mem_insert, or_comm]

@[simp] theorem fill_target (msg : CachedEncodedMessage Value Frame) (encoder : String)
    (callback : EncodeFunction Value Frame) : (fill msg encoder callback).target = msg.target := by
  unfold fill
  split <;> rfl

theorem lookup_fill (msg : CachedEncodedMessage Value Frame) (encoder : String)
    (callback : EncodeFunction Value Frame)
    (hSound : ∀ b, msg.encodedBytes.lookup encoder = some b → b = cacheEntry (callback msg.target)) :
    (fill msg encoder callback).encodedBytes.lookup encoder = some (cacheEntry (callback msg.target)) := by
  unfold fill
  split
  · rename_i hMem
    obtain ⟨b, hb⟩ := Option.isSome_iff_exists.mp (AList.lookup_isSome.mpr hMem)
    rw [hb, hSound b hb]
  · simp

theorem fill_sound (encoders : String → EncodeFunction Value Frame)
    (msg : CachedEncodedMessage Value Frame) (encoder : String)
    (hEntry : ∀ e b, msg.encodedBytes.lookup e = some b → b = cacheEntry (encoders e msg.target)) :
    ∀ e b, (fill msg encoder (encoders encoder)).encodedBytes.lookup e = some b →
      b = cacheEntry (encoders e msg.target) := by
  intro e b hb
  rw [fill_encodedBytes] at hb
  split at hb
  · exact hEntry e b hb
  · by_cases he : e = encoder
    · subst he
      simp only [AList.lookup_insert, Option.some.injEq] at hb
      exact hb.symm
    · rw [AList.lookup_insert_ne he] at hb
      exact hEntry e b hb

theorem sentFrame_fetch (msg : CachedEncodedMessage Value Frame) (encoder : String)
    (callback : EncodeFunction Value Frame)
    (hSound : ∀ b, msg.encodedBytes.lookup encoder = some b → b = cacheEntry (callback msg.target)) :
    sentFrame (fetch msg encoder callback).2 = sentFrame (callback msg.target) := by
  rw [fetch, lookup_fill msg encoder callback hSound, Option.join_some, sentFrame_fetchAnswer,
    sentFrame_eq_cacheEntry]

section Task
variable (unmarshal : String → Value) (encoders : String → EncodeFunction Value Frame)
  (data : String)

/-- The memo tables only ever hold what the plain path computes, and the
callbacks run are the cache entries, each once. -/
structure CachesSound (st : TaskState Value Frame) : Prop where
  target : ∀ id m, st.buf.lookup id = some m → m.target = ⟨id, unmarshal data⟩
  entry : ∀ id m e b, st.buf.lookup id = some m → m.encodedBytes.lookup e = some b →
    b = cacheEntry (encoders e ⟨id, unmarshal data⟩)
  calls_nodup : st.encoderCalls.Nodup
  mem_calls : ∀ id e, (id, e) ∈ st.encoderCalls ↔
    ∃ m, st.buf.lookup id = some m ∧ e ∈ m.encodedBytes
  frames : ∀ d ∈ st.sent, d.frame = sendPlain encoders d.session ⟨d.identifier, unmarshal data⟩

theorem cachesSound_empty : CachesSound unmarshal encoders data (⟨∅, [], []⟩ : TaskState Value Frame) where
  target := by simp
  entry := by simp
  calls_nodup := List.nodup_nil
  mem_calls := by simp
  frames := by simp

theorem sendIdentifier_sent (sid : String) (session : SessionRef) (st : TaskState Value Frame)
    (identifier : String) :
    ((sendIdentifier unmarshal encoders data sid session st identifier).sent.map
        fun d => (d.sid, d.session, d.identifier)) =
      st.sent.map (fun d => (d.sid, d.session, d.identifier)) ++ [(sid, session, identifier)] := by
  simp [sendIdentifier]

theorem bufferedMessage_spec (st : TaskState Value Frame) (identifier : String)
    (hSound : CachesSound unmarshal encoders data st) :
    let bdata := bufferedMessage unmarshal data st identifier
    bdata.target = ⟨identifier, unmarshal data⟩ ∧
      (∀ e b, bdata.encodedBytes.lookup e = some b →
        b = cacheEntry (encoders e ⟨identifier, unmarshal data⟩)) ∧
      ∀ e, (identifier, e) ∈ st.encoderCalls ↔ e ∈ bdata.encodedBytes := by
  unfold bufferedMessage
  cases hBuf : st.buf.lookup identifier with
  | none =>
    refine ⟨rfl, by simp [buildMessage], fun e => ?_⟩
    simp [hSound.mem_calls, hBuf, buildMessage]
  | some m =>
    refine ⟨hSound.target identifier m hBuf, fun e b hb => hSound.entry identifier m e b hBuf hb,
      fun e => ?_⟩
    simp [hSound.mem_calls, hBuf]

theorem lookup_sendIdentifier_buf (sid : String) (session : SessionRef) (st : TaskState Value Frame)
    (identifier id : String) :
    (sendIdentifier unmarshal encoders data sid session st identifier).buf.lookup id =
      if id = identifier then
        some (fill (bufferedMessage unmarshal data st identifier) session.encoder
          (encoders session.encoder))
      else st.buf.lookup id := by
  by_cases hId : id = identifier
  · subst hId
    simp [sendIdentifier, send, fetch]
  · simp [sendIdentifier, AList.lookup_insert_ne hId, hId]

theorem sendIdentifier_sound (sid : String) (session : SessionRef) (st : TaskState Value Frame)
    (identifier : String) (hSound : CachesSound unmarshal encoders data st) :
    CachesSound unmarshal encoders data (sendIdentifier unmarshal encoders data sid session st identifier) := by
  obtain ⟨hTarget, hEntry, hCalls⟩ := bufferedMessage_spec unmarshal encoders data st identifier hSound
  constructor
  · intro id m hm
    rw [lookup_sendIdentifier_buf] at hm
    split at hm
    · rename_i hId
      subst hId
      rw [← Option.some.inj hm, fill_target, hTarget]
    · exact hSound.target id m hm
  · intro id m e b hm hb
    rw [lookup_sendIdentifier_buf] at hm
    split at hm
    · rename_i hId
      subst hId
      rw [← Option.some.inj hm] at hb
      have hFilled := fill_sound encoders _ session.encoder (by rwa [hTarget]) e b hb
      rwa [hTarget] at hFilled
    · exact hSound.entry id m e b hm hb
  · simp only [sendIdentifier]
    split
    · simpa using hSound.calls_nodup
    · rename_i hMiss
      rw [List.nodup_append]
      refine ⟨hSound.calls_nodup, List.nodup_singleton _, ?_⟩
      intro c hc c' hc'
      rw [List.mem_singleton] at hc'
      subst hc'
      rintro rfl
      exact hMiss ((hCalls session.encoder).mp hc)
  · intro id e
    simp only [lookup_sendIdentifier_buf]
    split
    · rename_i hId
      subst hId
      simp only [sendIdentifier, Option.some.injEq, exists_eq_left', mem_fill, List.mem_append, hCalls]
      split
      · rename_i hMem
        simp only [List.not_mem_nil, or_false]
        constructor
        · exact Or.inl
        · rintro (h | rfl)
          · exact h
          · exact hMem
      · simp
    · rename_i hId
      simp only [sendIdentifier, List.mem_append, hSound.mem_calls]
      split <;> simp [hId]
  · intro d hd
    simp only [sendIdentifier, List.mem_append, List.mem_singleton] at hd
    rcases hd with hd | rfl
    · exact hSound.frames d hd
    · simp only [send, sendPlain]
      rw [sentFrame_fetch _ session.encoder (encoders session.encoder)
        (fun b hb => by rw [hTarget]; exact hEntry session.encoder b hb), hTarget]

theorem foldl_sendIdentifier (sid : String) (session : SessionRef) (identifiers : List String)
    (st : TaskState Value Frame) :
    let st' := identifiers.foldl (sendIdentifier unmarshal encoders data sid session) st
    (CachesSound unmarshal encoders data st → CachesSound unmarshal encoders data st') ∧
      st'.sent.map (fun d => (d.sid, d.session, d.identifier)) =
        st.sent.map (fun d => (d.sid, d.session, d.identifier)) ++
          identifiers.map (fun identifier => (sid, session, identifier)) := by
  induction identifiers generalizing st with
  | nil => simp
  | cons identifier rest ih =>
    obtain ⟨hSound, hSent⟩ := ih (sendIdentifier unmarshal encoders data sid session st identifier)
    refine ⟨fun h => hSound (sendIdentifier_sound unmarshal encoders data sid session st identifier h), ?_⟩
    rw [List.foldl_cons, hSent, sendIdentifier_sent]
    simp

def snapshotSends (sessions : Map String SessionRef) (entries : List ((_ : String) × List String)) :
    List (String × SessionRef × String) :=
  entries.flatMap fun entry => match sessions.lookup entry.1 with
    | none => []
    | some session => entry.2.map fun identifier => (entry.1, session, identifier)

theorem foldl_sendSession (sessions : Map String SessionRef)
    (entries : List ((_ : String) × List String)) (st : TaskState Value Frame) :
    let st' := entries.foldl (sendSession unmarshal encoders data sessions) st
    (CachesSound unmarshal encoders data st → CachesSound unmarshal encoders data st') ∧
      st'.sent.map (fun d => (d.sid, d.session, d.identifier)) =
        st.sent.map (fun d => (d.sid, d.session, d.identifier)) ++ snapshotSends sessions entries := by
  induction entries generalizing st with
  | nil => simp [snapshotSends]
  | cons entry rest ih =>
    obtain ⟨hSound, hSent⟩ := ih (sendSession unmarshal encoders data sessions st entry)
    dsimp only
    rw [List.foldl_cons, hSent]
    cases hLookup : sessions.lookup entry.1 with
    | none =>
      have hStep : sendSession unmarshal encoders data sessions st entry = st := by
        simp [sendSession, hLookup]
      rw [hStep] at hSound ⊢
      exact ⟨hSound, by simp [snapshotSends, hLookup]⟩
    | some session =>
      have hStep : sendSession unmarshal encoders data sessions st entry =
          entry.2.foldl (sendIdentifier unmarshal encoders data entry.1 session) st := by
        simp [sendSession, hLookup]
      obtain ⟨hSound', hSent'⟩ := foldl_sendIdentifier unmarshal encoders data entry.1 session entry.2 st
      rw [hStep] at hSound ⊢
      exact ⟨fun h => hSound (hSound' h), by rw [hSent']; simp [snapshotSends, hLookup]⟩

theorem mem_streamSessionsSnapshot (src : Map String (Map String Bool)) (sid : String)
    (identifiers : List String) :
    (⟨sid, identifiers⟩ : (_ : String) × List String) ∈ (streamSessionsSnapshot src).entries ↔
      ∃ inner, src.lookup sid = some inner ∧ identifiers = inner.keys := by
  simp only [streamSessionsSnapshot, List.mem_map, Sigma.mk.injEq, heq_eq_eq]
  constructor
  · rintro ⟨⟨k, inner⟩, hMem, rfl, rfl⟩
    exact ⟨inner, AList.mem_lookup_iff.mpr hMem, rfl⟩
  · rintro ⟨inner, hLookup, rfl⟩
    exact ⟨⟨sid, inner⟩, AList.mem_lookup_iff.mp hLookup, rfl, rfl⟩

theorem nodup_of_mem_streamSessionsSnapshot (src : Map String (Map String Bool))
    (entry : (_ : String) × List String) (hMem : entry ∈ (streamSessionsSnapshot src).entries) :
    entry.2.Nodup := by
  obtain ⟨sid, identifiers⟩ := entry
  obtain ⟨inner, -, rfl⟩ := (mem_streamSessionsSnapshot src sid identifiers).mp hMem
  exact inner.keys_nodup

theorem pairwise_streamSessionsSnapshot (src : Map String (Map String Bool)) :
    (streamSessionsSnapshot src).entries.Pairwise (fun a b => a.1 ≠ b.1) := by
  have hKeys := (streamSessionsSnapshot src).nodupKeys
  rw [List.NodupKeys, List.keys, List.Nodup, List.pairwise_map] at hKeys
  exact hKeys

theorem mem_snapshotSends (sessions : Map String SessionRef) (src : Map String (Map String Bool))
    (sid : String) (session : SessionRef) (identifier : String) :
    (sid, session, identifier) ∈ snapshotSends sessions (streamSessionsSnapshot src).entries ↔
      sessions.lookup sid = some session ∧ identifier ∈ get src sid := by
  simp only [snapshotSends, List.mem_flatMap]
  constructor
  · rintro ⟨⟨k, identifiers⟩, hEntry, hMem⟩
    obtain ⟨inner, hInner, rfl⟩ := (mem_streamSessionsSnapshot src k _).mp hEntry
    cases hLookup : sessions.lookup k with
    | none => simp [hLookup] at hMem
    | some s =>
      simp only [hLookup, List.mem_map, Prod.mk.injEq] at hMem
      obtain ⟨identifier', hId, rfl, rfl, rfl⟩ := hMem
      exact ⟨hLookup, by simpa [GoMap.get, hInner, AList.mem_keys] using hId⟩
  · rintro ⟨hLookup, hId⟩
    cases hInner : src.lookup sid with
    | none => simp [GoMap.get, hInner] at hId
    | some inner =>
      refine ⟨⟨sid, inner.keys⟩, (mem_streamSessionsSnapshot src sid _).mpr ⟨inner, hInner, rfl⟩, ?_⟩
      have hKey : identifier ∈ inner.keys := by
        simpa [GoMap.get, hInner, AList.mem_keys] using hId
      simpa [hLookup] using hKey

theorem nodup_snapshotSends_pairs (sessions : Map String SessionRef) (src : Map String (Map String Bool)) :
    ((snapshotSends sessions (streamSessionsSnapshot src).entries).map fun t => (t.1, t.2.2)).Nodup := by
  have hFirst : ∀ (e : (_ : String) × List String) p, p ∈ (match sessions.lookup e.1 with
      | none => []
      | some session => e.2.map fun identifier => (e.1, session, identifier)).map
        (fun t : String × SessionRef × String => (t.1, t.2.2)) → p.1 = e.1 := by
    intro e p hp
    split at hp
    · simp at hp
    · simp only [List.map_map, List.mem_map, Function.comp_def] at hp
      obtain ⟨_, -, rfl⟩ := hp
      rfl
  rw [snapshotSends, List.map_flatMap, List.nodup_flatMap]
  constructor
  · intro entry hEntry
    split
    · exact List.nodup_nil
    · rw [List.map_map]
      exact (nodup_of_mem_streamSessionsSnapshot _ entry hEntry).map
        (fun a b hab => (Prod.mk.inj hab).2)
  · refine (pairwise_streamSessionsSnapshot _).imp ?_
    intro a b hab
    exact List.disjoint_left.mpr fun p hp hq => hab ((hFirst a p hp).symm.trans (hFirst b p hq))

theorem broadcastTask_spec (h : Hub) (stream : String) :
    let out := broadcastTask unmarshal encoders data h stream
    CachesSound unmarshal encoders data out ∧
      out.sent.map (fun d => (d.sid, d.session, d.identifier)) =
        snapshotSends h.sessions (streamSessionsSnapshot (get h.streams stream)).entries := by
  obtain ⟨hSoundOf, hSent⟩ := foldl_sendSession unmarshal encoders data h.sessions
    (streamSessionsSnapshot (get h.streams stream)).entries ⟨∅, [], []⟩
  exact ⟨hSoundOf (cachesSound_empty unmarshal encoders data), by simpa [broadcastTask] using hSent⟩

theorem mem_broadcastTask_sent (h : Hub) (stream : String) (d : Delivery Frame)
    (hd : d ∈ (broadcastTask unmarshal encoders data h stream).sent) :
    (d.sid, d.session, d.identifier) ∈
      snapshotSends h.sessions (streamSessionsSnapshot (get h.streams stream)).entries := by
  rw [← (broadcastTask_spec unmarshal encoders data h stream).2]
  exact List.mem_map_of_mem hd

theorem lookup_subscribed_of_mem_sent (h : Hub) (stream : String) (d : Delivery Frame)
    (hd : d ∈ (broadcastTask unmarshal encoders data h stream).sent) :
    h.sessions.lookup d.sid = some d.session ∧ Hub.Subscribed h.streams stream d.sid d.identifier :=
  (mem_snapshotSends h.sessions _ _ _ _).mp (mem_broadcastTask_sent unmarshal encoders data h stream d hd)

theorem mem_broadcastTask_pairs_iff (h : Hub) (stream sid identifier : String) :
    (sid, identifier) ∈ (broadcastTask unmarshal encoders data h stream).sent.map
        (fun d => (d.sid, d.identifier)) ↔
      Hub.Subscribed h.streams stream sid identifier ∧ sid ∈ h.sessions := by
  constructor
  · intro hMem
    obtain ⟨d, hd, hEq⟩ := List.mem_map.mp hMem
    obtain ⟨hLookup, hId⟩ := lookup_subscribed_of_mem_sent unmarshal encoders data h stream d hd
    simp only [Prod.mk.injEq] at hEq
    obtain ⟨rfl, rfl⟩ := hEq
    exact ⟨hId, AList.lookup_isSome.mp (by simp [hLookup])⟩
  · rintro ⟨hId, hSid⟩
    obtain ⟨session, hLookup⟩ := Option.isSome_iff_exists.mp (AList.lookup_isSome.mpr hSid)
    have hMem := (mem_snapshotSends h.sessions (get h.streams stream) sid session identifier).mpr
      ⟨hLookup, hId⟩
    rw [← (broadcastTask_spec unmarshal encoders data h stream).2] at hMem
    obtain ⟨d, hd, hEq⟩ := List.mem_map.mp hMem
    simp only [Prod.mk.injEq] at hEq
    exact List.mem_map.mpr ⟨d, hd, by rw [hEq.1, hEq.2.2]⟩

/-- One `Send` per subscribed pair of a registered sid, none twice, each with
the frame the session's own encoder gives for that identifier, and each
(identifier, encoder ID) encoded at most once. -/
theorem broadcastTask_delivers (h : Hub) (stream : String) :
    let out := broadcastTask unmarshal encoders data h stream
    (out.sent.map fun d => (d.sid, d.identifier)).Nodup ∧
      (∀ sid identifier, (sid, identifier) ∈ out.sent.map (fun d => (d.sid, d.identifier)) ↔
        Hub.Subscribed h.streams stream sid identifier ∧ sid ∈ h.sessions) ∧
      (∀ d ∈ out.sent, h.sessions.lookup d.sid = some d.session ∧
        let answer := encoders d.session.encoder ⟨d.identifier, unmarshal data⟩
        (answer.2 = none → d.frame = answer.1) ∧ (answer.2.isSome → d.frame = none)) ∧
      out.encoderCalls.Nodup := by
  obtain ⟨hSound, hSent⟩ := broadcastTask_spec unmarshal encoders data h stream
  have hPairs : (broadcastTask unmarshal encoders data h stream).sent.map (fun d => (d.sid, d.identifier)) =
      (snapshotSends h.sessions (streamSessionsSnapshot (get h.streams stream)).entries).map
        (fun t => (t.1, t.2.2)) := by
    rw [← hSent, List.map_map]
    rfl
  refine ⟨?_, mem_broadcastTask_pairs_iff unmarshal encoders data h stream, ?_, hSound.calls_nodup⟩
  · rw [hPairs]
    exact nodup_snapshotSends_pairs h.sessions _
  · intro d hd
    refine ⟨(lookup_subscribed_of_mem_sent unmarshal encoders data h stream d hd).1, ?_, ?_⟩
    · intro hOk
      rw [hSound.frames d hd, sendPlain, sentFrame_of_ok _ hOk]
    · intro hErr
      rw [hSound.frames d hd, sendPlain, sentFrame_of_error _ hErr]

end Task

end AnyCable
