import AnyCable.Hub.Invariants

/-! # Sessions apart, as far as their UIDs are apart

Every map of the hub is keyed by `session.UID`, which `ws.FetchUID` takes from
the client's `X-Request-ID` header when there is one. The hub therefore tells
session objects apart only by their UIDs: a second connection under a UID
takes over the first one's registration and subscriptions, and a disconnect
of either removes both (`shared_uid_crosses_sessions`).

The abstract model keeps what each session object asked for itself
(`Objects`); every event changes only its own object's entries there. The hub
refines it along every run in which no connection acts while another one with
its UID is registered, and subscriptions are made only for registered
sessions (`isolates_run`), which gives isolation (`sessions_isolated`).
-/

namespace AnyCable.Hub
open GoMap
set_option autoImplicit false

inductive Event where
  | authenticate (session : SessionRef)
  | subscribe (session : SessionRef) (stream identifier : String)
  | unsubscribe (session : SessionRef) (stream identifier : String)
  | stopStreams (session : SessionRef) (identifier : String)
  | disconnect (session : SessionRef)
  deriving DecidableEq

def Event.session : Event → SessionRef
  | .authenticate session | .subscribe session _ _ | .unsubscribe session _ _
  | .stopStreams session _ | .disconnect session => session

def Event.op : Event → Op
  | .authenticate session => .addSession session
  | .subscribe session stream identifier => .subscribeSession session.uid stream identifier
  | .unsubscribe session stream identifier => .unsubscribeSession session.uid stream identifier
  | .stopStreams session identifier => .unsubscribeSessionFromChannel session.uid identifier
  | .disconnect session => .removeSession session

def applyEvent (h : Hub) (e : Event) : Hub := apply h e.op

def runEvents (h : Hub) (evs : List Event) : Hub := evs.foldl applyEvent h

def Isolated (h : Hub) (e : Event) : Prop := OwnsUid h e.session ∧ Admitted h e.op

instance (h : Hub) (e : Event) : Decidable (Isolated h e) := by
  unfold Isolated
  infer_instance

def Reaches (h : Hub) (X : SessionRef) (stream identifier : String) : Prop :=
  h.sessions.lookup X.uid = some X ∧ Subscribed h.streams stream X.uid identifier

/-! ### What the session objects asked for -/

structure Objects where
  registered : Set SessionRef
  subs : Set (String × SessionRef × String)

def objApply (o : Objects) : Event → Objects
  | .authenticate X => { o with registered := insert X o.registered }
  | .subscribe X stream identifier => { o with subs := insert (stream, X, identifier) o.subs }
  | .unsubscribe X stream identifier => { o with subs := o.subs \ {(stream, X, identifier)} }
  | .stopStreams X identifier =>
    { o with subs := {t | t ∈ o.subs ∧ ¬(t.2.1 = X ∧ t.2.2 = identifier)} }
  | .disconnect X => ⟨o.registered \ {X}, {t | t ∈ o.subs ∧ t.2.1 ≠ X}⟩

def objRun (evs : List Event) : Objects := evs.foldl objApply ⟨∅, ∅⟩

theorem objApply_other (o : Objects) (e : Event) {Y : SessionRef} (hY : Y ≠ e.session) :
    (Y ∈ (objApply o e).registered ↔ Y ∈ o.registered) ∧
      ∀ s identifier, (s, Y, identifier) ∈ (objApply o e).subs ↔ (s, Y, identifier) ∈ o.subs := by
  cases e <;> simp_all [objApply, Event.session, Set.mem_insert_iff, Set.mem_sdiff]

def uids (S : Set (String × SessionRef × String)) : Triples :=
  {t | ∃ X, X.uid = t.2.1 ∧ (t.1, X, t.2.2) ∈ S}

/-! ### The hub refines the objects -/

/-- The hub keeps its own invariant, stands for the objects' subscriptions by
UID, and registers under each UID exactly the registered object with it. -/
structure Isolates (h : Hub) (o : Objects) : Prop where
  index : IndexInv h
  represents : Represents h (uids o.subs)
  sessions : ∀ uid X, h.sessions.lookup uid = some X ↔ X ∈ o.registered ∧ X.uid = uid
  subs_registered : ∀ s X identifier, (s, X, identifier) ∈ o.subs → X ∈ o.registered

theorem isolates_newHub : Isolates newHub ⟨∅, ∅⟩ where
  index := indexInv_newHub
  represents := by
    intro s sid identifier
    simp [uids, Subscribed, newHub]
  sessions := by simp [newHub]
  subs_registered := by simp

section Step
variable {h : Hub} {o : Objects}

theorem Isolates.eq_of_uid (hRel : Isolates h o) {X Y : SessionRef} (hX : X ∈ o.registered)
    (hY : Y ∈ o.registered) (hUid : Y.uid = X.uid) : Y = X := by
  have hLookupX := (hRel.sessions X.uid X).mpr ⟨hX, rfl⟩
  have hLookupY := (hRel.sessions X.uid Y).mpr ⟨hY, hUid⟩
  rw [hLookupX] at hLookupY
  exact (Option.some.inj hLookupY).symm

theorem Isolates.eq_of_ownsUid (hRel : Isolates h o) {X : SessionRef} (hOwn : OwnsUid h X)
    {Y : SessionRef} (hY : Y ∈ o.registered) (hUid : Y.uid = X.uid) : Y = X := by
  have hLookup := (hRel.sessions X.uid Y).mpr ⟨hY, hUid⟩
  rcases hOwn with hNone | hSome
  · rw [hNone] at hLookup
    cases hLookup
  · rw [hSome] at hLookup
    exact (Option.some.inj hLookup).symm

theorem Isolates.registered_of_ownsUid (hRel : Isolates h o) {X : SessionRef} (hOwn : OwnsUid h X)
    (hMem : X.uid ∈ h.sessions) : X ∈ o.registered := by
  rcases hOwn with hNone | hSome
  · exact absurd hNone (by simpa [AList.lookup_eq_none] using hMem)
  · exact ((hRel.sessions X.uid X).mp hSome).1

theorem uids_objApply (hRel : Isolates h o) (e : Event) (hOwn : OwnsUid h e.session) :
    uids (objApply o e).subs = absApply (uids o.subs) e.op := by
  have hSame := fun {s identifier Y} (hSub : (s, Y, identifier) ∈ o.subs) =>
    hRel.eq_of_ownsUid hOwn (hRel.subs_registered s Y identifier hSub)
  ext ⟨s, sid, identifier⟩
  cases e with
  | authenticate X => rfl
  | subscribe X stream id =>
    simp only [uids, objApply, Event.op, absApply, Set.mem_ofPred_eq, Set.mem_insert_iff,
      Prod.mk.injEq]
    constructor
    · rintro ⟨Y, rfl, ⟨rfl, rfl, rfl⟩ | hSub⟩
      · exact Or.inl ⟨rfl, rfl, rfl⟩
      · exact Or.inr ⟨Y, rfl, hSub⟩
    · rintro (⟨rfl, rfl, rfl⟩ | ⟨Y, rfl, hSub⟩)
      · exact ⟨X, rfl, Or.inl ⟨rfl, rfl, rfl⟩⟩
      · exact ⟨Y, rfl, Or.inr hSub⟩
  | unsubscribe X stream id =>
    simp only [uids, objApply, Event.op, absApply, Set.mem_ofPred_eq, Set.mem_sdiff,
      Set.mem_singleton_iff, Prod.mk.injEq]
    constructor
    · rintro ⟨Y, rfl, hSub, hNe⟩
      exact ⟨⟨Y, rfl, hSub⟩, fun hAnd => hNe ⟨hAnd.1, hSame hSub hAnd.2.1, hAnd.2.2⟩⟩
    · rintro ⟨⟨Y, rfl, hSub⟩, hNe⟩
      exact ⟨Y, rfl, hSub, fun hAnd => hNe ⟨hAnd.1, by rw [hAnd.2.1], hAnd.2.2⟩⟩
  | stopStreams X id =>
    simp only [uids, objApply, Event.op, absApply, Set.mem_ofPred_eq]
    constructor
    · rintro ⟨Y, rfl, hSub, hNe⟩
      exact ⟨⟨Y, rfl, hSub⟩, fun hAnd => hNe ⟨hSame hSub hAnd.1, hAnd.2⟩⟩
    · rintro ⟨⟨Y, rfl, hSub⟩, hNe⟩
      exact ⟨Y, rfl, hSub, fun hAnd => hNe ⟨by rw [hAnd.1], hAnd.2⟩⟩
  | disconnect X =>
    simp only [uids, objApply, Event.op, absApply, Set.mem_ofPred_eq]
    constructor
    · rintro ⟨Y, rfl, hSub, hNe⟩
      exact ⟨⟨Y, rfl, hSub⟩, fun hUid => hNe (hSame hSub hUid)⟩
    · rintro ⟨⟨Y, rfl, hSub⟩, hNe⟩
      exact ⟨Y, rfl, hSub, fun hY => hNe (by rw [hY])⟩

theorem sessions_applyEvent (hRel : Isolates h o) (e : Event) (hOwn : OwnsUid h e.session)
    (uid : String) (X : SessionRef) :
    (applyEvent h e).sessions.lookup uid = some X ↔
      X ∈ (objApply o e).registered ∧ X.uid = uid := by
  cases e with
  | authenticate Y =>
    simp only [Event.session] at hOwn
    simp only [applyEvent, Event.op, apply, lookup_addSession, objApply, Set.mem_insert_iff]
    by_cases hUid : uid = Y.uid
    · subst hUid
      rw [if_pos rfl, Option.some.injEq]
      constructor
      · rintro rfl
        exact ⟨Or.inl rfl, rfl⟩
      · rintro ⟨hX | hX, hXUid⟩
        · exact hX.symm
        · exact (hRel.eq_of_ownsUid hOwn hX hXUid).symm
    · rw [if_neg hUid, hRel.sessions]
      constructor
      · rintro ⟨hX, hXUid⟩
        exact ⟨Or.inr hX, hXUid⟩
      · rintro ⟨hX | hX, hXUid⟩
        · subst hX
          exact absurd hXUid.symm hUid
        · exact ⟨hX, hXUid⟩
  | disconnect Y =>
    simp only [Event.session] at hOwn
    simp only [applyEvent, Event.op, apply, removeSession_sessions, objApply, Set.mem_sdiff,
      Set.mem_singleton_iff]
    by_cases hUid : uid = Y.uid
    · subst hUid
      rw [AList.lookup_erase]
      simp only [reduceCtorEq, false_iff, not_and, and_imp]
      intro hX hNe hXUid
      exact hNe (hRel.eq_of_ownsUid hOwn hX hXUid)
    · rw [AList.lookup_erase_ne hUid, hRel.sessions]
      constructor
      · rintro ⟨hX, hXUid⟩
        refine ⟨⟨hX, fun hEq => hUid ?_⟩, hXUid⟩
        subst hEq
        exact hXUid.symm
      · rintro ⟨⟨hX, -⟩, hXUid⟩
        exact ⟨hX, hXUid⟩
  | subscribe Y stream id => simpa [applyEvent, Event.op, apply, objApply] using hRel.sessions uid X
  | unsubscribe Y stream id => simpa [applyEvent, Event.op, apply, objApply] using hRel.sessions uid X
  | stopStreams Y id => simpa [applyEvent, Event.op, apply, objApply] using hRel.sessions uid X

theorem subsRegistered_objApply (hRel : Isolates h o) (e : Event) (hIso : Isolated h e)
    (s : String) (Y : SessionRef) (identifier : String) (hSub : (s, Y, identifier) ∈ (objApply o e).subs) :
    Y ∈ (objApply o e).registered := by
  obtain ⟨hOwn, hAdm⟩ := hIso
  cases e with
  | authenticate X => exact Set.mem_insert_of_mem X (hRel.subs_registered s Y identifier hSub)
  | subscribe X stream id =>
    simp only [objApply, Set.mem_insert_iff, Prod.mk.injEq] at hSub
    rcases hSub with ⟨-, rfl, -⟩ | hOld
    · exact hRel.registered_of_ownsUid hOwn hAdm
    · exact hRel.subs_registered s Y identifier hOld
  | unsubscribe X stream id => exact hRel.subs_registered s Y identifier hSub.1
  | stopStreams X id => exact hRel.subs_registered s Y identifier hSub.1
  | disconnect X => exact ⟨hRel.subs_registered s Y identifier hSub.1, hSub.2⟩

theorem isolates_step (hRel : Isolates h o) (e : Event) (hIso : Isolated h e) :
    Isolates (applyEvent h e) (objApply o e) := by
  obtain ⟨hIndex, hRep⟩ := apply_step h (uids o.subs) e.op hRel.index hRel.represents hIso.2
  refine ⟨hIndex, ?_, sessions_applyEvent hRel e hIso.1, subsRegistered_objApply hRel e hIso⟩
  rw [uids_objApply hRel e hIso.1]
  exact hRep

theorem Isolates.lookup_iff (hRel : Isolates h o) (X : SessionRef) :
    h.sessions.lookup X.uid = some X ↔ X ∈ o.registered :=
  (hRel.sessions X.uid X).trans (and_iff_left rfl)

theorem Isolates.reaches_iff (hRel : Isolates h o) (X : SessionRef) (stream identifier : String) :
    Reaches h X stream identifier ↔ (stream, X, identifier) ∈ o.subs := by
  unfold Reaches
  rw [hRel.represents, hRel.lookup_iff]
  constructor
  · rintro ⟨hX, Y, hUid, hSub⟩
    have hEq : Y = X := hRel.eq_of_uid hX (hRel.subs_registered _ _ _ hSub) hUid
    subst hEq
    exact hSub
  · intro hSub
    exact ⟨hRel.subs_registered _ _ _ hSub, X, rfl, hSub⟩

end Step

theorem isolates_run (evs : List Event) (hRun : Transition.GuardedRun applyEvent Isolated newHub evs) :
    Isolates (runEvents newHub evs) (objRun evs) :=
  Transition.simulation applyEvent Isolated objApply Isolates
    (fun _ _ e hRel hIso => isolates_step hRel e hIso) evs newHub ⟨∅, ∅⟩ isolates_newHub hRun

/-- Along every run in which no connection acts while another connection with
its UID is registered, and subscriptions are made only for registered
sessions: a broadcast hands frames only to registered session objects that
subscribed themselves to the stream under that identifier, and an event of one
session object changes neither the registration of any other object nor the
broadcasts that reach it. -/
theorem sessions_isolated {Value Frame : Type} (evs : List Event)
    (hRun : Transition.GuardedRun applyEvent Isolated newHub evs) (unmarshal : String → Value)
    (encoders : String → EncodeFunction Value Frame) (data stream : String) :
    (∀ d ∈ (broadcastTask unmarshal encoders data (runEvents newHub evs) stream).sent,
        d.session ∈ (objRun evs).registered ∧ (stream, d.session, d.identifier) ∈ (objRun evs).subs) ∧
      ∀ pre e post, evs = pre ++ e :: post → ∀ Y, Y ≠ e.session →
        ((runEvents newHub (pre ++ [e])).sessions.lookup Y.uid = some Y ↔
            (runEvents newHub pre).sessions.lookup Y.uid = some Y) ∧
          ∀ s identifier, Reaches (runEvents newHub (pre ++ [e])) Y s identifier ↔
            Reaches (runEvents newHub pre) Y s identifier := by
  have hRel := isolates_run evs hRun
  refine ⟨fun d hd => ?_, fun pre e post hSplit Y hY => ?_⟩
  · obtain ⟨hLookup, hSub⟩ := lookup_subscribed_of_mem_sent unmarshal encoders data _ stream d hd
    have hUid : d.session.uid = d.sid := ((hRel.sessions d.sid d.session).mp hLookup).2
    have hReaches : Reaches (runEvents newHub evs) d.session stream d.identifier := by
      rw [Reaches, hUid]
      exact ⟨hLookup, hSub⟩
    exact ⟨((hRel.sessions d.sid d.session).mp hLookup).1, (hRel.reaches_iff _ _ _).mp hReaches⟩
  · rw [hSplit, Transition.guardedRun_append] at hRun
    obtain ⟨hPre, hIso, -⟩ := hRun
    have hBefore := isolates_run pre hPre
    have hAfter := isolates_step hBefore e hIso
    have hStep : runEvents newHub (pre ++ [e]) = applyEvent (runEvents newHub pre) e := by
      simp [runEvents]
    obtain ⟨hRegistered, hSubs⟩ := objApply_other (objRun pre) e hY
    rw [hStep]
    refine ⟨?_, fun s identifier => ?_⟩
    · rw [hAfter.lookup_iff, hBefore.lookup_iff, hRegistered]
    · rw [hAfter.reaches_iff, hBefore.reaches_iff, hSubs]

def twoConnections : List Event :=
  [.authenticate ⟨1, "x", "alice", "json"⟩, .authenticate ⟨2, "y", "bob", "json"⟩,
    .subscribe ⟨1, "x", "alice", "json"⟩ "room" "chat", .subscribe ⟨2, "y", "bob", "json"⟩ "room" "chat",
    .disconnect ⟨1, "x", "alice", "json"⟩]

theorem sessions_isolated_two_connections :
    Transition.GuardedRun applyEvent Isolated newHub twoConnections ∧
      ((∀ d ∈ (broadcastTask (fun _ => ()) (fun _ _ => (some (), none)) "hello"
          (runEvents newHub twoConnections) "room").sent,
          d.session ∈ (objRun twoConnections).registered ∧
          ("room", d.session, d.identifier) ∈ (objRun twoConnections).subs) ∧
        ∀ pre e post, twoConnections = pre ++ e :: post → ∀ Y, Y ≠ e.session →
          ((runEvents newHub (pre ++ [e])).sessions.lookup Y.uid = some Y ↔
              (runEvents newHub pre).sessions.lookup Y.uid = some Y) ∧
            ∀ s identifier, Reaches (runEvents newHub (pre ++ [e])) Y s identifier ↔
              Reaches (runEvents newHub pre) Y s identifier) :=
  ⟨by decide, sessions_isolated _ (by decide) (fun _ => ()) (fun _ _ => (some (), none)) "hello" "room"⟩

def sharedA : SessionRef := ⟨1, "x", "alice", "json"⟩

def sharedB : SessionRef := ⟨2, "x", "bob", "json"⟩

/-- `sharedB` only authenticates, yet a broadcast to the stream `sharedA`
subscribed to is handed to `sharedB`; and when `sharedB` has subscribed,
`sharedA`'s disconnect unregisters `sharedB` and drops its subscription. -/
theorem shared_uid_crosses_sessions :
    [Event.authenticate sharedA, .subscribe sharedA "room" "chat", .authenticate sharedB].filter
        (fun e => e.session = sharedB) = [.authenticate sharedB] ∧
      (∃ d ∈ (broadcastTask (fun _ => ()) (fun _ _ => (some (), none)) "hello"
          (runEvents newHub [.authenticate sharedA, .subscribe sharedA "room" "chat",
            .authenticate sharedB]) "room").sent, d.session = sharedB ∧ d.identifier = "chat") ∧
      (runEvents newHub [.authenticate sharedA, .authenticate sharedB,
        .subscribe sharedB "room" "chat", .disconnect sharedA]).sessions.lookup "x" = none ∧
      (runEvents newHub [.authenticate sharedA, .authenticate sharedB,
        .subscribe sharedB "room" "chat", .disconnect sharedA]).streamsSize = 0 := by
  decide

end AnyCable.Hub
