import AnyCable.Hub.Broadcast
import AnyCable.Lib.Transition
import Mathlib.Data.Set.Insert

/-! # The subscription index refines a relation of triples

What the hub's `streams` index is for: a set of (stream, sid, identifier)
triples, which subscribing grows and the four removal paths shrink. The index
refines that set along every run from `NewHub` in which subscriptions are made
only for registered sessions.

The removal paths reach `streams` through the auxiliary lists of
`sessionsStreams`, which `unsubscribeSession` never prunes and
`unsubscribeSessionFromChannel` never clears, and which repeat a stream on a
repeated subscription. The invariant `IndexInv` only asks the lists to cover
the index, which tolerates both.
-/

namespace AnyCable.Hub
open GoMap
set_option autoImplicit false

inductive Op where
  | addSession (session : SessionRef)
  | removeSession (session : SessionRef)
  | subscribeSession (sid stream identifier : String)
  | unsubscribeSession (sid stream identifier : String)
  | unsubscribeSessionFromChannel (sid identifier : String)
  | unsubscribeSessionFromAllChannels (sid : String)
  deriving DecidableEq

def apply (h : Hub) : Op → Hub
  | .addSession session => h.addSession session
  | .removeSession session => h.removeSession session
  | .subscribeSession sid stream identifier => h.subscribeSession sid stream identifier
  | .unsubscribeSession sid stream identifier => h.unsubscribeSession sid stream identifier
  | .unsubscribeSessionFromChannel sid identifier => h.unsubscribeSessionFromChannel sid identifier
  | .unsubscribeSessionFromAllChannels sid => h.unsubscribeSessionFromAllChannels sid

def Admitted (h : Hub) : Op → Prop
  | .subscribeSession sid _ _ => sid ∈ h.sessions
  | _ => True

/-- `ops` applied in order from `h`, each step admitted where it is applied. -/
def AdmittedRun (h : Hub) (ops : List Op) : Prop := Transition.GuardedRun apply Admitted h ops

instance (h : Hub) (op : Op) : Decidable (Admitted h op) := by
  cases op <;> unfold Admitted <;> infer_instance

instance (h : Hub) (ops : List Op) : Decidable (AdmittedRun h ops) :=
  inferInstanceAs (Decidable (Transition.GuardedRun apply Admitted h ops))

def run (h : Hub) (ops : List Op) : Hub := ops.foldl apply h

/-! ### The abstract relation -/

abbrev Triples := Set (String × String × String)

def absApply (R : Triples) : Op → Triples
  | .addSession _ => R
  | .removeSession session => {t | t ∈ R ∧ t.2.1 ≠ session.uid}
  | .subscribeSession sid stream identifier => insert (stream, sid, identifier) R
  | .unsubscribeSession sid stream identifier => R \ {(stream, sid, identifier)}
  | .unsubscribeSessionFromChannel sid identifier =>
    {t | t ∈ R ∧ ¬(t.2.1 = sid ∧ t.2.2 = identifier)}
  | .unsubscribeSessionFromAllChannels sid => {t | t ∈ R ∧ t.2.1 ≠ sid}

def absRun (R : Triples) (ops : List Op) : Triples := ops.foldl absApply R

/-- The auxiliary lists cover the index, and only registered sessions are in it. -/
structure IndexInv (h : Hub) : Prop where
  covered : ∀ s sid identifier, Subscribed h.streams s sid identifier → s ∈ listed h sid identifier
  registered : ∀ s sid identifier, Subscribed h.streams s sid identifier → sid ∈ h.sessions

def Represents (h : Hub) (R : Triples) : Prop :=
  ∀ s sid identifier, Subscribed h.streams s sid identifier ↔ (s, sid, identifier) ∈ R

theorem indexInv_newHub : IndexInv newHub where
  covered := by simp [Subscribed, newHub]
  registered := by simp [Subscribed, newHub]

theorem represents_newHub : Represents newHub ∅ := by
  simp [Represents, Subscribed, newHub, Set.mem_empty_iff_false]

/-! ### The removal paths under the invariant

Each removal path deletes the triples its auxiliary lists name. With the lists
covering the index, that is every triple of its session, or of its pair.
-/

theorem subscribed_removeSession_of_inv (h : Hub) (session : SessionRef) (hInv : IndexInv h)
    (hMem : session.uid ∈ h.sessions) (s sid id : String) :
    Subscribed (h.removeSession session).streams s sid id ↔
      Subscribed h.streams s sid id ∧ sid ≠ session.uid := by
  rw [subscribed_removeSession]
  constructor
  · rintro ⟨hSub, hNot⟩
    exact ⟨hSub, fun hSid => hNot ⟨hMem, hSid, hSid ▸ hInv.covered s sid id hSub⟩⟩
  · rintro ⟨hSub, hSid⟩
    exact ⟨hSub, fun hAnd => hSid hAnd.2.1⟩

theorem subscribed_unsubscribeSessionFromChannel_of_inv (h : Hub) (sid identifier : String)
    (hInv : IndexInv h) (s sid' id : String) :
    Subscribed (h.unsubscribeSessionFromChannel sid identifier).streams s sid' id ↔
      Subscribed h.streams s sid' id ∧ ¬(sid' = sid ∧ id = identifier) := by
  rw [subscribed_unsubscribeSessionFromChannel]
  constructor
  · rintro ⟨hSub, hNot⟩
    exact ⟨hSub, fun hAnd => hNot ⟨hAnd.1, hAnd.2, hAnd.1 ▸ hAnd.2 ▸ hInv.covered s sid' id hSub⟩⟩
  · rintro ⟨hSub, hNot⟩
    exact ⟨hSub, fun hAnd => hNot ⟨hAnd.1, hAnd.2.1⟩⟩

theorem subscribed_unsubscribeSessionFromAllChannels_of_inv (h : Hub) (sid : String)
    (hInv : IndexInv h) (s sid' id : String) :
    Subscribed (h.unsubscribeSessionFromAllChannels sid).streams s sid' id ↔
      Subscribed h.streams s sid' id ∧ sid' ≠ sid := by
  rw [subscribed_unsubscribeSessionFromAllChannels]
  constructor
  · rintro ⟨hSub, hNot⟩
    exact ⟨hSub, fun hSid => hNot ⟨hSid, hSid ▸ hInv.covered s sid' id hSub⟩⟩
  · rintro ⟨hSub, hSid⟩
    exact ⟨hSub, fun hAnd => hSid hAnd.1⟩

theorem apply_step (h : Hub) (R : Triples) (op : Op) (hInv : IndexInv h) (hRep : Represents h R)
    (hAdm : Admitted h op) : IndexInv (apply h op) ∧ Represents (apply h op) (absApply R op) := by
  cases op with
  | addSession session =>
    refine ⟨⟨fun s sid id hSub => hInv.covered s sid id hSub, fun s sid id hSub => ?_⟩, hRep⟩
    simp only [apply, addSession, AList.mem_insert]
    exact Or.inr (hInv.registered s sid id hSub)
  | removeSession session =>
    by_cases hMem : session.uid ∈ h.sessions
    · have hSub' := subscribed_removeSession_of_inv h session hInv hMem
      refine ⟨⟨fun s sid id hSub => ?_, fun s sid id hSub => ?_⟩, fun s sid id => ?_⟩
      · obtain ⟨hSub, hSid⟩ := (hSub' s sid id).mp hSub
        simp only [apply, listed_removeSession, hMem, true_and, if_neg hSid]
        exact hInv.covered s sid id hSub
      · obtain ⟨hSub, hSid⟩ := (hSub' s sid id).mp hSub
        simp only [apply, removeSession_sessions, AList.mem_erase]
        exact ⟨hSid, hInv.registered s sid id hSub⟩
      · simp only [apply, hSub', hRep s sid id, absApply, Set.mem_ofPred_eq]
    · have hSame := removeSession_of_notMem h session hMem
      refine ⟨by simpa only [apply, hSame] using hInv, fun s sid id => ?_⟩
      simp only [apply, hSame, hRep s sid id, absApply, Set.mem_ofPred_eq]
      constructor
      · intro hR
        refine ⟨hR, ?_⟩
        rintro rfl
        exact hMem (hInv.registered s _ id ((hRep s _ id).mpr hR))
      · exact And.left
  | subscribeSession sid stream identifier =>
    refine ⟨⟨fun s sid' id hSub => ?_, fun s sid' id hSub => ?_⟩, fun s sid' id => ?_⟩
    · simp only [apply, listed_subscribeSession]
      rcases (subscribed_subscribeSession h sid stream identifier s sid' id).mp hSub with
        hOld | ⟨rfl, rfl, rfl⟩
      · split <;> simp [hInv.covered s sid' id hOld]
      · simp
    · simp only [apply, subscribeSession_sessions]
      rcases (subscribed_subscribeSession h sid stream identifier s sid' id).mp hSub with
        hOld | ⟨rfl, rfl, rfl⟩
      · exact hInv.registered s sid' id hOld
      · exact hAdm
    · simp only [apply, subscribed_subscribeSession, hRep s sid' id, absApply, Set.mem_insert_iff,
        Prod.mk.injEq]
      tauto
  | unsubscribeSession sid stream identifier =>
    refine ⟨⟨fun s sid' id hSub => ?_, fun s sid' id hSub => ?_⟩, fun s sid' id => ?_⟩
    · have hOld := ((subscribed_unsubscribeSession h sid stream identifier s sid' id).mp hSub).1
      simpa [apply, listed] using hInv.covered s sid' id hOld
    · have hOld := ((subscribed_unsubscribeSession h sid stream identifier s sid' id).mp hSub).1
      simpa [apply] using hInv.registered s sid' id hOld
    · simp only [apply, subscribed_unsubscribeSession, hRep s sid' id, absApply, Set.mem_sdiff,
        Set.mem_singleton_iff, Prod.mk.injEq]
  | unsubscribeSessionFromChannel sid identifier =>
    have hSub' := subscribed_unsubscribeSessionFromChannel_of_inv h sid identifier hInv
    refine ⟨⟨fun s sid' id hSub => ?_, fun s sid' id hSub => ?_⟩, fun s sid' id => ?_⟩
    · simpa [apply, listed] using hInv.covered s sid' id ((hSub' s sid' id).mp hSub).1
    · simpa [apply] using hInv.registered s sid' id ((hSub' s sid' id).mp hSub).1
    · simp only [apply, hSub', hRep s sid' id, absApply, Set.mem_ofPred_eq]
  | unsubscribeSessionFromAllChannels sid =>
    have hSub' := subscribed_unsubscribeSessionFromAllChannels_of_inv h sid hInv
    refine ⟨⟨fun s sid' id hSub => ?_, fun s sid' id hSub => ?_⟩, fun s sid' id => ?_⟩
    · obtain ⟨hOld, hSid⟩ := (hSub' s sid' id).mp hSub
      simpa [apply, listed_unsubscribeSessionFromAllChannels, hSid] using hInv.covered s sid' id hOld
    · simpa [apply] using hInv.registered s sid' id ((hSub' s sid' id).mp hSub).1
    · simp only [apply, hSub', hRep s sid' id, absApply, Set.mem_ofPred_eq]

theorem run_refines (h : Hub) (R : Triples) (ops : List Op) (hInv : IndexInv h)
    (hRep : Represents h R) (hRun : AdmittedRun h ops) :
    IndexInv (run h ops) ∧ Represents (run h ops) (absRun R ops) :=
  Transition.simulation apply Admitted absApply (fun h R => IndexInv h ∧ Represents h R)
    (fun h R op hRel hAdm => apply_step h R op hRel.1 hRel.2 hAdm) ops h R ⟨hInv, hRep⟩ hRun

variable {Value Frame : Type}

/-- From `NewHub`, after any admitted run, `streams[s][sid][id]` is present
exactly for the triples of the relation, and a broadcast to `stream` sends to
exactly the pairs of the relation on `stream` whose sid is registered. -/
theorem index_refines_relation (ops : List Op) (hRun : AdmittedRun newHub ops) (stream : String) :
    let h := run newHub ops
    (∀ s sid identifier, Subscribed h.streams s sid identifier ↔ (s, sid, identifier) ∈ absRun ∅ ops) ∧
      ∀ (unmarshal : String → Value) (encoders : String → EncodeFunction Value Frame) (data sid identifier : String),
        (sid, identifier) ∈ (broadcastTask unmarshal encoders data h stream).sent.map
            (fun d => (d.sid, d.identifier)) ↔
          (stream, sid, identifier) ∈ absRun ∅ ops ∧ sid ∈ h.sessions := by
  intro h
  have hRep := (run_refines newHub ∅ ops indexInv_newHub represents_newHub hRun).2
  refine ⟨hRep, fun unmarshal encoders data sid identifier => ?_⟩
  rw [mem_broadcastTask_pairs_iff unmarshal encoders data h stream, hRep]

theorem index_refines_relation_chat :
    AdmittedRun newHub [.addSession ⟨1, "a", "alice", "json"⟩, .subscribeSession "a" "room" "chat"] ∧
      let h := run newHub [.addSession ⟨1, "a", "alice", "json"⟩, .subscribeSession "a" "room" "chat"]
      (∀ s sid identifier, Subscribed h.streams s sid identifier ↔
        (s, sid, identifier) ∈ absRun ∅
          [.addSession ⟨1, "a", "alice", "json"⟩, .subscribeSession "a" "room" "chat"]) ∧
        ∀ (unmarshal : String → Unit) (encoders : String → EncodeFunction Unit Unit)
          (data sid identifier : String),
          (sid, identifier) ∈ (broadcastTask unmarshal encoders data h "room").sent.map
              (fun d => (d.sid, d.identifier)) ↔
            ("room", sid, identifier) ∈ absRun ∅
              [.addSession ⟨1, "a", "alice", "json"⟩, .subscribeSession "a" "room" "chat"] ∧
              sid ∈ h.sessions :=
  ⟨by decide, index_refines_relation _ (by decide) "room"⟩

end AnyCable.Hub
