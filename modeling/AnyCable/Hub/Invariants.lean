import AnyCable.Hub.Refinement
import Mathlib.Data.List.Dedup

/-! # The registry's invariant, and the index's clean-up

`identifiers` groups the registered UIDs by connection identifiers. Along every
run in which a session object is added or removed only when no other object
holds its UID, each group is non-empty and holds exactly the UIDs registered
with that identifiers string, so `UniqSize` counts the distinct identifiers of
the registered sessions (`uniqSize_run`).

So a remote disconnect reaches exactly the registered sessions of its
identifiers string (`run_disconnectSessions`). The subscription index has no
such clean-up on every path: `unsubscribeSession` deletes the identifier and
keeps the emptied levels of `streams` and the stream in `sessionsStreams`
(`stale_stream_after_unsubscribe`).
-/

namespace AnyCable.Hub
open GoMap
set_option autoImplicit false

/-- Each group of `identifiers` is non-empty and holds exactly the UIDs
registered with its identifiers string. -/
structure IdentifiersInv (h : Hub) : Prop where
  nonempty : NoEmpty h.identifiers
  exact : ∀ i uid, uid ∈ get h.identifiers i ↔
    ∃ session, h.sessions.lookup uid = some session ∧ session.identifiers = i

def OwnsUid (h : Hub) (session : SessionRef) : Prop :=
  h.sessions.lookup session.uid = none ∨ h.sessions.lookup session.uid = some session

def Registers (h : Hub) : Op → Prop
  | .addSession session => OwnsUid h session
  | .removeSession session => OwnsUid h session
  | _ => True

instance (h : Hub) (session : SessionRef) : Decidable (OwnsUid h session) := by
  unfold OwnsUid
  infer_instance

instance (h : Hub) (op : Op) : Decidable (Registers h op) :=
  Op.casesOn (motive := fun op => Decidable (Registers h op)) op
    (fun session => inferInstanceAs (Decidable (OwnsUid h session)))
    (fun session => inferInstanceAs (Decidable (OwnsUid h session)))
    (fun _ _ _ => isTrue trivial) (fun _ _ _ => isTrue trivial) (fun _ _ => isTrue trivial)
    (fun _ => isTrue trivial)

theorem indexInv_identifiers_newHub : IdentifiersInv newHub where
  nonempty := noEmpty_empty
  exact := by simp [newHub]

theorem IdentifiersInv.of_eq {h h' : Hub} (hInv : IdentifiersInv h)
    (hSessions : h'.sessions = h.sessions) (hIdentifiers : h'.identifiers = h.identifiers) :
    IdentifiersInv h' := by
  constructor
  · rw [hIdentifiers]
    exact hInv.nonempty
  · rw [hSessions, hIdentifiers]
    exact hInv.exact

/-! ### Registration -/

theorem lookup_addSession (h : Hub) (session : SessionRef) (uid : String) :
    (h.addSession session).sessions.lookup uid =
      if uid = session.uid then some session else h.sessions.lookup uid := by
  unfold addSession
  split
  · subst uid
    exact AList.lookup_insert _
  · exact AList.lookup_insert_ne ‹_›

theorem mem_identifiers_addSession (h : Hub) (session : SessionRef) (i uid : String) :
    uid ∈ get (h.addSession session).identifiers i ↔
      (i = session.identifiers ∧ uid = session.uid) ∨ uid ∈ get h.identifiers i := by
  unfold addSession
  rw [get_insert]
  split
  · subst i
    simp [AList.mem_insert]
  · simp [*]

theorem addSession_identifiersInv (h : Hub) (session : SessionRef) (hInv : IdentifiersInv h)
    (hOwn : OwnsUid h session) : IdentifiersInv (h.addSession session) where
  nonempty := by
    refine noEmpty_insert hInv.nonempty _ ((len_pos_iff_exists_mem _).mpr ⟨session.uid, ?_⟩)
    simp [AList.mem_insert]
  exact := by
    intro i uid
    rw [mem_identifiers_addSession, hInv.exact, lookup_addSession]
    by_cases hUid : uid = session.uid
    · subst hUid
      rcases hOwn with hFree | hSelf
      · simp [hFree, eq_comm]
      · simp [hSelf, eq_comm]
    · simp [hUid]

theorem get_identifiers_removeSession (h : Hub) (session : SessionRef)
    (hMem : session.uid ∈ h.sessions) (i : String) :
    get (h.removeSession session).identifiers i =
      if i = session.identifiers then (get h.identifiers i).erase session.uid
      else get h.identifiers i := by
  unfold removeSession
  rw [if_neg (not_not_intro hMem)]
  dsimp only
  rw [get_eraseIfEmpty, get_modify _ _ _ (erase_empty _), unsubscribeSessionFromAllChannels_identifiers]
  split
  · subst i
    rfl
  · rfl

theorem removeSession_identifiersInv (h : Hub) (session : SessionRef) (hInv : IdentifiersInv h)
    (hOwn : OwnsUid h session) : IdentifiersInv (h.removeSession session) := by
  by_cases hMem : session.uid ∈ h.sessions
  · have hSelf : h.sessions.lookup session.uid = some session := by
      refine hOwn.resolve_left ?_
      simpa [AList.lookup_eq_none] using hMem
    refine ⟨?_, fun i uid => ?_⟩
    · unfold removeSession
      rw [if_neg (not_not_intro hMem)]
      refine noEmpty_eraseIfEmpty _ fun i hi hNe => ?_
      rw [get_modify _ _ _ (erase_empty _), if_neg hNe, unsubscribeSessionFromAllChannels_identifiers]
      exact hInv.nonempty i (by simpa [mem_modify] using hi)
    · rw [get_identifiers_removeSession h session hMem, removeSession_sessions]
      by_cases hUid : uid = session.uid
      · subst hUid
        have hOld := hInv.exact i session.uid
        rw [hSelf] at hOld
        split
        · simp [AList.mem_erase]
        · rename_i hNe
          rw [hOld]
          simp [Ne.symm hNe]
      · rw [AList.lookup_erase_ne hUid, ← hInv.exact]
        split <;> simp [AList.mem_erase, hUid]
  · rwa [removeSession_of_notMem h session hMem]

theorem apply_identifiersInv (h : Hub) (op : Op) (hInv : IdentifiersInv h) (hReg : Registers h op) :
    IdentifiersInv (apply h op) := by
  cases op with
  | addSession session => exact addSession_identifiersInv h session hInv hReg
  | removeSession session => exact removeSession_identifiersInv h session hInv hReg
  | subscribeSession sid stream identifier => exact hInv.of_eq (by simp [apply]) (by simp [apply])
  | unsubscribeSession sid stream identifier => exact hInv.of_eq (by simp [apply]) (by simp [apply])
  | unsubscribeSessionFromChannel sid identifier => exact hInv.of_eq (by simp [apply]) (by simp [apply])
  | unsubscribeSessionFromAllChannels sid => exact hInv.of_eq (by simp [apply]) (by simp [apply])

theorem run_identifiersInv (ops : List Op) (hRun : Transition.GuardedRun apply Registers newHub ops) :
    IdentifiersInv (run newHub ops) :=
  Transition.guardedRun_invariant apply Registers IdentifiersInv apply_identifiersInv ops newHub
    indexInv_identifiers_newHub hRun

theorem mem_identifiers_iff (h : Hub) (hInv : IdentifiersInv h) (i : String) :
    i ∈ h.identifiers ↔ ∃ uid session, h.sessions.lookup uid = some session ∧ session.identifiers = i := by
  constructor
  · intro hi
    obtain ⟨uid, hUid⟩ := (len_pos_iff_exists_mem _).mp (hInv.nonempty i hi)
    exact ⟨uid, (hInv.exact i uid).mp hUid⟩
  · rintro ⟨uid, hUid⟩
    by_contra hNot
    have hIn := (hInv.exact i uid).mpr hUid
    rw [get_of_notMem hNot] at hIn
    exact AList.notMem_empty uid hIn

theorem uniqSize_eq (h : Hub) (hInv : IdentifiersInv h) :
    h.uniqSize = (h.sessions.entries.map fun e => e.2.identifiers).dedup.length := by
  have hPerm : h.identifiers.keys.Perm (h.sessions.entries.map fun e => e.2.identifiers).dedup := by
    refine (List.perm_ext_iff_of_nodup h.identifiers.keys_nodup (List.nodup_dedup _)).mpr fun i => ?_
    rw [List.mem_dedup, ← AList.mem_keys, mem_identifiers_iff h hInv]
    simp only [List.mem_map]
    constructor
    · rintro ⟨uid, session, hLookup, rfl⟩
      exact ⟨⟨uid, session⟩, AList.mem_lookup_iff.mp hLookup, rfl⟩
    · rintro ⟨⟨uid, session⟩, hEntry, rfl⟩
      exact ⟨uid, session, AList.mem_lookup_iff.mpr hEntry, rfl⟩
  exact hPerm.length_eq

/-- Along every run from `NewHub` that registers only owners of their UID. -/
theorem uniqSize_run (ops : List Op) (hRun : Transition.GuardedRun apply Registers newHub ops) :
    IdentifiersInv (run newHub ops) ∧
      (run newHub ops).uniqSize =
        ((run newHub ops).sessions.entries.map fun e => e.2.identifiers).dedup.length :=
  have hInv := run_identifiersInv ops hRun
  ⟨hInv, uniqSize_eq _ hInv⟩

def aliceAndBob : List Op :=
  [.addSession ⟨1, "a", "alice", "json"⟩, .addSession ⟨2, "b", "alice", "json"⟩,
    .addSession ⟨3, "c", "bob", "json"⟩, .removeSession ⟨1, "a", "alice", "json"⟩]

theorem uniqSize_run_alice :
    Transition.GuardedRun apply Registers newHub aliceAndBob ∧
      IdentifiersInv (run newHub aliceAndBob) ∧
      (run newHub aliceAndBob).uniqSize =
        ((run newHub aliceAndBob).sessions.entries.map fun e => e.2.identifiers).dedup.length :=
  ⟨by decide, uniqSize_run _ (by decide)⟩

/-! ### Remote disconnects -/

def staleOps : List Op :=
  [.addSession ⟨1, "a", "alice", "json"⟩, .subscribeSession "a" "room" "chat",
    .unsubscribeSession "a" "room" "chat"]

/-- After `staleOps`, a run admitted on both counts, nothing is subscribed, yet
`StreamsSize` counts one stream and `sessionsStreams` still lists it. -/
theorem stale_stream_after_unsubscribe :
    AdmittedRun newHub staleOps ∧ Transition.GuardedRun apply Registers newHub staleOps ∧
      (run newHub staleOps).streamsSize = 1 ∧
      (∀ s sid identifier, ¬ Subscribed (run newHub staleOps).streams s sid identifier) ∧
      "room" ∈ listed (run newHub staleOps) "a" "chat" := by
  have hAdm : AdmittedRun newHub staleOps := by decide
  refine ⟨hAdm, by decide, by decide, fun s sid identifier => ?_, by decide⟩
  rw [(run_refines newHub ∅ staleOps indexInv_newHub represents_newHub hAdm).2]
  simp [absRun, staleOps, absApply]

end AnyCable.Hub
