import AnyCable.Lib.GoMap
import Mathlib.Logic.Function.Basic

/-! # Connection and channel states

`SessionEnv` (`common/common.go`) carries the connection state and one state
map per channel. `MergeConnectionState` and `MergeChannelState` fold a delta map
into them, deleting a key whose new value is the empty string and setting it
otherwise; `Session.MergeEnv` (`node/session.go`) merges a whole env, and the
node merges every callback's `CState` and `IState` the same way. A nil pointer
is `none`: dereferencing it panics, and a panic is a `none` result.

A Go map is compared by what it holds under each key, so the merges are read
through `contents`. On contents a delta acts key by key (`patch`), which gives
the composition law (`composition_laws`).
-/

namespace AnyCable.Common
open GoMap
set_option autoImplicit false

structure SessionEnv where
  url : String
  headers : Option (Map String String)
  connectionState : Option (Map String String)
  channelStates : Option (Map String (Map String String))

def newSessionEnv (url : String) (headers : Option (Map String String)) : SessionEnv :=
  ⟨url, headers, some ∅, some ∅⟩

def mergeEntry (state : Map String String) (k v : String) : Map String String :=
  if v = "" then state.erase k else state.insert k v

def mergeInto (state other : Map String String) : Map String String :=
  other.entries.foldl (fun state e => mergeEntry state e.1 e.2) state

namespace SessionEnv

def mergeConnectionState (st : SessionEnv) (other : Map String String) : Option SessionEnv :=
  match st.connectionState with
  | some state => some { st with connectionState := some (mergeInto state other) }
  | none => if len other = 0 then some st else none

def mergeChannel (states : Map String (Map String String)) (id : String)
    (other : Map String String) : Map String (Map String String) :=
  let states := if id ∈ states then states else states.insert id ∅
  other.entries.foldl (fun states e => modify states id (fun state => mergeEntry state e.1 e.2)) states

def mergeChannelState (st : SessionEnv) (id : String) (other : Map String String) :
    Option SessionEnv :=
  match st.channelStates with
  | some states => some { st with channelStates := some (mergeChannel states id other) }
  | none => none

def mergeConnectionStateOpt (st : SessionEnv) (o : Option (Map String String)) : Option SessionEnv :=
  match o with
  | some cstate => st.mergeConnectionState cstate
  | none => some st

/-- `if env.ChannelStates != nil`, one `MergeChannelState` per channel. -/
def mergeChannelStates (st : SessionEnv) (o : Option (Map String (Map String String))) :
    Option SessionEnv :=
  match o with
  | some states => states.entries.foldlM (fun st e => st.mergeChannelState e.1 e.2) st
  | none => some st

/-- `Session.MergeEnv(env)` on the session's env `st`. -/
def mergeEnv (st env : SessionEnv) : Option SessionEnv :=
  (st.mergeConnectionStateOpt env.connectionState).bind (·.mergeChannelStates env.channelStates)

end SessionEnv

/-! ## Composing deltas

A delta `b` after a delta `a` acts as the one delta in which `b`'s entries,
deletion marks included, override `a`'s. For whole envs this is done per field,
and per channel for the channel states.
-/

def overrideBy (a b : Map String String) : Map String String := b ∪ a

def overrideChannels (s₁ s₂ : Map String (Map String String)) : Map String (Map String String) :=
  s₂.entries.foldl (fun s e => s.insert e.1 (overrideBy (GoMap.get s₁ e.1) e.2)) s₁

def composeEnv (e₁ e₂ : SessionEnv) : SessionEnv :=
  { e₂ with
    connectionState := Option.merge overrideBy e₁.connectionState e₂.connectionState
    channelStates := Option.merge overrideChannels e₁.channelStates e₂.channelStates }

inductive EnvOp where
  | connection (other : Map String String)
  | channel (id : String) (other : Map String String)
  | env (delta : SessionEnv)

def SessionEnv.applyOp (st : SessionEnv) : EnvOp → Option SessionEnv
  | .connection other => st.mergeConnectionState other
  | .channel id other => st.mergeChannelState id other
  | .env delta => st.mergeEnv delta

def SessionEnv.runOps (st : SessionEnv) (ops : List EnvOp) : Option SessionEnv :=
  ops.foldlM SessionEnv.applyOp st

/-! ## Contents -/

abbrev Contents := String → Option String

def contents (m : Map String String) : Contents := fun k => m.lookup k

def channelContents (states : Map String (Map String String)) : String → Option Contents :=
  fun id => (states.lookup id).map contents

structure EnvView where
  url : String
  headers : Option (Map String String)
  connectionState : Option Contents
  channelStates : Option (String → Option Contents)

def SessionEnv.view (st : SessionEnv) : EnvView :=
  ⟨st.url, st.headers, st.connectionState.map contents, st.channelStates.map channelContents⟩

def patch (d old : Option String) : Option String :=
  match d with
  | some v => if v = "" then none else some v
  | none => old

def patchAll (d c : Contents) : Contents := fun k => patch (d k) (c k)

@[simp] theorem contents_empty : contents ∅ = fun _ => none := rfl

theorem lookup_foldl_mergeEntry (l : List (Sigma fun _ : String => String)) (hl : l.NodupKeys)
    (state : Map String String) (k : String) :
    (l.foldl (fun state e => mergeEntry state e.1 e.2) state).lookup k =
      patch (l.dlookup k) (state.lookup k) := by
  induction l generalizing state with
  | nil => rfl
  | cons e l ih =>
    obtain ⟨k', v⟩ := e
    obtain ⟨hNotMem, hl⟩ := List.nodupKeys_cons.mp hl
    rw [List.foldl_cons, ih hl]
    by_cases hk : k = k'
    · subst hk
      rw [List.dlookup_eq_none.mpr hNotMem, List.dlookup_cons_eq]
      unfold mergeEntry
      dsimp only
      split <;> simp [patch, *]
    · rw [List.dlookup_cons_ne l _ hk]
      unfold mergeEntry
      dsimp only
      split
      · rw [AList.lookup_erase_ne hk]
      · rw [AList.lookup_insert_ne hk]

theorem contents_mergeInto (state other : Map String String) :
    contents (mergeInto state other) = patchAll (contents other) (contents state) := by
  funext k
  exact lookup_foldl_mergeEntry other.entries other.nodupKeys state k

theorem lookup_mergeChannel (states : Map String (Map String String)) (id id' : String)
    (other : Map String String) :
    (SessionEnv.mergeChannel states id other).lookup id' =
      if id' = id then some (mergeInto (GoMap.get states id) other) else states.lookup id' := by
  unfold SessionEnv.mergeChannel
  rw [lookup_foldl_modify]
  split
  · rename_i hEq
    subst hEq
    unfold GoMap.get
    split
    · rename_i hMem
      obtain ⟨inner, hInner⟩ := Option.isSome_iff_exists.mp (AList.lookup_isSome.mpr hMem)
      simp [hInner, mergeInto]
    · rename_i hMem
      simp [AList.lookup_eq_none.mpr hMem, mergeInto]
  · rename_i hNe
    split
    · rfl
    · exact AList.lookup_insert_ne hNe

theorem contents_get (states : Map String (Map String String)) (id : String) :
    contents (GoMap.get states id) = (channelContents states id).getD fun _ => none := by
  unfold GoMap.get channelContents
  cases states.lookup id <;> rfl

theorem channelContents_mergeChannel (states : Map String (Map String String)) (id : String)
    (other : Map String String) :
    channelContents (SessionEnv.mergeChannel states id other) =
      Function.update (channelContents states) id
        (some (patchAll (contents other) ((channelContents states id).getD fun _ => none))) := by
  funext id'
  by_cases hEq : id' = id
  · subst hEq
    rw [Function.update_self, ← contents_get]
    simp only [channelContents, lookup_mergeChannel, if_true, Option.map_some, contents_mergeInto]
  · rw [Function.update_of_ne hEq]
    simp only [channelContents, lookup_mergeChannel, if_neg hEq]

/-! ## The merges on contents

The same merges on `EnvView`s. Whether a delta is empty decides whether a nil
pointer is dereferenced, and on contents that is a question about a function,
so this layer is classical.
-/

def override (a b : Contents) : Contents := fun k => (b k).or (a k)

def overrideChannelContents (f g : String → Option Contents) : String → Option Contents :=
  fun id => Option.merge override (f id) (g id)

theorem patchAll_override (a b c : Contents) :
    patchAll (override a b) c = patchAll b (patchAll a c) := by
  funext k
  unfold patchAll override
  cases b k <;> rfl

theorem override_empty_left (c : Contents) : override (fun _ => none) c = c := by
  funext k
  exact Option.or_none

theorem override_eq_empty_iff (a b : Contents) :
    override a b = (fun _ => none) ↔ a = (fun _ => none) ∧ b = (fun _ => none) := by
  simp only [override, funext_iff, Option.or_eq_none_iff, forall_and]
  exact and_comm

namespace EnvView

open Classical in
noncomputable def mergeConnection (v : EnvView) (d : Contents) : Option EnvView :=
  match v.connectionState with
  | some c => some { v with connectionState := some (patchAll d c) }
  | none => if d = (fun _ => none) then some v else none

def mergeChannel (v : EnvView) (id : String) (d : Contents) : Option EnvView :=
  match v.channelStates with
  | some cs =>
    let c := patchAll d ((cs id).getD fun _ => none)
    some { v with channelStates := some (Function.update cs id (some c)) }
  | none => none

def patchChannels (ds cs : String → Option Contents) : String → Option Contents :=
  fun id => (ds id).elim (cs id) fun d => some (patchAll d ((cs id).getD fun _ => none))

open Classical in
noncomputable def mergeChannels (v : EnvView) (ds : String → Option Contents) : Option EnvView :=
  match v.channelStates with
  | some cs => some { v with channelStates := some (patchChannels ds cs) }
  | none => if ds = (fun _ => none) then some v else none

noncomputable def mergeConnectionOpt (v : EnvView) (o : Option Contents) : Option EnvView :=
  o.elim (some v) v.mergeConnection

noncomputable def mergeChannelsOpt (v : EnvView) (o : Option (String → Option Contents)) :
    Option EnvView :=
  o.elim (some v) v.mergeChannels

noncomputable def mergeEnv (v e : EnvView) : Option EnvView :=
  (v.mergeConnectionOpt e.connectionState).bind (·.mergeChannelsOpt e.channelStates)

theorem mergeChannels_empty (v : EnvView) : v.mergeChannels (fun _ => none) = some v := by
  unfold mergeChannels
  cases v with
  | mk url headers connectionState channelStates =>
    cases channelStates with
    | some cs => rfl
    | none => simp

def compose (e₁ e₂ : EnvView) : EnvView :=
  { e₂ with
    connectionState := Option.merge override e₁.connectionState e₂.connectionState
    channelStates := Option.merge overrideChannelContents e₁.channelStates e₂.channelStates }

/-! ### The composition laws on contents -/

theorem mergeConnection_mergeConnection (v : EnvView) (a b : Contents) :
    (v.mergeConnection a).bind (·.mergeConnection b) = v.mergeConnection (override a b) := by
  unfold mergeConnection
  cases hc : v.connectionState with
  | some c => simp [patchAll_override]
  | none =>
    by_cases ha : a = fun _ => none
    · by_cases hb : b = fun _ => none
      · simp [ha, hb, hc, override_eq_empty_iff]
      · simp [ha, hb, hc, override_eq_empty_iff]
    · simp [ha, override_eq_empty_iff]

theorem mergeChannel_mergeChannel (v : EnvView) (id : String) (a b : Contents) :
    (v.mergeChannel id a).bind (·.mergeChannel id b) = v.mergeChannel id (override a b) := by
  unfold mergeChannel
  cases v.channelStates with
  | none => rfl
  | some cs => simp [patchAll_override]

theorem patchChannels_patchChannels (ds₁ ds₂ cs : String → Option Contents) :
    patchChannels ds₂ (patchChannels ds₁ cs) = patchChannels (overrideChannelContents ds₁ ds₂) cs := by
  funext id
  unfold patchChannels overrideChannelContents
  cases ds₁ id <;> cases ds₂ id <;> simp [Option.merge, patchAll_override]

theorem overrideChannelContents_eq_empty_iff (f g : String → Option Contents) :
    overrideChannelContents f g = (fun _ => none) ↔ f = (fun _ => none) ∧ g = (fun _ => none) := by
  simp only [funext_iff, overrideChannelContents, ← forall_and]
  refine forall_congr' fun id => ?_
  cases f id <;> cases g id <;> simp [Option.merge]

theorem mergeChannels_mergeChannels (v : EnvView) (ds₁ ds₂ : String → Option Contents) :
    (v.mergeChannels ds₁).bind (·.mergeChannels ds₂) =
      v.mergeChannels (overrideChannelContents ds₁ ds₂) := by
  unfold mergeChannels
  cases hc : v.channelStates with
  | some cs => simp [patchChannels_patchChannels]
  | none =>
    by_cases h₁ : ds₁ = fun _ => none
    · by_cases h₂ : ds₂ = fun _ => none
      · simp [h₁, h₂, hc, overrideChannelContents_eq_empty_iff]
      · simp [h₁, h₂, hc, overrideChannelContents_eq_empty_iff]
    · simp [h₁, overrideChannelContents_eq_empty_iff]

theorem mergeChannels_mergeConnection (v : EnvView) (ds : String → Option Contents) (d : Contents) :
    (v.mergeChannels ds).bind (·.mergeConnection d) = (v.mergeConnection d).bind (·.mergeChannels ds) := by
  unfold mergeChannels mergeConnection
  cases hc : v.connectionState <;> cases hs : v.channelStates <;> split_ifs <;> simp_all

theorem mergeConnectionOpt_mergeConnectionOpt (v : EnvView) (o₁ o₂ : Option Contents) :
    (v.mergeConnectionOpt o₁).bind (·.mergeConnectionOpt o₂) =
      v.mergeConnectionOpt (Option.merge override o₁ o₂) := by
  cases o₁ <;> cases o₂ <;> simp [mergeConnectionOpt, Option.merge, mergeConnection_mergeConnection]

theorem mergeChannelsOpt_mergeChannelsOpt (v : EnvView) (o₁ o₂ : Option (String → Option Contents)) :
    (v.mergeChannelsOpt o₁).bind (·.mergeChannelsOpt o₂) =
      v.mergeChannelsOpt (Option.merge overrideChannelContents o₁ o₂) := by
  cases o₁ <;> cases o₂ <;> simp [mergeChannelsOpt, Option.merge, mergeChannels_mergeChannels]

theorem mergeChannelsOpt_mergeConnectionOpt (v : EnvView) (h : Option (String → Option Contents))
    (o : Option Contents) :
    (v.mergeChannelsOpt h).bind (·.mergeConnectionOpt o) =
      (v.mergeConnectionOpt o).bind (·.mergeChannelsOpt h) := by
  cases h <;> cases o <;> simp [mergeChannelsOpt, mergeConnectionOpt, mergeChannels_mergeConnection]

theorem mergeEnv_mergeEnv (v e₁ e₂ : EnvView) :
    (v.mergeEnv e₁).bind (·.mergeEnv e₂) = v.mergeEnv (e₁.compose e₂) := by
  calc (v.mergeEnv e₁).bind (·.mergeEnv e₂)
      = (v.mergeConnectionOpt e₁.connectionState).bind fun v₁ =>
          ((v₁.mergeChannelsOpt e₁.channelStates).bind (·.mergeConnectionOpt e₂.connectionState)).bind
            (·.mergeChannelsOpt e₂.channelStates) := by
        simp only [mergeEnv, Option.bind_assoc]
    _ = (v.mergeConnectionOpt e₁.connectionState).bind fun v₁ =>
          ((v₁.mergeConnectionOpt e₂.connectionState).bind (·.mergeChannelsOpt e₁.channelStates)).bind
            (·.mergeChannelsOpt e₂.channelStates) := by
        simp only [mergeChannelsOpt_mergeConnectionOpt]
    _ = ((v.mergeConnectionOpt e₁.connectionState).bind (·.mergeConnectionOpt e₂.connectionState)).bind
          fun v₂ => (v₂.mergeChannelsOpt e₁.channelStates).bind (·.mergeChannelsOpt e₂.channelStates) := by
        simp only [Option.bind_assoc]
    _ = v.mergeEnv (e₁.compose e₂) := by
        simp only [mergeConnectionOpt_mergeConnectionOpt, mergeChannelsOpt_mergeChannelsOpt, mergeEnv,
          compose]

end EnvView

/-! ### Deltas that commute, and states without empty values -/

theorem override_comm {a b : Contents} (h : ∀ k, a k = none ∨ b k = none) :
    override a b = override b a := by
  funext k
  unfold override
  rcases h k with ha | hb
  · rw [ha]
    cases b k <;> rfl
  · rw [hb]
    cases a k <;> rfl

def NoEmptyValue (c : Contents) : Prop := ∀ k, c k ≠ some ""

structure EnvView.NoEmptyValues (v : EnvView) : Prop where
  connection : ∀ c, v.connectionState = some c → NoEmptyValue c
  channels : ∀ cs, v.channelStates = some cs → ∀ id c, cs id = some c → NoEmptyValue c

theorem noEmptyValue_patchAll (d : Contents) {c : Contents} (hc : NoEmptyValue c) :
    NoEmptyValue (patchAll d c) := by
  intro k
  unfold patchAll patch
  cases d k with
  | none => exact hc k
  | some v =>
    dsimp only
    split
    · simp
    · simpa

theorem noEmptyValue_getD {o : Option Contents} (ho : ∀ c, o = some c → NoEmptyValue c) :
    NoEmptyValue (o.getD fun _ => none) := by
  cases o with
  | none => intro k; simp
  | some c => exact ho c rfl

namespace EnvView

theorem noEmptyValues_mergeConnection {v v' : EnvView} {d : Contents} (hv : v.NoEmptyValues)
    (h : v.mergeConnection d = some v') : v'.NoEmptyValues := by
  unfold mergeConnection at h
  split at h
  · rename_i c hc
    cases h
    exact ⟨fun c' hc' => by cases hc'; exact noEmptyValue_patchAll d (hv.connection c hc), hv.channels⟩
  · split at h
    · cases h
      exact hv
    · cases h

theorem noEmptyValues_mergeChannel {v v' : EnvView} {id : String} {d : Contents}
    (hv : v.NoEmptyValues) (h : v.mergeChannel id d = some v') : v'.NoEmptyValues := by
  unfold mergeChannel at h
  split at h
  · rename_i cs hcs
    cases h
    refine ⟨hv.connection, fun cs' hcs' id' c hc => ?_⟩
    cases hcs'
    by_cases hId : id' = id
    · subst hId
      simp only [Function.update_self, Option.some.injEq] at hc
      subst hc
      exact noEmptyValue_patchAll d (noEmptyValue_getD (hv.channels cs hcs id'))
    · rw [Function.update_of_ne hId] at hc
      exact hv.channels cs hcs id' c hc
  · cases h

theorem noEmptyValues_mergeChannels {v v' : EnvView} {ds : String → Option Contents}
    (hv : v.NoEmptyValues) (h : v.mergeChannels ds = some v') : v'.NoEmptyValues := by
  unfold mergeChannels at h
  split at h
  · rename_i cs hcs
    cases h
    refine ⟨hv.connection, fun cs' hcs' id c hc => ?_⟩
    cases hcs'
    unfold patchChannels at hc
    cases hd : ds id with
    | none =>
      rw [hd] at hc
      exact hv.channels cs hcs id c hc
    | some d =>
      rw [hd] at hc
      cases hc
      exact noEmptyValue_patchAll d (noEmptyValue_getD (hv.channels cs hcs id))
  · split at h
    · cases h
      exact hv
    · cases h

theorem noEmptyValues_mergeEnv {v v' e : EnvView} (hv : v.NoEmptyValues) (h : v.mergeEnv e = some v') :
    v'.NoEmptyValues := by
  obtain ⟨v₁, h₁, h₂⟩ := Option.bind_eq_some_iff.mp h
  have hv₁ : v₁.NoEmptyValues := by
    unfold mergeConnectionOpt at h₁
    cases hc : e.connectionState with
    | none => rw [hc] at h₁; cases h₁; exact hv
    | some d => rw [hc] at h₁; exact noEmptyValues_mergeConnection hv h₁
  unfold mergeChannelsOpt at h₂
  cases hs : e.channelStates with
  | none => rw [hs] at h₂; cases h₂; exact hv₁
  | some ds => rw [hs] at h₂; exact noEmptyValues_mergeChannels hv₁ h₂

end EnvView

/-! ## The code's merges act on contents -/

theorem map_view_bind {f : SessionEnv → Option SessionEnv} (F : EnvView → Option EnvView)
    (hf : ∀ st, (f st).map SessionEnv.view = F st.view) (x : Option SessionEnv) :
    (x.bind f).map SessionEnv.view = (x.map SessionEnv.view).bind F := by
  cases x with
  | none => rfl
  | some st => exact hf st

theorem view_mergeConnectionState (st : SessionEnv) (other : Map String String) :
    (st.mergeConnectionState other).map SessionEnv.view = st.view.mergeConnection (contents other) := by
  unfold SessionEnv.mergeConnectionState EnvView.mergeConnection SessionEnv.view
  cases hc : st.connectionState with
  | some state => simp [contents_mergeInto]
  | none =>
    have hEmpty : len other = 0 ↔ contents other = fun _ => none := by
      rw [len_eq_zero_iff_lookup, funext_iff]
      rfl
    by_cases h : len other = 0
    · simp [h, hEmpty.mp h, hc]
    · simp [h, mt hEmpty.mpr h]

theorem view_mergeChannelState (st : SessionEnv) (id : String) (other : Map String String) :
    (st.mergeChannelState id other).map SessionEnv.view =
      st.view.mergeChannel id (contents other) := by
  unfold SessionEnv.mergeChannelState EnvView.mergeChannel SessionEnv.view
  cases st.channelStates with
  | some states => simp [channelContents_mergeChannel]
  | none => rfl

theorem mergeChannel_mergeChannels_of_fresh (v : EnvView) (id : String) (d : Contents)
    (ds : String → Option Contents) (hFresh : ds id = none) :
    (v.mergeChannel id d).bind (·.mergeChannels ds) =
      v.mergeChannels (Function.update ds id (some d)) := by
  unfold EnvView.mergeChannel EnvView.mergeChannels
  cases v.channelStates with
  | some cs =>
    simp only [Option.bind_some, Option.some.injEq]
    congr 2
    funext id'
    unfold EnvView.patchChannels
    by_cases hId : id' = id
    · subst hId
      simp [hFresh]
    · simp [Function.update_of_ne hId]
  | none =>
    have hNe : Function.update ds id (some d) ≠ fun _ => none := by
      intro hEq
      simpa using congrFun hEq id
    simp [hNe]

theorem view_foldlM_mergeChannelState (l : List (Sigma fun _ : String => Map String String))
    (hl : l.NodupKeys) (st : SessionEnv) :
    (l.foldlM (fun (st : SessionEnv) e => st.mergeChannelState e.1 e.2) st).map SessionEnv.view =
      st.view.mergeChannels fun id => (l.dlookup id).map contents := by
  induction l generalizing st with
  | nil =>
    show some st.view = st.view.mergeChannels fun _ => none
    rw [EnvView.mergeChannels_empty]
  | cons e l ih =>
    obtain ⟨id, other⟩ := e
    obtain ⟨hNotMem, hl⟩ := List.nodupKeys_cons.mp hl
    have hFresh : (fun id' => (l.dlookup id').map contents) id = none := by
      simp [List.dlookup_eq_none.mpr hNotMem]
    simp only [List.foldlM_cons, Option.bind_eq_bind]
    rw [map_view_bind (·.mergeChannels fun id => (l.dlookup id).map contents) (fun st => ih hl st),
      view_mergeChannelState,
      mergeChannel_mergeChannels_of_fresh _ _ _ _ hFresh]
    congr 1
    funext id'
    by_cases hId : id' = id
    · subst hId
      simp
    · simp [Function.update_of_ne hId, List.dlookup_cons_ne l ⟨id, other⟩ hId]

theorem view_mergeEnv (st env : SessionEnv) :
    (st.mergeEnv env).map SessionEnv.view = st.view.mergeEnv env.view := by
  have hConnection : (st.mergeConnectionStateOpt env.connectionState).map SessionEnv.view =
      st.view.mergeConnectionOpt (env.connectionState.map contents) := by
    unfold SessionEnv.mergeConnectionStateOpt
    cases env.connectionState with
    | some cstate => exact view_mergeConnectionState st cstate
    | none => rfl
  have hChannels : ∀ st₁ : SessionEnv,
      (st₁.mergeChannelStates env.channelStates).map SessionEnv.view =
        st₁.view.mergeChannelsOpt (env.channelStates.map channelContents) := by
    intro st₁
    unfold SessionEnv.mergeChannelStates
    cases env.channelStates with
    | some states => exact view_foldlM_mergeChannelState states.entries states.nodupKeys st₁
    | none => rfl
  unfold SessionEnv.mergeEnv EnvView.mergeEnv
  rw [map_view_bind (·.mergeChannelsOpt (env.channelStates.map channelContents)) hChannels, hConnection]
  rfl

theorem contents_overrideBy (a b : Map String String) :
    contents (overrideBy a b) = override (contents a) (contents b) := by
  funext k
  show (b ∪ a).lookup k = (b.lookup k).or (a.lookup k)
  by_cases hb : k ∈ b
  · rw [AList.lookup_union_left hb]
    obtain ⟨v, hv⟩ := Option.isSome_iff_exists.mp (AList.lookup_isSome.mpr hb)
    rw [hv]
    rfl
  · rw [AList.lookup_union_right hb, AList.lookup_eq_none.mpr hb]
    rfl

theorem lookup_foldl_insert_overrideBy (s₁ : Map String (Map String String))
    (l : List (Sigma fun _ : String => Map String String)) (hl : l.NodupKeys)
    (s : Map String (Map String String)) (id : String) :
    (l.foldl (fun s e => s.insert e.1 (overrideBy (GoMap.get s₁ e.1) e.2)) s).lookup id =
      (l.dlookup id).elim (s.lookup id) fun b => some (overrideBy (GoMap.get s₁ id) b) :=
  lookup_foldl_insert (fun k b => overrideBy (GoMap.get s₁ k) b) l hl s id

theorem channelContents_overrideChannels (s₁ s₂ : Map String (Map String String)) :
    channelContents (overrideChannels s₁ s₂) =
      overrideChannelContents (channelContents s₁) (channelContents s₂) := by
  funext id
  show ((overrideChannels s₁ s₂).lookup id).map contents =
    Option.merge override ((s₁.lookup id).map contents) ((s₂.entries.dlookup id).map contents)
  rw [overrideChannels, lookup_foldl_insert_overrideBy s₁ s₂.entries s₂.nodupKeys]
  cases s₂.entries.dlookup id with
  | none => cases s₁.lookup id <;> rfl
  | some b =>
    unfold GoMap.get
    cases s₁.lookup id with
    | none =>
      simp only [Option.elim_some, Option.map_some, Option.getD_none, contents_overrideBy,
        contents_empty, override_empty_left]
      rfl
    | some a => simp [contents_overrideBy, Option.merge]

theorem view_composeEnv (e₁ e₂ : SessionEnv) : (composeEnv e₁ e₂).view = e₁.view.compose e₂.view := by
  unfold composeEnv SessionEnv.view EnvView.compose
  simp only [EnvView.mk.injEq, true_and]
  constructor
  · cases e₁.connectionState <;> cases e₂.connectionState <;>
      simp [Option.merge, contents_overrideBy]
  · cases e₁.channelStates <;> cases e₂.channelStates <;>
      simp [Option.merge, channelContents_overrideChannels]

/-! ## The state-merge algebra -/

theorem mergeConnectionState_mergeConnectionState (st : SessionEnv) (a b : Map String String) :
    ((st.mergeConnectionState a).bind (·.mergeConnectionState b)).map SessionEnv.view =
      (st.mergeConnectionState (overrideBy a b)).map SessionEnv.view := by
  rw [map_view_bind (·.mergeConnection (contents b)) (fun st => view_mergeConnectionState st b),
    view_mergeConnectionState, EnvView.mergeConnection_mergeConnection, view_mergeConnectionState,
    contents_overrideBy]

theorem mergeChannelState_mergeChannelState (st : SessionEnv) (id : String) (a b : Map String String) :
    ((st.mergeChannelState id a).bind (·.mergeChannelState id b)).map SessionEnv.view =
      (st.mergeChannelState id (overrideBy a b)).map SessionEnv.view := by
  rw [map_view_bind (·.mergeChannel id (contents b)) (fun st => view_mergeChannelState st id b),
    view_mergeChannelState, EnvView.mergeChannel_mergeChannel, view_mergeChannelState,
    contents_overrideBy]

theorem mergeEnv_mergeEnv (st e₁ e₂ : SessionEnv) :
    ((st.mergeEnv e₁).bind (·.mergeEnv e₂)).map SessionEnv.view =
      (st.mergeEnv (composeEnv e₁ e₂)).map SessionEnv.view := by
  rw [map_view_bind (·.mergeEnv e₂.view) (fun st => view_mergeEnv st e₂), view_mergeEnv,
    EnvView.mergeEnv_mergeEnv, view_mergeEnv, view_composeEnv]

theorem override_contents_comm {a b : Map String String} (h : ∀ k, k ∉ a ∨ k ∉ b) :
    override (contents a) (contents b) = override (contents b) (contents a) := by
  apply override_comm
  intro k
  rcases h k with ha | hb
  · exact .inl (AList.lookup_eq_none.mpr ha)
  · exact .inr (AList.lookup_eq_none.mpr hb)

theorem noEmptyValues_applyOp {st st' : SessionEnv} (op : EnvOp) (hv : st.view.NoEmptyValues)
    (h : st.applyOp op = some st') : st'.view.NoEmptyValues := by
  cases op with
  | connection other =>
    have hAbs : st.view.mergeConnection (contents other) = some st'.view := by
      rw [← view_mergeConnectionState]
      exact congrArg (Option.map SessionEnv.view) h
    exact EnvView.noEmptyValues_mergeConnection hv hAbs
  | channel id other =>
    have hAbs : st.view.mergeChannel id (contents other) = some st'.view := by
      rw [← view_mergeChannelState]
      exact congrArg (Option.map SessionEnv.view) h
    exact EnvView.noEmptyValues_mergeChannel hv hAbs
  | env delta =>
    have hAbs : st.view.mergeEnv delta.view = some st'.view := by
      rw [← view_mergeEnv]
      exact congrArg (Option.map SessionEnv.view) h
    exact EnvView.noEmptyValues_mergeEnv hv hAbs

theorem noEmptyValues_runOps (ops : List EnvOp) (st st' : SessionEnv) (hv : st.view.NoEmptyValues)
    (h : st.runOps ops = some st') : st'.view.NoEmptyValues := by
  induction ops generalizing st with
  | nil =>
    cases h
    exact hv
  | cons op ops ih =>
    simp only [SessionEnv.runOps, List.foldlM_cons, Option.bind_eq_bind] at h
    obtain ⟨st₁, h₁, h₂⟩ := Option.bind_eq_some_iff.mp h
    exact ih st₁ (noEmptyValues_applyOp op hv h₁) h₂

/-- The state-merge algebra, with Go maps compared by contents and a panic as
`none`. Two connection merges act as one merge of the composed delta, and so do
two merges of one channel and two `MergeEnv` calls. Merges whose deltas have
disjoint key sets commute. No run of merges stores an empty string in a state
that held none. -/
theorem composition_laws :
    (∀ (st : SessionEnv) (a b : Map String String),
      ((st.mergeConnectionState a).bind (·.mergeConnectionState b)).map SessionEnv.view =
        (st.mergeConnectionState (overrideBy a b)).map SessionEnv.view) ∧
    (∀ (st : SessionEnv) (id : String) (a b : Map String String),
      ((st.mergeChannelState id a).bind (·.mergeChannelState id b)).map SessionEnv.view =
        (st.mergeChannelState id (overrideBy a b)).map SessionEnv.view) ∧
    (∀ st e₁ e₂ : SessionEnv,
      ((st.mergeEnv e₁).bind (·.mergeEnv e₂)).map SessionEnv.view =
        (st.mergeEnv (composeEnv e₁ e₂)).map SessionEnv.view) ∧
    (∀ (st : SessionEnv) (a b : Map String String), (∀ k, k ∉ a ∨ k ∉ b) →
      ((st.mergeConnectionState a).bind (·.mergeConnectionState b)).map SessionEnv.view =
        ((st.mergeConnectionState b).bind (·.mergeConnectionState a)).map SessionEnv.view ∧
      ∀ id, ((st.mergeChannelState id a).bind (·.mergeChannelState id b)).map SessionEnv.view =
        ((st.mergeChannelState id b).bind (·.mergeChannelState id a)).map SessionEnv.view) ∧
    (∀ (st st' : SessionEnv) (ops : List EnvOp), st.view.NoEmptyValues →
      st.runOps ops = some st' → st'.view.NoEmptyValues) := by
  refine ⟨mergeConnectionState_mergeConnectionState, mergeChannelState_mergeChannelState,
    mergeEnv_mergeEnv, ?_, fun st st' ops hv h => noEmptyValues_runOps ops st st' hv h⟩
  intro st a b hDisjoint
  constructor
  · rw [mergeConnectionState_mergeConnectionState, mergeConnectionState_mergeConnectionState,
      view_mergeConnectionState, view_mergeConnectionState, contents_overrideBy, contents_overrideBy,
      override_contents_comm hDisjoint]
  · intro id
    rw [mergeChannelState_mergeChannelState, mergeChannelState_mergeChannelState,
      view_mergeChannelState, view_mergeChannelState, contents_overrideBy, contents_overrideBy,
      override_contents_comm hDisjoint]

end AnyCable.Common
