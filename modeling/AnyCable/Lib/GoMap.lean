import Mathlib.Data.List.AList

/-! # Go maps as association lists

A Go `map[K]V` has unique keys and an unspecified iteration order. It is
modelled by an `AList`. Reading a missing key gives the zero value; for a
nested map that is the nil map, which reads as empty and on which `delete`
does nothing. Mutating a nested map in place through `m[k]` is `modify`,
which therefore leaves `m` alone when `k` is absent.
-/

namespace GoMap
set_option autoImplicit false

abbrev Map (K V : Type) := AList (fun _ : K => V)

variable {K V : Type} [DecidableEq K]

/-- `m[k]`, where the zero value of `V` is `∅` (nil map, nil slice). -/
def get [EmptyCollection V] (m : Map K V) (k : K) : V := (m.lookup k).getD ∅

def modify (m : Map K V) (k : K) (f : V → V) : Map K V :=
  match m.lookup k with
  | some v => m.insert k (f v)
  | none => m

def len (m : Map K V) : Nat := m.keys.length

section Lookup

theorem lookup_modify_self (m : Map K V) (k : K) (f : V → V) :
    (modify m k f).lookup k = (m.lookup k).map f := by
  unfold modify
  cases h : m.lookup k with
  | none => simp [h]
  | some v => simp

theorem lookup_modify_ne (m : Map K V) {k k' : K} (f : V → V) (h : k' ≠ k) :
    (modify m k f).lookup k' = m.lookup k' := by
  unfold modify
  split <;> simp [AList.lookup_insert_ne h]

theorem mem_modify (m : Map K V) (k k' : K) (f : V → V) : k' ∈ modify m k f ↔ k' ∈ m := by
  by_cases h : k' = k
  · subst h
    rw [← AList.lookup_isSome, ← AList.lookup_isSome, lookup_modify_self]
    simp
  · rw [← AList.lookup_isSome, ← AList.lookup_isSome, lookup_modify_ne m f h]

theorem erase_of_notMem {m : Map K V} {k : K} (h : k ∉ m) : m.erase k = m :=
  AList.ext (List.kerase_of_notMem_keys h)

theorem lookup_foldl_modify {α : Type} (l : List α) (f : V → α → V) (m : Map K V) (k k' : K) :
    (l.foldl (fun m a => modify m k (fun v => f v a)) m).lookup k' =
      if k' = k then (m.lookup k).map (fun v => l.foldl f v) else m.lookup k' := by
  induction l generalizing m with
  | nil =>
    split
    · rename_i hEq
      subst hEq
      simp
    · rfl
  | cons a l ih =>
    rw [List.foldl_cons, ih]
    split
    · subst k'
      simp [lookup_modify_self, Option.map_map, Function.comp_def]
    · exact lookup_modify_ne m _ ‹_›

theorem lookup_foldl_insert {W : Type} (f : K → V → W) (l : List (Sigma fun _ : K => V)) (hl : l.NodupKeys)
    (s : Map K W) (k : K) :
    (l.foldl (fun s e => s.insert e.1 (f e.1 e.2)) s).lookup k =
      (l.dlookup k).elim (s.lookup k) fun v => some (f k v) := by
  induction l generalizing s with
  | nil => rfl
  | cons e l ih =>
    obtain ⟨k', v⟩ := e
    obtain ⟨hNotMem, hl⟩ := List.nodupKeys_cons.mp hl
    rw [List.foldl_cons, ih hl]
    by_cases hKey : k = k'
    · subst hKey
      rw [List.dlookup_eq_none.mpr hNotMem, List.dlookup_cons_eq]
      exact AList.lookup_insert _
    · rw [List.dlookup_cons_ne l _ hKey]
      dsimp only
      rw [AList.lookup_insert_ne hKey]

theorem len_eq_zero_iff_lookup (m : Map K V) : len m = 0 ↔ ∀ k, m.lookup k = none := by
  unfold len
  rw [List.length_eq_zero_iff, List.eq_nil_iff_forall_not_mem]
  simp only [AList.mem_keys, AList.lookup_eq_none]

end Lookup

section Get
variable [EmptyCollection V]

@[simp] theorem get_empty (k : K) : get (∅ : Map K V) k = ∅ := rfl

@[simp] theorem get_insert_self (m : Map K V) (k : K) (v : V) : get (m.insert k v) k = v := by
  simp [get]

theorem get_insert_ne (m : Map K V) {k k' : K} (v : V) (h : k' ≠ k) :
    get (m.insert k v) k' = get m k' := by
  simp [get, AList.lookup_insert_ne h]

theorem get_insert (m : Map K V) (k k' : K) (v : V) :
    get (m.insert k v) k' = if k' = k then v else get m k' := by
  split
  · subst k'
    exact get_insert_self m k v
  · exact get_insert_ne m v ‹_›

theorem get_erase (m : Map K V) (k k' : K) :
    get (m.erase k) k' = if k' = k then ∅ else get m k' := by
  split
  · subst k'
    simp [get]
  · simp [get, AList.lookup_erase_ne ‹k' ≠ k›]

theorem get_of_notMem {m : Map K V} {k : K} (h : k ∉ m) : get m k = ∅ := by
  simp [get, AList.lookup_eq_none.mpr h]

theorem get_modify (m : Map K V) (k k' : K) {f : V → V} (hf : f ∅ = ∅) :
    get (modify m k f) k' = if k' = k then f (get m k) else get m k' := by
  split
  · subst k'
    unfold get
    rw [lookup_modify_self]
    cases m.lookup k <;> simp [hf]
  · unfold get
    rw [lookup_modify_ne m f ‹_›]

end Get

section Nested
variable {K' W : Type}

@[simp] theorem erase_empty [DecidableEq K'] (k : K') : (∅ : Map K' W).erase k = ∅ := rfl

@[simp] theorem modify_empty (k : K) (f : V → V) : modify (∅ : Map K V) k f = ∅ := rfl

theorem len_eq_zero_iff (m : Map K' W) : len m = 0 ↔ m = ∅ := by
  constructor
  · intro h
    apply AList.ext
    have hKeys : m.keys = [] := List.length_eq_zero_iff.mp h
    simpa [AList.keys, List.keys] using hKeys
  · rintro rfl
    rfl

theorem len_pos_iff_exists_mem (m : Map K' W) : 0 < len m ↔ ∃ k, k ∈ m := by
  unfold len
  rw [List.length_pos_iff_exists_mem]
  simp only [AList.mem_keys]

theorem get_erase_of_len_zero [DecidableEq K'] (m : Map K (Map K' W)) {k : K}
    (h : len (get m k) = 0) (k' : K) :
    get (m.erase k) k' = get m k' := by
  rw [get_erase]
  split
  · subst k'
    exact ((len_eq_zero_iff _).mp h).symm
  · rfl

theorem get_eraseIfEmpty [DecidableEq K'] (m : Map K (Map K' W)) (k a : K) :
    get (if len (get m k) = 0 then m.erase k else m) a = get m a := by
  split
  · exact get_erase_of_len_zero m ‹_› a
  · rfl

theorem get_get_eraseIfEmpty {K'' : Type} [DecidableEq K'] [DecidableEq K'']
    (m : Map K (Map K' (Map K'' W))) (k : K) (k' : K') (a : K) (b : K') :
    get (get (if len (get (get m k) k') = 0 then modify m k (·.erase k') else m) a) b =
      get (get m a) b := by
  split
  · rw [get_modify m k a (erase_empty k')]
    split
    · subst a
      exact get_erase_of_len_zero _ ‹_› b
    · rfl
  · rfl

def NoEmpty (m : Map K (Map K' W)) : Prop := ∀ k ∈ m, 0 < len (get m k)

theorem noEmpty_empty : NoEmpty (∅ : Map K (Map K' W)) :=
  fun k hk => absurd hk (AList.notMem_empty k)

theorem noEmpty_insert {m : Map K (Map K' W)} (hm : NoEmpty m) (k : K) {v : Map K' W}
    (hv : 0 < len v) : NoEmpty (m.insert k v) := by
  intro k' hk'
  rw [get_insert]
  split
  · exact hv
  · rename_i hNe
    exact hm k' (((AList.mem_insert m).mp hk').resolve_left hNe)

theorem noEmpty_eraseIfEmpty [DecidableEq K'] {m : Map K (Map K' W)} (k : K)
    (hm : ∀ k' ∈ m, k' ≠ k → 0 < len (get m k')) :
    NoEmpty (if len (get m k) = 0 then m.erase k else m) := by
  intro k' hk'
  rw [get_eraseIfEmpty]
  by_cases hEq : k' = k
  · subst hEq
    split at hk'
    · exact absurd hk' (by simp)
    · omega
  · split at hk'
    · exact hm k' (AList.mem_erase.mp hk').2 hEq
    · exact hm k' hk' hEq

end Nested

end GoMap
