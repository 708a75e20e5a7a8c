import AnyCable.Lib.JsonDecode
import AnyCable.Lib.FloatRoundTrip

/-! # What `toAny` keeps is its own normal form

The JSON that `json.Marshal` writes for a value `json.Unmarshal` put into an
`interface{}` decodes to itself again: `toAny` is idempotent (`toAny_toAny`).
A float64's shortest text reads back as the same float, and a map's keys come
out strictly ascending under `keyLt` (`toAnyMembers_ascending`), so that
inserting them again in that order only appends (`insertKey_of_lt`). No number
of such a value is out of range (`rangeError_toAny`).
-/

namespace GoJson
set_option autoImplicit false

theorem keyLt_irrefl : ∀ k : List Char, keyLt k k = false
  | [] => rfl
  | c :: k => by simp [keyLt, keyLt_irrefl k]

theorem keyLt_trans : ∀ {a b c : List Char}, keyLt a b = true → keyLt b c = true → keyLt a c = true
  | [], _ :: _, _ :: _, _, _ => rfl
  | a :: as, b :: bs, c :: cs, hab, hbc => by
    simp only [keyLt, Bool.or_eq_true, decide_eq_true_eq, Bool.and_eq_true] at hab hbc ⊢
    rcases hab with hab | ⟨rfl, hab⟩ <;> rcases hbc with hbc | ⟨rfl, hbc⟩
    · exact Or.inl (Nat.lt_trans hab hbc)
    · exact Or.inl hab
    · exact Or.inl hbc
    · exact Or.inr ⟨rfl, keyLt_trans hab hbc⟩
  | [], [], _, hab, _ => absurd hab (by decide)
  | _ :: _, [], _, hab, _ => absurd hab (by simp [keyLt])
  | _, _ :: _, [], _, hbc => absurd hbc (by simp [keyLt])

theorem keyLt_total : ∀ {a b : List Char}, a ≠ b → keyLt a b = false → keyLt b a = true
  | [], [], hNe, _ => absurd rfl hNe
  | [], _ :: _, _, hab => absurd hab (by simp [keyLt])
  | _ :: _, [], _, _ => rfl
  | a :: as, b :: bs, hNe, hab => by
    simp only [keyLt, Bool.or_eq_false_iff, decide_eq_false_iff_not, Bool.and_eq_false_iff] at hab
    simp only [keyLt, Bool.or_eq_true, decide_eq_true_eq, Bool.and_eq_true]
    by_cases hHead : a = b
    · subst hHead
      have hTail : as ≠ bs := fun h => hNe (h ▸ rfl)
      have hLt : keyLt as bs = false := by simpa using hab.2
      exact Or.inr ⟨rfl, keyLt_total hTail hLt⟩
    · have hCode : a.toNat ≠ b.toNat := fun h => hHead (Char.toNat_inj.mp h)
      exact Or.inl (by omega)

/-- The keys of a map's members in strictly ascending order, as `json.Marshal` writes them. -/
def KeysAscending (ms : List (List Char × Json)) : Prop :=
  ms.Pairwise fun p q => keyLt p.1 q.1 = true

theorem mem_insertKey {k : List Char} {v : Json} :
    ∀ {ms : List (List Char × Json)} {p : List Char × Json}, p ∈ insertKey k v ms → p = (k, v) ∨ p ∈ ms
  | [], p, hp => by simpa [insertKey] using hp
  | (k', v') :: ms, p, hp => by
    unfold insertKey at hp
    split_ifs at hp
    · rcases List.mem_cons.mp hp with rfl | hp
      · exact Or.inl rfl
      · exact Or.inr (List.mem_cons_of_mem _ hp)
    · rcases List.mem_cons.mp hp with rfl | hp
      · exact Or.inl rfl
      · exact Or.inr hp
    · rcases List.mem_cons.mp hp with rfl | hp
      · exact Or.inr List.mem_cons_self
      · rcases mem_insertKey hp with rfl | hp
        · exact Or.inl rfl
        · exact Or.inr (List.mem_cons_of_mem _ hp)

theorem insertKey_ascending (k : List Char) (v : Json) :
    ∀ {ms : List (List Char × Json)}, KeysAscending ms → KeysAscending (insertKey k v ms)
  | [], _ => List.pairwise_singleton _ _
  | (k', v') :: ms, h => by
    unfold KeysAscending at h ⊢
    rw [List.pairwise_cons] at h
    obtain ⟨hHead, hTail⟩ := h
    unfold insertKey
    split_ifs with hEq hLt
    · subst hEq
      exact List.pairwise_cons.mpr ⟨hHead, hTail⟩
    · refine List.pairwise_cons.mpr ⟨fun q hq => ?_, List.pairwise_cons.mpr ⟨hHead, hTail⟩⟩
      rcases List.mem_cons.mp hq with rfl | hq
      · exact hLt
      · exact keyLt_trans hLt (hHead q hq)
    · refine List.pairwise_cons.mpr ⟨fun q hq => ?_, insertKey_ascending k v hTail⟩
      rcases mem_insertKey hq with rfl | hq
      · show keyLt k' k = true
        exact keyLt_total hEq (by simpa using hLt)
      · exact hHead q hq

theorem toAnyMembers_ascending :
    ∀ (ms : List (List Char × Json)) {acc : List (List Char × Json)},
      KeysAscending acc → KeysAscending (toAnyMembers ms acc)
  | [], _, h => h
  | (k, v) :: ms, _, h => by
    rw [toAnyMembers]
    exact toAnyMembers_ascending ms (insertKey_ascending k _ h)

theorem insertKey_of_lt (k : List Char) (v : Json) :
    ∀ {acc : List (List Char × Json)}, (∀ p ∈ acc, keyLt p.1 k = true) → insertKey k v acc = acc ++ [(k, v)]
  | [], _ => rfl
  | (k', v') :: acc, h => by
    have hLt : keyLt k' k = true := h (k', v') List.mem_cons_self
    have hNe : k ≠ k' := by
      rintro rfl
      rw [keyLt_irrefl] at hLt
      cases hLt
    have hNotLt : keyLt k k' = false := by
      cases hBack : keyLt k k'
      · rfl
      · have := keyLt_trans hBack hLt
        rw [keyLt_irrefl] at this
        cases this
    rw [insertKey, if_neg hNe, if_neg (by simp [hNotLt]), List.cons_append,
      insertKey_of_lt k v fun p hp => h p (List.mem_cons_of_mem _ hp)]

theorem toAnyMembers_of_ascending :
    ∀ (ms : List (List Char × Json)) {acc : List (List Char × Json)},
      KeysAscending (acc ++ ms) → (∀ p ∈ ms, toAny p.2 = p.2) → toAnyMembers ms acc = acc ++ ms
  | [], acc, _, _ => (List.append_nil acc).symm
  | (k, v) :: ms, acc, h, hFix => by
    have hBelow : ∀ p ∈ acc, keyLt p.1 k = true :=
      fun p hp => (List.pairwise_append.mp h).2.2 p hp (k, v) List.mem_cons_self
    rw [toAnyMembers, hFix (k, v) List.mem_cons_self, insertKey_of_lt k v hBelow]
    have hAsc : KeysAscending (acc ++ [(k, v)] ++ ms) := by
      rwa [List.append_assoc, List.singleton_append]
    rw [toAnyMembers_of_ascending ms hAsc fun p hp => hFix p (List.mem_cons_of_mem _ hp),
      List.append_assoc, List.singleton_append]

mutual
theorem toAny_toAny : ∀ v : Json, toAny (toAny v) = toAny v
  | .null => rfl
  | .bool _ => rfl
  | .num lexeme => by
    rw [toAny, anyNumber]
    split
    · rename_i f _
      rw [toAny, anyNumber_of_parseFloat (Strconv.parseFloat_floatEncoder f)]
    · rfl
  | .str _ => rfl
  | .arr vs => by
    rw [toAny, toAny, toAnyItems_toAnyItems vs]
  | .obj ms => by
    have hAsc : KeysAscending ([] ++ toAnyMembers ms []) :=
      toAnyMembers_ascending ms List.Pairwise.nil
    rw [toAny, toAny, toAnyMembers_of_ascending _ hAsc (toAnyMembers_fixed ms [] nofun),
      List.nil_append]

theorem toAnyItems_toAnyItems : ∀ vs : List Json, toAnyItems (toAnyItems vs) = toAnyItems vs
  | [] => rfl
  | v :: vs => by
    rw [toAnyItems, toAnyItems, toAny_toAny v, toAnyItems_toAnyItems vs]

theorem toAnyMembers_fixed : ∀ ms acc : List (List Char × Json),
    (∀ p ∈ acc, toAny p.2 = p.2) → ∀ p ∈ toAnyMembers ms acc, toAny p.2 = p.2
  | [], _, hAcc => hAcc
  | (k, v) :: ms, acc, hAcc => by
    rw [toAnyMembers]
    refine toAnyMembers_fixed ms _ fun p hp => ?_
    rcases mem_insertKey hp with rfl | hp
    · exact toAny_toAny v
    · exact hAcc p hp
end

mutual
theorem numbers_parse_of_fixed : ∀ v : Json, toAny v = v →
    ∀ l ∈ v.numbers, (Strconv.parseFloat l).isSome
  | .null, _, l, hl => by simp [Json.numbers] at hl
  | .bool _, _, l, hl => by simp [Json.numbers] at hl
  | .str _, _, l, hl => by simp [Json.numbers] at hl
  | .num lexeme, h, l, hl => by
    rw [Json.numbers, List.mem_singleton] at hl
    subst hl
    rw [toAny, anyNumber] at h
    split at h
    · rename_i hf
      rw [hf]
      rfl
    · cases h
  | .arr vs, h, l, hl => by
    rw [toAny, Json.arr.injEq] at h
    exact itemsNumbers_parse_of_fixed vs h l hl
  | .obj ms, h, l, hl => by
    rw [toAny, Json.obj.injEq] at h
    have hFix := toAnyMembers_fixed ms [] nofun
    rw [h] at hFix
    exact membersNumbers_parse_of_fixed ms hFix l hl

theorem itemsNumbers_parse_of_fixed : ∀ vs : List Json, toAnyItems vs = vs →
    ∀ l ∈ itemsNumbers vs, (Strconv.parseFloat l).isSome
  | [], _, l, hl => by simp [itemsNumbers] at hl
  | v :: vs, h, l, hl => by
    rw [toAnyItems, List.cons.injEq] at h
    rcases List.mem_append.mp hl with hl | hl
    · exact numbers_parse_of_fixed v h.1 l hl
    · exact itemsNumbers_parse_of_fixed vs h.2 l hl

theorem membersNumbers_parse_of_fixed : ∀ ms : List (List Char × Json), (∀ p ∈ ms, toAny p.2 = p.2) →
    ∀ l ∈ membersNumbers ms, (Strconv.parseFloat l).isSome
  | [], _, l, hl => by simp [membersNumbers] at hl
  | (k, v) :: ms, h, l, hl => by
    rcases List.mem_append.mp hl with hl | hl
    · exact numbers_parse_of_fixed v (h (k, v) List.mem_cons_self) l hl
    · exact membersNumbers_parse_of_fixed ms (fun p hp => h p (List.mem_cons_of_mem _ hp)) l hl
end

theorem rangeError_of_fixed {v : Json} (h : toAny v = v) : rangeError v = none := by
  unfold rangeError
  refine List.find?_eq_none.mpr fun l hl => ?_
  simpa [Option.isNone_iff_eq_none, ← Option.isSome_iff_ne_none] using numbers_parse_of_fixed v h l hl

theorem rangeError_toAny (v : Json) : rangeError (toAny v) = none :=
  rangeError_of_fixed (toAny_toAny v)

end GoJson
