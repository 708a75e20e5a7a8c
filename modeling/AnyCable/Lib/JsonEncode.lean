import AnyCable.Lib.Float64
import AnyCable.Lib.Json

/-! # JSON text as Go's encoding/json writes it

`json.Marshal` writes a string between quotes with `\"`, `\\`, `\n`, `\r` and
`\t`, writes every other control character and `<`, `>`, `&` as `\u00XX`, and
U+2028 and U+2029 as `\u2028` and `\u2029` (`encodeState.string` with HTML
escaping on). A value is written with no whitespace; a number is written as its
lexeme.

Reading back what was written gives the value again: for a string
(`parseStringBody_escaped`), and for every value whose numbers are single
lexemes (`parseText_encode`), which every value read from text is
(`parseText_wellFormed`).
-/

namespace GoJson
set_option autoImplicit false

def hexDigit (n : Nat) : Char := if n < 10 then Char.ofNat (n + 48) else Char.ofNat (n + 87)

def escapeChar (c : Char) : List Char :=
  if c = '\\' ∨ c = '"' then ['\\', c]
  else if c = '\n' then ['\\', 'n']
  else if c = '\r' then ['\\', 'r']
  else if c = '\t' then ['\\', 't']
  else if c.toNat < 0x20 ∨ c = '<' ∨ c = '>' ∨ c = '&' then
    ['\\', 'u', '0', '0', hexDigit (c.toNat / 16), hexDigit (c.toNat % 16)]
  else if c = '\u2028' ∨ c = '\u2029' then ['\\', 'u', '2', '0', '2', hexDigit (c.toNat % 16)]
  else [c]

def quote (s : List Char) : List Char := '"' :: (s.flatMap escapeChar ++ ['"'])

mutual
def encode : Json → List Char
  | .null => ['n', 'u', 'l', 'l']
  | .bool true => ['t', 'r', 'u', 'e']
  | .bool false => ['f', 'a', 'l', 's', 'e']
  | .num lexeme => lexeme
  | .str s => quote s
  | .arr [] => ['[', ']']
  | .arr (v :: vs) => '[' :: (encode v ++ encodeTail vs)
  | .obj [] => ['{', '}']
  | .obj ((k, v) :: ms) => '{' :: (quote k ++ ':' :: (encode v ++ encodeMembersTail ms))

def encodeTail : List Json → List Char
  | [] => [']']
  | v :: vs => ',' :: (encode v ++ encodeTail vs)

def encodeMembersTail : List (List Char × Json) → List Char
  | [] => ['}']
  | (k, v) :: ms => ',' :: (quote k ++ ':' :: (encode v ++ encodeMembersTail ms))
end

mutual
def Json.wellFormed : Json → Bool
  | .num lexeme => decide (scanNumber .start lexeme = some (lexeme, []))
  | .arr vs => itemsWellFormed vs
  | .obj ms => membersWellFormed ms
  | _ => true

def itemsWellFormed : List Json → Bool
  | [] => true
  | v :: vs => v.wellFormed && itemsWellFormed vs

def membersWellFormed : List (List Char × Json) → Bool
  | [] => true
  | (_, v) :: ms => v.wellFormed && membersWellFormed ms
end

mutual
def Json.size : Json → Nat
  | .arr (v :: vs) => 2 + v.size + tailSize vs
  | .obj ((_, v) :: ms) => 2 + v.size + membersTailSize ms
  | _ => 1

def tailSize : List Json → Nat
  | [] => 1
  | v :: vs => 1 + v.size + tailSize vs

def membersTailSize : List (List Char × Json) → Nat
  | [] => 1
  | (_, v) :: ms => 1 + v.size + membersTailSize ms
end

/-! ## Strings read back -/

theorem hexVal_hexDigit : ∀ d, d < 16 → hexVal (hexDigit d) = some d := by decide

theorem hex4_zero_zero (c : Char) (h : c.toNat < 0x100) :
    hex4 '0' '0' (hexDigit (c.toNat / 16)) (hexDigit (c.toNat % 16)) = some c.toNat := by
  have h1 := hexVal_hexDigit (c.toNat / 16) (by omega)
  have h2 := hexVal_hexDigit (c.toNat % 16) (by omega)
  have h0 : hexVal '0' = some 0 := by decide
  simp only [hex4, h0, h1, h2, Option.some.injEq]
  omega

theorem parseStringBody_backslash {e ch : Char} (t : List Char) (he : e ≠ 'u')
    (hch : unescape e = some ch) :
    parseStringBody none ('\\' :: e :: t) = consChar ch (parseStringBody none t) := by
  rw [parseStringBody_escape none e t he, hch]
  rfl

theorem parseStringBody_escapeChar (c : Char) (t : List Char) :
    parseStringBody none (escapeChar c ++ t) = consChar c (parseStringBody none t) := by
  unfold escapeChar
  split
  · rename_i h
    rcases h with rfl | rfl
    · exact parseStringBody_backslash t (by decide) rfl
    · exact parseStringBody_backslash t (by decide) rfl
  split
  · subst_vars; exact parseStringBody_backslash t (by decide) rfl
  split
  · subst_vars; exact parseStringBody_backslash t (by decide) rfl
  split
  · subst_vars; exact parseStringBody_backslash t (by decide) rfl
  split
  · rename_i h
    have hLt : c.toNat < 0x80 := by
      rcases h with h | rfl | rfl | rfl
      · omega
      all_goals decide
    have hS : isSurrogate c.toNat = false := by simp [isSurrogate]; omega
    simp only [List.cons_append, List.nil_append]
    rw [parseStringBody_u, hex4_zero_zero c (by omega)]
    simp only [hS, Bool.false_eq_true, if_false, Char.ofNat_toNat]
  split
  · rename_i h
    rcases h with rfl | rfl
    · exact parseStringBody_u none _ _ _ _ t
    · exact parseStringBody_u none _ _ _ _ t
  · rename_i h1 h2 h3 h4 h5 h6
    rw [List.singleton_append, parseStringBody_plain none c t (by tauto) (by tauto) (by omega)]
    rfl

theorem parseStringBody_escaped (s t : List Char) :
    parseStringBody none (s.flatMap escapeChar ++ '"' :: t) = some (s, t) := by
  induction s with
  | nil => exact parseStringBody_quote none t
  | cons c s ih =>
    rw [List.flatMap_cons, List.append_assoc, parseStringBody_escapeChar, ih]
    rfl

/-! ## Numbers read back -/

def NumEnd (r : List Char) : Prop :=
  ∀ c rest, r = c :: rest → ¬ (c.isDigit ∨ c = '.' ∨ c = 'e' ∨ c = 'E')

theorem numEnd_nil : NumEnd [] := by
  intro c rest h
  cases h

theorem numEnd_cons {c : Char} (r : List Char) (h : ¬ (c.isDigit ∨ c = '.' ∨ c = 'e' ∨ c = 'E')) :
    NumEnd (c :: r) := by
  intro c' rest h'
  cases h'
  exact h

theorem next_eq_none_of_accepting {st : NumState} {c : Char} (hAcc : st.accepting = true)
    (hc : ¬ (c.isDigit ∨ c = '.' ∨ c = 'e' ∨ c = 'E')) : st.next c = none := by
  simp only [not_or] at hc
  obtain ⟨hDigit, hDot, he, hE⟩ := hc
  cases st <;> simp_all [NumState.accepting, NumState.next]

theorem scanNumber_append {st : NumState} {l r : List Char} (h : scanNumber st l = some (l, []))
    (hr : NumEnd r) : scanNumber st (l ++ r) = some (l, r) := by
  induction l generalizing st with
  | nil =>
    have hAcc : st.accepting = true := by
      rw [scanNumber] at h
      split_ifs at h with hAcc
      exact hAcc
    cases r with
    | nil => simpa using h
    | cons c rest =>
      rw [List.nil_append, scanNumber, next_eq_none_of_accepting hAcc (hr c rest rfl)]
      simp [hAcc]
  | cons c l ih =>
    rw [scanNumber] at h
    split at h
    · rename_i st' hNext
      obtain ⟨a, h1, h2⟩ := map_pair_eq_some h
      obtain rfl : a = l := List.cons_injective h2
      rw [List.cons_append, scanNumber, hNext]
      dsimp only
      rw [ih h1]
      rfl
    · split_ifs at h
      simp at h

theorem scanNumber_start_head {l : List Char} (h : scanNumber .start l = some (l, [])) :
    ∃ c cs, l = c :: cs ∧ (c = '-' ∨ c.isDigit) := by
  cases l with
  | nil => cases h
  | cons c cs =>
    refine ⟨c, cs, rfl, ?_⟩
    rw [scanNumber] at h
    split at h
    · rename_i st' hNext
      simp only [NumState.next] at hNext
      split_ifs at hNext with h1 h2 h3
      · exact .inl h1
      · subst h2; exact .inr rfl
      · exact .inr h3
    · simp [NumState.accepting] at h

theorem numberStart_ne {c : Char} (h : c = '-' ∨ c.isDigit) :
    c ≠ '"' ∧ c ≠ '[' ∧ c ≠ '{' ∧ c ≠ 'n' ∧ c ≠ 't' ∧ c ≠ 'f' ∧ c ≠ ']' ∧ isSpace c = false := by
  rcases h with rfl | hd
  · decide
  have hne : ∀ d : Char, d.isDigit = false → c ≠ d := by
    rintro d hd' rfl
    rw [hd'] at hd
    cases hd
  refine ⟨hne _ (by decide), hne _ (by decide), hne _ (by decide), hne _ (by decide),
    hne _ (by decide), hne _ (by decide), hne _ (by decide), ?_⟩
  cases hs : isSpace c with
  | false => rfl
  | true =>
    simp only [isSpace, Bool.or_eq_true, decide_eq_true_eq] at hs
    rcases hs with ((rfl | rfl) | rfl) | rfl <;> simp at hd

/-! ## Values read back -/

theorem encode_head (v : Json) (hw : v.wellFormed) :
    ∃ c cs, encode v = c :: cs ∧ c ≠ ']' ∧ c ≠ '}' ∧ isSpace c = false := by
  cases v with
  | null => exact ⟨_, _, rfl, by decide, by decide, by decide⟩
  | bool b => cases b <;> exact ⟨_, _, rfl, by decide, by decide, by decide⟩
  | num l =>
    obtain ⟨c, cs, rfl, hc⟩ := scanNumber_start_head (of_decide_eq_true hw)
    obtain ⟨-, -, -, -, -, -, h1, h2⟩ := numberStart_ne hc
    refine ⟨c, cs, rfl, h1, ?_, h2⟩
    rintro rfl
    simp at hc
  | str s => exact ⟨_, _, rfl, by decide, by decide, by decide⟩
  | arr vs => cases vs <;> exact ⟨_, _, rfl, by decide, by decide, by decide⟩
  | obj ms =>
    cases ms with
    | nil => exact ⟨_, _, rfl, by decide, by decide, by decide⟩
    | cons m ms => exact ⟨_, _, rfl, by decide, by decide, by decide⟩

theorem skipWs_encode {v : Json} (hw : v.wellFormed) (r : List Char) :
    skipWs (encode v ++ r) = encode v ++ r := by
  obtain ⟨c, cs, he, -, -, hs⟩ := encode_head v hw
  rw [he, List.cons_append, skipWs, hs]
  rfl

theorem skipWs_of_not_space {c : Char} (cs : List Char) (h : isSpace c = false) :
    skipWs (c :: cs) = c :: cs := by
  rw [skipWs, h]
  rfl

theorem closeOr_of_head_ne {close : Char} {empty : Json} {t : List Char}
    {elements : List Char → Option (Json × List Char)} (h : t.head? ≠ some close) :
    closeOr close empty t elements = elements t := if_neg h

theorem quote_append (key t : List Char) :
    quote key ++ t = '"' :: (key.flatMap escapeChar ++ '"' :: t) := by
  simp [quote]

theorem parseMembers_quote_close {n : Nat} {key t r : List Char} {x : Json}
    (hv : parseValue n t = some (x, '}' :: r)) :
    parseMembers (n + 1) (quote key ++ ':' :: t) = some ([(key, x)], r) := by
  rw [quote_append, parseMembers, skipWs_of_not_space _ (by decide)]
  simp only
  rw [parseStringBody_escaped]
  simp only
  rw [skipWs_of_not_space _ (by decide)]
  simp only
  rw [hv]
  simp only
  rw [skipWs_of_not_space _ (by decide)]
  simp only

theorem parseMembers_quote_comma {n : Nat} {key t r : List Char} {x : Json}
    (hv : parseValue n t = some (x, ',' :: r)) :
    parseMembers (n + 1) (quote key ++ ':' :: t) =
      (parseMembers n r).map fun p => ((key, x) :: p.1, p.2) := by
  rw [quote_append, parseMembers, skipWs_of_not_space _ (by decide)]
  simp only
  rw [parseStringBody_escaped]
  simp only
  rw [skipWs_of_not_space _ (by decide)]
  simp only
  rw [hv]
  simp only
  rw [skipWs_of_not_space _ (by decide)]
  simp only

theorem Json.one_le_size (v : Json) : 1 ≤ v.size := by
  cases v with
  | arr vs => cases vs <;> simp [Json.size]; omega
  | obj ms =>
    cases ms with
    | nil => simp [Json.size]
    | cons m ms => simp [Json.size]; omega
  | _ => simp [Json.size]

theorem one_le_tailSize (vs : List Json) : 1 ≤ tailSize vs := by
  cases vs <;> simp [tailSize]; omega

theorem one_le_membersTailSize (ms : List (List Char × Json)) : 1 ≤ membersTailSize ms := by
  cases ms <;> simp [membersTailSize]; omega

mutual
theorem parseValue_encode : ∀ (v : Json) (n : Nat) (r : List Char),
    v.wellFormed → v.size ≤ n → NumEnd r → parseValue n (encode v ++ r) = some (v, r)
  | v, 0, _, _, hSize, _ => absurd hSize (by have := v.one_le_size; omega)
  | .null, n + 1, r, _, _, _ => by
    simp [encode, parseValue, skipWs, isSpace, expect]
  | .bool true, n + 1, r, _, _, _ => by
    simp [encode, parseValue, skipWs, isSpace, expect]
  | .bool false, n + 1, r, _, _, _ => by
    simp [encode, parseValue, skipWs, isSpace, expect]
  | .num l, n + 1, r, hw, _, hr => by
    have hScan := of_decide_eq_true hw
    obtain ⟨c, cs, rfl, hc⟩ := scanNumber_start_head hScan
    obtain ⟨h1, h2, h3, h4, h5, h6, -, hs⟩ := numberStart_ne hc
    rw [encode, parseValue, List.cons_append, skipWs, hs]
    simp only [Bool.false_eq_true, if_false, h1, h2, h3, h4, h5, h6]
    rw [← List.cons_append, scanNumber_append hScan hr]
    rfl
  | .str s, n + 1, r, _, _, _ => by
    simp only [encode, quote, List.cons_append, List.append_assoc]
    rw [parseValue, skipWs]
    simp [isSpace, parseStringBody_escaped]
  | .arr [], n + 1, r, _, _, _ => by
    simp [encode, parseValue, skipWs, isSpace, closeOr]
  | .arr (v :: vs), n + 1, r, hw, hSize, _ => by
    simp only [Json.wellFormed, itemsWellFormed, Bool.and_eq_true] at hw
    obtain ⟨hv, hvs⟩ := hw
    simp only [Json.size] at hSize
    have := one_le_tailSize vs
    obtain ⟨m, rfl⟩ : ∃ m, n = m + 1 := ⟨n - 1, by omega⟩
    have hItems := parseItems_encode vs m r (encode v) v
      (fun r' hr' => parseValue_encode v m r' hv (by omega) hr') hvs (by omega)
    obtain ⟨c, cs, he, hc, -, -⟩ := encode_head v hv
    rw [encode, parseValue, List.cons_append, skipWs_of_not_space _ (by decide)]
    simp only [Char.reduceEq, if_false, if_true]
    rw [List.append_assoc, skipWs_encode hv, closeOr_of_head_ne (by simp [he, hc])]
    simp only [hItems, Option.map_some]
  | .obj [], n + 1, r, _, _, _ => by
    simp [encode, parseValue, skipWs, isSpace, closeOr]
  | .obj ((k, v) :: ms), n + 1, r, hw, hSize, _ => by
    simp only [Json.wellFormed, membersWellFormed, Bool.and_eq_true] at hw
    obtain ⟨hv, hms⟩ := hw
    simp only [Json.size] at hSize
    have := one_le_membersTailSize ms
    obtain ⟨m, rfl⟩ : ∃ m, n = m + 1 := ⟨n - 1, by omega⟩
    have hMembers := parseMembers_encode ms m r (encode v) k v
      (fun r' hr' => parseValue_encode v m r' hv (by omega) hr') hms (by omega)
    rw [encode, parseValue, List.cons_append, skipWs_of_not_space _ (by decide)]
    simp only [Char.reduceEq, if_false, if_true]
    have hq : (quote k ++ ':' :: (encode v ++ encodeMembersTail ms)) ++ r =
        '"' :: (k.flatMap escapeChar ++ '"' :: ':' :: (encode v ++ (encodeMembersTail ms ++ r))) := by
      simp [quote]
    rw [hq, skipWs_of_not_space _ (by decide), closeOr_of_head_ne (by simp), ← hq]
    simp only [List.append_assoc, List.cons_append] at hMembers ⊢
    simp only [hMembers, Option.map_some]

theorem parseItems_encode : ∀ (vs : List Json) (n : Nat) (r s : List Char) (x : Json),
    (∀ r', NumEnd r' → parseValue n (s ++ r') = some (x, r')) → itemsWellFormed vs →
      tailSize vs ≤ n + 1 → parseItems (n + 1) (s ++ (encodeTail vs ++ r)) = some (x :: vs, r)
  | [], n, r, s, x, hx, _, _ => by
    rw [encodeTail, List.singleton_append, parseItems, hx _ (numEnd_cons r (by decide))]
    simp only
    rw [skipWs_of_not_space _ (by decide)]
    simp only
  | v :: vs, n, r, s, x, hx, hw, hSize => by
    simp only [itemsWellFormed, Bool.and_eq_true] at hw
    obtain ⟨hv, hvs⟩ := hw
    simp only [tailSize] at hSize
    have := one_le_tailSize vs
    obtain ⟨m, rfl⟩ : ∃ m, n = m + 1 := ⟨n - 1, by omega⟩
    have hItems := parseItems_encode vs m r (encode v) v
      (fun r' hr' => parseValue_encode v m r' hv (by omega) hr') hvs (by omega)
    rw [encodeTail, List.cons_append, parseItems, hx _ (numEnd_cons _ (by decide))]
    simp only
    rw [skipWs_of_not_space _ (by decide)]
    simp only [List.append_assoc, hItems, Option.map_some]

theorem parseMembers_encode : ∀ (ms : List (List Char × Json)) (n : Nat) (r s key : List Char)
    (x : Json), (∀ r', NumEnd r' → parseValue n (s ++ r') = some (x, r')) →
      membersWellFormed ms → membersTailSize ms ≤ n + 1 →
      parseMembers (n + 1) (quote key ++ ':' :: (s ++ (encodeMembersTail ms ++ r))) =
        some ((key, x) :: ms, r)
  | [], n, r, s, key, x, hx, _, _ => by
    rw [encodeMembersTail, List.singleton_append]
    exact parseMembers_quote_close (hx _ (numEnd_cons r (by decide)))
  | (k, v) :: ms, n, r, s, key, x, hx, hw, hSize => by
    simp only [membersWellFormed, Bool.and_eq_true] at hw
    obtain ⟨hv, hms⟩ := hw
    simp only [membersTailSize] at hSize
    have := one_le_membersTailSize ms
    obtain ⟨m, rfl⟩ : ∃ m, n = m + 1 := ⟨n - 1, by omega⟩
    have hMembers := parseMembers_encode ms m r (encode v) k v
      (fun r' hr' => parseValue_encode v m r' hv (by omega) hr') hms (by omega)
    rw [encodeMembersTail, List.cons_append, parseMembers_quote_comma (hx _ (numEnd_cons _ (by decide)))]
    simp only [List.append_assoc, List.cons_append, hMembers, Option.map_some]
end

theorem parseText_encode (v : Json) (hw : v.wellFormed) : parseText (encode v) = some v := by
  rw [parseText_eq_some_iff]
  refine ⟨v.size, [], ?_, rfl⟩
  simpa using parseValue_encode v v.size [] hw (Nat.le_refl _) numEnd_nil

/-! ## What is read is well formed -/

def microUnits : Nat := ((Strconv.ofUnits false (2 ^ 1074) (10 ^ 6)).map Strconv.Float64.units).getD 0

def cleanExp (b : List Char) : List Char :=
  if 4 ≤ b.length ∧ b[b.length - 4]? = some 'e' ∧ b[b.length - 3]? = some '-' ∧
      b[b.length - 2]? = some '0' then
    b.take (b.length - 2) ++ b.drop (b.length - 1)
  else b

/-- `floatEncoder.encode` for a float64: the format `'e'` below `1e-6` and from
`1e21` on, `'f'` otherwise, both with the shortest digits. -/
def floatEncoder (f : Strconv.Float64) : List Char :=
  if f.units ≠ 0 ∧ (f.units < microUnits ∨ 10 ^ 21 * 2 ^ 1074 ≤ f.units) then
    cleanExp (Strconv.fmtE f.neg (Strconv.decimalSlice f).1 (Strconv.decimalSlice f).2)
  else Strconv.fmtF f.neg (Strconv.decimalSlice f).1 (Strconv.decimalSlice f).2

def NumState.run : NumState → List Char → Option NumState
  | st, [] => some st
  | st, c :: cs => (st.next c).bind fun st' => st'.run cs

theorem NumState.run_append (st : NumState) (a b : List Char) :
    st.run (a ++ b) = (st.run a).bind fun st' => st'.run b := by
  induction a generalizing st with
  | nil => rfl
  | cons c a ih =>
    simp only [List.cons_append, NumState.run]
    cases st.next c with
    | none => rfl
    | some st' => exact ih st'

theorem scanNumber_of_run {st st' : NumState} {l : List Char} (h : st.run l = some st')
    (hAcc : st'.accepting = true) : scanNumber st l = some (l, []) := by
  induction l generalizing st with
  | nil =>
    cases h
    simp [scanNumber, hAcc]
  | cons c l ih =>
    simp only [NumState.run] at h
    cases hNext : st.next c with
    | none => simp [hNext] at h
    | some st'' =>
      rw [hNext, Option.bind_some] at h
      rw [scanNumber, hNext]
      dsimp only
      rw [ih h]
      rfl

theorem NumState.run_digits {st : NumState} (hLoop : ∀ c : Char, c.isDigit → st.next c = some st)
    (ds : List Char) (hDigits : ∀ c ∈ ds, c.isDigit) : st.run ds = some st := by
  induction ds with
  | nil => rfl
  | cons c ds ih =>
    simp only [NumState.run, hLoop c (hDigits c List.mem_cons_self), Option.bind_some]
    exact ih fun c' hc' => hDigits c' (List.mem_cons_of_mem _ hc')

theorem NumState.next_digit {st : NumState} (hSt : st = .int ∨ st = .frac ∨ st = .expDigits)
    (c : Char) (hc : c.isDigit) : st.next c = some st := by
  rcases hSt with rfl | rfl | rfl <;> simp [NumState.next, hc]

theorem NumState.run_start_signText (neg : Bool) {c : Char} (hc : c.isDigit) (l : List Char) :
    NumState.start.run (Strconv.signText neg ++ c :: l) = NumState.neg.run (c :: l) := by
  have hMinus : c ≠ '-' := by
    rintro rfl
    simp at hc
  cases neg <;> simp [Strconv.signText, NumState.run, NumState.next, hMinus]

theorem NumState.run_neg_int {c : Char} (hc : c.isDigit) (hZero : c ≠ '0') (ds : List Char)
    (hDigits : ∀ c ∈ ds, c.isDigit) : NumState.neg.run (c :: ds) = some .int := by
  simp only [NumState.run, NumState.next, hZero, if_false, hc, if_true, Option.bind_some]
  exact NumState.run_digits (NumState.next_digit (Or.inl rfl)) ds hDigits

theorem NumState.run_fraction {st : NumState} (hSt : st = .int ∨ st = .zero) (ds : List Char)
    (hNe : ds ≠ []) (hDigits : ∀ c ∈ ds, c.isDigit) : st.run ('.' :: ds) = some .frac := by
  obtain ⟨c, ds, rfl⟩ := List.exists_cons_of_ne_nil hNe
  have hc := hDigits c List.mem_cons_self
  have hDot : st.next '.' = some .dot := by rcases hSt with rfl | rfl <;> rfl
  rw [NumState.run, hDot, Option.bind_some, NumState.run]
  simp only [NumState.next, hc, if_true, Option.bind_some]
  exact NumState.run_digits (NumState.next_digit (Or.inr (Or.inl rfl))) ds
    fun c' hc' => hDigits c' (List.mem_cons_of_mem _ hc')

theorem digitAt_isDigit {d : List Char} (hDigits : ∀ c ∈ d, c.isDigit) (i : Int) :
    (Strconv.digitAt d i).isDigit := by
  unfold Strconv.digitAt
  split
  · rw [List.getD_eq_getElem?_getD]
    cases h : d[i.toNat]? with
    | none => rfl
    | some c => exact hDigits c (List.mem_of_getElem? h)
  · rfl

theorem NumState.run_fracPart (d : List Char) (dp : Int) (hDigits : ∀ c ∈ d, c.isDigit)
    {st : NumState} (hSt : st = .int ∨ st = .zero) :
    ∃ st', st.run (if 0 < (d.length - dp).toNat then
        '.' :: (List.range (d.length - dp).toNat).map fun i : Nat => Strconv.digitAt d (dp + (i : Int))
      else []) = some st' ∧ st'.accepting = true := by
  split
  · have hNe : (List.range (d.length - dp).toNat).map (fun i : Nat => Strconv.digitAt d (dp + (i : Int))) ≠ [] := by
      simp only [ne_eq, List.map_eq_nil_iff, List.range_eq_nil]
      omega
    refine ⟨.frac, NumState.run_fraction hSt _ hNe ?_, rfl⟩
    simp only [List.mem_map]
    rintro c ⟨i, -, rfl⟩
    exact digitAt_isDigit hDigits _
  · exact ⟨st, rfl, by rcases hSt with rfl | rfl <;> rfl⟩

theorem fmtF_run (neg : Bool) (d : List Char) (dp : Int) (hDigits : ∀ c ∈ d, c.isDigit)
    (hShape : d = [] ∧ dp = 0 ∨ ∃ c rest, d = c :: rest ∧ c ≠ '0') :
    ∃ st, NumState.start.run (Strconv.fmtF neg d dp) = some st ∧ st.accepting = true := by
  unfold Strconv.fmtF
  rw [List.append_assoc]
  split
  · obtain ⟨-, h⟩ | ⟨c, rest, rfl, hZero⟩ := hShape
    · omega
    have hc := hDigits c List.mem_cons_self
    have hTake : (c :: rest).take dp.toNat = c :: rest.take (dp.toNat - 1) := by
      rw [show dp.toNat = dp.toNat - 1 + 1 by omega, List.take_succ_cons, Nat.add_sub_cancel]
    have hInt : NumState.neg.run (c :: (rest.take (dp.toNat - 1) ++
        List.replicate (dp.toNat - (c :: rest).length) '0')) = some .int := by
      refine NumState.run_neg_int hc hZero _ fun c' hc' => ?_
      rcases List.mem_append.mp hc' with h | h
      · exact hDigits c' (List.mem_cons_of_mem _ (List.mem_of_mem_take h))
      · rw [List.eq_of_mem_replicate h]
        rfl
    rw [hTake, List.cons_append, List.cons_append, NumState.run_start_signText neg hc,
      ← List.cons_append, NumState.run_append, hInt, Option.bind_some]
    exact NumState.run_fracPart _ dp hDigits (Or.inl rfl)
  · rw [List.singleton_append, NumState.run_start_signText neg (by decide)]
    simp only [NumState.run, NumState.next, if_true, Option.bind_some]
    exact NumState.run_fracPart d dp hDigits (Or.inr rfl)

theorem cleanExp_expText (p : List Char) (x : Int) :
    cleanExp (p ++ 'e' :: Strconv.expText x) =
      p ++ 'e' :: if x < 0 ∧ x.natAbs < 10 then ['-', Nat.digitChar x.natAbs] else Strconv.expText x := by
  unfold cleanExp Strconv.expText
  by_cases hSmall : x.natAbs < 10
  · by_cases hNeg : x < 0
    · simp [hSmall, hNeg, List.take_append, List.drop_append, List.take_of_length_le,
        List.drop_of_length_le]
    · simp [hSmall, hNeg]
  · by_cases hMid : x.natAbs < 100
    · have hLead : Nat.digitChar (x.natAbs / 10) ≠ '0' := by
        rw [Ne, Nat.digitChar_eq_zero]
        omega
      simp [hSmall, hMid, hLead]
    · simp [hSmall, hMid]

theorem expText_run (x : Int) (hx : x.natAbs < 1000) :
    NumState.exp.run (if x < 0 ∧ x.natAbs < 10 then ['-', Nat.digitChar x.natAbs] else Strconv.expText x) =
      some .expDigits := by
  have hDigit : ∀ n, n < 10 → (Nat.digitChar n).isDigit := fun n hn => by
    rw [Nat.isDigit_digitChar]
    simpa using hn
  have h1 := hDigit (x.natAbs % 10) (Nat.mod_lt _ (by decide))
  have h2 := hDigit (x.natAbs / 10 % 10) (Nat.mod_lt _ (by decide))
  have h3 := hDigit (x.natAbs / 100) (by omega)
  have hSigned : ∀ d ds, d.isDigit → (∀ c ∈ ds, c.isDigit) →
      NumState.exp.run ((if x < 0 then '-' else '+') :: d :: ds) = some .expDigits := by
    intro d ds hd hds
    have hSign : NumState.exp.next (if x < 0 then '-' else '+') = some .expSign := by split <;> rfl
    rw [NumState.run, hSign, Option.bind_some, NumState.run]
    simp only [NumState.next, hd, if_true, Option.bind_some]
    exact NumState.run_digits (NumState.next_digit (Or.inr (Or.inr rfl))) ds hds
  by_cases hSmall : x.natAbs < 10
  · by_cases hNeg : x < 0
    · simp [NumState.run, NumState.next, hDigit _ hSmall, hNeg, hSmall]
    · simp only [Strconv.expText, hNeg, hSmall, and_true, if_false, if_true]
      simpa [hNeg] using hSigned '0' [Nat.digitChar x.natAbs] (by decide) (by simp [hDigit _ hSmall])
  · by_cases hMid : x.natAbs < 100
    · simp only [Strconv.expText, hSmall, hMid, and_false, if_false, if_true]
      exact hSigned _ _ (hDigit _ (by omega)) (by simp [h1])
    · simp only [Strconv.expText, hSmall, hMid, and_false, if_false]
      exact hSigned _ _ h3 (by simp [h1, h2])

theorem fmtE_run (neg : Bool) (c : Char) (rest : List Char) (dp : Int)
    (hDigits : ∀ c' ∈ c :: rest, c'.isDigit) (hZero : c ≠ '0') (hExp : (dp - 1).natAbs < 1000) :
    ∃ st, NumState.start.run (cleanExp (Strconv.fmtE neg (c :: rest) dp)) = some st ∧
      st.accepting = true := by
  have hc := hDigits c List.mem_cons_self
  have hRest : ∀ c' ∈ rest, c'.isDigit := fun c' hc' => hDigits c' (List.mem_cons_of_mem _ hc')
  have hMant : ∃ st, NumState.neg.run
      (c :: if 1 < (c :: rest).length then '.' :: (c :: rest).drop 1 else []) = some st ∧
      (st = .int ∨ st = .frac) := by
    split
    · rename_i hLen
      have hNe : rest ≠ [] := by
        rintro rfl
        simp at hLen
      refine ⟨.frac, ?_, Or.inr rfl⟩
      rw [← List.singleton_append, NumState.run_append,
        NumState.run_neg_int hc hZero [] (by simp), Option.bind_some]
      exact NumState.run_fraction (Or.inl rfl) rest hNe hRest
    · exact ⟨.int, NumState.run_neg_int hc hZero [] (by simp), Or.inl rfl⟩
  obtain ⟨st, hSt, hIntFrac⟩ := hMant
  have hE : st.next 'e' = some .exp := by rcases hIntFrac with rfl | rfl <;> rfl
  unfold Strconv.fmtE
  simp only [List.headD_cons, reduceCtorEq, if_false]
  rw [← List.cons_append, ← List.append_assoc, cleanExp_expText, List.append_assoc, List.cons_append,
    NumState.run_start_signText neg hc, ← List.cons_append, NumState.run_append, hSt, Option.bind_some]
  refine ⟨.expDigits, ?_, rfl⟩
  rw [NumState.run, hE, Option.bind_some]
  exact expText_run (dp - 1) hExp

theorem floatEncoder_wellFormed (f : Strconv.Float64) : (Json.num (floatEncoder f)).wellFormed := by
  have hDigits := Strconv.decimalSlice_isDigit f
  simp only [Json.wellFormed, decide_eq_true_eq]
  unfold floatEncoder
  split
  · rename_i hExp
    rcases Strconv.decimalSlice_shape f with ⟨hNil, -⟩ | ⟨c, rest, hd, hZero⟩
    · have hMant : f.mant = 0 := by
        by_contra hNe
        unfold Strconv.decimalSlice at hNil
        simp [hNe] at hNil
      simp [Strconv.Float64.units, hMant] at hExp
    · have hMant : f.mant ≠ 0 := by
        intro hZeroMant
        simp [Strconv.Float64.units, hZeroMant] at hExp
      rw [hd] at hDigits ⊢
      obtain ⟨st, hRun, hAcc⟩ :=
        fmtE_run f.neg c rest _ hDigits hZero (Strconv.decimalSlice_exp_lt f hMant)
      exact scanNumber_of_run hRun hAcc
  · obtain ⟨st, hRun, hAcc⟩ := fmtF_run f.neg _ _ hDigits (Strconv.decimalSlice_shape f)
    exact scanNumber_of_run hRun hAcc

end GoJson
