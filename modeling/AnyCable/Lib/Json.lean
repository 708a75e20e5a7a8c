import Mathlib.Data.List.Basic

/-! # JSON text as Go's encoding/json reads it

A JSON value and a parser for JSON text that makes, in one pass, the checks of
the scanner behind `json.Unmarshal` (`checkValid`) and the decoding of its
literals. Text is a list of Unicode scalar values; a number keeps its lexeme.

Strings decode as `unquote` does: the eight short escapes, `\uXXXX`, and a
UTF-16 surrogate pair combined into one code point, with U+FFFD for a surrogate
that is not part of a valid pair. A number follows the scanner's state machine.

The parser is mutually recursive over values, array elements and object
members, and runs on fuel. Each call either consumes a character or is one of
the two calls an element makes, so twice the length of the text is enough
(`parseValue_fuel_stable`), and a value parsed with any fuel is also what
`parseText` finds (`parseText_eq_some_iff`).
-/

namespace GoJson
set_option autoImplicit false

inductive Json where
  | null
  | bool (b : Bool)
  | num (lexeme : List Char)
  | str (s : List Char)
  | arr (items : List Json)
  | obj (members : List (List Char × Json))

def isSpace (c : Char) : Bool := c = ' ' || c = '\t' || c = '\n' || c = '\r'

def skipWs : List Char → List Char
  | [] => []
  | c :: cs => if isSpace c then skipWs cs else c :: cs

def expect : List Char → List Char → Option (List Char)
  | [], s => some s
  | _ :: _, [] => none
  | w :: ws, c :: cs => if c = w then expect ws cs else none

/-! ## Strings -/

def hexVal (c : Char) : Option Nat :=
  if '0' ≤ c ∧ c ≤ '9' then some (c.toNat - '0'.toNat)
  else if 'a' ≤ c ∧ c ≤ 'f' then some (c.toNat - 'a'.toNat + 10)
  else if 'A' ≤ c ∧ c ≤ 'F' then some (c.toNat - 'A'.toNat + 10)
  else none

def hex4 (a b c d : Char) : Option Nat :=
  match hexVal a, hexVal b, hexVal c, hexVal d with
  | some a, some b, some c, some d => some (((a * 16 + b) * 16 + c) * 16 + d)
  | _, _, _, _ => none

def unescape (e : Char) : Option Char :=
  if e = '"' then some '"' else if e = '\\' then some '\\' else if e = '/' then some '/'
  else if e = 'b' then some '\x08' else if e = 'f' then some '\x0c'
  else if e = 'n' then some '\n' else if e = 'r' then some '\r' else if e = 't' then some '\t'
  else none

def isSurrogate (r : Nat) : Bool := 0xD800 ≤ r && r < 0xE000

def decodeRune (r1 r2 : Nat) : Nat :=
  if 0xD800 ≤ r1 ∧ r1 < 0xDC00 ∧ 0xDC00 ≤ r2 ∧ r2 < 0xE000 then
    (r1 - 0xD800) * 0x400 + (r2 - 0xDC00) + 0x10000
  else 0xFFFD

def consChar (c : Char) (r : Option (List Char × List Char)) : Option (List Char × List Char) :=
  r.map fun p => (c :: p.1, p.2)

def flush : Option Nat → Option (List Char × List Char) → Option (List Char × List Char)
  | none, r => r
  | some _, r => consChar '\uFFFD' r

def parseStringBody (pending : Option Nat) : List Char → Option (List Char × List Char)
  | [] => none
  | c :: cs =>
    if c = '"' then flush pending (some ([], cs))
    else if c = '\\' then
      match cs with
      | [] => none
      | e :: rest =>
        if e = 'u' then
          match rest with
          | a :: b :: c :: d :: rest =>
            match hex4 a b c d with
            | none => none
            | some r =>
              match pending with
              | some hi =>
                if decodeRune hi r = 0xFFFD then
                  consChar '\uFFFD'
                    (if isSurrogate r then parseStringBody (some r) rest
                     else consChar (Char.ofNat r) (parseStringBody none rest))
                else consChar (Char.ofNat (decodeRune hi r)) (parseStringBody none rest)
              | none =>
                if isSurrogate r then parseStringBody (some r) rest
                else consChar (Char.ofNat r) (parseStringBody none rest)
          | _ => none
        else
          match unescape e with
          | none => none
          | some ch => flush pending (consChar ch (parseStringBody none rest))
    else if c.toNat < 0x20 then none
    else flush pending (consChar c (parseStringBody none cs))

/-! ## Numbers -/

inductive NumState where
  | start
  | neg
  | zero
  | int
  | dot
  | frac
  | exp
  | expSign
  | expDigits
  deriving DecidableEq

def NumState.next : NumState → Char → Option NumState
  | .start, c => if c = '-' then some .neg else if c = '0' then some .zero
      else if c.isDigit then some .int else none
  | .neg, c => if c = '0' then some .zero else if c.isDigit then some .int else none
  | .zero, c => if c = '.' then some .dot else if c = 'e' ∨ c = 'E' then some .exp else none
  | .int, c => if c.isDigit then some .int else if c = '.' then some .dot
      else if c = 'e' ∨ c = 'E' then some .exp else none
  | .dot, c => if c.isDigit then some .frac else none
  | .frac, c => if c.isDigit then some .frac else if c = 'e' ∨ c = 'E' then some .exp else none
  | .exp, c => if c = '+' ∨ c = '-' then some .expSign else if c.isDigit then some .expDigits else none
  | .expSign, c => if c.isDigit then some .expDigits else none
  | .expDigits, c => if c.isDigit then some .expDigits else none

def NumState.accepting : NumState → Bool
  | .zero | .int | .frac | .expDigits => true
  | _ => false

def scanNumber (st : NumState) : List Char → Option (List Char × List Char)
  | [] => if st.accepting then some ([], []) else none
  | c :: cs =>
    match st.next c with
    | some st' => consChar c (scanNumber st' cs)
    | none => if st.accepting then some ([], c :: cs) else none

/-! ## Values -/

def closeOr (close : Char) (empty : Json) (t : List Char)
    (elements : List Char → Option (Json × List Char)) : Option (Json × List Char) :=
  if t.head? = some close then some (empty, t.tail) else elements t

mutual
def parseValue : Nat → List Char → Option (Json × List Char)
  | 0, _ => none
  | fuel + 1, s =>
    match skipWs s with
    | [] => none
    | c :: rest =>
      if c = '"' then (parseStringBody none rest).map fun r => (.str r.1, r.2)
      else if c = '[' then
        closeOr ']' (.arr []) (skipWs rest) fun t => (parseItems fuel t).map fun r => (.arr r.1, r.2)
      else if c = '{' then
        closeOr '}' (.obj []) (skipWs rest) fun t => (parseMembers fuel t).map fun r => (.obj r.1, r.2)
      else if c = 'n' then (expect ['u', 'l', 'l'] rest).map fun r => (.null, r)
      else if c = 't' then (expect ['r', 'u', 'e'] rest).map fun r => (.bool true, r)
      else if c = 'f' then (expect ['a', 'l', 's', 'e'] rest).map fun r => (.bool false, r)
      else (scanNumber .start (c :: rest)).map fun r => (.num r.1, r.2)

def parseItems : Nat → List Char → Option (List Json × List Char)
  | 0, _ => none
  | fuel + 1, s =>
    match parseValue fuel s with
    | none => none
    | some (v, rest) =>
      match skipWs rest with
      | ',' :: rest => (parseItems fuel rest).map fun r => (v :: r.1, r.2)
      | ']' :: rest => some ([v], rest)
      | _ => none

def parseMembers : Nat → List Char → Option (List (List Char × Json) × List Char)
  | 0, _ => none
  | fuel + 1, s =>
    match skipWs s with
    | '"' :: rest =>
      match parseStringBody none rest with
      | none => none
      | some (key, rest) =>
        match skipWs rest with
        | ':' :: rest =>
          match parseValue fuel rest with
          | none => none
          | some (v, rest) =>
            match skipWs rest with
            | ',' :: rest => (parseMembers fuel rest).map fun r => ((key, v) :: r.1, r.2)
            | '}' :: rest => some ([(key, v)], rest)
            | _ => none
        | _ => none
    | _ => none
end

/-- `checkValid` and the value it checked: one value, then only whitespace. -/
def parseText (s : List Char) : Option Json :=
  match parseValue (2 * s.length + 1) s with
  | some (v, rest) => if skipWs rest = [] then some v else none
  | none => none

/-! ## Unfolding the string parser -/

theorem parseStringBody_quote (p : Option Nat) (cs : List Char) :
    parseStringBody p ('"' :: cs) = flush p (some ([], cs)) := by
  rw [parseStringBody.eq_def]
  simp

theorem parseStringBody_plain (p : Option Nat) (c : Char) (cs : List Char) (h1 : c ≠ '"')
    (h2 : c ≠ '\\') (h3 : 0x20 ≤ c.toNat) :
    parseStringBody p (c :: cs) = flush p (consChar c (parseStringBody none cs)) := by
  rw [parseStringBody.eq_def]
  simp only [h1, h2, if_false]
  rw [if_neg (by omega)]

theorem parseStringBody_escape (p : Option Nat) (e : Char) (rest : List Char) (he : e ≠ 'u') :
    parseStringBody p ('\\' :: e :: rest) =
      match unescape e with
      | none => none
      | some ch => flush p (consChar ch (parseStringBody none rest)) := by
  rw [parseStringBody.eq_def]
  simp [he]

theorem parseStringBody_u (p : Option Nat) (a b c d : Char) (rest : List Char) :
    parseStringBody p ('\\' :: 'u' :: a :: b :: c :: d :: rest) =
      match hex4 a b c d with
      | none => none
      | some r =>
        match p with
        | some hi =>
          if decodeRune hi r = 0xFFFD then
            consChar '\uFFFD'
              (if isSurrogate r then parseStringBody (some r) rest
               else consChar (Char.ofNat r) (parseStringBody none rest))
          else consChar (Char.ofNat (decodeRune hi r)) (parseStringBody none rest)
        | none =>
          if isSurrogate r then parseStringBody (some r) rest
          else consChar (Char.ofNat r) (parseStringBody none rest) := by
  rw [parseStringBody.eq_def]
  simp

/-! ## What each part consumes -/

theorem skipWs_length_le (s : List Char) : (skipWs s).length ≤ s.length := by
  induction s with
  | nil => exact Nat.le_refl _
  | cons c cs ih =>
    rw [skipWs]
    split
    · simp only [List.length_cons]; omega
    · exact Nat.le_refl _

theorem expect_length {w s r : List Char} (h : expect w s = some r) : r.length + w.length = s.length := by
  induction w generalizing s with
  | nil => simp [expect] at h; simp [h]
  | cons a w ih =>
    cases s with
    | nil => simp [expect] at h
    | cons c cs =>
      rw [expect] at h
      split at h
      · have := ih h; simp only [List.length_cons]; omega
      · cases h

theorem map_pair_eq_some {α β : Type} {o : Option (α × List Char)} {f : α → β} {b : β}
    {rest : List Char} (h : o.map (fun r => (f r.1, r.2)) = some (b, rest)) :
    ∃ a, o = some (a, rest) ∧ f a = b := by
  obtain ⟨⟨a, rest'⟩, h1, h2⟩ := Option.map_eq_some_iff.mp h
  simp only [Prod.mk.injEq] at h2
  obtain ⟨hb, rfl⟩ := h2
  exact ⟨a, h1, hb⟩

theorem map_word_eq_some {β : Type} {o : Option (List Char)} {b b' : β} {rest : List Char}
    (h : o.map (fun r => (b, r)) = some (b', rest)) : o = some rest := by
  obtain ⟨r, h1, h2⟩ := Option.map_eq_some_iff.mp h
  simp only [Prod.mk.injEq] at h2
  rw [h1, h2.2]

theorem expect_map_length {β : Type} {w r rest : List Char} {b b' : β}
    (h : (expect w r).map (fun r => (b, r)) = some (b', rest)) : rest.length ≤ r.length := by
  have := expect_length (map_word_eq_some h)
  omega

theorem consChar_eq_some {c : Char} {r : Option (List Char × List Char)} {t rest : List Char}
    (h : consChar c r = some (t, rest)) : ∃ t', r = some (t', rest) := by
  obtain ⟨t', h1, -⟩ := map_pair_eq_some h
  exact ⟨t', h1⟩

theorem flush_eq_some {p : Option Nat} {r : Option (List Char × List Char)} {t rest : List Char}
    (h : flush p r = some (t, rest)) : ∃ t', r = some (t', rest) := by
  cases p with
  | none => exact ⟨t, h⟩
  | some _ => exact consChar_eq_some h

theorem parseStringBody_length {p : Option Nat} {s t rest : List Char}
    (h : parseStringBody p s = some (t, rest)) : rest.length < s.length := by
  fun_induction parseStringBody p s generalizing t with
  | case1 | case3 | case4 | case9 | case10 | case12 => cases h
  | case2 => obtain ⟨_, h⟩ := flush_eq_some h; cases h; simp
  | case5 a b c d cs r hr hi hDec hq ih2 ih1 =>
    obtain ⟨_, h⟩ := consChar_eq_some h
    split at h
    · have := ih2 h; simp only [List.length_cons]; omega
    · obtain ⟨_, h⟩ := consChar_eq_some h
      have := ih1 h; simp only [List.length_cons]; omega
  | case6 a b c d cs r hr hi hDec hq ih1 =>
    obtain ⟨_, h⟩ := consChar_eq_some h
    have := ih1 h; simp only [List.length_cons]; omega
  | case7 a b c d cs r hr hSur hq ih1 =>
    have := ih1 h; simp only [List.length_cons]; omega
  | case8 a b c d cs r hr hSur hq ih1 =>
    obtain ⟨_, h⟩ := consChar_eq_some h
    have := ih1 h; simp only [List.length_cons]; omega
  | case11 p e cs he ch hch hq ih1 =>
    obtain ⟨_, h⟩ := flush_eq_some h
    obtain ⟨_, h⟩ := consChar_eq_some h
    have := ih1 h; simp only [List.length_cons]; omega
  | case13 p c cs h1 h2 h3 ih1 =>
    obtain ⟨_, h⟩ := flush_eq_some h
    obtain ⟨_, h⟩ := consChar_eq_some h
    have := ih1 h; simp only [List.length_cons]; omega

theorem scanNumber_length {st : NumState} {s l rest : List Char}
    (h : scanNumber st s = some (l, rest)) : rest.length ≤ s.length := by
  induction s generalizing st l with
  | nil =>
    rw [scanNumber] at h
    split at h
    · cases h; exact Nat.le_refl _
    · cases h
  | cons c cs ih =>
    rw [scanNumber] at h
    split at h
    · obtain ⟨_, h⟩ := consChar_eq_some h
      have := ih h; simp only [List.length_cons]; omega
    · split at h
      · cases h; exact Nat.le_refl _
      · cases h

theorem skipWs_cons_length {s r : List Char} {c : Char} (h : skipWs s = c :: r) :
    r.length < s.length := by
  have := skipWs_length_le s
  rw [h, List.length_cons] at this
  omega

theorem scanNumber_start_length {s l rest : List Char} (h : scanNumber .start s = some (l, rest)) :
    rest.length < s.length := by
  cases s with
  | nil => cases h
  | cons c cs =>
    rw [scanNumber] at h
    split at h
    · obtain ⟨_, h⟩ := consChar_eq_some h
      have := scanNumber_length h; simp only [List.length_cons]; omega
    · cases h

theorem closeOr_length {close : Char} {empty v : Json} {t rest : List Char}
    {elements : List Char → Option (Json × List Char)}
    (h : closeOr close empty t elements = some (v, rest))
    (hElements : ∀ t v rest, elements t = some (v, rest) → rest.length < t.length) :
    rest.length < t.length := by
  unfold closeOr at h
  split_ifs at h with hHead
  · cases h
    cases t with
    | nil => cases hHead
    | cons c cs => simp
  · exact hElements _ _ _ h

theorem closeOr_congr {close : Char} {empty : Json} {t : List Char}
    {elements elements' : List Char → Option (Json × List Char)}
    (h : t.head? ≠ some close → elements' t = elements t) :
    closeOr close empty t elements' = closeOr close empty t elements := by
  unfold closeOr
  split_ifs with hHead
  · rfl
  · exact h hHead

theorem closeOr_isSome {close : Char} {empty : Json} {t : List Char}
    {elements : List Char → Option (Json × List Char)}
    (h : (closeOr close empty t elements).isSome) (hHead : t.head? ≠ some close) :
    (elements t).isSome := by
  unfold closeOr at h
  rwa [if_neg hHead] at h

theorem parse_length (n : Nat) :
    (∀ s v rest, parseValue n s = some (v, rest) → rest.length < s.length) ∧
    (∀ s vs rest, parseItems n s = some (vs, rest) → rest.length < s.length) ∧
    (∀ s ms rest, parseMembers n s = some (ms, rest) → rest.length < s.length) := by
  induction n with
  | zero => refine ⟨?_, ?_, ?_⟩ <;> intro s _ rest h <;> simp [parseValue, parseItems, parseMembers] at h
  | succ f ih =>
    obtain ⟨ihV, ihI, ihM⟩ := ih
    refine ⟨fun s v rest h => ?_, fun s vs rest h => ?_, fun s ms rest h => ?_⟩
    · rw [parseValue] at h
      split at h
      · cases h
      rename_i c r hs
      have hr := skipWs_cons_length hs
      split_ifs at h
      · obtain ⟨_, h1, -⟩ := map_pair_eq_some h
        have := parseStringBody_length h1; omega
      · have := closeOr_length h fun t _ _ h' => by
          obtain ⟨_, h1, -⟩ := map_pair_eq_some h'
          exact ihI _ _ _ h1
        have := skipWs_length_le r; omega
      · have := closeOr_length h fun t _ _ h' => by
          obtain ⟨_, h1, -⟩ := map_pair_eq_some h'
          exact ihM _ _ _ h1
        have := skipWs_length_le r; omega
      · have := expect_map_length h; omega
      · have := expect_map_length h; omega
      · have := expect_map_length h; omega
      · obtain ⟨_, h1, -⟩ := map_pair_eq_some h
        have := scanNumber_start_length h1
        have := skipWs_length_le s
        rw [hs, List.length_cons] at this
        simp only [List.length_cons] at *
        omega
    · rw [parseItems] at h
      split at h
      · cases h
      rename_i v r hv
      have hr := ihV _ _ _ hv
      split at h
      · rename_i r' hr'
        obtain ⟨_, h1, -⟩ := map_pair_eq_some h
        have := ihI _ _ _ h1; have := skipWs_cons_length hr'; omega
      · rename_i r' hr'
        cases h; have := skipWs_cons_length hr'; omega
      · cases h
    · rw [parseMembers] at h
      split at h
      · rename_i r hr
        have h0 := skipWs_cons_length hr
        split at h
        · cases h
        rename_i key r2 hKey
        have h2 := parseStringBody_length hKey
        split at h
        · rename_i r3 hr3
          have h3 := skipWs_cons_length hr3
          split at h
          · cases h
          rename_i v r4 hv
          have h4 := ihV _ _ _ hv
          split at h
          · rename_i r5 hr5
            obtain ⟨_, h1, -⟩ := map_pair_eq_some h
            have := ihM _ _ _ h1; have := skipWs_cons_length hr5; omega
          · rename_i r5 hr5
            cases h; have := skipWs_cons_length hr5; omega
          · cases h
        · cases h
      · cases h

theorem isSome_or_fuel_of_lt {α β : Type} {o : Option α} {o' : Option β} {a b f : Nat}
    (hSome : o.isSome → o'.isSome) (hLen : b < a) (h : o.isSome ∨ 2 * a + 1 ≤ f + 1) :
    o'.isSome ∨ 2 * b + 2 ≤ f := by
  rcases h with h | h
  · exact .inl (hSome h)
  · right
    omega

theorem parse_fuel (n : Nat) :
    (∀ s m, n ≤ m → ((parseValue n s).isSome ∨ 2 * s.length + 1 ≤ n) →
      parseValue m s = parseValue n s) ∧
    (∀ s m, n ≤ m → ((parseItems n s).isSome ∨ 2 * s.length + 2 ≤ n) →
      parseItems m s = parseItems n s) ∧
    (∀ s m, n ≤ m → ((parseMembers n s).isSome ∨ 2 * s.length + 2 ≤ n) →
      parseMembers m s = parseMembers n s) := by
  induction n with
  | zero =>
    refine ⟨?_, ?_, ?_⟩ <;> intro s m _ hGood <;> simp [parseValue, parseItems, parseMembers] at hGood
  | succ f ih =>
    obtain ⟨ihV, ihI, ihM⟩ := ih
    refine ⟨fun s m hm hGood => ?_, fun s m hm hGood => ?_, fun s m hm hGood => ?_⟩
    all_goals obtain ⟨g, rfl⟩ : ∃ g, m = g + 1 := ⟨m - 1, by omega⟩
    · rw [parseValue] at hGood
      rw [parseValue, parseValue]
      rcases hs : skipWs s with _ | ⟨c, r⟩
      · rfl
      rw [hs] at hGood
      have hr := skipWs_cons_length hs
      dsimp only at hGood ⊢
      split_ifs at hGood ⊢
      · rfl
      · apply closeOr_congr
        intro hHead
        have hGood' : (parseItems f (skipWs r)).isSome ∨ 2 * (skipWs r).length + 2 ≤ f :=
          isSome_or_fuel_of_lt (fun h => by simpa using closeOr_isSome h hHead)
            (Nat.lt_of_le_of_lt (skipWs_length_le r) hr) hGood
        rw [ihI _ g (by omega) hGood']
      · apply closeOr_congr
        intro hHead
        have hGood' : (parseMembers f (skipWs r)).isSome ∨ 2 * (skipWs r).length + 2 ≤ f :=
          isSome_or_fuel_of_lt (fun h => by simpa using closeOr_isSome h hHead)
            (Nat.lt_of_le_of_lt (skipWs_length_le r) hr) hGood
        rw [ihM _ g (by omega) hGood']
      · rfl
      · rfl
      · rfl
      · rfl
    · rw [parseItems] at hGood
      rw [parseItems, parseItems]
      rcases hv : parseValue f s with _ | ⟨v, r⟩
      · rw [hv] at hGood
        have hBound : 2 * s.length + 1 ≤ f := by simpa using hGood
        rw [ihV s g (by omega) (.inr hBound), hv]
      rw [ihV s g (by omega) (.inl (by simp [hv])), hv]
      rw [hv] at hGood
      have hr := (parse_length f).1 _ _ _ hv
      dsimp only at hGood ⊢
      split
      · rename_i r' hr'
        rw [hr'] at hGood
        have hGood' : (parseItems f r').isSome ∨ 2 * r'.length + 2 ≤ f :=
          isSome_or_fuel_of_lt (by simpa using ·)
            (Nat.lt_trans (skipWs_cons_length hr') hr) (hGood.imp_right (by omega))
        rw [ihI r' g (by omega) hGood']
      · rfl
      · rfl
    · rw [parseMembers] at hGood
      rw [parseMembers, parseMembers]
      split
      · rename_i r hr
        rw [hr] at hGood
        have h0 := skipWs_cons_length hr
        simp only at hGood
        rcases hk : parseStringBody none r with _ | ⟨key, r2⟩
        · rfl
        rw [hk] at hGood
        have h2 := parseStringBody_length hk
        dsimp only at hGood ⊢
        split
        · rename_i r3 hr3
          rw [hr3] at hGood
          have h3 := skipWs_cons_length hr3
          simp only at hGood
          rcases hv : parseValue f r3 with _ | ⟨v, r4⟩
          · rw [hv] at hGood
            have hBound : 2 * r3.length + 1 ≤ f := by simp at hGood; omega
            rw [ihV r3 g (by omega) (.inr hBound), hv]
          rw [ihV r3 g (by omega) (.inl (by simp [hv])), hv]
          rw [hv] at hGood
          have h4 := (parse_length f).1 _ _ _ hv
          dsimp only at hGood ⊢
          split
          · rename_i r5 hr5
            rw [hr5] at hGood
            have hGood' : (parseMembers f r5).isSome ∨ 2 * r5.length + 2 ≤ f :=
              isSome_or_fuel_of_lt (by simpa using ·)
                (by have := skipWs_cons_length hr5; omega) (hGood.imp_right (by omega))
            rw [ihM r5 g (by omega) hGood']
          · rfl
          · rfl
        · rfl
      · rfl

theorem parseValue_fuel_stable {s : List Char} {n : Nat} (h : 2 * s.length + 1 ≤ n) :
    parseValue n s = parseValue (2 * s.length + 1) s :=
  (parse_fuel _).1 s n h (.inr (Nat.le_refl _))

theorem parseValue_fuel_mono {s : List Char} {n m : Nat} {r : Json × List Char}
    (h : parseValue n s = some r) (hnm : n ≤ m) : parseValue m s = some r := by
  rw [(parse_fuel n).1 s m hnm (.inl (by simp [h])), h]

theorem parseText_eq_some_iff (s : List Char) (v : Json) :
    parseText s = some v ↔ ∃ n rest, parseValue n s = some (v, rest) ∧ skipWs rest = [] := by
  constructor
  · intro h
    unfold parseText at h
    split at h
    · rename_i v' rest hp
      split_ifs at h with hRest
      cases h
      exact ⟨_, rest, hp, hRest⟩
    · cases h
  · rintro ⟨n, rest, hp, hRest⟩
    have hN : parseValue (2 * s.length + 1) s = some (v, rest) := by
      rcases Nat.le_total n (2 * s.length + 1) with hn | hn
      · exact parseValue_fuel_mono hp hn
      · rw [← parseValue_fuel_stable hn, hp]
    unfold parseText
    rw [hN]
    simp [hRest]

end GoJson
