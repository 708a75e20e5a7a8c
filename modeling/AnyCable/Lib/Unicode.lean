import Mathlib.Data.List.Basic

/-! # Lower case in Go's unicode and strings packages

`unicode.ToLower` maps an ASCII letter by adding 32 and any other rune through
the case table `unicode.CaseRanges`, with the binary search of `to`: a range of
the table maps a rune by its delta, or, when the delta is the `UpperLower`
marker, to the other member of its upper/lower pair. `strings.ToLower` maps
every rune of valid UTF-8 text so; its ASCII fast path gives the same text.

The table is generated from the Unicode data and is a parameter here, sorted by
`lo` as Go's is; `latinCaseRanges` holds its first entries.
-/

namespace GoUnicode
set_option autoImplicit false

inductive Case where
  | upper
  | lower
  | title

/-- `unicode.CaseRange`: the runes `lo` to `hi` and their deltas to each case. -/
structure CaseRange where
  lo : Nat
  hi : Nat
  delta : Case → Int

def maxRune : Nat := 0x10FFFF

def maxASCII : Nat := 0x7F

def upperLower : Int := maxRune + 1

def Case.lowBit : Case → Nat
  | .upper => 0
  | .lower => 1
  | .title => 0

/-- The loop of `to` over `caseRange[lo:hi]`, which halves at every round. -/
def toSearch (c : Case) (r : Nat) (caseRange : List CaseRange) : Nat → Nat → Nat → Nat × Bool
  | 0, _, _ => (r, false)
  | fuel + 1, lo, hi =>
    if lo < hi then
      match caseRange[lo + (hi - lo) / 2]? with
      | none => (r, false)
      | some cr =>
        if cr.lo ≤ r ∧ r ≤ cr.hi then
          if (maxRune : Int) < cr.delta c then (cr.lo + ((r - cr.lo) / 2 * 2 + c.lowBit), true)
          else ((r + cr.delta c).toNat, true)
        else if r < cr.lo then toSearch c r caseRange fuel lo (lo + (hi - lo) / 2)
        else toSearch c r caseRange fuel (lo + (hi - lo) / 2 + 1) hi
    else (r, false)

/-- `to`: the rune in the case, and whether the table maps it. -/
def toCase (c : Case) (r : Nat) (caseRange : List CaseRange) : Nat × Bool :=
  toSearch c r caseRange (caseRange.length + 1) 0 caseRange.length

/-- `unicode.ToLower`, with the table `CaseRanges`. -/
def toLower (caseRanges : List CaseRange) (r : Char) : Char :=
  if r.toNat ≤ maxASCII then
    if 'A'.toNat ≤ r.toNat ∧ r.toNat ≤ 'Z'.toNat then Char.ofNat (r.toNat + 32) else r
  else Char.ofNat (toCase .lower r.toNat caseRanges).1

def latinCaseRanges : List CaseRange :=
  [⟨0x41, 0x5A, fun | .upper => 0 | .lower => 32 | .title => 0⟩,
   ⟨0x61, 0x7A, fun | .upper => -32 | .lower => 0 | .title => -32⟩,
   ⟨0xB5, 0xB5, fun | .upper => 743 | .lower => 0 | .title => 743⟩,
   ⟨0xC0, 0xD6, fun | .upper => 0 | .lower => 32 | .title => 0⟩,
   ⟨0xD8, 0xDE, fun | .upper => 0 | .lower => 32 | .title => 0⟩,
   ⟨0xDF, 0xDF, fun | .upper => 7615 | .lower => 0 | .title => 7615⟩,
   ⟨0xE0, 0xF6, fun | .upper => -32 | .lower => 0 | .title => -32⟩,
   ⟨0xF8, 0xFE, fun | .upper => -32 | .lower => 0 | .title => -32⟩,
   ⟨0xFF, 0xFF, fun | .upper => 121 | .lower => 0 | .title => 121⟩,
   ⟨0x100, 0x12F, fun _ => upperLower⟩,
   ⟨0x130, 0x130, fun | .upper => 0 | .lower => -199 | .title => 0⟩,
   ⟨0x131, 0x131, fun | .upper => -232 | .lower => 0 | .title => -232⟩]

example : toLower latinCaseRanges 'Ü' = 'ü' ∧ toLower latinCaseRanges 'Ā' = 'ā' ∧
    toLower latinCaseRanges 'ā' = 'ā' ∧ toLower latinCaseRanges 'İ' = 'i' ∧
    toLower latinCaseRanges 'Q' = 'q' := by
  decide +kernel

end GoUnicode

namespace GoStrings
set_option autoImplicit false

/-- `strings.ToLower` on valid UTF-8 text. -/
def toLower (caseRanges : List GoUnicode.CaseRange) (s : List Char) : List Char :=
  s.map (GoUnicode.toLower caseRanges)

end GoStrings
