import Mathlib.Algebra.Group.Nat.Defs
import Mathlib.Data.List.Basic

/-! # Go's float64 and its shortest decimal text

`strconv.ParseFloat(s, 64)` on a decimal number, and `strconv.AppendFloat(b, f,
fmt, -1, 64)` for the formats `'f'` and `'e'`.

A finite float64 is kept as a sign, a mantissa and a shift: its magnitude is
`mant * 2^shift` units of `2^-1074`, the least subnormal. `ParseFloat` rounds
the exact value of the text to the nearest float64, ties to even, and fails with
a range error when that rounds past the largest; all of Go's paths (exact
float arithmetic, Eisel-Lemire, the big-decimal fallback) give that value.
The shortest text is the one with the fewest digits whose value lies in the
rounding interval of the float, halfway to each neighbour, bounds included
when the mantissa is even; among those, the one nearest the float, ties to an
even last digit, which is what the Ryū-style `ryuFtoaShortest` produces.
-/

namespace Strconv
set_option autoImplicit false

structure Float64 where
  neg : Bool
  mant : Nat
  shift : Nat
  valid : mant < 2 ^ 53 ∧ shift ≤ 2045 ∧ (0 < shift → 2 ^ 52 ≤ mant)
  deriving DecidableEq

def Float64.units (f : Float64) : Nat := f.mant * 2 ^ f.shift

def Float64.zero (neg : Bool) : Float64 := ⟨neg, 0, 0, by decide, by decide, by simp⟩

/-! ## Reading -/

structure Decimal where
  neg : Bool
  digits : Nat
  exp : Int

def splitSign : List Char → Bool × List Char
  | '-' :: t => (true, t)
  | t => (false, t)

def splitFrac : List Char → List Char × List Char
  | '.' :: t => (t.takeWhile Char.isDigit, t.dropWhile Char.isDigit)
  | t => ([], t)

def readExp : List Char → Int
  | '+' :: ds => Nat.ofDigitChars 10 ds 0
  | '-' :: ds => -(Nat.ofDigitChars 10 ds 0 : Int)
  | ds => Nat.ofDigitChars 10 ds 0

def readExpPart : List Char → Int
  | c :: t => if c = 'e' ∨ c = 'E' then readExp t else 0
  | [] => 0

def readDecimal (s : List Char) : Decimal :=
  let body := (splitSign s).2
  let frac := splitFrac (body.dropWhile Char.isDigit)
  ⟨(splitSign s).1, Nat.ofDigitChars 10 (body.takeWhile Char.isDigit ++ frac.1) 0,
    readExpPart frac.2 - frac.1.length⟩

/-! ## Rounding -/

/-- `n / d` rounded to the nearest integer, ties to even. -/
def roundHalfEven (n d : Nat) : Nat :=
  if d < 2 * (n % d) ∨ 2 * (n % d) = d ∧ n / d % 2 = 1 then n / d + 1 else n / d

theorem div_le_roundHalfEven (n d : Nat) : n / d ≤ roundHalfEven n d := by
  unfold roundHalfEven
  split_ifs <;> omega

def dropBits (num den : Nat) : Nat := (num / den).log2 + 1 - 53

theorem two_pow_le_of_dropBits {num den : Nat} (h : 0 < dropBits num den) :
    2 ^ 52 ≤ num / (den * 2 ^ dropBits num den) := by
  unfold dropBits at *
  have hNe : num / den ≠ 0 := by
    intro hZero
    rw [hZero, Nat.log2_zero] at h
    omega
  have hLog : (num / den).log2 = 52 + ((num / den).log2 + 1 - 53) := by omega
  have hLe : 2 ^ 52 * 2 ^ ((num / den).log2 + 1 - 53) ≤ num / den := by
    rw [← Nat.pow_add, ← hLog]
    exact Nat.log2_self_le hNe
  rw [← Nat.div_div_eq_div_mul]
  exact (Nat.le_div_iff_mul_le (Nat.two_pow_pos _)).mpr hLe

def ofUnits (neg : Bool) (num den : Nat) : Option Float64 :=
  let s := dropBits num den
  if hq : roundHalfEven num (den * 2 ^ s) < 2 ^ 53 then
    if hs : s ≤ 2045 then
      some ⟨neg, roundHalfEven num (den * 2 ^ s), s, hq, hs,
        fun h => Nat.le_trans (two_pow_le_of_dropBits h) (div_le_roundHalfEven _ _)⟩
    else none
  else if hs : s + 1 ≤ 2045 then some ⟨neg, 2 ^ 52, s + 1, by decide, hs, fun _ => Nat.le_refl _⟩
  else none

/-- `strconv.ParseFloat(s, 64)` on a number; `none` is its range error. -/
def parseFloat (s : List Char) : Option Float64 :=
  let d := readDecimal s
  if d.digits = 0 then some (Float64.zero d.neg)
  else ofUnits d.neg (d.digits * 10 ^ d.exp.toNat * 2 ^ 1074) (10 ^ (-d.exp).toNat)

/-! ## The shortest digits -/

def Float64.lower (f : Float64) : Nat :=
  if f.mant = 2 ^ 52 ∧ 0 < f.shift then 4 * f.mant - 1 else 4 * f.mant - 2

def Float64.upper (f : Float64) : Nat := 4 * f.mant + 2

/-- `(a, b)` with `k * 10^j` inside the interval exactly when `lower * a ≤ k * b ≤ upper * a`. -/
def scaleAt (f : Float64) (j : Int) : Nat × Nat :=
  (2 ^ f.shift * 10 ^ (-j).toNat, 10 ^ j.toNat * 2 ^ 1076)

def kLow (f : Float64) (a b : Nat) : Nat :=
  if f.mant % 2 = 0 then (f.lower * a + b - 1) / b else f.lower * a / b + 1

def kHigh (f : Float64) (a b : Nat) : Nat :=
  if f.mant % 2 = 0 then f.upper * a / b else (f.upper * a + b - 1) / b - 1

/-- The decimal exponents from `j` down, to the first at which the interval
holds a multiple of `10^j`; every interval is wider than `10^-343`. -/
def searchExp (f : Float64) : Nat → Int → Int
  | 0, j => j
  | fuel + 1, j =>
    if kLow f (scaleAt f j).1 (scaleAt f j).2 ≤ kHigh f (scaleAt f j).1 (scaleAt f j).2 then j
    else searchExp f fuel (j - 1)

def shortestExp (f : Float64) : Int := searchExp f 652 309

def shortestDigits (f : Float64) : Nat × Int :=
  let ab := scaleAt f (shortestExp f)
  (max (kLow f ab.1 ab.2) (min (kHigh f ab.1 ab.2) (roundHalfEven (4 * f.mant * ab.1) ab.2)),
    shortestExp f)

/-- `decimalSlice`: the digits and the decimal point, the value being
`0.d₁d₂… * 10^dp`; zero has no digits. -/
def decimalSlice (f : Float64) : List Char × Int :=
  if f.mant = 0 then ([], 0)
  else (Nat.toDigits 10 (shortestDigits f).1,
    (Nat.toDigits 10 (shortestDigits f).1).length + (shortestDigits f).2)

/-! ## Formatting -/

def signText (neg : Bool) : List Char := if neg then ['-'] else []

def digitAt (d : List Char) (i : Int) : Char := if 0 ≤ i then d.getD i.toNat '0' else '0'

/-- `fmtF` with the precision of the shortest mode, `max(nd - dp, 0)`. -/
def fmtF (neg : Bool) (d : List Char) (dp : Int) : List Char :=
  signText neg ++
    (if 0 < dp then d.take dp.toNat ++ List.replicate (dp.toNat - d.length) '0' else ['0']) ++
    (if 0 < (d.length - dp).toNat then
      '.' :: (List.range (d.length - dp).toNat).map fun i : Nat => digitAt d (dp + (i : Int))
    else [])

def expText (exp : Int) : List Char :=
  (if exp < 0 then '-' else '+') ::
    if exp.natAbs < 10 then ['0', Nat.digitChar exp.natAbs]
    else if exp.natAbs < 100 then [Nat.digitChar (exp.natAbs / 10), Nat.digitChar (exp.natAbs % 10)]
    else [Nat.digitChar (exp.natAbs / 100), Nat.digitChar (exp.natAbs / 10 % 10),
      Nat.digitChar (exp.natAbs % 10)]

/-- `fmtE` with the precision of the shortest mode, `nd - 1`. -/
def fmtE (neg : Bool) (d : List Char) (dp : Int) : List Char :=
  signText neg ++ d.headD '0' :: ((if 1 < d.length then '.' :: d.drop 1 else []) ++
    'e' :: expText (if d = [] then 0 else dp - 1))

end Strconv

namespace Strconv

/-! ## The digits are a decimal numeral -/

theorem toDigits_head_ne_zero (n : Nat) (hPos : 0 < n) :
    ∃ c rest, Nat.toDigits 10 n = c :: rest ∧ c ≠ '0' := by
  induction n using Nat.strongRecOn with
  | ind n ih =>
    rw [Nat.toDigits_eq_if (by decide)]
    split
    · exact ⟨_, [], rfl, by simpa using Nat.pos_iff_ne_zero.mp hPos⟩
    · obtain ⟨c, rest, hDigits, hc⟩ := ih (n / 10) (by omega) (by omega)
      exact ⟨c, rest ++ [Nat.digitChar (n % 10)], by rw [hDigits, List.cons_append], hc⟩

theorem kLow_pos (f : Float64) (hMant : 0 < f.mant) {a b : Nat} (ha : 0 < a) (hb : 0 < b) :
    0 < kLow f a b := by
  have hLower : 0 < f.lower := by
    unfold Float64.lower
    split_ifs <;> omega
  have hProd : 0 < f.lower * a := Nat.mul_pos hLower ha
  unfold kLow
  split_ifs
  · exact (Nat.le_div_iff_mul_le hb).mpr (by omega)
  · exact Nat.succ_pos _

theorem scaleAt_pos (f : Float64) (j : Int) : 0 < (scaleAt f j).1 ∧ 0 < (scaleAt f j).2 :=
  ⟨Nat.mul_pos (Nat.pow_pos (by decide)) (Nat.pow_pos (by decide)),
    Nat.mul_pos (Nat.pow_pos (by decide)) (Nat.pow_pos (by decide))⟩

theorem shortestDigits_pos (f : Float64) (hMant : 0 < f.mant) : 0 < (shortestDigits f).1 :=
  Nat.lt_of_lt_of_le (kLow_pos f hMant (scaleAt_pos f _).1 (scaleAt_pos f _).2) (Nat.le_max_left _ _)

theorem searchExp_bounds (f : Float64) :
    ∀ (fuel : Nat) (j : Int), j - fuel ≤ searchExp f fuel j ∧ searchExp f fuel j ≤ j
  | 0, j => by simp [searchExp]
  | fuel + 1, j => by
    unfold searchExp
    split
    · omega
    · have := searchExp_bounds f fuel (j - 1)
      omega

theorem kLow_mul_le (f : Float64) (a b : Nat) : kLow f a b * b ≤ f.upper * a + b := by
  have hLower : f.lower ≤ f.upper := by
    unfold Float64.lower Float64.upper
    split_ifs <;> omega
  have hMul : f.lower * a ≤ f.upper * a := Nat.mul_le_mul_right a hLower
  unfold kLow
  split_ifs
  · have := Nat.div_mul_le_self (f.lower * a + b - 1) b
    omega
  · have := Nat.div_mul_le_self (f.lower * a) b
    rw [Nat.add_mul, Nat.one_mul]
    omega

theorem kHigh_mul_le (f : Float64) (a b : Nat) : kHigh f a b * b ≤ f.upper * a + b := by
  unfold kHigh
  split_ifs
  · have := Nat.div_mul_le_self (f.upper * a) b
    omega
  · have h1 := Nat.div_mul_le_self (f.upper * a + b - 1) b
    have h2 : ((f.upper * a + b - 1) / b - 1) * b ≤ (f.upper * a + b - 1) / b * b :=
      Nat.mul_le_mul_right b (Nat.sub_le _ _)
    omega

theorem clamp_mul_le (f : Float64) (a b r : Nat) :
    max (kLow f a b) (min (kHigh f a b) r) * b ≤ f.upper * a + b := by
  rcases Nat.le_total (kLow f a b) (min (kHigh f a b) r) with hLe | hLe
  · rw [Nat.max_eq_right hLe]
    exact Nat.le_trans (Nat.mul_le_mul_right _ (Nat.min_le_left _ _)) (kHigh_mul_le f _ _)
  · rw [Nat.max_eq_left hLe]
    exact kLow_mul_le f _ _

theorem shortestDigits_lt (f : Float64) : (shortestDigits f).1 < 10 ^ 653 := by
  obtain ⟨hLow, -⟩ := searchExp_bounds f 652 309
  have hj : -343 ≤ shortestExp f := by
    unfold shortestExp
    omega
  have ha : (scaleAt f (shortestExp f)).1 ≤ 2 ^ 2045 * 10 ^ 343 :=
    Nat.mul_le_mul (Nat.pow_le_pow_right (by decide) f.valid.2.1)
      (Nat.pow_le_pow_right (by decide) (by omega))
  have hb : 2 ^ 1076 ≤ (scaleAt f (shortestExp f)).2 :=
    Nat.le_mul_of_pos_left _ (Nat.pow_pos (by decide))
  have hUpper : f.upper ≤ 2 ^ 55 + 2 := by
    have := f.valid.1
    unfold Float64.upper
    omega
  have hk : (shortestDigits f).1 * (scaleAt f (shortestExp f)).2 ≤
      f.upper * (scaleAt f (shortestExp f)).1 + (scaleAt f (shortestExp f)).2 :=
    clamp_mul_le f _ _ _
  by_contra hBig
  have hChain : (10 ^ 653 - 1) * 2 ^ 1076 ≤ (2 ^ 55 + 2) * (2 ^ 2045 * 10 ^ 343) := by
    have h1 : 10 ^ 653 * (scaleAt f (shortestExp f)).2 ≤
        (2 ^ 55 + 2) * (2 ^ 2045 * 10 ^ 343) + (scaleAt f (shortestExp f)).2 :=
      calc 10 ^ 653 * (scaleAt f (shortestExp f)).2
          ≤ (shortestDigits f).1 * (scaleAt f (shortestExp f)).2 :=
            Nat.mul_le_mul_right _ (Nat.le_of_not_lt hBig)
        _ ≤ f.upper * (scaleAt f (shortestExp f)).1 + (scaleAt f (shortestExp f)).2 := hk
        _ ≤ (2 ^ 55 + 2) * (2 ^ 2045 * 10 ^ 343) + (scaleAt f (shortestExp f)).2 :=
            Nat.add_le_add_right (Nat.mul_le_mul hUpper ha) _
    have h2 : (10 ^ 653 - 1) * (scaleAt f (shortestExp f)).2 ≤ (2 ^ 55 + 2) * (2 ^ 2045 * 10 ^ 343) := by
      rw [Nat.sub_mul, Nat.one_mul]
      omega
    exact Nat.le_trans (Nat.mul_le_mul_left _ hb) h2
  exact absurd hChain (by decide +kernel)

theorem decimalSlice_exp_lt (f : Float64) (hMant : f.mant ≠ 0) : ((decimalSlice f).2 - 1).natAbs < 1000 := by
  obtain ⟨hLow, hHigh⟩ := searchExp_bounds f 652 309
  have hLen : (Nat.toDigits 10 (shortestDigits f).1).length ≤ 653 :=
    (Nat.length_toDigits_le_iff (by decide) (by decide)).mpr (shortestDigits_lt f)
  have hPos := Nat.length_toDigits_pos (b := 10) (n := (shortestDigits f).1)
  have hj : shortestDigits f = (_, shortestExp f) := rfl
  unfold decimalSlice shortestExp at *
  rw [if_neg hMant]
  dsimp only
  rw [hj] at hLen hPos ⊢
  dsimp only at hLen hPos ⊢
  omega

theorem decimalSlice_isDigit (f : Float64) : ∀ c ∈ (decimalSlice f).1, c.isDigit := by
  unfold decimalSlice
  split
  · simp
  · exact fun c hc => Nat.isDigit_of_mem_toDigits (by decide) (by decide) hc

theorem decimalSlice_shape (f : Float64) :
    (decimalSlice f).1 = [] ∧ (decimalSlice f).2 = 0 ∨
      ∃ c rest, (decimalSlice f).1 = c :: rest ∧ c ≠ '0' := by
  unfold decimalSlice
  split
  · exact Or.inl ⟨rfl, rfl⟩
  · exact Or.inr (toDigits_head_ne_zero _ (shortestDigits_pos f (by omega)))

end Strconv
