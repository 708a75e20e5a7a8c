import AnyCable.Lib.JsonEncode

/-! # The text of a float64 reads back as it

`strconv.ParseFloat` of the text `floatEncoder` writes is the float written, for
every float64 (`parseFloat_floatEncoder`); so is a negative zero.

The shortest digits `k * 10^j` lie in the rounding interval of the float, with
the bounds only when the mantissa is even (`shortestDigits_inside`): the
search for `j` ends at an exponent whose interval holds a multiple of `10^j`,
and at `10^-343` every interval does. `ParseFloat` reads back `k * 10^j` from
both formats (`readDecimal_fmtF`, `readDecimal_fmtE`), and rounding any value of
the interval, ties to even, gives the float (`ofUnits_of_inside`), including the
carry at the bottom of a binade, where the interval is narrower below.
-/

namespace Strconv
set_option autoImplicit false


/-! ## Rounding back to the float -/

theorem roundHalfEven_eq {n d m : Nat} (hd : 0 < d) (hLo : 2 * m * d ≤ 2 * n + d)
    (hHi : 2 * n ≤ 2 * m * d + d) (hTieLo : 2 * m * d = 2 * n + d → m % 2 = 0)
    (hTieHi : 2 * n = 2 * m * d + d → m % 2 = 0) : roundHalfEven n d = m := by
  rw [Nat.mul_assoc] at hLo hHi hTieLo hTieHi
  have hSplit : n / d * d + n % d = n := by
    rw [Nat.mul_comm]
    exact Nat.div_add_mod n d
  have hRem := Nat.mod_lt n hd
  have hUpper : m ≤ n / d + 1 := by
    by_contra hBig
    have hMul : (n / d + 2) * d ≤ m * d := Nat.mul_le_mul_right d (by omega)
    have hExp : (n / d + 2) * d = n / d * d + 2 * d := Nat.add_mul _ _ _
    omega
  have hLower : n / d ≤ m := by
    by_contra hSmall
    have hMul : (m + 1) * d ≤ n / d * d := Nat.mul_le_mul_right d (by omega)
    have hExp : (m + 1) * d = m * d + d := Nat.succ_mul m d
    omega
  unfold roundHalfEven
  split_ifs with hCond
  · by_contra hNe
    obtain rfl : m = n / d := by omega
    rcases hCond with hUp | ⟨hTie, hOdd⟩
    · omega
    · have hEven := hTieHi (by omega)
      omega
  · by_contra hNe
    obtain rfl : m = n / d + 1 := by omega
    have hExp : (n / d + 1) * d = n / d * d + d := Nat.succ_mul _ d
    have hTie : 2 * (n % d) = d := by omega
    have hEven := hTieLo (by omega)
    exact hCond (Or.inr ⟨hTie, by omega⟩)

theorem dropBits_of_bounds {N D t : Nat} (hD : 0 < D) (hLo : 2 ^ (52 + t) * D ≤ N)
    (hHi : N < 2 ^ (53 + t) * D) : dropBits N D = t := by
  have hq : 2 ^ (52 + t) ≤ N / D := (Nat.le_div_iff_mul_le hD).mpr hLo
  have hq' : N / D < 2 ^ (53 + t) := (Nat.div_lt_iff_lt_mul hD).mpr hHi
  have hNe : N / D ≠ 0 := Nat.pos_iff_ne_zero.mp (Nat.lt_of_lt_of_le (Nat.two_pow_pos _) hq)
  have hLog : (N / D).log2 = 52 + t := (Nat.log2_eq_iff hNe).mpr ⟨hq, by rwa [Nat.add_right_comm]⟩
  unfold dropBits
  omega

theorem dropBits_of_lt {N D : Nat} (hD : 0 < D) (hHi : N < 2 ^ 53 * D) : dropBits N D = 0 := by
  have hq' : N / D < 2 ^ 53 := (Nat.div_lt_iff_lt_mul hD).mpr hHi
  unfold dropBits
  by_cases hZero : N / D = 0
  · rw [hZero, Nat.log2_zero]
  · have hLog : (N / D).log2 < 53 := (Nat.log2_lt hZero).mpr hq'
    omega

theorem Float64.lower_add_two (f : Float64) : 4 * f.mant ≤ f.lower + 2 := by
  unfold Float64.lower
  split_ifs <;> omega

theorem ofUnits_of_round (neg : Bool) (N D : Nat) (f : Float64) (hDrop : dropBits N D = f.shift)
    (hRound : roundHalfEven N (D * 2 ^ f.shift) = f.mant) : ofUnits neg N D = some { f with neg } := by
  unfold ofUnits
  simp only [hDrop, hRound, dif_pos f.valid.1, dif_pos f.valid.2.1]

theorem ofUnits_of_carry (neg : Bool) (N D t : Nat) (f : Float64) (hDrop : dropBits N D = t)
    (hRound : roundHalfEven N (D * 2 ^ t) = 2 ^ 53) (hMant : f.mant = 2 ^ 52) (hShift : f.shift = t + 1) :
    ofUnits neg N D = some { f with neg } := by
  have hs : t + 1 ≤ 2045 := hShift ▸ f.valid.2.1
  obtain ⟨fneg, m, s, hv⟩ := f
  simp only at hMant hShift
  subst hMant hShift
  unfold ofUnits
  simp only [hDrop, hRound, Nat.lt_irrefl, dif_neg (not_false), dif_pos hs]

theorem pow_add_mul_eq (k s D : Nat) : 2 ^ (k + s) * D = 2 ^ k * (D * 2 ^ s) := by
  rw [Nat.pow_add, Nat.mul_assoc, Nat.mul_comm (2 ^ s) D]

theorem ofUnits_of_inside (neg : Bool) (f : Float64) (N D : Nat) (hD : 0 < D)
    (hLo : f.lower * (D * 2 ^ f.shift) ≤ 4 * N) (hHi : 4 * N ≤ f.upper * (D * 2 ^ f.shift))
    (hOdd : f.mant % 2 = 1 →
      f.lower * (D * 2 ^ f.shift) < 4 * N ∧ 4 * N < f.upper * (D * 2 ^ f.shift)) :
    ofUnits neg N D = some { f with neg } := by
  obtain ⟨hMant, hShift, hNormal⟩ := f.valid
  have hAdd := f.lower_add_two
  have h52 := pow_add_mul_eq 52 f.shift D
  have h53 := pow_add_mul_eq 53 f.shift D
  unfold Float64.upper at hHi hOdd
  generalize hW : D * 2 ^ f.shift = w at hLo hHi hOdd h52 h53
  have hw : 0 < w := hW ▸ Nat.mul_pos hD (Nat.two_pow_pos _)
  have hUpperMul : (4 * f.mant + 2) * w = 4 * (f.mant * w) + 2 * w := by
    rw [Nat.add_mul, Nat.mul_assoc]
  have hLowerMul : 4 * (f.mant * w) ≤ f.lower * w + 2 * w := by
    rw [← Nat.mul_assoc, ← Nat.add_mul]
    exact Nat.mul_le_mul_right _ hAdd
  have hTop : (4 * f.mant + 2) * w ≤ (2 ^ 55 - 2) * w := Nat.mul_le_mul_right _ (by omega)
  by_cases hCarry : 0 < f.shift ∧ N < 2 ^ 52 * w
  · obtain ⟨hPos, hBelow⟩ := hCarry
    obtain ⟨t, ht⟩ : ∃ t, f.shift = t + 1 := ⟨f.shift - 1, by omega⟩
    have hm : f.mant = 2 ^ 52 := by
      have hLowLt : f.lower < 2 ^ 54 := by
        by_contra hBig
        have : 2 ^ 54 * w ≤ f.lower * w := Nat.mul_le_mul_right _ (by omega)
        omega
      have := hNormal hPos
      omega
    have hLower : f.lower = 2 ^ 54 - 1 := by
      unfold Float64.lower
      rw [if_pos ⟨hm, hPos⟩, hm]
      omega
    have hX : w = 2 * (D * 2 ^ t) := by
      rw [← hW, ht, Nat.pow_succ, Nat.mul_comm (2 ^ t) 2, Nat.mul_left_comm]
    have h52t := pow_add_mul_eq 52 t D
    have h53t := pow_add_mul_eq 53 t D
    have hX0 : 0 < D * 2 ^ t := Nat.mul_pos hD (Nat.two_pow_pos _)
    rw [hLower] at hLo
    refine ofUnits_of_carry neg N D t f (dropBits_of_bounds hD (by omega) (by omega))
      (roundHalfEven_eq hX0 ?_ ?_ (fun _ => by decide) (fun _ => by decide)) hm ht
    · rw [Nat.mul_assoc]
      omega
    · rw [Nat.mul_assoc]
      omega
  · have hDrop : dropBits N D = f.shift := by
      rcases Nat.eq_zero_or_pos f.shift with hZero | hPos
      · rw [hZero] at h53 ⊢
        exact dropBits_of_lt hD (by omega)
      · exact dropBits_of_bounds hD (by omega) (by omega)
    refine ofUnits_of_round neg N D f hDrop (roundHalfEven_eq (hW ▸ hw) ?_ ?_ ?_ ?_) <;>
      rw [hW, Nat.mul_assoc]
    · omega
    · omega
    · intro hTie
      by_contra hOddMant
      have := (hOdd (by omega)).1
      omega
    · intro hTie
      by_contra hOddMant
      have := (hOdd (by omega)).2
      omega

/-! ## The shortest digits lie in the rounding interval -/

theorem searchExp_found (f : Float64) : ∀ (fuel : Nat) (j : Int),
    kLow f (scaleAt f (searchExp f fuel j)).1 (scaleAt f (searchExp f fuel j)).2 ≤
        kHigh f (scaleAt f (searchExp f fuel j)).1 (scaleAt f (searchExp f fuel j)).2 ∨
      searchExp f fuel j = j - fuel
  | 0, j => Or.inr (by simp [searchExp])
  | fuel + 1, j => by
    unfold searchExp
    split
    · exact Or.inl ‹_›
    · rcases searchExp_found f fuel (j - 1) with hFound | hEnd
      · exact Or.inl hFound
      · right
        rw [hEnd]
        omega

theorem kLow_le_kHigh_of_wide (f : Float64) (hMant : 0 < f.mant) (a b : Nat) (hb : 0 < b)
    (hWide : 2 * b ≤ 3 * a) : kLow f a b ≤ kHigh f a b := by
  have hGap : f.lower + 3 ≤ f.upper := by
    unfold Float64.lower Float64.upper
    split_ifs <;> omega
  have hGapMul : f.lower * a + 3 * a ≤ f.upper * a := by
    rw [← Nat.add_mul]
    exact Nat.mul_le_mul_right _ hGap
  unfold kLow kHigh
  split_ifs
  · exact Nat.div_le_div_right (show f.lower * a + b - 1 ≤ f.upper * a by omega)
  · have hq := Nat.div_add_mod (f.lower * a) b
    have hr := Nat.mod_lt (f.lower * a) hb
    have hMul : (f.lower * a / b + 2) * b ≤ f.upper * a + b - 1 := by
      rw [Nat.add_mul, Nat.mul_comm]
      omega
    have := (Nat.le_div_iff_mul_le hb).mpr hMul
    omega

theorem scaleAt_wide (f : Float64) : 2 * (scaleAt f (-343)).2 ≤ 3 * (scaleAt f (-343)).1 := by
  have hBig : 2 * (10 ^ 0 * 2 ^ 1076) ≤ 3 * (1 * 10 ^ 343) := by decide +kernel
  have hPow : 1 * 10 ^ 343 ≤ 2 ^ f.shift * 10 ^ 343 :=
    Nat.mul_le_mul_right _ Nat.one_le_two_pow
  have hLow : (-343 : Int).toNat = 0 := rfl
  have hHigh : (-(-343 : Int)).toNat = 343 := rfl
  unfold scaleAt
  rw [hLow, hHigh]
  exact Nat.le_trans hBig (Nat.mul_le_mul_left 3 hPow)

theorem kLow_le_kHigh_shortestExp (f : Float64) (hMant : 0 < f.mant) :
    kLow f (scaleAt f (shortestExp f)).1 (scaleAt f (shortestExp f)).2 ≤
      kHigh f (scaleAt f (shortestExp f)).1 (scaleAt f (shortestExp f)).2 := by
  rcases searchExp_found f 652 309 with hFound | hEnd
  · exact hFound
  · have hExp : shortestExp f = -343 := by
      unfold shortestExp
      rw [hEnd]
      rfl
    rw [hExp]
    exact kLow_le_kHigh_of_wide f hMant _ _ (scaleAt_pos f _).2 (scaleAt_wide f)

theorem inside_of_kLow_le (f : Float64) {a b k : Nat} (hb : 0 < b) (hLo : kLow f a b ≤ k)
    (hHi : k ≤ kHigh f a b) :
    f.lower * a ≤ k * b ∧ k * b ≤ f.upper * a ∧
      (f.mant % 2 = 1 → f.lower * a < k * b ∧ k * b < f.upper * a) := by
  unfold kLow at hLo
  unfold kHigh at hHi
  split_ifs at hLo hHi with hParity
  · have h1 : f.lower * a + b - 1 < (k + 1) * b := (Nat.div_lt_iff_lt_mul hb).mp (by omega)
    have h2 : k * b ≤ f.upper * a := (Nat.le_div_iff_mul_le hb).mp hHi
    rw [Nat.succ_mul] at h1
    exact ⟨by omega, h2, fun h => by omega⟩
  · have h1 : f.lower * a < k * b := (Nat.div_lt_iff_lt_mul hb).mp (Nat.lt_of_succ_le hLo)
    have hk : 1 ≤ k := Nat.le_trans (Nat.le_add_left 1 _) hLo
    have hSucc : k + 1 ≤ (f.upper * a + b - 1) / b := by
      generalize (f.upper * a + b - 1) / b = q at hHi
      omega
    have h2 : (k + 1) * b ≤ f.upper * a + b - 1 := (Nat.le_div_iff_mul_le hb).mp hSucc
    rw [Nat.succ_mul] at h2
    exact ⟨by omega, by omega, fun _ => ⟨h1, by omega⟩⟩

theorem shortestDigits_inside (f : Float64) (hMant : 0 < f.mant) :
    f.lower * (scaleAt f (shortestExp f)).1 ≤ (shortestDigits f).1 * (scaleAt f (shortestExp f)).2 ∧
      (shortestDigits f).1 * (scaleAt f (shortestExp f)).2 ≤ f.upper * (scaleAt f (shortestExp f)).1 ∧
      (f.mant % 2 = 1 →
        f.lower * (scaleAt f (shortestExp f)).1 < (shortestDigits f).1 * (scaleAt f (shortestExp f)).2 ∧
          (shortestDigits f).1 * (scaleAt f (shortestExp f)).2 < f.upper * (scaleAt f (shortestExp f)).1) := by
  have hRange := kLow_le_kHigh_shortestExp f hMant
  refine inside_of_kLow_le f (scaleAt_pos f _).2 (Nat.le_max_left _ _) ?_
  exact Nat.max_le.mpr ⟨hRange, Nat.min_le_left _ _⟩


/-! ## Reading the text back -/

theorem splitSign_signText (neg : Bool) {c : Char} (hc : c.isDigit) (l : List Char) :
    splitSign (signText neg ++ c :: l) = (neg, c :: l) := by
  have hMinus : c ≠ '-' := by
    rintro rfl
    simp at hc
  cases neg <;> simp [signText, splitSign, hMinus]

theorem takeWhile_dropWhile_isDigit {int rest : List Char} (hInt : ∀ c ∈ int, c.isDigit)
    (hRest : ∀ c ∈ rest.head?, c.isDigit = false) :
    (int ++ rest).takeWhile Char.isDigit = int ∧ (int ++ rest).dropWhile Char.isDigit = rest := by
  rw [List.takeWhile_append_of_pos hInt, List.dropWhile_append_of_pos hInt]
  cases rest with
  | nil => simp
  | cons c t =>
    have hc : c.isDigit = false := hRest c rfl
    simp [List.takeWhile_cons_of_neg, List.dropWhile_cons_of_neg, hc]

theorem readDecimal_shape (neg : Bool) (int frac tail : List Char) (dot : Prop) [Decidable dot]
    (hInt : ∀ c ∈ int, c.isDigit) (hHead : int ≠ []) (hFrac : ∀ c ∈ frac, c.isDigit)
    (hDot : ¬dot → frac = []) (hTail : tail = [] ∨ ∃ t, tail = 'e' :: t) :
    readDecimal (signText neg ++ (int ++ ((if dot then '.' :: frac else []) ++ tail))) =
      ⟨neg, Nat.ofDigitChars 10 (int ++ frac) 0, readExpPart tail - frac.length⟩ := by
  have hTailHead : ∀ c ∈ tail.head?, c.isDigit = false := by
    rcases hTail with rfl | ⟨t, rfl⟩ <;> simp
  obtain ⟨c, int', rfl⟩ := List.exists_cons_of_ne_nil hHead
  have hRest : ∀ c ∈ ((if dot then '.' :: frac else []) ++ tail).head?, c.isDigit = false := by
    split
    · simp
    · simpa using hTailHead
  obtain ⟨hTake, hDrop⟩ := takeWhile_dropWhile_isDigit hInt hRest
  unfold readDecimal
  rw [List.cons_append, splitSign_signText neg (hInt c List.mem_cons_self), ← List.cons_append]
  dsimp only
  rw [hTake, hDrop]
  split
  · obtain ⟨hFracTake, hFracDrop⟩ := takeWhile_dropWhile_isDigit hFrac hTailHead
    simp only [List.cons_append, splitFrac, hFracTake, hFracDrop]
  · obtain rfl := hDot ‹_›
    rcases hTail with rfl | ⟨t, rfl⟩ <;> rfl

theorem fracDigits_eq (d : List Char) (dp : Int) :
    (List.range (d.length - dp).toNat).map (fun i : Nat => digitAt d (dp + (i : Int))) =
      (List.replicate (-dp).toNat '0' ++ d).drop dp.toNat := by
  apply List.ext_getElem
  · simp only [List.length_map, List.length_range, List.length_drop, List.length_append,
      List.length_replicate]
    omega
  · intro i hLeft hRight
    have hLen : i < (d.length - dp).toNat := by simpa using hLeft
    rw [List.getElem_map, List.getElem_range, List.getElem_drop]
    unfold digitAt
    by_cases hLead : dp.toNat + i < (-dp).toNat
    · rw [List.getElem_append_left (by simpa using hLead), List.getElem_replicate, if_neg (by omega)]
    · have hIdx : dp.toNat + i - (List.replicate (-dp).toNat '0').length = (dp + i).toNat := by
        simp only [List.length_replicate]
        omega
      rw [List.getElem_append_right (by simpa using hLead), if_pos (by omega)]
      simp only [hIdx]
      exact (List.getElem_eq_getD '0').symm

theorem ofDigitChars_fmtF (d : List Char) (dp : Int) :
    Nat.ofDigitChars 10 ((if 0 < dp then d.take dp.toNat ++ List.replicate (dp.toNat - d.length) '0'
        else ['0']) ++ (List.replicate (-dp).toNat '0' ++ d).drop dp.toNat) 0 =
      10 ^ (dp - d.length).toNat * Nat.ofDigitChars 10 d 0 := by
  split
  · have hNoLead : (-dp).toNat = 0 := by omega
    rw [hNoLead, List.replicate_zero, List.nil_append]
    by_cases hShort : d.length ≤ dp.toNat
    · rw [List.take_of_length_le hShort, List.drop_of_length_le hShort, List.append_nil,
        Nat.ofDigitChars_append, Nat.ofDigitChars_replicate_zero]
      congr 2
      omega
    · have hNoZeros : dp.toNat - d.length = 0 := by omega
      rw [hNoZeros, List.replicate_zero, List.append_nil, List.take_append_drop]
      have hNoScale : (dp - d.length).toNat = 0 := by omega
      rw [hNoScale, Nat.pow_zero, Nat.one_mul]
  · have hNoDrop : dp.toNat = 0 := by omega
    have hNoScale : (dp - d.length).toNat = 0 := by omega
    rw [hNoDrop, List.drop_zero, hNoScale, Nat.pow_zero, Nat.one_mul, List.singleton_append,
      Nat.ofDigitChars_cons, Nat.ofDigitChars_append, Nat.ofDigitChars_replicate_zero]
    simp

theorem readDecimal_fmtF (neg : Bool) (d : List Char) (dp : Int) (hDigits : ∀ c ∈ d, c.isDigit)
    (hNe : d ≠ []) :
    readDecimal (fmtF neg d dp) =
      ⟨neg, 10 ^ (dp - d.length).toNat * Nat.ofDigitChars 10 d 0, -((d.length - dp).toNat : Int)⟩ := by
  have hFrac := fracDigits_eq d dp
  have hText : fmtF neg d dp = signText neg ++
      ((if 0 < dp then d.take dp.toNat ++ List.replicate (dp.toNat - d.length) '0' else ['0']) ++
        ((if 0 < (d.length - dp).toNat then
          '.' :: (List.replicate (-dp).toNat '0' ++ d).drop dp.toNat else []) ++ [])) := by
    unfold fmtF
    rw [hFrac]
    simp only [List.append_assoc, List.append_nil]
  have hInt : ∀ c ∈ (if 0 < dp then d.take dp.toNat ++ List.replicate (dp.toNat - d.length) '0'
      else ['0']), c.isDigit := by
    intro c hc
    split at hc
    · rcases List.mem_append.mp hc with h | h
      · exact hDigits c (List.mem_of_mem_take h)
      · rw [List.eq_of_mem_replicate h]
        rfl
    · rw [List.mem_singleton.mp hc]
      rfl
  have hHead : (if 0 < dp then d.take dp.toNat ++ List.replicate (dp.toNat - d.length) '0'
      else ['0']) ≠ [] := by
    split
    · simp [List.take_eq_nil_iff, hNe]
      omega
    · simp
  have hFracDigits : ∀ c ∈ (List.replicate (-dp).toNat '0' ++ d).drop dp.toNat, c.isDigit := by
    intro c hc
    rcases List.mem_append.mp (List.mem_of_mem_drop hc) with h | h
    · rw [List.eq_of_mem_replicate h]
      rfl
    · exact hDigits c h
  have hLen : ((List.replicate (-dp).toNat '0' ++ d).drop dp.toNat).length = (d.length - dp).toNat := by
    rw [← hFrac, List.length_map, List.length_range]
  have hDot : ¬0 < (d.length - dp).toNat → (List.replicate (-dp).toNat '0' ++ d).drop dp.toNat = [] :=
    fun h => List.eq_nil_of_length_eq_zero (by omega)
  rw [hText, readDecimal_shape neg _ _ [] _ hInt hHead hFracDigits hDot (Or.inl rfl),
    ofDigitChars_fmtF, hLen]
  simp [readExpPart]

theorem readExp_sign (x : Int) (ds : List Char) :
    readExp ((if x < 0 then '-' else '+') :: ds) =
      if x < 0 then -(Nat.ofDigitChars 10 ds 0 : Int) else Nat.ofDigitChars 10 ds 0 := by
  split <;> rfl

theorem readExp_cleaned (x : Int) (hx : x.natAbs < 1000) :
    readExp (if x < 0 ∧ x.natAbs < 10 then ['-', Nat.digitChar x.natAbs] else expText x) = x := by
  have hAbs : (x.natAbs : Int) = if x < 0 then -x else x := by
    split
    · exact Int.ofNat_natAbs_of_nonpos (by omega)
    · exact Int.natAbs_of_nonneg (by omega)
  by_cases hSmall : x.natAbs < 10
  · by_cases hNeg : x < 0
    · simp only [hNeg, hSmall, and_self, if_true, readExp, Nat.ofDigitChars_cons_digitChar_of_lt_ten hSmall,
        Nat.ofDigitChars_nil]
      rw [if_pos hNeg] at hAbs
      omega
    · simp only [hNeg, false_and, if_false, expText, hSmall, if_true, readExp,
        Nat.ofDigitChars_cons, Nat.ofDigitChars_cons_digitChar_of_lt_ten hSmall, Nat.ofDigitChars_nil]
      rw [if_neg hNeg] at hAbs
      simp
      omega
  · have hDigits : Nat.ofDigitChars 10 (if x.natAbs < 100 then
        [Nat.digitChar (x.natAbs / 10), Nat.digitChar (x.natAbs % 10)]
      else [Nat.digitChar (x.natAbs / 100), Nat.digitChar (x.natAbs / 10 % 10),
        Nat.digitChar (x.natAbs % 10)]) 0 = x.natAbs := by
      split
      · rw [Nat.ofDigitChars_cons_digitChar_of_lt_ten (by omega),
          Nat.ofDigitChars_cons_digitChar_of_lt_ten (Nat.mod_lt _ (by decide)), Nat.ofDigitChars_nil]
        omega
      · rw [Nat.ofDigitChars_cons_digitChar_of_lt_ten (by omega),
          Nat.ofDigitChars_cons_digitChar_of_lt_ten (Nat.mod_lt _ (by decide)),
          Nat.ofDigitChars_cons_digitChar_of_lt_ten (Nat.mod_lt _ (by decide)), Nat.ofDigitChars_nil]
        omega
    simp only [hSmall, and_false, if_false, expText]
    rw [readExp_sign, hDigits]
    split <;> split at hAbs <;> omega

theorem readDecimal_fmtE (neg : Bool) (c : Char) (rest : List Char) (dp : Int)
    (hDigits : ∀ c' ∈ c :: rest, c'.isDigit) (hExp : (dp - 1).natAbs < 1000) :
    readDecimal (GoJson.cleanExp (fmtE neg (c :: rest) dp)) =
      ⟨neg, Nat.ofDigitChars 10 (c :: rest) 0, dp - 1 - rest.length⟩ := by
  have hText : GoJson.cleanExp (fmtE neg (c :: rest) dp) = signText neg ++ ([c] ++
      ((if 1 < (c :: rest).length then '.' :: rest else []) ++
        'e' :: if dp - 1 < 0 ∧ (dp - 1).natAbs < 10 then ['-', Nat.digitChar (dp - 1).natAbs]
          else expText (dp - 1))) := by
    unfold fmtE
    simp only [List.headD_cons, reduceCtorEq, if_false, List.drop_one, List.tail_cons]
    rw [← List.cons_append, ← List.append_assoc, GoJson.cleanExp_expText]
    simp only [List.append_assoc, List.cons_append, List.nil_append]
  have hDot : ¬1 < (c :: rest).length → rest = [] := fun h =>
    List.eq_nil_of_length_eq_zero (by rw [List.length_cons] at h; omega)
  rw [hText, readDecimal_shape neg [c] rest _ _ (by simpa using hDigits c List.mem_cons_self)
    (List.cons_ne_nil _ _) (fun c' hc' => hDigits c' (List.mem_cons_of_mem _ hc')) hDot
    (Or.inr ⟨_, rfl⟩)]
  simp only [readExpPart, if_true, true_or, readExp_cleaned (dp - 1) hExp,
    List.singleton_append]

/-! ## The round trip -/

theorem two_pow_1076 : (2 : Nat) ^ 1076 = 4 * 2 ^ 1074 := by
  rw [Nat.pow_succ, Nat.pow_succ, Nat.mul_assoc, Nat.mul_comm]

theorem parseFloat_of_readDecimal {s : List Char} (f : Float64) (hMant : 0 < f.mant) (digits : Nat)
    (exp : Int) (hRead : readDecimal s = ⟨f.neg, digits, exp⟩)
    (hDigits : digits * 10 ^ exp.toNat = (shortestDigits f).1 * 10 ^ (shortestDigits f).2.toNat)
    (hExp : (-exp).toNat = (-(shortestDigits f).2).toNat) :
    parseFloat s = some f := by
  obtain ⟨hLo, hHi, hOdd⟩ := shortestDigits_inside f hMant
  have hPos := shortestDigits_pos f hMant
  have hj : (shortestDigits f).2 = shortestExp f := rfl
  rw [hj] at hDigits hExp
  have ha : (scaleAt f (shortestExp f)).1 = 10 ^ (-exp).toNat * 2 ^ f.shift := by
    unfold scaleAt
    rw [hExp, Nat.mul_comm]
  have hb : (shortestDigits f).1 * (scaleAt f (shortestExp f)).2 =
      4 * (digits * 10 ^ exp.toNat * 2 ^ 1074) := by
    unfold scaleAt
    calc (shortestDigits f).1 * (10 ^ (shortestExp f).toNat * 2 ^ 1076)
        = (shortestDigits f).1 * 10 ^ (shortestExp f).toNat * 2 ^ 1076 := (Nat.mul_assoc _ _ _).symm
      _ = digits * 10 ^ exp.toNat * (4 * 2 ^ 1074) := by rw [hDigits, two_pow_1076]
      _ = 4 * (digits * 10 ^ exp.toNat * 2 ^ 1074) := Nat.mul_left_comm _ _ _
  have hNonzero : digits ≠ 0 := by
    rintro rfl
    rw [Nat.zero_mul] at hDigits
    exact absurd hDigits.symm (Nat.ne_of_gt (Nat.mul_pos hPos (Nat.pow_pos (by decide))))
  unfold parseFloat
  rw [hRead]
  dsimp only
  rw [if_neg hNonzero]
  rw [ha, hb] at hLo hHi hOdd
  rw [ofUnits_of_inside f.neg f _ _ (Nat.pow_pos (by decide)) hLo hHi hOdd]

theorem Float64.eq_zero_of_mant (f : Float64) (h : f.mant = 0) : f = Float64.zero f.neg := by
  obtain ⟨neg, mant, shift, hValid⟩ := f
  dsimp only at h
  have hShift : shift = 0 := by
    by_contra hNe
    have := hValid.2.2 (by omega)
    omega
  subst h hShift
  rfl

theorem parseFloat_zero_text (neg : Bool) : parseFloat (fmtF neg [] 0) = some (Float64.zero neg) := by
  cases neg <;> rfl

theorem decimalSlice_of_pos (f : Float64) (hMant : 0 < f.mant) :
    decimalSlice f = (Nat.toDigits 10 (shortestDigits f).1,
      (Nat.toDigits 10 (shortestDigits f).1).length + (shortestDigits f).2) := by
  unfold decimalSlice
  rw [if_neg (by omega)]

theorem parseFloat_floatEncoder (f : Float64) : parseFloat (GoJson.floatEncoder f) = some f := by
  by_cases hZero : f.mant = 0
  · have hUnits : f.units = 0 := by simp [Float64.units, hZero]
    have hSlice : decimalSlice f = ([], 0) := by
      unfold decimalSlice
      rw [if_pos hZero]
    unfold GoJson.floatEncoder
    rw [if_neg (fun h => h.1 hUnits), hSlice, parseFloat_zero_text, ← f.eq_zero_of_mant hZero]
  have hMant : 0 < f.mant := Nat.pos_of_ne_zero hZero
  have hDigits := decimalSlice_isDigit f
  have hExp := decimalSlice_exp_lt f hZero
  have hValue := Nat.ofDigitChars_ten_toDigits (n := (shortestDigits f).1)
  obtain ⟨c, rest, hd, -⟩ := toDigits_head_ne_zero _ (shortestDigits_pos f hMant)
  rw [decimalSlice_of_pos f hMant] at hDigits hExp
  unfold GoJson.floatEncoder
  rw [decimalSlice_of_pos f hMant]
  dsimp only at hDigits hExp ⊢
  split
  · rw [hd] at hDigits hExp hValue ⊢
    have hE : (((c :: rest).length : Int) + (shortestDigits f).2) - 1 - rest.length =
        (shortestDigits f).2 := by
      rw [List.length_cons]
      omega
    refine parseFloat_of_readDecimal f hMant (shortestDigits f).1 (shortestDigits f).2 ?_ rfl rfl
    rw [readDecimal_fmtE f.neg c rest _ hDigits hExp, hE, hValue]
  · have hNe : Nat.toDigits 10 (shortestDigits f).1 ≠ [] := by
      rw [hd]
      exact List.cons_ne_nil _ _
    refine parseFloat_of_readDecimal f hMant (10 ^ (shortestDigits f).2.toNat * (shortestDigits f).1)
      (-((-(shortestDigits f).2).toNat : Int)) ?_ ?_ ?_
    · rw [readDecimal_fmtF f.neg _ _ hDigits hNe, hValue]
      congr 3 <;> omega
    · have hNoScale : (-((-(shortestDigits f).2).toNat : Int)).toNat = 0 := by omega
      rw [hNoScale, Nat.pow_zero, Nat.mul_one, Nat.mul_comm]
    · omega

end Strconv
