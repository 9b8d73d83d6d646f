import FaceAnnotator.Proofs.Numeric.Representable
/-!
# FaceAnnotator.Proofs.Numeric.Rounding

**Where rounding goes to.**

* Greater quotients are rounded to greater words (`Format.roundMagnitude_mono`). So rounding never
  passes a number that has a word (`Binary.round_le`, `Binary.le_round`).
* All quotients in the interval around a positive word are rounded to this word
  (`Binary.round_of_contains`). That is what the interval is for: any decimal in it stands
  for the word.

Both follow from what rounding does at the last place of a quotient, where it picks the
nearest whole number.
-/

namespace FaceAnnotator.Numeric

/-! ### The nearest whole number -/

/-- A whole number within one half of a number; at exactly one half it has to be even. -/
structure IsNearest (q : ℚ) (n : Nat) : Prop where
  low : (n : ℚ) - 1 / 2 ≤ q
  high : q ≤ n + 1 / 2
  even : n % 2 = 0 ∨ (n : ℚ) - 1 / 2 < q ∧ q < n + 1 / 2

namespace IsNearest

variable {p q : ℚ} {m n : Nat}

theorem mono (hp : IsNearest p m) (hq : IsNearest q n) (h : p ≤ q) : m ≤ n := by
  by_contra less
  have next : (n : ℚ) + 1 ≤ m := by exact_mod_cast not_le.1 less
  -- The two numbers can only be on the tie between two neighbours, and then both neighbours
  -- are even.
  have := hp.low
  have := hq.high
  have same : m = n + 1 := by
    have eq : (m : ℚ) = n + 1 := by linarith
    exact_mod_cast eq
  have even_m := hp.even.resolve_right fun strict => by linarith [strict.1]
  have even_n := hq.even.resolve_right fun strict => by linarith [strict.2]
  omega

theorem unique (h : IsNearest q m) (h' : IsNearest q n) : m = n :=
  Nat.le_antisymm (h.mono h' le_rfl) (h'.mono h le_rfl)

theorem natCast (n : Nat) : IsNearest n n :=
  ⟨by linarith, by linarith, .inr ⟨by linarith, by linarith⟩⟩

theorem le (h : IsNearest q n) (le : (m : ℚ) ≤ q) : m ≤ n := (natCast m).mono h le
theorem ge (h : IsNearest q n) (le : q ≤ m) : n ≤ m := h.mono (natCast m) le

end IsNearest

theorem isNearest_nearestQuotient {num den : Nat} (pos : 0 < den) :
    IsNearest (num / den) (nearestQuotient num den) := by
  have below : (0 : ℚ) < den := Nat.cast_pos.2 pos
  have value : (num : ℚ) / den = (num / den : Nat) + (num % den : Nat) / den := by
    rw [div_eq_iff (ne_of_gt below), add_mul, div_mul_cancel₀ _ (ne_of_gt below)]
    exact_mod_cast (Nat.div_add_mod' num den).symm
  have less : ((num % den : Nat) : ℚ) / den < 1 :=
    (div_lt_one below).2 (Nat.cast_lt.2 (Nat.mod_lt num pos))
  have nonneg : (0 : ℚ) ≤ (num % den : Nat) / den := by positivity
  unfold nearestQuotient
  dsimp only
  rw [value]
  generalize num / den = whole
  generalize num % den = rest at less nonneg ⊢
  split
  · rename_i down
    have half : (rest : ℚ) / den < 1 / 2 := by
      rw [div_lt_div_iff₀ below (by norm_num)]
      exact_mod_cast (by omega : rest * 2 < 1 * den)
    exact ⟨by linarith, by linarith, .inr ⟨by linarith, by linarith⟩⟩
  split
  · rename_i up
    have half : (1 : ℚ) / 2 < rest / den := by
      rw [div_lt_div_iff₀ (by norm_num) below]
      exact_mod_cast (by omega : 1 * den < rest * 2)
    have next : ((whole + 1 : Nat) : ℚ) = whole + 1 := Nat.cast_succ whole
    exact ⟨by linarith, by linarith, .inr ⟨by linarith, by linarith⟩⟩
  · have half : (rest : ℚ) / den = 1 / 2 := by
      rw [div_eq_div_iff (ne_of_gt below) (by norm_num)]
      exact_mod_cast (by omega : rest * 2 = 1 * den)
    rcases Nat.mod_two_eq_zero_or_one whole with even | odd
    · rw [even, Nat.add_zero]
      exact ⟨by linarith, by linarith, .inl even⟩
    · have next : ((whole + 1 : Nat) : ℚ) = whole + 1 := Nat.cast_succ whole
      rw [odd]
      exact ⟨by linarith, by linarith, .inl (by omega)⟩

namespace Format

variable {f : Format}

/-! ### Rounding at the last place -/

/-- What rounding does: it takes the nearest significand at the last place. -/
structure Rounds (f : Format) (q : ℚ) (shift significand : Nat) : Prop where
  last : f.IsLastPlace q (f.lowest + shift)
  nearest : IsNearest (q / 2 ^ (f.lowest + shift)) significand

theorem exists_rounds {num den : Nat} (some : num ≠ 0) (pos : 0 < den) :
    ∃ shift significand, f.Rounds (num / den) shift significand ∧
      f.roundMagnitude num den = min f.infinity (shift * f.hidden + significand) := by
  have last := isLastPlace_lastPlace (f := f) some pos
  obtain ⟨shift, eq⟩ := Int.le.dest last.lowest_le
  have nearest := @isNearest_nearestQuotient (num * power 2 (-(f.lowest + shift))) _
    (Nat.mul_pos pos (power_pos Nat.two_pos (f.lowest + shift)))
  rw [shifted_quotient] at nearest
  refine ⟨shift, _, ⟨eq ▸ last, nearest⟩, ?_⟩
  rw [roundMagnitude, if_neg some]
  dsimp only
  rw [← eq, add_sub_cancel_left, Int.toNat_natCast]

/-- The weight of a full significand. -/
theorem Proper.two_zpow (proper : f.Proper) (place : Int) :
    (2 : ℚ) ^ (place + f.precision) = (2 * f.hidden : Nat) * 2 ^ place ∧
      (2 : ℚ) ^ (place + f.precision - 1) = f.hidden * 2 ^ place := by
  have some := proper.precision_pos
  rw [← proper.two_pow_precision, hidden, Nat.pow_eq, Nat.cast_pow, Nat.cast_pow,
    Nat.cast_two, ← zpow_natCast, ← zpow_natCast, ← zpow_add₀ (by norm_num),
    ← zpow_add₀ (by norm_num)]
  exact ⟨by congr 1; omega, by congr 1; omega⟩

namespace Rounds

variable {p q : ℚ} {shift shift' significand significand' : Nat}

theorem le (h : f.Rounds q shift significand) {n : Nat}
    (le : (n : ℚ) * 2 ^ (f.lowest + shift) ≤ q) :
    n ≤ significand :=
  h.nearest.le ((le_div_iff₀ (zpow_pos (by norm_num) _)).2 le)

theorem ge (h : f.Rounds q shift significand) {n : Nat} (le : q ≤ n * 2 ^ (f.lowest + shift)) :
    significand ≤ n :=
  h.nearest.ge ((div_le_iff₀ (zpow_pos (by norm_num) _)).2 le)

theorem size (h : f.Rounds q shift significand) (proper : f.Proper) :
    (shift = 0 ∨ f.hidden ≤ significand) ∧ significand ≤ 2 * f.hidden := by
  obtain ⟨above, below⟩ := proper.two_zpow (f.lowest + shift)
  constructor
  · exact h.last.full.imp (fun eq => by omega) fun full => h.le (below ▸ full)
  · exact h.ge (above ▸ h.last.lt.le)

/-- The last place of a greater number is not finer. -/
theorem shift_le (hp : f.Rounds p shift significand) (hq : f.Rounds q shift' significand')
    (h : p ≤ q) :
    shift ≤ shift' := by
  rcases hp.last.full with eq | full
  · omega
  · have less := (full.trans h).trans_lt hq.last.lt
    have := (zpow_lt_zpow_iff_right₀ (by norm_num : (1 : ℚ) < 2)).1 less
    omega

theorem mono (hp : f.Rounds p shift significand) (hq : f.Rounds q shift' significand')
    (proper : f.Proper) (h : p ≤ q) :
    shift * f.hidden + significand ≤ shift' * f.hidden + significand' := by
  rcases Nat.lt_or_eq_of_le (hp.shift_le hq h) with less | rfl
  · have full := (hq.size proper).1.resolve_left (by omega)
    have := (hp.size proper).2
    have := Nat.mul_le_mul_right f.hidden less
    rw [Nat.succ_mul] at this
    omega
  · have := hp.nearest.mono hq.nearest (div_le_div_of_nonneg_right h (zpow_pos (by norm_num) _).le)
    omega

end Rounds

/-- **Greater quotients are rounded to greater words.** -/
theorem roundMagnitude_mono (proper : f.Proper) {num den num' den' : Nat} (pos : 0 < den)
    (pos' : 0 < den')
    (h : (num : ℚ) / den ≤ num' / den') :
    f.roundMagnitude num den ≤ f.roundMagnitude num' den' := by
  by_cases zero : num = 0
  · simp [roundMagnitude, zero]
  have some : num' ≠ 0 := by
    rintro rfl
    have above : (0 : ℚ) < num / den :=
      div_pos (Nat.cast_pos.2 (Nat.pos_of_ne_zero zero)) (Nat.cast_pos.2 pos)
    rw [Nat.cast_zero, zero_div] at h
    exact absurd h (not_le.2 above)
  obtain ⟨shift, significand, rounds, eq⟩ := exists_rounds (f := f) zero pos
  obtain ⟨shift', significand', rounds', eq'⟩ := exists_rounds (f := f) some pos'
  rw [eq, eq']
  exact min_le_min_left _ (rounds.mono rounds' proper h)

theorem Representable.exists_quotient {r : ℚ} (h : f.Representable r) :
    ∃ num den : Nat, 0 < den ∧ r = num / den := by
  obtain ⟨significand, exponent, -, -, -, rfl⟩ := h
  refine ⟨significand * power 2 exponent, power 2 (-exponent), power_pos (by decide) _, ?_⟩
  rw [Nat.cast_mul, mul_div_assoc, power_div_power]

end Format

namespace Binary

variable {f : Format} {num den : Nat}

theorem roundMagnitude_lt (proper : f.Proper) (num den : Nat) :
    f.roundMagnitude num den < f.signWeight := by
  refine lt_of_le_of_lt ?_ proper.infinity_lt
  unfold Format.roundMagnitude
  split
  · exact Nat.zero_le _
  · exact Nat.min_le_left _ _

theorem magnitude_round_eq (proper : f.Proper) (negative : Bool) :
    (round negative num den : Binary f).magnitude = f.roundMagnitude num den :=
  magnitude_ofMagnitude_of_lt proper (roundMagnitude_lt proper num den)

theorem negative_round (proper : f.Proper) (negative : Bool) :
    (round negative num den : Binary f).negative = negative :=
  negative_ofMagnitude proper (roundMagnitude_lt proper num den)

theorem neg_round (proper : f.Proper) (negative : Bool) :
    (round negative num den : Binary f).neg = round (!negative) num den := by
  rw [neg, negative_round proper, magnitude_round_eq proper, round]

theorem isFinite_round (proper : f.Proper) (negative : Bool) :
    (round negative num den : Binary f).isFinite = true ↔
      f.roundMagnitude num den < f.infinity := by
  rw [isFinite, decide_eq_true_iff, magnitude_round_eq proper]

theorem abs_exact_round (proper : f.Proper) {negative : Bool}
    (h : (round negative num den : Binary f).isFinite = true) :
    |(round negative num den : Binary f).exact| =
      f.units (f.roundMagnitude num den) * 2 ^ f.lowest := by
  obtain ⟨significand, exponent, is⟩ := exists_significand proper h
  rw [abs_exact is, is.units, magnitude_round_eq proper]

/-! ### Numbers that have words -/

/-- A number that has a word bounds the words of all smaller ones. -/
theorem round_le (proper : f.Proper) (negative : Bool) (pos : 0 < den) {r : ℚ}
    (h : f.Representable r) (le : (num : ℚ) / den ≤ r) :
    (round negative num den : Binary f).isFinite = true ∧
      |(round negative num den : Binary f).exact| ≤ r := by
  obtain ⟨num', den', pos', rfl⟩ := h.exists_quotient
  obtain ⟨less, eq⟩ := Format.roundMagnitude_of_representable proper pos' h
  have mono := Format.roundMagnitude_mono proper pos pos' le
  have finite := (isFinite_round proper negative).2 (mono.trans_lt less)
  refine ⟨finite, ?_⟩
  rw [abs_exact_round proper finite, ← eq]
  gcongr
  exact f.units_strictMono.monotone mono

/-- A number that has a word bounds the words of all greater ones. -/
theorem le_round (proper : f.Proper) {negative : Bool} (pos : 0 < den) {r : ℚ}
    (h : f.Representable r) (le : r ≤ num / den)
    (finite : (round negative num den : Binary f).isFinite = true) :
    r ≤ |(round negative num den : Binary f).exact| := by
  obtain ⟨num', den', pos', rfl⟩ := h.exists_quotient
  obtain ⟨-, eq⟩ := Format.roundMagnitude_of_representable proper pos' h
  have mono := Format.roundMagnitude_mono proper pos' pos le
  rw [abs_exact_round proper finite, ← eq]
  gcongr
  exact f.units_strictMono.monotone mono

/-! ### One rounding -/

/-- The word of a whole number that fits into a significand. -/
theorem exact_ofNat (proper : f.Proper) {n : Nat} (h : n < 2 ^ f.precision) :
    (ofNat n : Binary f).isFinite = true ∧ (ofNat n : Binary f).exact = n ∧
      (ofNat n : Binary f).negative = false := by
  have whole : (n : ℚ) = n / (1 : Nat) := by rw [Nat.cast_one, div_one]
  obtain ⟨finite, eq⟩ := exact_round proper false Nat.one_pos
    (whole ▸ proper.representable_natCast h)
  exact ⟨finite, by rw [ofNat, eq, ← whole]; simp, negative_round proper false⟩

/-- The quotient of two numbers is rounded once. -/
theorem div_eq_round (proper : f.Proper) {x y : Binary f} (hx : x.isFinite = true)
    (hy : y.isFinite = true) (nonzero : y.exact ≠ 0) :
    ∃ num den : Nat, 0 < den ∧ (num : ℚ) / den = |x.exact| / |y.exact| ∧
      x.div y = round (x.negative != y.negative) num den := by
  obtain ⟨m, p, is_x⟩ := exists_significand proper hx
  obtain ⟨n, q, is_y⟩ := exists_significand proper hy
  have some : n ≠ 0 := by
    rintro rfl
    rw [← abs_ne_zero, abs_exact is_y, Nat.cast_zero, zero_mul] at nonzero
    exact nonzero rfl
  refine ⟨m * power 2 (p - q), n * power 2 (q - p),
    Nat.mul_pos (Nat.pos_of_ne_zero some) (power_pos (by decide) _), ?_, ?_⟩
  · rw [abs_exact is_x, abs_exact is_y, Nat.cast_mul, Nat.cast_mul,
      mul_div_mul_comm, ← Int.neg_sub p q, power_div_power, mul_div_mul_comm,
      zpow_sub₀ (by norm_num)]
  · rw [div, is_x.value, is_y.value]
    exact if_neg some

end Binary

/-! ### The interval of a word -/

namespace Interval

/-- The numbers in an interval. -/
def Contains (i : Interval) (q : ℚ) : Prop :=
  if i.closed then i.low ≤ q / 2 ^ i.unit ∧ q / 2 ^ i.unit ≤ i.high
  else i.low < q / 2 ^ i.unit ∧ q / 2 ^ i.unit < i.high

variable {f : Format} {significand : Nat} {exponent : Int} {q : ℚ}

theorem Contains.bounds {i : Interval} (h : i.Contains q) :
    (i.low : ℚ) ≤ q / 2 ^ i.unit ∧ q / 2 ^ i.unit ≤ i.high := by
  unfold Contains at h
  split at h
  · exact h
  · exact ⟨h.1.le, h.2.le⟩

theorem low_around (f : Format) (significand : Nat) (exponent : Int) :
    4 * significand ≤ (around f significand exponent).low + 2 := by
  dsimp only [around]
  split <;> omega

/-- A number of the interval is nearest to the significand of the word, at the place of the word. -/
theorem Contains.isNearest (h : (around f significand exponent).Contains q) :
    IsNearest (q / 2 ^ exponent) significand := by
  have quarters : q / 2 ^ exponent = q / 2 ^ (exponent - 2) / 4 := by
    rw [zpow_sub₀ (by norm_num)]
    norm_num
    field_simp
  have low : (4 * significand : ℚ) ≤ (around f significand exponent).low + 2 := by
    exact_mod_cast low_around f significand exponent
  have high : ((around f significand exponent).high : ℚ) = 4 * significand + 2 := by
    exact_mod_cast (rfl : (around f significand exponent).high = 4 * significand + 2)
  have unit : (around f significand exponent).unit = exponent - 2 := rfl
  obtain ⟨below, above⟩ := h.bounds
  rw [unit] at below above
  rw [quarters]
  refine ⟨by linarith, by linarith, ?_⟩
  by_cases even : significand % 2 = 0
  · exact .inl even
  · have strict : (around f significand exponent).low < q / 2 ^ (exponent - 2) ∧
        q / 2 ^ (exponent - 2) < (around f significand exponent).high := by
      simpa [Contains, around, even] using h
    exact .inr ⟨by linarith, by linarith⟩

end Interval

/-- The significand of a word at its exponent. -/
structure Format.IsPlaced (f : Format) (significand : Nat) (exponent : Int) : Prop where
  lt : significand < 2 * f.hidden
  lowest_le : f.lowest ≤ exponent
  le_highest : exponent ≤ f.highest
  full : exponent = f.lowest ∨ f.hidden ≤ significand

namespace Format.IsPlaced

variable {f : Format} {significand : Nat} {exponent : Int} {q : ℚ}

/-- Below a power of two the interval is only half as wide, so rounding at the finer place there
comes to the power. -/
theorem isNearest_hidden (h : (Interval.around f f.hidden exponent).Contains q)
    (above : f.lowest < exponent) (less : q / 2 ^ exponent < f.hidden) :
    IsNearest (q / 2 ^ (exponent - 1)) (2 * f.hidden) := by
  have double : q / 2 ^ (exponent - 1) = q / 2 ^ exponent * 2 := by
    rw [zpow_sub_one₀ (by norm_num)]
    field_simp
  have quarter : q / 2 ^ (exponent - 2) = q / 2 ^ exponent * 4 := by
    rw [zpow_sub₀ (by norm_num)]
    norm_num
    field_simp
  have low : (4 * f.hidden : ℚ) = (Interval.around f f.hidden exponent).low + 1 := by
    have some := f.hidden_pos
    have eq : 4 * f.hidden = (Interval.around f f.hidden exponent).low + 1 := by
      dsimp only [Interval.around]
      rw [if_pos ⟨rfl, above⟩]
      omega
    exact_mod_cast eq
  have below : ((Interval.around f f.hidden exponent).low : ℚ) ≤ q / 2 ^ (exponent - 2) :=
    h.bounds.1
  rw [quarter] at below
  rw [double]
  exact ⟨by push_cast; linarith, by push_cast; linarith, .inl (Nat.mul_mod_right 2 _)⟩

/-- A number of the interval is rounded at the place of the word, or just below that of a
power of two. -/
theorem rounds (is : f.IsPlaced significand exponent)
    (h : (Interval.around f significand exponent).Contains q)
    (proper : f.Proper) {shift rounded : Nat} (rounds : f.Rounds q shift rounded) :
    f.lowest + shift = exponent ∧ rounded = significand ∨
      f.lowest + shift + 1 = exponent ∧ significand = f.hidden ∧ rounded = 2 * f.hidden := by
  have near := h.isNearest
  have one : (0 : ℚ) < 2 ^ exponent := zpow_pos (by norm_num) _
  have some : (1 : ℚ) ≤ f.hidden := by exact_mod_cast f.hidden_pos
  obtain ⟨above, below⟩ := proper.two_zpow exponent
  rcases lt_trichotomy (f.lowest + shift) exponent with finer | same | coarser
  · -- The number is less than a full significand at the place of the word, so the word is the
    -- least one there.
    have less : q / 2 ^ exponent < f.hidden := by
      rw [div_lt_iff₀ one, ← below]
      exact rounds.last.lt.trans_le (zpow_le_zpow_right₀ (by norm_num) (by omega))
    have least : significand = f.hidden := by
      have lt : (significand : ℚ) < f.hidden + 1 := by linarith [near.low]
      have := is.full.resolve_left (by omega)
      have : significand < f.hidden + 1 := by exact_mod_cast lt
      omega
    subst least
    have next := isNearest_hidden h (by omega) less
    have place : f.lowest + shift = exponent - 1 := by
      by_contra finest
      have lower : q / 2 ^ (exponent - 1) < f.hidden := by
        rw [div_lt_iff₀ (zpow_pos (by norm_num) _), ← (proper.two_zpow (exponent - 1)).2]
        exact rounds.last.lt.trans_le (zpow_le_zpow_right₀ (by norm_num) (by omega))
      have low := next.low
      push_cast at low
      linarith
    exact .inr ⟨by omega, rfl, (place ▸ rounds.nearest).unique next⟩
  · exact .inl ⟨same, (same ▸ rounds.nearest).unique near⟩
  · -- At a coarser place the number would have to be beyond the significands of the word's place.
    exfalso
    have small : (significand : ℚ) + 1 ≤ 2 * f.hidden := by exact_mod_cast is.lt
    have full := rounds.last.full.resolve_left (by have := is.lowest_le; omega)
    have beyond : (2 * f.hidden : Nat) ≤ q / 2 ^ exponent := by
      rw [le_div_iff₀ one, ← above]
      exact full.trans' (zpow_le_zpow_right₀ (by norm_num) (by omega))
    push_cast at beyond
    linarith [near.high]

/-- **All quotients in the interval of a word are rounded to its magnitude.** -/
theorem roundMagnitude_of_contains (is : f.IsPlaced significand exponent) (proper : f.Proper)
    (some : 0 < significand) {num den : Nat} (pos : 0 < den)
    (h : (Interval.around f significand exponent).Contains (num / den)) :
    f.roundMagnitude num den = (exponent - f.lowest).toNat * f.hidden + significand := by
  have nonzero : num ≠ 0 := by
    rintro rfl
    have low := h.isNearest.low
    have one : (1 : ℚ) ≤ significand := by exact_mod_cast some
    rw [Nat.cast_zero, zero_div, zero_div] at low
    linarith
  obtain ⟨shift, rounded, rounds, eq⟩ := exists_rounds (f := f) nonzero pos
  obtain ⟨lift, place⟩ := Int.le.dest is.lowest_le
  have finite := proper.placed_lt (place ▸ is.le_highest) is.lt
  have same : shift * f.hidden + rounded = lift * f.hidden + significand := by
    rcases is.rounds h proper rounds with ⟨here, rfl⟩ | ⟨below, rfl, rfl⟩
    · obtain rfl : shift = lift := by omega
      rfl
    · obtain rfl : shift + 1 = lift := by omega
      ring
  rw [eq, same, Nat.min_eq_right finite.le, ← place, add_sub_cancel_left, Int.toNat_natCast]

end Format.IsPlaced

namespace Binary

variable {f : Format} {x : Binary f} {negative : Bool} {significand : Nat} {exponent : Int}

/-- A word is its sign and its magnitude. -/
theorem ofMagnitude_magnitude (x : Binary f) (proper : f.Proper) :
    ofMagnitude x.negative x.magnitude = x := by
  have less := x.bits.isLt
  rw [proper.two_pow_width] at less
  have bits : (if x.negative then f.signWeight + x.magnitude else x.magnitude) = x.bits.toNat := by
    unfold Binary.negative magnitude
    simp only [decide_eq_true_eq]
    split
    · rename_i sign
      rw [Nat.mod_eq_sub_mod sign, Nat.mod_eq_of_lt (by omega), Nat.add_sub_cancel' sign]
    · exact Nat.mod_eq_of_lt (by omega)
  rw [ofMagnitude, bits, BitVec.ofNat_toNat, BitVec.setWidth_eq]

/-- The sign and the magnitude of a finite word, given what it stands for. -/
theorem isPlaced_of_value (proper : f.Proper)
    (h : x.value = .finite negative significand exponent) :
    f.IsPlaced significand exponent ∧ x.negative = negative ∧
      x.magnitude = (exponent - f.lowest).toNat * f.hidden + significand := by
  have rest := Nat.mod_lt x.magnitude f.hidden_pos
  have finite : x.isFinite = true := by
    rcases x.kinds with ⟨-, eq⟩ | ⟨-, -, eq⟩ | ⟨-, finite⟩
    · rw [eq] at h
      cases h
    · rw [eq] at h
      cases h
    · exact finite
  obtain ⟨m, e, is⟩ := exists_significand proper finite
  have high := is.le_highest
  have low := is.lowest_le
  obtain ⟨rfl, rfl, rfl⟩ : x.negative = negative ∧ m = significand ∧ e = exponent := by
    simpa [is.value] using h
  have value := is.value
  unfold Binary.value at value
  dsimp only at value
  split at value
  · cases value
  split at value
  · cases value
  split at value
  · rename_i subnormal
    simp only [Value.finite.injEq, true_and] at value
    obtain ⟨rfl, rfl⟩ := value
    refine ⟨⟨by omega, low, high, .inl rfl⟩, rfl, ?_⟩
    simp
  · rename_i normal
    simp only [Value.finite.injEq, true_and] at value
    obtain ⟨rfl, rfl⟩ := value
    refine ⟨⟨by omega, low, high, .inr (by omega)⟩, rfl, ?_⟩
    have one : 1 ≤ x.magnitude / f.hidden :=
      (Nat.one_le_div_iff f.hidden_pos).2 (Nat.not_lt.1 normal)
    have all := Nat.div_add_mod' x.magnitude f.hidden
    obtain ⟨lift, eq⟩ := Nat.exists_eq_add_of_le' one
    rw [eq, Nat.succ_mul] at all
    rw [add_sub_cancel_left, Int.toNat_natCast, eq, Nat.add_sub_cancel]
    omega

/-- **All quotients in the interval of a word are rounded to the word.** -/
theorem round_of_contains (proper : f.Proper) (h : x.value = .finite negative significand exponent)
    (some : 0 < significand) {num den : Nat} (pos : 0 < den)
    (inside : (Interval.around f significand exponent).Contains (num / den)) :
    round negative num den = x := by
  obtain ⟨is, rfl, magnitude⟩ := isPlaced_of_value proper h
  rw [round, is.roundMagnitude_of_contains proper some pos inside, ← magnitude,
    x.ofMagnitude_magnitude proper]

end Binary

end FaceAnnotator.Numeric
