/-
How far growth by a factor is from the exact product.  A span is rounded three times on its way to seconds,
the product once, and the way back to nanoseconds once more.  For a factor of at least one all this moves
the exact product by at most one part in 2 ^ 50 and half a nanosecond, and growth comes out exactly if
the product of the factor and the seconds lies more than half a unit below 2 ^ 64.
-/
import TaskTail.Number.Duration
import TaskTail.Proofs.Number.Rounding

namespace TaskTail

open Number

theorem Number.Rounded.abs_sub_le_of_le {q v : ℚ} (hv : Rounded q v) (hq : q = 0 ∨ 1 / 2 ^ 31 ≤ q) :
    |v - q| ≤ q / 2 ^ 53 := by
  refine hv.abs_sub_le (hq.imp_right fun hle => le_trans ?_ hle)
  calc (2 : ℚ) ^ (-1022 : Int) ≤ 2 ^ (-31 : Int) := zpow_le_zpow_right₀ one_le_two (by decide)
    _ = 1 / 2 ^ 31 := by norm_num

namespace Duration

variable {d grown : Duration} {x s p : Number.Dyadic}

/-- The seconds of the span as a fraction. -/
def inSeconds (d : Duration) : ℚ :=
  d.nanos / nanosPerSecond

theorem inSeconds_nonneg (d : Duration) : 0 ≤ d.inSeconds := by
  rw [inSeconds]
  positivity

theorem inSeconds_le (hle : d.nanos ≤ grown.nanos) : d.inSeconds ≤ grown.inSeconds := by
  rw [inSeconds, inSeconds]
  gcongr

theorem wholeSeconds_add_subsecond (d : Duration) :
    (d.wholeSeconds : ℚ) + d.subsecondNanos / nanosPerSecond = d.inSeconds := by
  have hsplit : (nanosPerSecond : ℚ) * d.wholeSeconds + d.subsecondNanos = d.nanos := by
    exact_mod_cast Nat.div_add_mod d.nanos nanosPerSecond
  rw [inSeconds, ← hsplit, nanosPerSecond]
  field_simp

theorem seconds_cases (d : Duration) : (∃ s, d.seconds = .finite false s) ∨ d.seconds = .infinite false := by
  rw [seconds]
  split
  · rw [Binary64.addMagnitudes, Binary64.ofRatio]
    split
    · exact Or.inl ⟨_, rfl⟩
    · exact Or.inr rfl
  · exact Or.inr rfl

/-- The whole seconds and the part below a second are rounded each by itself. -/
structure RoundedParts (d : Duration) (whole part : ℚ) : Prop where
  ofWhole : Rounded d.wholeSeconds whole
  ofPart : Rounded (d.subsecondNanos / nanosPerSecond) part

theorem RoundedParts.of_roundRatio? {whole part : Number.Dyadic}
    (hwhole : roundRatio? d.wholeSeconds 1 = some whole)
    (hpart : roundRatio? d.subsecondNanos nanosPerSecond = some part) :
    d.RoundedParts whole.value part.value := by
  have hrounded := rounded_of_roundRatio? one_pos hwhole
  rw [Nat.cast_one, div_one] at hrounded
  exact ⟨hrounded, rounded_of_roundRatio? (by decide) hpart⟩

/-- The seconds are the sum of the two parts, rounded once more. -/
theorem exists_parts_of_seconds (hs : d.seconds = .finite false s) :
    ∃ whole part, d.RoundedParts whole part ∧ Rounded (whole + part) s.value := by
  rw [seconds] at hs
  split at hs
  · rename_i whole part hwhole hpart
    refine ⟨whole.value, part.value, .of_roundRatio? hwhole hpart, ?_⟩
    rw [Binary64.addMagnitudes, Binary64.ofRatio] at hs
    split at hs
    · rename_i sum hsum
      cases hs
      rw [← Dyadic.ratio_add]
      exact rounded_of_roundRatio? (Nat.mul_pos whole.denominator_pos part.denominator_pos) hsum
    · cases hs
  · cases hs

theorem natCast_eq_zero_or_le (n : Nat) : (n : ℚ) = 0 ∨ 1 ≤ (n : ℚ) := by
  rcases Nat.eq_zero_or_pos n with rfl | hpos
  · exact Or.inl Nat.cast_zero
  · exact Or.inr (by exact_mod_cast hpos)

/-- No span but the empty one is as short as half a nanosecond. -/
theorem nanos_div_eq_zero_or_le (n : Nat) :
    (n / nanosPerSecond : ℚ) = 0 ∨ 1 / 2 ^ 30 ≤ (n / nanosPerSecond : ℚ) := by
  rcases natCast_eq_zero_or_le n with hzero | hone
  · exact Or.inl (by rw [hzero, zero_div])
  · right
    rw [nanosPerSecond, div_le_div_iff₀ (by positivity) (by norm_num)]
    norm_num
    linarith

theorem RoundedParts.abs_add_sub_le {whole part : ℚ} (hd : d.RoundedParts whole part) :
    |whole + part - d.inSeconds| ≤ d.inSeconds / 2 ^ 53 := by
  have hwhole := hd.ofWhole.abs_sub_le_of_le
    ((natCast_eq_zero_or_le _).imp_right fun hone => le_trans (by norm_num) hone)
  have hpart := hd.ofPart.abs_sub_le_of_le
    ((nanos_div_eq_zero_or_le _).imp_right fun hle => le_trans (by norm_num) hle)
  have hsplit := d.wholeSeconds_add_subsecond
  rw [abs_le] at hwhole hpart ⊢
  constructor <;> linarith

theorem abs_seconds_sub_le (hs : d.seconds = .finite false s) :
    |s.value - d.inSeconds| ≤ d.inSeconds / 2 ^ 51 := by
  obtain ⟨whole, part, hparts, hsum⟩ := exists_parts_of_seconds hs
  have hadd := abs_le.mp hparts.abs_add_sub_le
  have hnear : |s.value - (whole + part)| ≤ (whole + part) / 2 ^ 53 := by
    apply hsum.abs_sub_le_of_le
    rcases nanos_div_eq_zero_or_le d.nanos with hzero | hle
    · left
      rw [inSeconds, hzero] at hadd
      linarith
    · right
      rw [inSeconds] at hadd
      linarith
  rw [abs_le] at hnear ⊢
  constructor <;> linarith [d.inSeconds_nonneg]

/-- The seconds of a span are a finite number unless it is far out of range. -/
theorem exists_seconds (hd : d.inSeconds ≤ 2 ^ 64) : ∃ s, d.seconds = .finite false s := by
  have hsplit := d.wholeSeconds_add_subsecond
  have hwholeNonneg : (0 : ℚ) ≤ d.wholeSeconds := Nat.cast_nonneg _
  have hpartNonneg : (0 : ℚ) ≤ d.subsecondNanos / nanosPerSecond := by positivity
  obtain ⟨whole, hwhole⟩ : ∃ whole, roundRatio? d.wholeSeconds 1 = some whole := by
    apply exists_roundRatio? one_pos
    rw [Nat.cast_one, div_one]
    linarith
  obtain ⟨part, hpart⟩ : ∃ part, roundRatio? d.subsecondNanos nanosPerSecond = some part := by
    apply exists_roundRatio? (by decide)
    linarith
  have hadd := abs_le.mp (RoundedParts.of_roundRatio? hwhole hpart).abs_add_sub_le
  obtain ⟨sum, hsum⟩ : ∃ sum, roundRatio?
      (whole.numerator * part.denominator + part.numerator * whole.denominator)
      (whole.denominator * part.denominator) = some sum := by
    apply exists_roundRatio? (Nat.mul_pos whole.denominator_pos part.denominator_pos)
    rw [Dyadic.ratio_add]
    linarith
  refine ⟨sum, ?_⟩
  rw [seconds, hwhole, hpart]
  change Binary64.addMagnitudes whole part = _
  rw [Binary64.addMagnitudes, Binary64.ofRatio, hsum]

theorem scale_of_seconds (hs : d.seconds = .finite false s) :
    d.scale (.finite false x) = ofSeconds64
      (.ofRatio false (x.numerator * s.numerator) (x.denominator * s.denominator)) := by
  rw [scale, hs]
  rfl

theorem ofSeconds64_finite (x : Number.Dyadic) : ofSeconds64 (.finite false x) =
    if x.atLeast secondsBound then .error .tooBig
    else .ok ⟨roundHalfEven (x.numerator * nanosPerSecond) x.denominator⟩ :=
  rfl

theorem atLeast_secondsBound_iff (x : Number.Dyadic) :
    x.atLeast secondsBound = true ↔ 2 ^ 64 ≤ x.value := by
  rw [Dyadic.atLeast_iff, secondsBound, UInt64.size]
  norm_num

theorem rounded_product
    (hproduct : roundRatio? (x.numerator * s.numerator) (x.denominator * s.denominator) = some p) :
    Rounded (x.value * s.value) p.value := by
  rw [← Dyadic.ratio_mul]
  exact rounded_of_roundRatio? (Nat.mul_pos x.denominator_pos s.denominator_pos) hproduct

/-- The span times the magnitude stays in range: the product of the magnitude and the seconds lies more than
half a unit below the range's end. -/
def Scalable (d : Duration) (x : Number.Dyadic) : Prop :=
  ∃ s, d.seconds = .finite false s ∧ x.value * s.value < 2 ^ 64 - 2 ^ 10

/-- The product of the magnitude and the seconds is rounded once, and once more to nanoseconds. -/
theorem exists_scale_of_scalable (hd : d.Scalable x) :
    ∃ grown s v, d.scale (.finite false x) = .ok grown ∧ d.seconds = .finite false s ∧
      Rounded (x.value * s.value) v ∧ NearestEven (v * nanosPerSecond) grown.nanos := by
  obtain ⟨s, hs, hsmall⟩ := hd
  obtain ⟨p, hproduct⟩ : ∃ p, roundRatio? (x.numerator * s.numerator)
      (x.denominator * s.denominator) = some p := by
    apply exists_roundRatio? (Nat.mul_pos x.denominator_pos s.denominator_pos)
    rw [Dyadic.ratio_mul]
    linarith
  have hrounded := rounded_product hproduct
  have hbelow : ¬ p.atLeast secondsBound = true := by
    rw [atLeast_secondsBound_iff, hrounded.two_pow_64_le_iff]
    exact not_le.mpr hsmall
  have hnanos : NearestEven (p.value * nanosPerSecond)
      (roundHalfEven (p.numerator * nanosPerSecond) p.denominator) := by
    have hnearest := nearestEven_roundHalfEven (p.numerator * nanosPerSecond) p.denominator_pos
    rwa [Nat.cast_mul, mul_div_right_comm, Dyadic.numerator_div_denominator] at hnearest
  refine ⟨⟨roundHalfEven (p.numerator * nanosPerSecond) p.denominator⟩, s, p.value, ?_, hs, hrounded,
    hnanos⟩
  rw [scale_of_seconds hs, Binary64.ofRatio, hproduct]
  change ofSeconds64 (.finite false p) = _
  rw [ofSeconds64_finite, if_neg hbelow]

theorem scale_of_not_scalable (hd : ¬ d.Scalable x) : d.scale (.finite false x) = .error .tooBig := by
  rcases d.seconds_cases with ⟨s, hs⟩ | hs
  · rw [scale_of_seconds hs, Binary64.ofRatio]
    cases hproduct : roundRatio? (x.numerator * s.numerator) (x.denominator * s.denominator) with
    | none => rfl
    | some p =>
        have hreach : p.atLeast secondsBound = true := by
          rw [atLeast_secondsBound_iff, (rounded_product hproduct).two_pow_64_le_iff]
          exact not_lt.mp fun hsmall => hd ⟨s, hs, hsmall⟩
        change ofSeconds64 (.finite false p) = _
        rw [ofSeconds64_finite, if_pos hreach]
  · rw [scale, hs]
    change ofSeconds64 (if x.mantissa = 0 then .nan else .infinite _) = _
    split <;> rfl

theorem abs_product_sub_le (hs : d.seconds = .finite false s) (x : Number.Dyadic) :
    |x.value * s.value - x.value * d.inSeconds| ≤ x.value * d.inSeconds / 2 ^ 51 := by
  rw [← mul_sub, abs_mul, abs_of_nonneg x.value_nonneg, mul_div_assoc]
  exact mul_le_mul_of_nonneg_left (abs_seconds_sub_le hs) x.value_nonneg

theorem product_eq_zero_or_le (hx : 1 ≤ x.value) (hs : d.seconds = .finite false s) :
    x.value * s.value = 0 ∨ 1 / 2 ^ 31 ≤ x.value * s.value := by
  have hnear := abs_le.mp (abs_seconds_sub_le hs)
  rw [inSeconds] at hnear
  rcases nanos_div_eq_zero_or_le d.nanos with hzero | hle
  · left
    rw [hzero] at hnear
    rw [show s.value = 0 by linarith, mul_zero]
  · right
    have hs' : 1 / 2 ^ 31 ≤ s.value := by linarith
    exact le_trans hs' (le_mul_of_one_le_left s.value_nonneg hx)

/-- Growth comes out unless the exact product comes close to the end of the range. -/
theorem scalable_of_le (hx : 1 ≤ x.value) (hd : x.value * d.inSeconds ≤ 2 ^ 64 - 2 ^ 14) :
    d.Scalable x := by
  have hself : d.inSeconds ≤ x.value * d.inSeconds := le_mul_of_one_le_left d.inSeconds_nonneg hx
  obtain ⟨s, hs⟩ := d.exists_seconds (by linarith)
  have hproduct := abs_le.mp (abs_product_sub_le hs x)
  exact ⟨s, hs, by linarith⟩

/-- All roundings together move the exact product by at most one part in 2 ^ 50 and half a nanosecond. -/
theorem abs_scale_sub_le (hx : 1 ≤ x.value) (hgrown : d.scale (.finite false x) = .ok grown) :
    |grown.nanos - x.value * d.nanos| ≤ x.value * d.nanos / 2 ^ 50 + 1 / 2 := by
  by_cases hd : d.Scalable x
  · obtain ⟨grown', s, v, hscale, hs, hrounded, hnanos⟩ := exists_scale_of_scalable hd
    obtain rfl : grown = grown' := Except.ok.inj (hgrown.symm.trans hscale)
    have hproduct := abs_le.mp (abs_product_sub_le hs x)
    have hvalue := abs_le.mp (hrounded.abs_sub_le_of_le (product_eq_zero_or_le hx hs))
    have hnonneg : 0 ≤ x.value * d.inSeconds := mul_nonneg x.value_nonneg d.inSeconds_nonneg
    have hexact : x.value * d.nanos = x.value * d.inSeconds * 1000000000 := by
      rw [inSeconds, nanosPerSecond, Nat.cast_ofNat]
      field_simp
    have hlow := hnanos.sub_half_le
    have hhigh := hnanos.le_add_half
    rw [nanosPerSecond] at hlow hhigh
    rw [hexact, abs_le]
    push_cast at hlow hhigh
    constructor <;> linarith
  · rw [scale_of_not_scalable hd] at hgrown
    cases hgrown

end Duration

end TaskTail
