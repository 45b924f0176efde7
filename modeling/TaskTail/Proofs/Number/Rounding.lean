/-
How far rounding moves a number.  A fraction that is rounded to whole numbers stays within a half of it,
and a tie goes to the even neighbour.  A fraction that is rounded to a floating-point number stays within
half a unit in the last place, which is one part in 2 ^ 53 of it unless it is tiny; and it comes to 2 ^ 64
or more exactly if it lies at most half a unit below.
-/
import Mathlib.Algebra.Order.Field.Power
import Mathlib.Data.Int.Log
import Mathlib.Data.Rat.Floor
import Mathlib.Tactic.FieldSimp
import Mathlib.Tactic.Linarith
import Mathlib.Tactic.NormNum
import Mathlib.Tactic.Positivity
import Mathlib.Tactic.Ring
import TaskTail.Number.Binary64

namespace TaskTail.Number

/-- `n` is the whole number nearest to `q`; of two that are equally near it is the even one. -/
structure NearestEven (q : ℚ) (n : Nat) : Prop where
  le_add_half : q ≤ n + 1 / 2
  sub_half_le : n - 1 / 2 ≤ q
  even : q = n + 1 / 2 ∨ q = n - 1 / 2 → Even n

theorem NearestEven.of_lt {q : ℚ} {n : Nat} (hlow : n - 1 / 2 < q) (hhigh : q < n + 1 / 2) :
    NearestEven q n := by
  refine ⟨hhigh.le, hlow.le, ?_⟩
  rintro (htie | htie)
  · exact absurd htie hhigh.ne
  · exact absurd htie hlow.ne'

theorem nearestEven_roundHalfEven (num : Nat) {den : Nat} (hden : 0 < den) :
    NearestEven (num / den) (roundHalfEven num den) := by
  have hpos : (0 : ℚ) < den := by exact_mod_cast hden
  have hsplit : (num : ℚ) = den * (num / den : Nat) + (num % den : Nat) := by
    exact_mod_cast (Nat.div_add_mod num den).symm
  have hrest : ((num % den : Nat) : ℚ) < den := by exact_mod_cast Nat.mod_lt num hden
  rw [hsplit, add_div, mul_div_cancel_left₀ _ hpos.ne']
  set quotient := num / den
  set rest := num % den
  rw [roundHalfEven]
  change NearestEven _ (if 2 * rest < den then quotient else if den < 2 * rest then quotient + 1
    else quotient + quotient % 2)
  have hnonneg : (0 : ℚ) ≤ rest / den := by positivity
  have hone : (rest / den : ℚ) < 1 := by rwa [div_lt_one hpos]
  by_cases hless : 2 * rest < den
  · have hhalf : (rest / den : ℚ) < 1 / 2 := by
      rw [div_lt_div_iff₀ hpos two_pos]
      exact_mod_cast (by omega : rest * 2 < 1 * den)
    rw [if_pos hless]
    exact .of_lt (by linarith) (by linarith)
  · rw [if_neg hless]
    by_cases hmore : den < 2 * rest
    · have hhalf : (1 / 2 : ℚ) < rest / den := by
        rw [div_lt_div_iff₀ two_pos hpos]
        exact_mod_cast (by omega : 1 * den < rest * 2)
      have hcast : ((quotient + 1 : Nat) : ℚ) = quotient + 1 := Nat.cast_add_one quotient
      rw [if_pos hmore]
      exact .of_lt (by linarith) (by linarith)
    · have hhalf : (rest / den : ℚ) = 1 / 2 := by
        rw [div_eq_div_iff hpos.ne' two_ne_zero]
        exact_mod_cast (by omega : rest * 2 = 1 * den)
      rw [if_neg hmore, hhalf]
      rcases Nat.even_or_odd quotient with heven | hodd
      · rw [Nat.even_iff.mp heven, Nat.add_zero]
        exact ⟨le_rfl, by linarith, fun _ => heven⟩
      · have hcast : ((quotient + 1 : Nat) : ℚ) = quotient + 1 := Nat.cast_add_one quotient
        rw [Nat.odd_iff.mp hodd]
        exact ⟨by linarith, by linarith, fun _ => hodd.add_one⟩

namespace NearestEven

variable {q : ℚ} {m n : Nat}

theorem le_of_le (hn : NearestEven q n) (hq : q ≤ m) : n ≤ m := by
  have hlow := hn.sub_half_le
  have hlt : (n : ℚ) < m + 1 := by linarith
  exact Nat.lt_succ_iff.mp (by exact_mod_cast hlt)

theorem ge_of_ge (hn : NearestEven q n) (hq : (m : ℚ) ≤ q) : m ≤ n := by
  have hhigh := hn.le_add_half
  have hlt : (m : ℚ) < n + 1 := by linarith
  exact Nat.lt_succ_iff.mp (by exact_mod_cast hlt)

/-- A tie below an even number goes up to it. -/
theorem even_le_iff (hn : NearestEven q n) (hm : Even m) : m ≤ n ↔ (m : ℚ) - 1 / 2 ≤ q := by
  constructor
  · intro hle
    have hcast : (m : ℚ) ≤ n := by exact_mod_cast hle
    exact le_trans (by linarith) hn.sub_half_le
  · intro hq
    by_contra hless
    have hsucc : n + 1 ≤ m := Nat.lt_of_not_le hless
    have hcast : (n : ℚ) + 1 ≤ m := by exact_mod_cast hsucc
    have htie : q = n + 1 / 2 := le_antisymm hn.le_add_half (by linarith)
    have hm' : m = n + 1 := by
      have hle : (m : ℚ) ≤ n + 1 := by linarith
      exact le_antisymm (by exact_mod_cast hle) hsucc
    exact Nat.not_even_iff_odd.mpr (hn.even (Or.inl htie)).add_one (hm' ▸ hm)

end NearestEven

theorem le_log_iff {q : ℚ} (hq : 0 < q) {k : Int} : k ≤ Int.log 2 q ↔ 2 ^ k ≤ q := by
  rw [← Int.zpow_le_iff_le_log one_lt_two hq, Nat.cast_ofNat]

theorem log_lt_iff {q : ℚ} (hq : 0 < q) {k : Int} : Int.log 2 q < k ↔ q < 2 ^ k := by
  rw [← Int.lt_zpow_iff_log_lt one_lt_two hq, Nat.cast_ofNat]

theorem two_zpow_add (unit : Int) (n : Nat) : (2 : ℚ) ^ (unit + n) = (2 ^ n : Nat) * 2 ^ unit := by
  rw [zpow_add₀ two_ne_zero, zpow_natCast, mul_comm, Nat.cast_pow, Nat.cast_ofNat]

theorem two_zpow_eq_div (power : Int) :
    (2 : ℚ) ^ power = ((Nat.pow 2 power.toNat : Nat) : ℚ) / (Nat.pow 2 (-power).toNat : Nat) := by
  simp only [Nat.pow_eq, Nat.cast_pow, Nat.cast_ofNat]
  rw [← zpow_natCast, ← zpow_natCast, ← zpow_sub₀ two_ne_zero]
  congr 1
  omega

namespace Dyadic

/-- The magnitude as a fraction. -/
def value (x : Dyadic) : ℚ :=
  x.mantissa * 2 ^ x.exponent

theorem value_nonneg (x : Dyadic) : 0 ≤ x.value := by
  rw [value]
  positivity

theorem denominator_pos (x : Dyadic) : 0 < x.denominator := by
  rw [denominator, Nat.pow_eq]
  positivity

theorem numerator_div_denominator (x : Dyadic) : (x.numerator : ℚ) / x.denominator = x.value := by
  rw [value, two_zpow_eq_div, numerator, denominator, Nat.cast_mul, mul_div_assoc]

theorem ratio_mul (x y : Dyadic) : ((x.numerator * y.numerator : Nat) : ℚ) /
    (x.denominator * y.denominator : Nat) = x.value * y.value := by
  rw [Nat.cast_mul, Nat.cast_mul, mul_div_mul_comm, numerator_div_denominator, numerator_div_denominator]

theorem ratio_add (x y : Dyadic) :
    ((x.numerator * y.denominator + y.numerator * x.denominator : Nat) : ℚ) /
      (x.denominator * y.denominator : Nat) = x.value + y.value := by
  have hx : (x.denominator : ℚ) ≠ 0 := by exact_mod_cast x.denominator_pos.ne'
  have hy : (y.denominator : ℚ) ≠ 0 := by exact_mod_cast y.denominator_pos.ne'
  rw [← numerator_div_denominator x, ← numerator_div_denominator y, div_add_div _ _ hx hy]
  push_cast
  ring

theorem atLeast_iff (x : Dyadic) (bound : Nat) : x.atLeast bound = true ↔ (bound : ℚ) ≤ x.value := by
  have hpos : (0 : ℚ) < x.denominator := by exact_mod_cast x.denominator_pos
  rw [← numerator_div_denominator, le_div_iff₀ hpos, atLeast, decide_eq_true_iff]
  exact_mod_cast Iff.rfl

end Dyadic

section RoundRatio

variable {num den : Nat}

theorem powerAtMost_iff (hden : 0 < den) (power : Int) :
    powerAtMost power num den = true ↔ (2 : ℚ) ^ power ≤ num / den := by
  have hpos : (0 : ℚ) < den := by exact_mod_cast hden
  have hdivisor : (0 : ℚ) < (Nat.pow 2 (-power).toNat : Nat) := by
    rw [Nat.pow_eq]
    positivity
  rw [two_zpow_eq_div, div_le_div_iff₀ hdivisor hpos, powerAtMost, decide_eq_true_iff,
    Nat.mul_comm den]
  exact_mod_cast Iff.rfl

/-- The difference of two logarithms is that of the quotient, or one more. -/
theorem log_div_bounds (hnum : 0 < num) (hden : 0 < den) :
    (num.log2 : Int) - den.log2 - 1 ≤ Int.log 2 (num / den : ℚ) ∧
      Int.log 2 (num / den : ℚ) < (num.log2 : Int) - den.log2 + 1 := by
  have hpos : (0 : ℚ) < den := by exact_mod_cast hden
  have hratio : (0 : ℚ) < num / den := by positivity
  constructor
  · have hnumLow : (2 : ℚ) ^ (num.log2 : Int) ≤ num := by
      exact_mod_cast Nat.log2_self_le hnum.ne'
    have hdenHigh : (den : ℚ) < 2 ^ ((den.log2 : Int) + 1) := by
      exact_mod_cast (Nat.lt_log2_self : den < 2 ^ (den.log2 + 1))
    rw [le_log_iff hratio, le_div_iff₀ hpos]
    calc (2 : ℚ) ^ ((num.log2 : Int) - den.log2 - 1) * den
        ≤ 2 ^ ((num.log2 : Int) - den.log2 - 1) * 2 ^ ((den.log2 : Int) + 1) := by gcongr
      _ = 2 ^ (num.log2 : Int) := by
          rw [← zpow_add₀ two_ne_zero]
          congr 1
          omega
      _ ≤ num := hnumLow
  · have hnumHigh : (num : ℚ) < 2 ^ ((num.log2 : Int) + 1) := by
      exact_mod_cast (Nat.lt_log2_self : num < 2 ^ (num.log2 + 1))
    have hdenLow : (2 : ℚ) ^ (den.log2 : Int) ≤ den := by
      exact_mod_cast Nat.log2_self_le hden.ne'
    rw [log_lt_iff hratio, div_lt_iff₀ hpos]
    calc (num : ℚ) < 2 ^ ((num.log2 : Int) + 1) := hnumHigh
      _ = 2 ^ ((num.log2 : Int) - den.log2 + 1) * 2 ^ (den.log2 : Int) := by
          rw [← zpow_add₀ two_ne_zero]
          congr 1
          omega
      _ ≤ 2 ^ ((num.log2 : Int) - den.log2 + 1) * den := by gcongr

theorem floorLog2_eq_log (hnum : 0 < num) (hden : 0 < den) :
    floorLog2 num den = Int.log 2 (num / den : ℚ) := by
  have hratio : (0 : ℚ) < num / den := by positivity
  obtain ⟨hlow, hhigh⟩ := log_div_bounds hnum hden
  set guess : Int := (num.log2 : Int) - den.log2
  have hreaches : powerAtMost guess num den = true ↔ guess ≤ Int.log 2 (num / den : ℚ) := by
    rw [powerAtMost_iff hden, le_log_iff hratio]
  rw [floorLog2]
  change (if powerAtMost guess num den then guess else guess - 1) = _
  by_cases hguess : powerAtMost guess num den = true
  · have hle := hreaches.mp hguess
    rw [if_pos hguess]
    omega
  · have hlt := mt hreaches.mpr hguess
    rw [if_neg hguess]
    omega

/-- The power of two that is the last place of numbers near `q`. -/
def lastPlace (q : ℚ) : Int :=
  max (Int.log 2 q - fractionBits) minExponent

/-- `v` is the multiple of the last place nearest to `q`, of two the even one. -/
def Rounded (q v : ℚ) : Prop :=
  ∃ n : Nat, v = n * 2 ^ lastPlace q ∧ NearestEven (q / 2 ^ lastPlace q) n

theorem rounded_of_roundRatio? {x : Dyadic} (hden : 0 < den) (hx : roundRatio? num den = some x) :
    Rounded (num / den) x.value := by
  by_cases hnum : num = 0
  · rw [roundRatio?, if_pos hnum, Option.some.injEq] at hx
    refine ⟨0, ?_, ?_⟩
    · simp [← hx, Dyadic.value, Dyadic.zero]
    · rw [hnum, Nat.cast_zero, zero_div, zero_div]
      exact ⟨by norm_num, by norm_num, fun _ => Even.zero⟩
  · rw [roundRatio?, if_neg hnum, floorLog2_eq_log (Nat.pos_of_ne_zero hnum) hden] at hx
    change (if _ then none else some (Dyadic.mk _ (lastPlace (num / den)))) = some x at hx
    split at hx
    · cases hx
    · cases hx
      set exponent := lastPlace (num / den)
      refine ⟨_, rfl, ?_⟩
      have hscaled : ((num : ℚ) / den) / 2 ^ exponent =
          ((num * Nat.pow 2 (-exponent).toNat : Nat) : ℚ) / (den * Nat.pow 2 exponent.toNat : Nat) := by
        rw [two_zpow_eq_div, div_div_div_eq]
        push_cast
        rfl
      rw [hscaled]
      apply nearestEven_roundHalfEven
      rw [Nat.pow_eq]
      positivity

/-- What is far from 2 ^ 1024 is rounded to a finite number. -/
theorem exists_roundRatio? (hden : 0 < den) (hsmall : (num / den : ℚ) < 2 ^ 128) :
    ∃ x, roundRatio? num den = some x := by
  by_cases hnum : num = 0
  · exact ⟨.zero, by rw [roundRatio?, if_pos hnum]⟩
  · have hpos : (0 : ℚ) < den := by exact_mod_cast hden
    have hnumpos : (0 : ℚ) < num := by exact_mod_cast Nat.pos_of_ne_zero hnum
    have hlog : Int.log 2 (num / den : ℚ) < 128 := by
      rw [log_lt_iff (div_pos hnumpos hpos)]
      exact_mod_cast hsmall
    have hplace : lastPlace (num / den) < maxExponent := by
      rw [lastPlace, fractionBits, minExponent, maxExponent]
      omega
    rw [roundRatio?, if_neg hnum, floorLog2_eq_log (Nat.pos_of_ne_zero hnum) hden]
    change ∃ x, (if maxExponent < lastPlace (num / den) ||
      (lastPlace (num / den) = maxExponent && _) then none else some _) = some x
    rw [if_neg (by simp [hplace.not_gt, hplace.ne])]
    exact ⟨_, rfl⟩

end RoundRatio

theorem lastPlace_le {q : ℚ} {k : Int} (hk : 0 ≤ k) (hq : q < 2 ^ k) : lastPlace q ≤ k := by
  have hlog : Int.log 2 q ≤ k := by
    rcases le_or_gt q 0 with hzero | hpos
    · rwa [Int.log_of_right_le_zero 2 hzero]
    · exact le_of_lt ((log_lt_iff hpos).mpr hq)
  rw [lastPlace, fractionBits, minExponent]
  omega

namespace Rounded

variable {q v : ℚ}

theorem eq_zero (hv : Rounded 0 v) : v = 0 := by
  obtain ⟨n, rfl, hn⟩ := hv
  rw [zero_div] at hn
  have hzero : n = 0 := Nat.le_zero.mp (hn.le_of_le (by simp))
  rw [hzero, Nat.cast_zero, zero_mul]

theorem abs_sub_le_half (hv : Rounded q v) : |v - q| ≤ 2 ^ lastPlace q / 2 := by
  obtain ⟨n, rfl, hn⟩ := hv
  have hunit : (0 : ℚ) < 2 ^ lastPlace q := by positivity
  have hhigh := (div_le_iff₀ hunit).mp hn.le_add_half
  have hlow := (le_div_iff₀ hunit).mp hn.sub_half_le
  rw [abs_le]
  constructor <;> linarith

/-- A fraction that is not tiny is moved by at most one part in 2 ^ 53. -/
theorem abs_sub_le (hv : Rounded q v) (hq : q = 0 ∨ (2 : ℚ) ^ (-1022 : Int) ≤ q) :
    |v - q| ≤ q / 2 ^ 53 := by
  rcases hq with rfl | hq
  · simp [hv.eq_zero]
  have hpos : 0 < q := lt_of_lt_of_le (by positivity) hq
  have hlog : -1022 ≤ Int.log 2 q := (le_log_iff hpos).mpr hq
  have hplace : lastPlace q = Int.log 2 q - 52 := by
    rw [lastPlace, fractionBits, minExponent]
    omega
  have hself : (2 : ℚ) ^ Int.log 2 q ≤ q := (le_log_iff hpos).mp le_rfl
  calc |v - q| ≤ 2 ^ lastPlace q / 2 := hv.abs_sub_le_half
    _ = 2 ^ Int.log 2 q / 2 ^ 53 := by
        rw [hplace, zpow_sub₀ two_ne_zero]
        norm_num
        ring
    _ ≤ q / 2 ^ 53 := by gcongr

theorem le_zpow {k : Int} (hv : Rounded q v) (hk : lastPlace q ≤ k) (hq : q ≤ 2 ^ k) : v ≤ 2 ^ k := by
  obtain ⟨n, rfl, hn⟩ := hv
  obtain ⟨places, rfl⟩ := Int.le.dest hk
  have hunit : (0 : ℚ) < 2 ^ lastPlace q := by positivity
  rw [two_zpow_add] at hq ⊢
  have hle := hn.le_of_le ((div_le_iff₀ hunit).mpr hq)
  gcongr

theorem zpow_le {k : Int} (hv : Rounded q v) (hk : minExponent ≤ k) (hq : 2 ^ k ≤ q) : 2 ^ k ≤ v := by
  obtain ⟨n, rfl, hn⟩ := hv
  have hpos : 0 < q := lt_of_lt_of_le (by positivity) hq
  have hlog : k ≤ Int.log 2 q := (le_log_iff hpos).mpr hq
  have hplace : lastPlace q ≤ Int.log 2 q := by
    rw [lastPlace, fractionBits]
    omega
  obtain ⟨places, hplaces⟩ := Int.le.dest hplace
  have hself : (2 : ℚ) ^ (lastPlace q + places) ≤ q := by
    rw [hplaces]
    exact (le_log_iff hpos).mp le_rfl
  have hunit : (0 : ℚ) < 2 ^ lastPlace q := by positivity
  rw [two_zpow_add, ← le_div_iff₀ hunit] at hself
  calc (2 : ℚ) ^ k ≤ 2 ^ (lastPlace q + places) := by
        rw [hplaces]
        exact zpow_le_zpow_right₀ one_le_two hlog
    _ = (2 ^ places : Nat) * 2 ^ lastPlace q := two_zpow_add _ _
    _ ≤ n * 2 ^ lastPlace q := by
        have hle := hn.ge_of_ge hself
        gcongr

/-- The number before 2 ^ 64 has an odd mantissa, so a fraction halfway between the two goes up. -/
theorem two_pow_64_le_iff (hv : Rounded q v) : 2 ^ 64 ≤ v ↔ (2 : ℚ) ^ 64 - 2 ^ 10 ≤ q := by
  rcases lt_or_ge q (2 ^ (63 : Int)) with hbelow | hlow
  · have hv' : v ≤ 2 ^ (63 : Int) := hv.le_zpow (lastPlace_le (by decide) hbelow) hbelow.le
    norm_num at hbelow hv'
    exact iff_of_false (not_le.mpr (by linarith)) (not_le.mpr (by linarith))
  · rcases lt_or_ge q (2 ^ (64 : Int)) with hhigh | habove
    · have hpos : 0 < q := lt_of_lt_of_le (by positivity) hlow
      have hlogLow : 63 ≤ Int.log 2 q := (le_log_iff hpos).mpr hlow
      have hlogHigh : Int.log 2 q < 64 := (log_lt_iff hpos).mpr hhigh
      have hplace : lastPlace q = 11 := by
        rw [lastPlace, fractionBits, minExponent]
        omega
      obtain ⟨n, rfl, hn⟩ := hv
      rw [hplace] at hn ⊢
      have hunit : (0 : ℚ) < 2 ^ (11 : Int) := by positivity
      have hpower : (2 : ℚ) ^ 64 = (2 ^ 53 : Nat) * 2 ^ (11 : Int) := by norm_num
      have hquarter : (2 : ℚ) ^ 64 - 2 ^ 10 = ((2 ^ 53 : Nat) - 1 / 2) * 2 ^ (11 : Int) := by norm_num
      rw [hquarter, ← le_div_iff₀ hunit, ← hn.even_le_iff (by decide), hpower,
        mul_le_mul_iff_left₀ hunit, Nat.cast_le]
    · have hv' : 2 ^ (64 : Int) ≤ v := hv.zpow_le (by decide) habove
      norm_num at habove hv'
      exact iff_of_true (by linarith) (by linarith)

end Rounded

end TaskTail.Number
