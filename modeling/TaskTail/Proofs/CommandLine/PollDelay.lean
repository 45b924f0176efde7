/-
The waits of the follower that the command line starts.  Growth by half is inexact, yet a wait of a second
or more grows by a factor of 1.499 at least before it is cut.  So the waits grow strictly until they are the
greatest span, and are there after 108 polls without progress whatever span was asked for; and none of them
fails.
-/
import TaskTail.CommandLine.Program
import TaskTail.Proofs.Tail.Cap

namespace TaskTail.CommandLine

open Duration

variable {b : Backoff} {count seconds : Nat} {d grown : Duration} {polls : List Bool} {after : Backoff}

theorem value_threeHalves : Number.Dyadic.value ⟨3, -1⟩ = 3 / 2 := by
  norm_num [Number.Dyadic.value]

theorem nanos_ofSeconds (seconds : Nat) : (ofSeconds seconds).nanos = seconds * nanosPerSecond :=
  Nat.add_zero _

theorem inSeconds_ofSeconds (seconds : Nat) : (ofSeconds seconds).inSeconds = seconds := by
  rw [inSeconds, nanos_ofSeconds, Nat.cast_mul]
  exact mul_div_cancel_right₀ _ (by norm_num [nanosPerSecond])

/-- From a second on the roundings cost less than a part in a thousand. -/
theorem le_scale_threeHalves (hd : nanosPerSecond ≤ d.nanos) (hgrown : d.scale .threeHalves = .ok grown) :
    1499 * d.nanos ≤ 1000 * grown.nanos := by
  have herror := (abs_le.mp (abs_scale_sub_le (x := ⟨3, -1⟩) (by norm_num [value_threeHalves]) hgrown)).1
  have hsecond : (1000000000 : ℚ) ≤ d.nanos := by exact_mod_cast hd
  rw [value_threeHalves] at herror
  have hgrows : (1499 : ℚ) * d.nanos ≤ 1000 * grown.nanos := by linarith
  exact_mod_cast hgrows

/-- What growth by half makes of a wait: it lies between a second and the greatest span, and the growth
shows in it unless it was cut. -/
structure Climbed (b : Backoff) (count : Nat) (d : Duration) : Prop where
  second_le : nanosPerSecond ≤ d.nanos
  le_max : d.nanos ≤ b.max.nanos
  grown_or_cut : 1499 ^ count * nanosPerSecond ≤ 1000 ^ count * d.nanos ∨ d = b.max

/-- Growth is strict until it is cut. -/
theorem le_grow_or_eq_max (hfactor : b.factor = .threeHalves) (hd : nanosPerSecond ≤ d.nanos)
    (hgrown : b.grow d = .ok grown) : 1499 * d.nanos ≤ 1000 * grown.nanos ∨ grown = b.max := by
  rw [Backoff.grow, hfactor] at hgrown
  obtain ⟨scaled, hscaled, rfl⟩ := exists_of_map_eq_ok hgrown
  rw [Duration.min]
  split
  · exact Or.inl (le_scale_threeHalves hd hscaled)
  · exact Or.inr rfl

theorem Climbed.grow (hclimbed : Climbed b count d) (hfactor : b.factor = .threeHalves)
    (hgrown : b.grow d = .ok grown) : Climbed b (count + 1) grown := by
  have hsecond := hclimbed.second_le
  have hle := Backoff.nanos_le_of_grow hgrown
  rcases le_grow_or_eq_max hfactor hsecond hgrown with hgrows | rfl
  · refine ⟨by omega, hle, ?_⟩
    rcases hclimbed.grown_or_cut with hearlier | rfl
    · left
      calc 1499 ^ (count + 1) * nanosPerSecond = 1499 * (1499 ^ count * nanosPerSecond) := by ring
        _ ≤ 1499 * (1000 ^ count * d.nanos) := Nat.mul_le_mul_left _ hearlier
        _ = 1000 ^ count * (1499 * d.nanos) := by ring
        _ ≤ 1000 ^ count * (1000 * grown.nanos) := Nat.mul_le_mul_left _ hgrows
        _ = 1000 ^ (count + 1) * grown.nanos := by ring
    · -- A wait that was cut cannot grow further.
      rw [nanosPerSecond] at hsecond
      omega
  · exact ⟨hsecond.trans hclimbed.le_max, hle, Or.inr rfl⟩

theorem climbed_of_afterSilence (hfactor : b.factor = .threeHalves) (hinitial : b.initial = ofSeconds 1)
    (hmax : nanosPerSecond ≤ b.max.nanos) (hd : b.afterSilence count = .ok d) : Climbed b count d := by
  induction count generalizing d with
  | zero =>
      obtain rfl : b.initial = d := Except.ok.inj hd
      rw [hinitial]
      exact ⟨Nat.le_refl _, hmax, Or.inl (Nat.le_refl _)⟩
  | succ count ih =>
      rw [Backoff.afterSilence_succ] at hd
      obtain ⟨before, hbefore, hgrown⟩ := exists_of_bind_eq_ok hd
      exact (ih hbefore).grow hfactor hgrown

theorem two_pow_63_lt_growth (hcount : 108 ≤ count) : 1000 ^ count * 2 ^ 63 < 1499 ^ count := by
  obtain ⟨further, rfl⟩ := Nat.exists_eq_add_of_le hcount
  calc 1000 ^ (108 + further) * 2 ^ 63 = 1000 ^ further * (1000 ^ 108 * 2 ^ 63) := by ring
    _ < 1000 ^ further * 1499 ^ 108 := Nat.mul_lt_mul_of_pos_left (by norm_num) (by positivity)
    _ ≤ 1499 ^ further * 1499 ^ 108 := Nat.mul_le_mul_right _ (Nat.pow_le_pow_left (by norm_num) _)
    _ = 1499 ^ (108 + further) := by ring

/-- Growth for 108 times covers the whole range from one second to `2 ^ 63` of them. -/
theorem Climbed.eq_max (hclimbed : Climbed b count d) (hcount : 108 ≤ count)
    (hmax : b.max.nanos ≤ 2 ^ 63 * nanosPerSecond) : d = b.max := by
  rcases hclimbed.grown_or_cut with hgrown | hcut
  · refine absurd hgrown (not_le.mpr ?_)
    calc 1000 ^ count * d.nanos ≤ 1000 ^ count * (2 ^ 63 * nanosPerSecond) :=
          Nat.mul_le_mul_left _ (hclimbed.le_max.trans hmax)
      _ = 1000 ^ count * 2 ^ 63 * nanosPerSecond := (Nat.mul_assoc _ _ _).symm
      _ < 1499 ^ count * nanosPerSecond :=
          Nat.mul_lt_mul_of_pos_right (two_pow_63_lt_growth hcount) (by decide)
  · exact hcut

/-- The factor times the greatest span is in range. -/
theorem exists_nextAll_followBackoff (hseconds : seconds ≤ 2 ^ 63) (polls : List Bool) :
    ∃ after, (followBackoff seconds).nextAll polls = .ok after := by
  have hone : 1 ≤ max seconds 1 := Nat.le_max_right _ _
  have hgreatest : ((max seconds 1 : Nat) : ℚ) ≤ 2 ^ 63 := by
    exact_mod_cast max_le hseconds Nat.one_le_two_pow
  apply Backoff.exists_nextAll_of_le
  · rw [nanos_ofSeconds, nanos_ofSeconds]
    exact Nat.mul_le_mul_right _ hone
  · norm_num [value_threeHalves]
  · rw [value_threeHalves, inSeconds_ofSeconds]
    linarith

theorem second_le_max (seconds : Nat) : nanosPerSecond ≤ (followBackoff seconds).max.nanos := by
  change nanosPerSecond ≤ (ofSeconds (max seconds 1)).nanos
  rw [nanos_ofSeconds]
  exact Nat.le_mul_of_pos_left _ (Nat.le_max_right _ _)

theorem max_le_of_le (hseconds : seconds ≤ 2 ^ 63) :
    (followBackoff seconds).max.nanos ≤ 2 ^ 63 * nanosPerSecond := by
  change (ofSeconds (max seconds 1)).nanos ≤ _
  rw [nanos_ofSeconds]
  exact Nat.mul_le_mul_right _ (Nat.max_le.mpr ⟨hseconds, Nat.one_le_two_pow⟩)

theorem climbed_of_nextAll (hpolls : (followBackoff seconds).nextAll polls = .ok after) :
    Climbed (followBackoff seconds) (Backoff.silence polls) after.current := by
  exact climbed_of_afterSilence rfl rfl (second_le_max seconds) (Backoff.afterSilence_of_nextAll hpolls).2

/-- A follower that may wait up to `2 ^ 63` seconds never fails to grow its wait.  Every wait lies between a
second and the greatest span, is strictly longer than the one before after a poll that brought nothing
unless it is the greatest, and is the greatest once 108 polls in a row brought nothing. -/
theorem followBackoff_climbs (hseconds : seconds ≤ 2 ^ 63) (polls : List Bool) :
    ∃ after, (followBackoff seconds).nextAll polls = .ok after ∧
      (ofSeconds 1).nanos ≤ after.current.nanos ∧
      after.current.nanos ≤ (ofSeconds (max seconds 1)).nanos ∧
      (∃ next, (followBackoff seconds).nextAll (polls ++ [false]) = .ok next ∧
        (after.current.nanos < next.current.nanos ∨ next.current = ofSeconds (max seconds 1))) ∧
      (108 ≤ Backoff.silence polls → after.current = ofSeconds (max seconds 1)) := by
  obtain ⟨after, hafter⟩ := exists_nextAll_followBackoff hseconds polls
  obtain ⟨next, hnext⟩ := exists_nextAll_followBackoff hseconds (polls ++ [false])
  have hclimbed := climbed_of_nextAll hafter
  refine ⟨after, hafter, ?_, hclimbed.le_max, ⟨next, hnext, ?_⟩, ?_⟩
  · rw [nanos_ofSeconds, Nat.one_mul]
    exact hclimbed.second_le
  · have hgrown := Backoff.grow_of_nextAll hafter hnext
    refine (le_grow_or_eq_max rfl hclimbed.second_le hgrown).imp_left fun hgrows => ?_
    have hpos : 0 < after.current.nanos := lt_of_lt_of_le (by decide) hclimbed.second_le
    omega
  · intro hsilence
    exact hclimbed.eq_max hsilence (max_le_of_le hseconds)

/-- The greatest span for which this is promised, after as many polls as are needed. -/
theorem followBackoff_climbs_two_pow_63 : 2 ^ 63 ≤ 2 ^ 63 ∧ ∃ after,
    (followBackoff (2 ^ 63)).nextAll (List.replicate 108 false) = .ok after ∧
      after.current = ofSeconds (2 ^ 63) := by
  obtain ⟨after, hafter, -, -, -, hgreatest⟩ :=
    followBackoff_climbs (Nat.le_refl (2 ^ 63)) (List.replicate 108 false)
  exact ⟨Nat.le_refl _, after, hafter, hgreatest (by decide +kernel)⟩

end TaskTail.CommandLine
