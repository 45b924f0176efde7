/-
How far the greatest span caps the waits.  A wait is cut only after it has grown, and growth that leaves the
range of time spans fails before it is cut.  This is the only way in which a history of waits fails: all
waits that come out after a start below the greatest span stay below it, and if the factor times the greatest
span is in range, all waits come out.
-/
import TaskTail.Proofs.Number.Scale
import TaskTail.Proofs.Tail.Waits

namespace TaskTail

namespace Backoff

/-- A history of waits fails with its first wait that fails. -/
theorem nextAll_eq_error_iff {b : Backoff} {polls : List Bool} {error : Duration.RangeError} :
    b.nextAll polls = .error error ↔ ∃ earlier progress later before,
      polls = earlier ++ progress :: later ∧ b.nextAll earlier = .ok before ∧
        before.next progress = .error error := by
  constructor
  · intro hfails
    induction polls generalizing b with
    | nil => cases hfails
    | cons progress rest ih =>
        change b.next progress >>= (fun b => b.nextAll rest) = .error error at hfails
        cases hnext : b.next progress with
        | error first =>
            rw [hnext] at hfails
            cases hfails
            exact ⟨[], progress, rest, b, rfl, rfl, hnext⟩
        | ok after =>
            rw [hnext] at hfails
            obtain ⟨earlier, failing, later, before, rfl, hbefore, herror⟩ := ih hfails
            refine ⟨progress :: earlier, failing, later, before, rfl, ?_, herror⟩
            change b.next progress >>= (fun b => b.nextAll earlier) = .ok before
            rw [hnext]
            exact hbefore
  · rintro ⟨earlier, progress, later, before, rfl, hbefore, herror⟩
    rw [nextAll_append, hbefore]
    change before.next progress >>= (fun b => b.nextAll later) = .error error
    rw [herror]
    rfl

theorem next_eq_error_iff {b : Backoff} {x : Number.Dyadic} (hfactor : b.factor = .finite false x)
    {progress : Bool} {error : Duration.RangeError} :
    b.next progress = .error error ↔ progress = false ∧ error = .tooBig ∧ ¬ b.current.Scalable x := by
  cases progress with
  | true => exact iff_of_false nofun nofun
  | false =>
      change (b.current.scale b.factor).map _ = _ ↔ _
      rw [hfactor]
      by_cases hscalable : b.current.Scalable x
      · obtain ⟨grown, _, _, hscale, -⟩ := Duration.exists_scale_of_scalable hscalable
        rw [hscale]
        exact iff_of_false nofun fun hfails => hfails.2.2 hscalable
      · rw [Duration.scale_of_not_scalable hscalable]
        constructor
        · intro hfails
          cases hfails
          exact ⟨rfl, rfl, hscalable⟩
        · rintro ⟨-, rfl, -⟩
          rfl

variable {initial greatest : Duration} {x : Number.Dyadic} {polls : List Bool} {after : Backoff}

theorem factor_of_nextAll {factor : Number.Binary64}
    (hpolls : (start initial greatest factor).nextAll polls = .ok after) : after.factor = factor := by
  rw [(afterSilence_of_nextAll hpolls).1]
  rfl

theorem nextAll_start_eq_error_iff {error : Duration.RangeError} :
    (start initial greatest (.finite false x)).nextAll polls = .error error ↔
      error = .tooBig ∧ ∃ earlier later before, polls = earlier ++ false :: later ∧
        (start initial greatest (.finite false x)).nextAll earlier = .ok before ∧
        ¬ before.current.Scalable x := by
  rw [nextAll_eq_error_iff]
  constructor
  · rintro ⟨earlier, progress, later, before, hpolls, hbefore, hnext⟩
    obtain ⟨rfl, rfl, hscalable⟩ := (next_eq_error_iff (factor_of_nextAll hbefore)).mp hnext
    exact ⟨rfl, earlier, later, before, hpolls, hbefore, hscalable⟩
  · rintro ⟨rfl, earlier, later, before, hpolls, hbefore, hscalable⟩
    exact ⟨earlier, false, later, before, hpolls, hbefore,
      (next_eq_error_iff (factor_of_nextAll hbefore)).mpr ⟨rfl, rfl, hscalable⟩⟩

theorem nanos_le_of_nextAll {factor : Number.Binary64} (hinitial : initial.nanos ≤ greatest.nanos)
    (hpolls : (start initial greatest factor).nextAll polls = .ok after) :
    after.current.nanos ≤ greatest.nanos := by
  obtain ⟨-, hsilence⟩ := afterSilence_of_nextAll hpolls
  rcases Nat.eq_zero_or_pos (silence polls) with hzero | hpos
  · rw [hzero] at hsilence
    cases hsilence
    exact hinitial
  · exact nanos_afterSilence_le hpos hsilence

/-- While the greatest span can grow, every wait comes out. -/
theorem exists_nextAll_of_le (hinitial : initial.nanos ≤ greatest.nanos) (hx : 1 ≤ x.value)
    (hgreatest : x.value * greatest.inSeconds ≤ 2 ^ 64 - 2 ^ 14) (polls : List Bool) :
    ∃ after, (start initial greatest (.finite false x)).nextAll polls = .ok after := by
  cases hpolls : (start initial greatest (.finite false x)).nextAll polls with
  | ok after => exact ⟨after, rfl⟩
  | error error =>
      obtain ⟨-, earlier, _, before, -, hbefore, hfails⟩ := nextAll_start_eq_error_iff.mp hpolls
      have hle : before.current.inSeconds ≤ greatest.inSeconds :=
        Duration.inSeconds_le (nanos_le_of_nextAll hinitial hbefore)
      have hproduct : x.value * before.current.inSeconds ≤ x.value * greatest.inSeconds :=
        mul_le_mul_of_nonneg_left hle x.value_nonneg
      exact absurd (Duration.scalable_of_le hx (hproduct.trans hgreatest)) hfails

/-- Waits that start below the greatest span never exceed it.  A history of them fails exactly with a poll
without progress after which the wait, not yet cut, would grow out of the range of time spans; this never
happens when the factor times the greatest span is in range. -/
theorem capped_unless_out_of_range (hinitial : initial.nanos ≤ greatest.nanos) (hx : 1 ≤ x.value)
    (polls : List Bool) :
    (∀ after, (start initial greatest (.finite false x)).nextAll polls = .ok after →
        after.current.nanos ≤ greatest.nanos) ∧
      (∀ error, (start initial greatest (.finite false x)).nextAll polls = .error error ↔
        error = .tooBig ∧ ∃ earlier later before, polls = earlier ++ false :: later ∧
          (start initial greatest (.finite false x)).nextAll earlier = .ok before ∧
          ¬ before.current.Scalable x) ∧
      (x.value * greatest.inSeconds ≤ 2 ^ 64 - 2 ^ 14 →
        ∃ after, (start initial greatest (.finite false x)).nextAll polls = .ok after) := by
  refine ⟨?_, ?_, ?_⟩
  · intro after hpolls
    exact nanos_le_of_nextAll hinitial hpolls
  · intro error
    exact nextAll_start_eq_error_iff
  · intro hgreatest
    exact exists_nextAll_of_le hinitial hx hgreatest polls

/-- A second doubled sixty-four times leaves the range, although the greatest span lies within it. -/
theorem capped_unless_out_of_range_doubling :
    let doubling := start (.ofSeconds 1) (.ofSeconds (UInt64.size - 1)) (.finite false ⟨1, 1⟩)
    (Duration.ofSeconds 1).nanos ≤ (Duration.ofSeconds (UInt64.size - 1)).nanos ∧
      1 ≤ Number.Dyadic.value ⟨1, 1⟩ ∧
      doubling.nextAll (List.replicate 64 false) = .error .tooBig ∧
      ∃ earlier later before, List.replicate 64 false = earlier ++ false :: later ∧
        doubling.nextAll earlier = .ok before ∧ ¬ before.current.Scalable ⟨1, 1⟩ := by
  intro doubling
  have hinitial : (Duration.ofSeconds 1).nanos ≤ (Duration.ofSeconds (UInt64.size - 1)).nanos := by decide
  have hx : 1 ≤ Number.Dyadic.value ⟨1, 1⟩ := by norm_num [Number.Dyadic.value]
  have hfails : doubling.nextAll (List.replicate 64 false) = .error .tooBig := by decide +kernel
  exact ⟨hinitial, hx, hfails,
    (((capped_unless_out_of_range hinitial hx (List.replicate 64 false)).2.1 _).mp hfails).2⟩

/-- Waits of a second that may be no longer than half a minute: the first growth fails instead of being cut,
for the factor is 10 ^ 20. -/
theorem growth_fails_below_cap :
    ∃ x, Number.Binary64.ofDecimal false 1 20 = .finite false x ∧ 1 ≤ x.value ∧
      (Duration.ofSeconds 1).nanos ≤ (Duration.ofSeconds 30).nanos ∧
      (start (.ofSeconds 1) (.ofSeconds 30) (.finite false x)).waits [false] =
        [.ok (.ofSeconds 1), .error .tooBig] := by
  refine ⟨⟨6103515625000000, 14⟩, by decide +kernel, ?_, by decide, by decide +kernel⟩
  norm_num [Number.Dyadic.value]

end Backoff

end TaskTail
