/-
The wait after any history of polls.  A poll that brought something erases all that was before it, so the
wait depends only on how many polls at the end of the history brought nothing: it is the initial
span, grown and cut as many times.  Hence no wait after such a poll is longer than the greatest span, though
the initial span itself may be.
-/
import Mathlib.Data.List.Induction
import Mathlib.Logic.Function.Iterate
import Mathlib.Tactic.Common
import TaskTail.Tail.Backoff

namespace TaskTail

theorem exists_of_bind_eq_ok {ε α β : Type} {first : Except ε α} {second : α → Except ε β} {result : β}
    (hresult : first >>= second = .ok result) :
    ∃ value, first = .ok value ∧ second value = .ok result := by
  cases first with
  | error error => cases hresult
  | ok value => exact ⟨value, rfl, hresult⟩

theorem exists_of_map_eq_ok {ε α β : Type} {first : Except ε α} {f : α → β} {result : β}
    (hresult : first.map f = .ok result) : ∃ value, first = .ok value ∧ result = f value := by
  cases first with
  | error error => cases hresult
  | ok value => exact ⟨value, rfl, (Except.ok.inj hresult).symm⟩

theorem Duration.nanos_min (a b : Duration) : (a.min b).nanos = Min.min a.nanos b.nanos := by
  rw [Duration.min]
  split <;> omega

namespace Backoff

/-- The waits after polls that made progress or not, one after another. -/
def nextAll (b : Backoff) (flags : List Bool) : Except Duration.RangeError Backoff :=
  flags.foldlM Backoff.next b

theorem nextAll_append (b : Backoff) (first second : List Bool) :
    b.nextAll (first ++ second) = b.nextAll first >>= fun b => b.nextAll second :=
  List.foldlM_append

theorem nextAll_singleton (b : Backoff) (flag : Bool) : b.nextAll [flag] = b.next flag := by
  simp [nextAll]

theorem exists_nextAll_of_concat {b after : Backoff} {polls : List Bool} {progress : Bool}
    (hpolls : b.nextAll (polls ++ [progress]) = .ok after) :
    ∃ middle, b.nextAll polls = .ok middle ∧ middle.next progress = .ok after := by
  rw [nextAll_append] at hpolls
  obtain ⟨middle, hmiddle, hnext⟩ := exists_of_bind_eq_ok hpolls
  exact ⟨middle, hmiddle, (middle.nextAll_singleton progress).symm.trans hnext⟩

/-- The waits in the middle of a history, when the next wait is `d`. -/
def waiting (b : Backoff) (d : Duration) : Backoff :=
  { b with current := d }

/-- A wait grown once: by the factor, and cut to the greatest span. -/
def grow (b : Backoff) (d : Duration) : Except Duration.RangeError Duration :=
  (d.scale b.factor).map fun grown => grown.min b.max

/-- The initial span grown as many times as there were polls without progress. -/
def afterSilence (b : Backoff) (count : Nat) : Except Duration.RangeError Duration :=
  (· >>= b.grow)^[count] (.ok b.initial)

/-- How many polls at the end of a history brought nothing. -/
def silence (polls : List Bool) : Nat :=
  (polls.reverse.takeWhile fun progress => !progress).length

@[simp] theorem silence_nil : silence [] = 0 :=
  rfl

@[simp] theorem silence_concat_true (polls : List Bool) : silence (polls ++ [true]) = 0 := by
  simp [silence]

@[simp] theorem silence_concat_false (polls : List Bool) :
    silence (polls ++ [false]) = silence polls + 1 := by
  simp [silence]

theorem afterSilence_succ (b : Backoff) (count : Nat) :
    b.afterSilence (count + 1) = b.afterSilence count >>= b.grow :=
  Function.iterate_succ_apply' _ _ _

theorem next_waiting_false (b : Backoff) (d : Duration) :
    (b.waiting d).next false = (b.grow d).map b.waiting := by
  change (d.scale b.factor).map _ = ((d.scale b.factor).map _).map _
  cases d.scale b.factor with
  | error error => rfl
  | ok grown => rfl

theorem nanos_le_of_grow {b : Backoff} {d grown : Duration} (hgrown : b.grow d = .ok grown) :
    grown.nanos ≤ b.max.nanos := by
  obtain ⟨scaled, -, rfl⟩ := exists_of_map_eq_ok hgrown
  rw [Duration.nanos_min]
  exact Nat.min_le_right _ _

section History

variable {initial greatest : Duration} {factor : Number.Binary64} {polls : List Bool} {after : Backoff}

/-- After a history a follower is as at its start, but for the next wait, which is the initial span grown
through the silence at the end. -/
theorem afterSilence_of_nextAll (hpolls : (start initial greatest factor).nextAll polls = .ok after) :
    after = (start initial greatest factor).waiting after.current ∧
      (start initial greatest factor).afterSilence (silence polls) = .ok after.current := by
  induction polls using List.reverseRecOn generalizing after with
  | nil =>
      cases hpolls
      exact ⟨rfl, rfl⟩
  | append_singleton polls progress ih =>
      obtain ⟨middle, hmiddle, hnext⟩ := exists_nextAll_of_concat hpolls
      obtain ⟨hwaiting, hsilence⟩ := ih hmiddle
      rw [hwaiting] at hnext
      cases progress with
      | true =>
          cases hnext
          rw [silence_concat_true]
          exact ⟨rfl, rfl⟩
      | false =>
          rw [next_waiting_false] at hnext
          obtain ⟨grown, hgrown, rfl⟩ := exists_of_map_eq_ok hnext
          rw [silence_concat_false, afterSilence_succ, hsilence]
          exact ⟨rfl, hgrown⟩

/-- A poll without progress at the end of a history grows the wait before it. -/
theorem grow_of_nextAll {next : Backoff} (hpolls : (start initial greatest factor).nextAll polls = .ok after)
    (hnext : (start initial greatest factor).nextAll (polls ++ [false]) = .ok next) :
    (start initial greatest factor).grow after.current = .ok next.current := by
  have hsilence := (afterSilence_of_nextAll hnext).2
  rw [silence_concat_false, afterSilence_succ, (afterSilence_of_nextAll hpolls).2] at hsilence
  exact hsilence

theorem silence_pos_of_getLast? (hlast : polls.getLast? = some false) : 0 < silence polls := by
  obtain ⟨earlier, rfl⟩ := List.getLast?_eq_some_iff.mp hlast
  rw [silence_concat_false]
  exact Nat.succ_pos _

theorem silence_eq_zero_of_getLast? (hlast : polls.getLast? ≠ some false) : silence polls = 0 := by
  induction polls using List.reverseRecOn with
  | nil => exact silence_nil
  | append_singleton earlier progress _ =>
      cases progress with
      | true => exact silence_concat_true earlier
      | false => simp at hlast

theorem nanos_afterSilence_le {b : Backoff} {count : Nat} {d : Duration} (hcount : 0 < count)
    (hd : b.afterSilence count = .ok d) : d.nanos ≤ b.max.nanos := by
  obtain ⟨count, rfl⟩ := Nat.exists_eq_add_one_of_ne_zero (Nat.pos_iff_ne_zero.mp hcount)
  rw [afterSilence_succ] at hd
  obtain ⟨before, -, hgrown⟩ := exists_of_bind_eq_ok hd
  exact nanos_le_of_grow hgrown

/-- The wait after a history is the initial span, grown once for each poll at its end that brought nothing.
So it is the initial span again after a poll that brought something, it is the same after any history that
ends in the same silence, and it is never longer than the greatest span but when it has just started over. -/
theorem wait_after_silence (hpolls : (start initial greatest factor).nextAll polls = .ok after) :
    (polls.getLast? ≠ some false → after.current = initial) ∧
      (polls.getLast? = some false → 0 < silence polls ∧
        (start initial greatest factor).afterSilence (silence polls) = .ok after.current ∧
        after.current.nanos ≤ greatest.nanos) ∧
      after.current.nanos ≤ Max.max initial.nanos greatest.nanos ∧
      ∀ others elsewhere, (start initial greatest factor).nextAll others = .ok elsewhere →
        silence others = silence polls → elsewhere.current = after.current := by
  obtain ⟨-, hsilence⟩ := afterSilence_of_nextAll hpolls
  have hrestarted : polls.getLast? ≠ some false → after.current = initial := by
    intro hlast
    rw [silence_eq_zero_of_getLast? hlast] at hsilence
    exact (Except.ok.inj hsilence).symm
  have hgrown : polls.getLast? = some false → after.current.nanos ≤ greatest.nanos := by
    intro hlast
    exact nanos_afterSilence_le (silence_pos_of_getLast? hlast) hsilence
  refine ⟨hrestarted, fun hlast => ⟨silence_pos_of_getLast? hlast, hsilence, hgrown hlast⟩, ?_, ?_⟩
  · by_cases hlast : polls.getLast? = some false
    · exact Nat.le_trans (hgrown hlast) (Nat.le_max_right _ _)
    · rw [hrestarted hlast]
      exact Nat.le_max_left _ _
  · intro others elsewhere hothers hsame
    obtain ⟨-, helsewhere⟩ := afterSilence_of_nextAll hothers
    rw [hsame, hsilence] at helsewhere
    exact (Except.ok.inj helsewhere).symm

/-- The initial span is longer than the greatest: it comes back uncut, and the growth after it is cut. -/
theorem wait_after_silence_long_initial :
    ∃ after, (start (.ofSeconds 40) (.ofSeconds 30) .threeHalves).nextAll [true, false, false] = .ok after ∧
      (start (.ofSeconds 40) (.ofSeconds 30) .threeHalves).afterSilence 2 = .ok after.current ∧
      after.current.nanos ≤ (Duration.ofSeconds 30).nanos := by
  have hpolls : (start (.ofSeconds 40) (.ofSeconds 30) .threeHalves).nextAll [true, false, false] =
      .ok ⟨.ofSeconds 40, .ofSeconds 30, .threeHalves, .ofSeconds 30⟩ := by
    decide +kernel
  exact ⟨_, hpolls, ((wait_after_silence hpolls).2.1 rfl).2⟩

end History

end Backoff

end TaskTail
