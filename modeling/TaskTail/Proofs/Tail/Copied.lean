/-
Tailing a growing output loses nothing and repeats nothing.  Between any two calls, what the sink has
received is the output from the start of the tail up to its offset: a reply brings the next bytes of the
output or none, and an output that only grows never changes what was already copied.
-/
import Mathlib.Tactic.Common
import TaskTail.Proofs.Tail.Growth
import TaskTail.Proofs.Tail.Turn

namespace TaskTail

/-- What the sink has received of `content` is what the tail has passed since `origin`. -/
structure Copied (task : TaskId) (origin : Nat) (content : ByteArray) (tail : Tail) (sink : Sink) :
    Prop where
  task : tail.task = task
  chunk : 0 < tail.chunkSize
  rule : sink.rule = .accept
  received : sink.received = content.extract origin tail.offset
  origin_le : origin ≤ tail.offset
  reached : tail.offset = origin ∨ tail.offset ≤ content.size

/-- One turn of a follower: what the calls of its poll find, and whether the stop is taken after it. -/
abbrev TurnMoments := List Moment × Bool

def TurnMoments.turn (cap limit : Nat) (t : TurnMoments) : Turn :=
  ⟨t.1.map (Moment.respond cap limit), t.2⟩

/-- A tail and its sink after some calls, made by polls or by followers, one after another.  A poll that
a follower makes starts after the first turns of that follower. -/
inductive Tailed (cap limit : Nat) (tail : Tail) (sink : Sink) : List Moment → Tail → Sink → Prop
  | start : Tailed cap limit tail sink [] tail sink
  | poll {seen : List Moment} {t : Tail} {s : Sink} (calls : List Moment) :
      Tailed cap limit tail sink seen t s →
      Tailed cap limit tail sink (seen ++ calls)
        ((Poll.start t s).run (calls.map (Moment.respond cap limit))).1.tail
        ((Poll.start t s).run (calls.map (Moment.respond cap limit))).1.sink
  | follow {seen : List Moment} {t : Tail} {s : Sink} (backoff : Backoff)
      (turns : List TurnMoments) :
      Tailed cap limit tail sink seen t s →
      Tailed cap limit tail sink (seen ++ turns.flatMap Prod.fst)
        ((Follower.mk t s backoff).follow (turns.map (TurnMoments.turn cap limit))).1.tail
        ((Follower.mk t s backoff).follow (turns.map (TurnMoments.turn cap limit))).1.sink

section Copied

variable {task : TaskId} {path : Path} {origin cap limit : Nat} {content : ByteArray}
variable {tail t : Tail} {sink s : Sink} {seen : List Moment}

/-- Whatever the output grows by lies behind what was copied. -/
theorem Copied.grow (hcopied : Copied task origin content tail sink) (more : ByteArray) :
    Copied task origin (content ++ more) tail sink := by
  have hreached := hcopied.reached
  refine { hcopied with received := ?_, reached := ?_ }
  · rw [hcopied.received, extract_append_of_le (by omega)]
  · rw [ByteArray.size_append]
    omega

theorem Copied.after (hcopied : Copied task origin content tail sink) (m : Moment) :
    Copied task origin (m.after content) tail sink :=
  (hcopied.grow m.appended).grow m.meanwhile

theorem Copied.growAll (hcopied : Copied task origin content tail sink)
    (calls : List Moment) : Copied task origin (contentAfter content calls) tail sink := by
  obtain ⟨more, hmore⟩ := exists_contentAfter_eq content calls
  rw [hmore]
  exact hcopied.grow more

/-- One call keeps it, whatever comes of the call. -/
theorem Copied.feed (cap limit : Nat) {p : Poll} {m : Moment}
    (hshows : m.Shows task path content) (hcopied : Copied task origin content p.tail p.sink)
    (hpending : p.result = none) :
    Copied task origin (m.after content) (p.feed (m.respond cap limit p.tail.request)).tail
      (p.feed (m.respond cap limit p.tail.request)).sink := by
  obtain ⟨htask, hchunk, hrule, hreceived, horigin, hreached⟩ := hcopied.after m
  rw [← htask] at hshows
  have hpart := Moment.isPart_answerBytes hshows cap limit
  have hfed := Poll.fed_feed hrule hpending (m.respond cap limit p.tail.request)
  generalize m.respond cap limit p.tail.request = answer at hpart hfed ⊢
  have hoffset : (p.feed answer).tail.offset = p.tail.offset + (answerBytes answer).size := by
    rw [hfed.tail]
    rfl
  refine ⟨?_, ?_, hfed.rule, ?_, ?_, ?_⟩
  · rw [hfed.tail]
    exact htask
  · rw [hfed.tail]
    exact hchunk
  · rw [hfed.received, hoffset, hreceived,
      ByteArray.extract_eq_extract_append_extract p.tail.offset horigin (Nat.le_add_right _ _),
      ← hpart.2]
  · omega
  · rcases Nat.eq_zero_or_pos (answerBytes answer).size with hzero | hpos
    · rw [hoffset, hzero]
      exact hreached
    · rw [hoffset]
      exact Or.inr (hpart.add_size_le hpos)

/-- A poll keeps it, through all calls that it makes. -/
theorem Copied.run {p : Poll} {calls : List Moment} (hshown : Shown task path content calls)
    (hcopied : Copied task origin content p.tail p.sink) :
    Copied task origin (contentAfter content calls)
      (p.run (calls.map (Moment.respond cap limit))).1.tail
      (p.run (calls.map (Moment.respond cap limit))).1.sink := by
  induction calls generalizing p content with
  | nil => exact hcopied
  | cons m rest ih =>
      cases hresult : p.result with
      | none =>
          rw [List.map_cons, Poll.run_cons_of_pending hresult]
          exact ih hshown.2 (hcopied.feed cap limit hshown.1 hresult)
      | some result =>
          -- The calls that a poll no longer makes still see the output grow.
          rw [Poll.run_of_over hresult]
          exact hcopied.growAll (m :: rest)

/-- Following keeps it, through all polls that it makes, whatever ends it. -/
theorem Copied.follow {f : Follower} {turns : List TurnMoments}
    (hshown : Shown task path content (turns.flatMap Prod.fst))
    (hcopied : Copied task origin content f.tail f.sink) :
    Copied task origin (contentAfter content (turns.flatMap Prod.fst))
      (f.follow (turns.map (TurnMoments.turn cap limit))).1.tail
      (f.follow (turns.map (TurnMoments.turn cap limit))).1.sink := by
  induction turns generalizing f content with
  | nil => exact hcopied
  | cons t rest ih =>
      rw [List.flatMap_cons, shown_append] at hshown
      obtain ⟨hfirst, hrest⟩ := hshown
      have hpoll : Copied task origin (contentAfter content t.1)
          (f.pollOf (t.turn cap limit)).tail (f.pollOf (t.turn cap limit)).sink :=
        Copied.run (p := Poll.start f.tail f.sink) hfirst hcopied
      rw [List.flatMap_cons, contentAfter_append, List.map_cons]
      cases hturn : f.afterTurn (f.pollOf (t.turn cap limit)) with
      | inl ending =>
          rw [Follower.follow_cons_of_end hturn]
          exact hpoll.growAll (rest.flatMap Prod.fst)
      | inr backoff =>
          rw [Follower.follow_cons_of_wait hturn]
          split
          · exact hpoll.growAll (rest.flatMap Prod.fst)
          · exact ih (f := f.waiting (f.pollOf (t.turn cap limit)) backoff) hrest hpoll

theorem copied_start (task : TaskId) (origin chunk : Nat) (content : ByteArray) :
    Copied task origin content (((Tail.ofTask task).withOffset origin).withChunkSize chunk)
      (.fresh .accept) := by
  refine ⟨rfl, Nat.le_max_right chunk 1, rfl, ?_, Nat.le_refl origin, Or.inl rfl⟩
  exact ByteArray.extract_same.symm

/-- Polls and followers keep it, however many there are. -/
theorem Copied.tailed (hcopied : Copied task origin content tail sink)
    (hshown : Shown task path content seen) (htailed : Tailed cap limit tail sink seen t s) :
    Copied task origin (contentAfter content seen) t s := by
  induction htailed with
  | start => exact hcopied
  | poll calls _ ih =>
      obtain ⟨hbefore, hcalls⟩ := shown_append.mp hshown
      rw [contentAfter_append]
      exact Copied.run hcalls (ih hbefore)
  | follow backoff turns _ ih =>
      obtain ⟨hbefore, hcalls⟩ := shown_append.mp hshown
      rw [contentAfter_append]
      exact Copied.follow (f := ⟨_, _, backoff⟩) hcalls (ih hbefore)

/-- A call with which a poll ends well has found no more of the output than was copied. -/
theorem Copied.size_before_le {p : Poll} {m : Moment} {n : Nat}
    (hcopied : Copied task origin content p.tail p.sink) (hshows : m.Shows task path content)
    (hreadable : m.Readable path content) (hcap : 0 < cap) (hpending : p.result = none)
    (hresult : (p.feed (m.respond cap limit p.tail.request)).result = some (.ok n)) :
    (m.before content).size ≤ (p.feed (m.respond cap limit p.tail.request)).tail.offset := by
  have hfed := Poll.fed_feed hcopied.rule hpending (m.respond cap limit p.tail.request)
  rw [hfed.result] at hresult
  obtain ⟨_, reply, hreply, hend⟩ := Poll.resultAfter_eq_ok hresult
  rw [← hcopied.task] at hshows
  have hle := Moment.size_before_le_of_respond hshows hreadable hcap hcopied.chunk hreply hend
  rw [hfed.tail]
  exact Nat.le_trans hle (Nat.le_add_right _ _)

/-- Whenever a poll returns, however many polls and followers were there before it, the sink has
received the output from the start of the tail to its offset.  When the poll ends well, it has moved
the offset by what it reports, and the output was no longer than that when the last call was made. -/
theorem received_eq_extract (cap limit : Nat) {task : TaskId} {path : Path} {origin chunk : Nat}
    {content : ByteArray} {seen calls : List Moment} {last : Moment} {t : Tail} {s : Sink}
    (hshown : Shown task path content (seen ++ calls ++ [last]))
    (htailed : Tailed cap limit (((Tail.ofTask task).withOffset origin).withChunkSize chunk)
      (.fresh .accept) seen t s)
    (hpending :
      ((Poll.start t s).run (calls.map (Moment.respond cap limit))).1.result = none)
    {p : Poll} {result : PollResult}
    (hp : ((Poll.start t s).run ((calls ++ [last]).map (Moment.respond cap limit))).1 = p)
    (hresult : p.result = some result) :
    let earlier := contentAfter content (seen ++ calls)
    p.sink.received = (last.after earlier).extract origin p.tail.offset ∧
    origin ≤ p.tail.offset ∧
    (p.tail.offset = origin ∨ p.tail.offset ≤ (last.after earlier).size) ∧
    (0 < cap → last.Readable path earlier → ∀ n, result = .ok n →
      p.tail.offset = t.offset + n ∧ (last.before earlier).size ≤ p.tail.offset) := by
  intro earlier
  obtain ⟨hbefore, hlast, _⟩ := shown_append.mp hshown
  obtain ⟨hseen, hcalls⟩ := shown_append.mp hbefore
  have hcopied := (copied_start task origin chunk content).tailed hseen htailed
  have hbalanced : Poll.Balanced t s p := by
    rw [← hp]
    exact Poll.balanced_run hcopied.rule _
  have hunder : Copied task origin earlier
      ((Poll.start t s).run (calls.map (Moment.respond cap limit))).1.tail
      ((Poll.start t s).run (calls.map (Moment.respond cap limit))).1.sink := by
    have hearlier : earlier = contentAfter (contentAfter content seen) calls :=
      contentAfter_append content seen calls
    rw [hearlier]
    exact Copied.run (p := Poll.start t s) hcalls hcopied
  rw [List.map_append, List.map_singleton, Poll.run_concat_of_pending hpending] at hp
  generalize ((Poll.start t s).run _).1 = q at hpending hunder hp
  subst hp
  have hfinal := hunder.feed cap limit hlast hpending
  refine ⟨hfinal.received, hfinal.origin_le, hfinal.reached, ?_⟩
  intro hcap hreadable n hn
  subst hn
  refine ⟨?_, hunder.size_before_le hlast hreadable hcap hpending hresult⟩
  rw [hbalanced.offset, ← hbalanced.result n hresult]

/-- The file of a tail from byte 1 does not open at first; then it grows between the two calls of a
poll. -/
theorem received_eq_extract_after_missing :
    let registry := Registry.empty.register ⟨⟨"t"⟩, ⟨"f"⟩⟩
    let missing := Moment.unopened registry .notFound
    let first := Moment.appending registry "abc".toUTF8 .empty
    let second := Moment.appending registry "abc".toUTF8 "de".toUTF8
    let last := Moment.appending registry ("abc".toUTF8 ++ "de".toUTF8) .empty
    let tail := ((Tail.ofTask ⟨"t"⟩).withOffset 1).withChunkSize 2
    let failed := ((Poll.start tail (.fresh .accept)).run [missing.respond 4 10]).1
    let p := ((Poll.start failed.tail failed.sink).run
      [first.respond 4 10, second.respond 4 10, last.respond 4 10]).1
    p.result = some (.ok 4) ∧ p.sink.received = "bcde".toUTF8 ∧ p.tail.offset = 5 := by
  intro registry missing first second last tail failed p
  have hpath : registry.resolve? ⟨"t"⟩ = some ⟨"f"⟩ := rfl
  have hshown : Shown ⟨"t"⟩ ⟨"f"⟩ "abc".toUTF8 ([missing] ++ [first, second] ++ [last]) := by
    simp only [List.cons_append, List.nil_append, Shown, missing, first, second, last,
      Moment.after_unopened, Moment.after_appending, ByteArray.append_empty, and_true]
    exact ⟨Moment.shows_unopened .notFound hpath (by decide),
      Moment.shows_appending hpath (by decide), Moment.shows_appending hpath (by decide),
      Moment.shows_appending hpath (by decide)⟩
  have htailed : Tailed 4 10 tail (.fresh .accept) [missing] failed.tail failed.sink :=
    Tailed.start.poll [missing]
  have hresult : p.result = some (.ok 4) := by decide +kernel
  have hpending : ((Poll.start failed.tail failed.sink).run
      ([first, second].map (Moment.respond 4 10))).1.result = none := by decide +kernel
  have hp : ((Poll.start failed.tail failed.sink).run
      (([first, second] ++ [last]).map (Moment.respond 4 10))).1 = p := rfl
  have hlast : last.Readable ⟨"f"⟩ (contentAfter "abc".toUTF8 ([missing] ++ [first, second])) := by
    have hcontent : contentAfter "abc".toUTF8 ([missing] ++ [first, second]) =
        "abc".toUTF8 ++ "de".toUTF8 := by decide +kernel
    rw [hcontent]
    exact Moment.readable_appending registry ⟨"f"⟩ _ .empty
  obtain ⟨hreceived, _, _, hend⟩ :=
    received_eq_extract 4 10 hshown htailed hpending hp hresult
  have hoffset : p.tail.offset = 5 := (hend (by decide) hlast 4 rfl).1
  refine ⟨hresult, ?_, hoffset⟩
  rw [hreceived, hoffset]
  decide +kernel

end Copied

end TaskTail
