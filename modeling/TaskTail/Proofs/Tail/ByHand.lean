/-
Following is polling by hand.  Polls that are made one after another, each from where the one before it
stopped, know of no waits and of no stop.  A follower makes the same polls: it makes the next one exactly
when all polls before it ended well or may be tried again, the waits after them came out, and the stop was
not taken.  So it fails exactly with the first poll that another try cannot mend, and stops only in
a wait.
-/
import Mathlib.Data.List.Induction
import Mathlib.Tactic.Common
import TaskTail.Proofs.Monitor.Answer
import TaskTail.Proofs.Tail.Clock
import TaskTail.Proofs.Tail.Exchange
import TaskTail.Proofs.Tail.Waits

namespace TaskTail

/-- Where polls have come to. -/
structure Spot where
  tail : Tail
  sink : Sink

namespace Spot

def poll (s : Spot) (calls : List Responder) : Poll :=
  ((Poll.start s.tail s.sink).run calls).1

def after (s : Spot) (calls : List Responder) : Spot :=
  ⟨(s.poll calls).tail, (s.poll calls).sink⟩

/-- Where polls come to that are made one after another. -/
def afterAll (s : Spot) (polls : List (List Responder)) : Spot :=
  polls.foldl after s

def polls (s : Spot) : List (List Responder) → List Poll
  | [] => []
  | calls :: rest => s.poll calls :: (s.after calls).polls rest

/-- What these polls ask for and are told. -/
def exchanges (s : Spot) : List (List Responder) → List Exchange
  | [] => []
  | calls :: rest => (Poll.start s.tail s.sink).exchanges calls ++ (s.after calls).exchanges rest

theorem afterAll_append (s : Spot) (first second : List (List Responder)) :
    s.afterAll (first ++ second) = (s.afterAll first).afterAll second :=
  List.foldl_append

theorem polls_append (s : Spot) (first second : List (List Responder)) :
    s.polls (first ++ second) = s.polls first ++ (s.afterAll first).polls second := by
  induction first generalizing s with
  | nil => rfl
  | cons calls rest ih => simp [polls, ih, afterAll]

theorem exchanges_append (s : Spot) (first second : List (List Responder)) :
    s.exchanges (first ++ second) = s.exchanges first ++ (s.afterAll first).exchanges second := by
  induction first generalizing s with
  | nil => rfl
  | cons calls rest ih => simp [exchanges, ih, afterAll]

end Spot

namespace Poll

/-- The poll ended well, or in a way that another try may mend. -/
def goesOn (p : Poll) : Bool :=
  match p.result with
  | none => false
  | some (.ok _) => true
  | some (.error error) => error.isRetryable

/-- The poll ended well and wrote something. -/
def progress (p : Poll) : Bool :=
  match p.result with
  | some (.ok written) => 0 < written
  | _ => false

/-- How following ends with a poll, and the waits that are left; `b` are the waits before it. -/
inductive Ends (p : Poll) (b : Backoff) (stop : Bool) : FollowEnd → Backoff → Prop
  | failed {error : ClientError} :
      p.result = some (.error error) → error.isRetryable = false → Ends p b stop (.failed error) b
  | stopped {next : Backoff} :
      p.goesOn = true → b.next p.progress = .ok next → stop = true → Ends p b stop .stopped next
  | overflow {error : Duration.RangeError} :
      p.goesOn = true → b.next p.progress = .error error → Ends p b stop (.overflow error) b
  | unfinished : p.result = none → Ends p b stop .unfinished b

end Poll

/-- The waits that following ends with, unless the last of them did not come out. -/
def FollowEnd.waits (b : Backoff) : FollowEnd → Except Duration.RangeError Backoff
  | overflow error => .error error
  | stopped | failed _ | unfinished => .ok b

namespace Poll.Ends

variable {p : Poll} {b next : Backoff} {stop : Bool} {ending : FollowEnd}

/-- The next wait is taken after a poll that ends following only if that poll goes on. -/
theorem nextAll_eq_waits (hends : p.Ends b stop ending next) :
    b.nextAll (([p].filter goesOn).map progress) = ending.waits next := by
  rcases hends with ⟨hresult, hfinal⟩ | ⟨hgoes, hnext, -⟩ | ⟨hgoes, hnext⟩ | hresult
  · have hgoes : p.goesOn = false := by simp [goesOn, hresult, hfinal]
    rw [List.filter_singleton, hgoes]
    rfl
  · rw [List.filter_singleton, hgoes]
    exact (b.nextAll_singleton p.progress).trans hnext
  · rw [List.filter_singleton, hgoes]
    exact (b.nextAll_singleton p.progress).trans hnext
  · have hgoes : p.goesOn = false := by simp [goesOn, hresult]
    rw [List.filter_singleton, hgoes]
    rfl

/-- In a wait after a poll that ends following the stop is taken. -/
theorem stop_of_waits {after : Backoff} (hends : p.Ends b stop ending next) (hgoes : p.goesOn = true)
    (hnext : b.next p.progress = .ok after) : stop = true := by
  rcases hends with ⟨hresult, hfinal⟩ | ⟨-, -, hstop⟩ | ⟨-, hfails⟩ | hresult
  · simp [goesOn, hresult, hfinal] at hgoes
  · exact hstop
  · rw [hfails] at hnext
    cases hnext
  · simp [goesOn, hresult] at hgoes

end Poll.Ends

def Spot.follower (s : Spot) (b : Backoff) : Follower :=
  ⟨s.tail, s.sink, b⟩

namespace Follower

variable {f : Follower} {turn : Turn} {turns earlier later : List Turn} {b next : Backoff}
variable {ending : FollowEnd}

def spot (f : Follower) : Spot :=
  ⟨f.tail, f.sink⟩

/-- What a follower asks for and is told. -/
def exchanges (f : Follower) : List Turn → List Exchange
  | [] => []
  | turn :: rest =>
    (Poll.start f.tail f.sink).exchanges turn.responders ++
      match f.afterTurn (f.pollOf turn) with
      | .inl _ => []
      | .inr backoff =>
        if turn.stop then [] else (f.waiting (f.pollOf turn) backoff).exchanges rest

/-- Every poll by hand goes on, the waits come out, `b` at last, and the stop is not taken. -/
structure Passes (f : Follower) (turns : List Turn) (b : Backoff) : Prop where
  goesOn : ∀ p ∈ f.spot.polls (turns.map Turn.responders), p.goesOn = true
  waits : f.backoff.nextAll ((f.spot.polls (turns.map Turn.responders)).map Poll.progress) = .ok b
  unstopped : ∀ turn ∈ turns, turn.stop = false

/-- The poll of a turn, when the polls of the turns before it are made by hand. -/
def pollAfter (f : Follower) (earlier : List Turn) (turn : Turn) : Poll :=
  (f.spot.afterAll (earlier.map Turn.responders)).poll turn.responders

/-- A follower makes the polls of the first turns, which are `made`, as they are made by hand. -/
structure FollowsByHand (f : Follower) (turns made : List Turn) : Prop where
  front : made <+: turns
  /-- The stop is not looked at before the first poll. -/
  ne_nil : turns ≠ [] → made ≠ []
  goes_on_iff : ∀ earlier turn later, turns = earlier ++ turn :: later →
    (earlier.length < made.length ↔ ∃ b, f.Passes earlier b)
  spot : (f.follow turns).1.spot = f.spot.afterAll (made.map Turn.responders)
  exchanges : f.exchanges turns = f.spot.exchanges (made.map Turn.responders)
  /-- The next wait is taken once after every poll that goes on. -/
  waits : f.backoff.nextAll
      (((f.spot.polls (made.map Turn.responders)).filter Poll.goesOn).map Poll.progress) =
    (f.follow turns).2.waits (f.follow turns).1.backoff
  failed_iff : ∀ error, (f.follow turns).2 = .failed error ↔
    ∃ earlier turn later b, turns = earlier ++ turn :: later ∧ f.Passes earlier b ∧
      (f.pollAfter earlier turn).result = some (.error error) ∧ error.isRetryable = false
  stopped_iff : (f.follow turns).2 = .stopped ↔
    ∃ earlier turn later b next, turns = earlier ++ turn :: later ∧ f.Passes earlier b ∧
      (f.pollAfter earlier turn).goesOn = true ∧
      b.next (f.pollAfter earlier turn).progress = .ok next ∧ turn.stop = true
  overflow_iff : ∀ error, (f.follow turns).2 = .overflow error ↔
    ∃ earlier turn later b, turns = earlier ++ turn :: later ∧ f.Passes earlier b ∧
      (f.pollAfter earlier turn).goesOn = true ∧
      b.next (f.pollAfter earlier turn).progress = .error error

/-- A poll that goes on is followed by the next wait, if that comes out. -/
theorem afterTurn_of_goesOn {p : Poll} (hgoes : p.goesOn = true) :
    f.afterTurn p =
      match f.backoff.next p.progress with
      | .ok b => .inr b
      | .error error => .inl (.overflow error) := by
  rcases hresult : p.result with _ | error | written
  · simp [Poll.goesOn, hresult] at hgoes
  · have hretryable : error.isRetryable = true := by simpa [Poll.goesOn, hresult] using hgoes
    simp only [afterTurn, hresult, Backoff.settle, hretryable, if_true, Backoff.verdict, Poll.progress]
    rcases f.backoff.next false with _ | _ <;> rfl
  · simp only [afterTurn, hresult, Backoff.settle, Backoff.verdict, Poll.progress]
    rcases f.backoff.next (decide (0 < written)) with _ | _ <;> rfl

theorem goesOn_or_final {p : Poll} {result : PollResult} (hresult : p.result = some result) :
    p.goesOn = true ∨ ∃ error, p.result = some (.error error) ∧ error.isRetryable = false := by
  rcases result with error | written
  · rcases hretryable : error.isRetryable with _ | _
    · exact Or.inr ⟨error, hresult, hretryable⟩
    · exact Or.inl (by simp [Poll.goesOn, hresult, hretryable])
  · exact Or.inl (by simp [Poll.goesOn, hresult])

/-- One turn either ends following, or following goes on with the next one. -/
theorem ends_or_waits (f : Follower) (turn : Turn) :
    (∃ ending b, (f.pollOf turn).Ends f.backoff turn.stop ending b) ∨
      ∃ b, (f.pollOf turn).goesOn = true ∧ f.backoff.next (f.pollOf turn).progress = .ok b ∧
        turn.stop = false := by
  rcases hresult : (f.pollOf turn).result with _ | result
  · exact Or.inl ⟨_, _, .unfinished hresult⟩
  · rcases goesOn_or_final hresult with hgoes | ⟨error, herror, hfinal⟩
    · rcases hnext : f.backoff.next (f.pollOf turn).progress with error | b
      · exact Or.inl ⟨_, _, .overflow hgoes hnext⟩
      · rcases hstop : turn.stop with _ | _
        · exact Or.inr ⟨b, hgoes, rfl, rfl⟩
        · exact Or.inl ⟨_, _, .stopped hgoes hnext rfl⟩
    · exact Or.inl ⟨_, _, .failed herror hfinal⟩

/-- A turn that ends following is the last one. -/
theorem follow_of_ends (hends : (f.pollOf turn).Ends f.backoff turn.stop ending b)
    (rest : List Turn) :
    f.follow (turn :: rest) = (f.waiting (f.pollOf turn) b, ending) ∧
      f.exchanges (turn :: rest) = f.spot.exchanges [turn.responders] := by
  rw [follow_cons, exchanges, Spot.exchanges, Spot.exchanges, List.append_nil]
  rcases hends with ⟨hresult, hfinal⟩ | ⟨hgoes, hnext, hstop⟩ | ⟨hgoes, hnext⟩ | hresult
  · simp only [afterTurn, hresult, Backoff.settle, hfinal, Bool.false_eq_true, if_false]
    exact ⟨rfl, List.append_nil _⟩
  · simp only [afterTurn_of_goesOn hgoes, hnext, hstop, if_true]
    exact ⟨trivial, List.append_nil _⟩
  · simp only [afterTurn_of_goesOn hgoes, hnext]
    exact ⟨rfl, List.append_nil _⟩
  · simp only [afterTurn, hresult]
    exact ⟨rfl, List.append_nil _⟩

theorem follow_of_waits (hgoes : (f.pollOf turn).goesOn = true)
    (hnext : f.backoff.next (f.pollOf turn).progress = .ok b) (hstop : turn.stop = false)
    (rest : List Turn) :
    f.follow (turn :: rest) = (f.waiting (f.pollOf turn) b).follow rest ∧
      f.exchanges (turn :: rest) = f.spot.exchanges [turn.responders] ++
        (f.waiting (f.pollOf turn) b).exchanges rest := by
  rw [follow_cons, exchanges, Spot.exchanges, Spot.exchanges, List.append_nil]
  simp only [afterTurn_of_goesOn hgoes, hnext, hstop, Bool.false_eq_true, if_false, true_and]
  rfl

theorem passes_nil (f : Follower) : f.Passes [] f.backoff := by
  constructor
  case goesOn => simp [Spot.polls]
  case waits => rfl
  case unstopped => simp

theorem passes_append_iff : f.Passes (earlier ++ later) b ↔
    ∃ between, f.Passes earlier between ∧
      ((f.spot.afterAll (earlier.map Turn.responders)).follower between).Passes later b := by
  constructor
  · rintro ⟨hgoes, hwaits, hstop⟩
    simp only [List.map_append, Spot.polls_append, List.forall_mem_append, Backoff.nextAll_append]
      at hgoes hwaits hstop
    rcases hbetween : f.backoff.nextAll
        ((f.spot.polls (earlier.map Turn.responders)).map Poll.progress) with error | between
    · simp [hbetween, bind, Except.bind] at hwaits
    · simp only [hbetween, bind, Except.bind] at hwaits
      exact ⟨between, ⟨hgoes.1, hbetween, hstop.1⟩, hgoes.2, hwaits, hstop.2⟩
  · rintro ⟨between, hearlier, hlater⟩
    constructor
    case goesOn =>
      rw [List.map_append, Spot.polls_append, List.forall_mem_append]
      exact ⟨hearlier.goesOn, hlater.goesOn⟩
    case waits =>
      rw [List.map_append, Spot.polls_append, List.map_append, Backoff.nextAll_append, hearlier.waits]
      exact hlater.waits
    case unstopped =>
      rw [List.forall_mem_append]
      exact ⟨hearlier.unstopped, hlater.unstopped⟩

theorem passes_singleton_iff : f.Passes [turn] b ↔
    (f.pollOf turn).goesOn = true ∧ f.backoff.next (f.pollOf turn).progress = .ok b ∧
      turn.stop = false := by
  have hpoll : f.spot.poll turn.responders = f.pollOf turn := rfl
  constructor
  · rintro ⟨hgoes, hwaits, hstop⟩
    simp [Spot.polls, hpoll, Backoff.nextAll] at hgoes hwaits hstop
    exact ⟨hgoes, hwaits, hstop⟩
  · rintro ⟨hgoes, hnext, hstop⟩
    constructor
    case goesOn => simp [Spot.polls, hpoll, hgoes]
    case waits => simp [Spot.polls, hpoll, Backoff.nextAll, hnext]
    case unstopped => simp [hstop]

/-- Following goes on behind turns that pass. -/
theorem follow_append_of_passes (hpasses : f.Passes earlier b) (more : List Turn) :
    f.follow (earlier ++ more) =
        ((f.spot.afterAll (earlier.map Turn.responders)).follower b).follow more ∧
      f.exchanges (earlier ++ more) = f.spot.exchanges (earlier.map Turn.responders) ++
        ((f.spot.afterAll (earlier.map Turn.responders)).follower b).exchanges more := by
  induction earlier generalizing f with
  | nil =>
      obtain rfl : f.backoff = b := Except.ok.inj hpasses.waits
      exact ⟨rfl, rfl⟩
  | cons turn rest ih =>
      obtain ⟨between, hturn, hrest⟩ := passes_append_iff.mp (List.singleton_append ▸ hpasses)
      obtain ⟨hgoes, hnext, hstop⟩ := passes_singleton_iff.mp hturn
      obtain ⟨hfollow, hexchanges⟩ := follow_of_waits hgoes hnext hstop (rest ++ more)
      obtain ⟨hmore, hmoreExchanges⟩ := ih hrest
      constructor
      · rw [List.cons_append, hfollow]
        exact hmore
      · have hsplit : f.spot.exchanges ((turn :: rest).map Turn.responders) =
            f.spot.exchanges [turn.responders] ++
              (f.spot.after turn.responders).exchanges (rest.map Turn.responders) :=
          f.spot.exchanges_append [turn.responders] _
        rw [List.cons_append, hexchanges, hsplit, List.append_assoc]
        exact congrArg _ hmoreExchanges

theorem follow_of_passes (hpasses : f.Passes turns b) :
    f.follow turns =
        ((f.spot.afterAll (turns.map Turn.responders)).follower b, .unfinished) ∧
      f.exchanges turns = f.spot.exchanges (turns.map Turn.responders) := by
  obtain ⟨hfollow, hexchanges⟩ := follow_append_of_passes hpasses []
  rw [List.append_nil] at hfollow hexchanges
  exact ⟨hfollow, hexchanges.trans (List.append_nil _)⟩

/-- Following ends with the first turn that does not pass. -/
theorem follow_append_of_ends (hpasses : f.Passes earlier b)
    (hends : (f.pollAfter earlier turn).Ends b turn.stop ending next) (later : List Turn) :
    f.follow (earlier ++ turn :: later) =
        ((f.spot.afterAll ((earlier ++ [turn]).map Turn.responders)).follower next, ending) ∧
      f.exchanges (earlier ++ turn :: later) =
        f.spot.exchanges ((earlier ++ [turn]).map Turn.responders) := by
  obtain ⟨hfollow, hexchanges⟩ := follow_append_of_passes hpasses (turn :: later)
  obtain ⟨hlast, hlastExchanges⟩ := follow_of_ends
    (f := (f.spot.afterAll (earlier.map Turn.responders)).follower b) hends later
  rw [hfollow, hexchanges, hlast, hlastExchanges, List.map_append, Spot.afterAll_append,
    Spot.exchanges_append]
  exact ⟨rfl, rfl⟩

/-- Either all turns pass, or there is a first one that ends following. -/
theorem passes_or_ends (f : Follower) (turns : List Turn) :
    (∃ b, f.Passes turns b) ∨
      ∃ earlier turn later b ending next, turns = earlier ++ turn :: later ∧
        f.Passes earlier b ∧ (f.pollAfter earlier turn).Ends b turn.stop ending next := by
  -- A turn is reached only if all turns before it pass, so the last one is split off.
  induction turns using List.reverseRecOn with
  | nil => exact Or.inl ⟨_, f.passes_nil⟩
  | append_singleton earlier turn ih =>
      rcases ih with ⟨b, hpasses⟩ | ⟨first, last, between, b, ending, next, rfl, hpasses, hends⟩
      · rcases ends_or_waits ((f.spot.afterAll (earlier.map Turn.responders)).follower b) turn with
          ⟨ending, next, hends⟩ | ⟨next, hgoes, hnext, hstop⟩
        · exact Or.inr ⟨earlier, turn, [], b, ending, next, rfl, hpasses, hends⟩
        · have hturn := passes_singleton_iff.mpr ⟨hgoes, hnext, hstop⟩
          exact Or.inl ⟨next, passes_append_iff.mpr ⟨b, hpasses, hturn⟩⟩
      · refine Or.inr ⟨first, last, between ++ [turn], b, ending, next, ?_, hpasses, hends⟩
        rw [List.append_assoc, List.cons_append]

/-- A turn that ends following does not pass. -/
theorem not_passes_of_ends {after : Backoff} (hpasses : f.Passes earlier b)
    (hends : (f.pollAfter earlier turn).Ends b turn.stop ending next) :
    ¬ f.Passes (earlier ++ turn :: later) after := by
  intro hall
  obtain ⟨between, hfront, hrest⟩ := passes_append_iff.mp hall
  obtain rfl : b = between := Except.ok.inj (hpasses.waits.symm.trans hfront.waits)
  obtain ⟨_, hturn, -⟩ := passes_append_iff.mp (List.singleton_append ▸ hrest)
  obtain ⟨hgoes, hnext, hstop⟩ := passes_singleton_iff.mp hturn
  exact Bool.eq_false_iff.mp hstop (hends.stop_of_waits hgoes hnext)

/-- How following ends, unless it is still going on. -/
theorem follow_ending_iff (hending : ending ≠ .unfinished) : (f.follow turns).2 = ending ↔
    ∃ earlier turn later b next, turns = earlier ++ turn :: later ∧ f.Passes earlier b ∧
      (f.pollAfter earlier turn).Ends b turn.stop ending next := by
  constructor
  · intro hfollow
    rcases f.passes_or_ends turns with
      ⟨b, hpasses⟩ | ⟨earlier, turn, later, b, found, next, rfl, hpasses, hends⟩
    · rw [(follow_of_passes hpasses).1] at hfollow
      exact absurd hfollow.symm hending
    · rw [(follow_append_of_ends hpasses hends later).1] at hfollow
      subst hfollow
      exact ⟨earlier, turn, later, b, next, rfl, hpasses, hends⟩
  · rintro ⟨earlier, turn, later, b, next, rfl, hpasses, hends⟩
    rw [(follow_append_of_ends hpasses hends later).1]

theorem polls_concat (f : Follower) (earlier : List Turn) (turn : Turn) :
    f.spot.polls ((earlier ++ [turn]).map Turn.responders) =
      f.spot.polls (earlier.map Turn.responders) ++ [f.pollAfter earlier turn] := by
  rw [List.map_append, Spot.polls_append]
  rfl

theorem waits_of_ends (hpasses : f.Passes earlier b)
    (hends : (f.pollAfter earlier turn).Ends b turn.stop ending next) :
    f.backoff.nextAll (((f.spot.polls ((earlier ++ [turn]).map Turn.responders)).filter
        Poll.goesOn).map Poll.progress) = ending.waits next := by
  have hearlier : (f.spot.polls (earlier.map Turn.responders)).filter Poll.goesOn =
      f.spot.polls (earlier.map Turn.responders) := List.filter_eq_self.mpr hpasses.goesOn
  rw [polls_concat, List.filter_append, hearlier, List.map_append, Backoff.nextAll_append,
    hpasses.waits]
  exact hends.nextAll_eq_waits

/-- The poll of a turn is made exactly when all turns before it pass. -/
theorem length_lt_iff_passes {between : Turn} {before after : List Turn}
    (hpasses : f.Passes earlier b)
    (hends : (f.pollAfter earlier turn).Ends b turn.stop ending next)
    (hsplit : earlier ++ turn :: later = before ++ between :: after) :
    before.length < (earlier ++ [turn]).length ↔ ∃ b, f.Passes before b := by
  rw [List.length_append, List.length_singleton, Nat.lt_succ_iff]
  constructor
  · intro hlength
    obtain ⟨more, rfl⟩ : before <+: earlier :=
      List.prefix_of_prefix_length_le ⟨_, hsplit.symm⟩ ⟨_, rfl⟩ hlength
    obtain ⟨front, hfront, -⟩ := passes_append_iff.mp hpasses
    exact ⟨front, hfront⟩
  · rintro ⟨front, hfront⟩
    by_contra hlength
    have hmade : earlier ++ [turn] <+: earlier ++ turn :: later := ⟨later, by simp⟩
    have hbefore : before <+: earlier ++ turn :: later := ⟨_, hsplit.symm⟩
    have hle : (earlier ++ [turn]).length ≤ before.length := by
      rw [List.length_append, List.length_singleton]
      omega
    obtain ⟨more, rfl⟩ := List.prefix_of_prefix_length_le hmade hbefore hle
    rw [List.append_assoc] at hfront
    exact not_passes_of_ends hpasses hends hfront

theorem failed_iff (f : Follower) (turns : List Turn) (error : ClientError) :
    (f.follow turns).2 = .failed error ↔
      ∃ earlier turn later b, turns = earlier ++ turn :: later ∧ f.Passes earlier b ∧
        (f.pollAfter earlier turn).result = some (.error error) ∧ error.isRetryable = false := by
  rw [follow_ending_iff (by simp)]
  constructor
  · rintro ⟨earlier, turn, later, b, _, hturns, hpasses, hends⟩
    cases hends with
    | failed hresult hfinal => exact ⟨earlier, turn, later, b, hturns, hpasses, hresult, hfinal⟩
  · rintro ⟨earlier, turn, later, b, hturns, hpasses, hresult, hfinal⟩
    exact ⟨earlier, turn, later, b, b, hturns, hpasses, .failed hresult hfinal⟩

theorem stopped_iff (f : Follower) (turns : List Turn) :
    (f.follow turns).2 = .stopped ↔
      ∃ earlier turn later b next, turns = earlier ++ turn :: later ∧ f.Passes earlier b ∧
        (f.pollAfter earlier turn).goesOn = true ∧
        b.next (f.pollAfter earlier turn).progress = .ok next ∧ turn.stop = true := by
  rw [follow_ending_iff (by simp)]
  constructor
  · rintro ⟨earlier, turn, later, b, next, hturns, hpasses, hends⟩
    cases hends with
    | stopped hgoes hnext hstop =>
        exact ⟨earlier, turn, later, b, next, hturns, hpasses, hgoes, hnext, hstop⟩
  · rintro ⟨earlier, turn, later, b, next, hturns, hpasses, hgoes, hnext, hstop⟩
    exact ⟨earlier, turn, later, b, next, hturns, hpasses, .stopped hgoes hnext hstop⟩

theorem overflow_iff (f : Follower) (turns : List Turn) (error : Duration.RangeError) :
    (f.follow turns).2 = .overflow error ↔
      ∃ earlier turn later b, turns = earlier ++ turn :: later ∧ f.Passes earlier b ∧
        (f.pollAfter earlier turn).goesOn = true ∧
        b.next (f.pollAfter earlier turn).progress = .error error := by
  rw [follow_ending_iff (by simp)]
  constructor
  · rintro ⟨earlier, turn, later, b, _, hturns, hpasses, hends⟩
    cases hends with
    | overflow hgoes hnext => exact ⟨earlier, turn, later, b, hturns, hpasses, hgoes, hnext⟩
  · rintro ⟨earlier, turn, later, b, hturns, hpasses, hgoes, hnext⟩
    exact ⟨earlier, turn, later, b, b, hturns, hpasses, .overflow hgoes hnext⟩

theorem exists_followsByHand (f : Follower) (turns : List Turn) :
    ∃ made, f.FollowsByHand turns made := by
  rcases f.passes_or_ends turns with
    ⟨b, hpasses⟩ | ⟨earlier, turn, later, b, ending, next, rfl, hpasses, hends⟩
  · obtain ⟨hfollow, hexchanges⟩ := follow_of_passes hpasses
    refine ⟨turns, List.prefix_rfl, id, ?_, ?_, hexchanges, ?_, f.failed_iff turns,
      f.stopped_iff turns, f.overflow_iff turns⟩
    · rintro before between after rfl
      obtain ⟨front, hfront, -⟩ := passes_append_iff.mp hpasses
      simp only [List.length_append, List.length_cons, Nat.lt_add_right_iff_pos, Nat.succ_pos,
        true_iff]
      exact ⟨front, hfront⟩
    · rw [hfollow]
      rfl
    · rw [hfollow, List.filter_eq_self.mpr hpasses.goesOn]
      exact hpasses.waits
  · obtain ⟨hfollow, hexchanges⟩ := follow_append_of_ends hpasses hends later
    refine ⟨earlier ++ [turn], ⟨later, by simp⟩, by simp, ?_, ?_, hexchanges, ?_,
      f.failed_iff _, f.stopped_iff _, f.overflow_iff _⟩
    · intro before between after hsplit
      exact length_lt_iff_passes hpasses hends hsplit
    · rw [hfollow]
      rfl
    · rw [hfollow]
      exact waits_of_ends hpasses hends

/-- A follower makes the polls that are made by hand.  It fails exactly with the first of them that another
try cannot mend, it stops exactly when the stop is taken in a wait, and it ends in no other way, unless
the next wait leaves the range of time spans.  The clock only chooses the turns. -/
theorem follow_by_hand (f : Follower) :
    (∀ turns, ∃ made, f.FollowsByHand turns made) ∧
      ∀ (stopAt limit now : Nat) (w : World) (changes : List TimedChange),
        ∃ turns, turns ≠ [] ∧
          (followByClock stopAt limit now w f changes).ReportsOutcome f.sink (f.follow turns) := by
  constructor
  · exact exists_followsByHand f
  · intro stopAt limit now w changes
    exact World.followByClock_reportsOutcome stopAt limit now w f changes

/-- The file of a task is missing at first, and no wait may be longer than twenty milliseconds.  Yet
following neither polls again nor waits for the stop: the factor takes the next wait out of the range of
time spans before it is cut. -/
theorem follow_ends_without_stop :
    let m := Monitor.afterHistory [⟨⟨"t"⟩, ⟨"f"⟩⟩] defaultMaxReadSize
    let answered : Opening → Responder := fun opening =>
      clientRead defaultMaxReplySize (m.server opening).delivered
    let first : Turn := ⟨[answered fun _ => .error .notFound], false⟩
    let second : Turn := ⟨List.replicate 2 (answered fun _ => .ok (.regular "hello".toUTF8)), false⟩
    let f : Follower := ⟨.ofTask ⟨"t"⟩, .fresh .accept,
      .start (.ofMillis 10) (.ofMillis 20) (.ofDecimal false 1 300)⟩
    (f.pollOf first).goesOn = true ∧ (f.follow [first, second]).2 = .overflow .tooBig ∧
      (f.exchanges [first, second]).length = 1 := by
  intro m answered first second f
  have hgoes : (f.pollOf first).goesOn = true := by decide +kernel
  have hnext : f.backoff.next (f.pollOf first).progress = .error .tooBig := by decide +kernel
  have hends : (f.pollOf first).Ends f.backoff first.stop (.overflow .tooBig) f.backoff :=
    .overflow hgoes hnext
  obtain ⟨hfollow, hexchanges⟩ := follow_of_ends hends [second]
  refine ⟨hgoes, by rw [hfollow], ?_⟩
  rw [hexchanges]
  decide +kernel

end Follower

end TaskTail
