/-
How far a tail can come.  The offset that the monitor reads at is not the one of the tail once that is too great for
the wire; yet a tail moves only by bytes that a file has behind its own offset.  So while no file goes on
past the greatest offset of the wire, whatever happens to the files and the tasks between the calls and during
them, a tail comes no further than the file that it reads, the counts fit their words, and a tail that
starts past that offset stays where it is.
-/
import Mathlib.Tactic.Common
import TaskTail.Proofs.Range.Outcomes
import TaskTail.Proofs.Tail.Account
import TaskTail.Proofs.Tail.Drain
import TaskTail.Proofs.Tail.Known

namespace TaskTail

/-- The read gives no byte at `bound` or behind it. -/
def ReadOutcome.EndsBy (bound position : Nat) (outcome : ReadOutcome) : Prop :=
  outcome.given = .empty ∨ position + outcome.given.size ≤ bound

/-- The file has at most `bound` bytes, as its metadata tell when it is opened, or as its reads show. -/
def OpenFile.NoLongerThan (file : OpenFile) (bound : Nat) : Prop :=
  (∃ n, file.length = some n ∧ n ≤ bound) ∨
    file.Reads fun position _ outcome => outcome.EndsBy bound position

theorem OpenFile.regular_noLongerThan {content : ByteArray} {bound : Nat} (hle : content.size ≤ bound) :
    (regular content).NoLongerThan bound :=
  Or.inl ⟨content.size, rfl, hle⟩

/-- A fill that gets bytes ends where its reads end.  Their positions are cut to the greatest offset, but no
read gets bytes there. -/
theorem Fill.add_size_le {file : OpenFile} {bound offset size : Nat}
    (hfile : file.Reads fun position _ outcome => outcome.EndsBy bound position)
    (hbound : bound ≤ maxOffset) :
    (ofFile file offset size).bytes = .empty ∨
      offset + (ofFile file offset size).bytes.size ≤ bound := by
  apply ofFile_induction (P := fun g => g.bytes = .empty ∨ offset + g.bytes.size ≤ bound) hfile
  · intro g position room outcome hoffset _ hnext houtcome hbytes
    obtain ⟨_, hlt, hask⟩ := next?_eq_some hnext
    cases hask
    rcases outcome with data | _ | error
    · rw [feed_bytes (Nat.sub_pos_of_lt hlt)]
      split
      · exact hbytes
      · rename_i hdata
        have hle : min (g.offset + g.bytes.size) maxOffset + data.size ≤ bound :=
          houtcome.resolve_left (mt ByteArray.size_eq_zero_iff.mpr hdata)
        right
        rw [ByteArray.size_append, ByteArray.size_extract]
        omega
    · exact hbytes
    · simp only [feed]
      split <;> exact hbytes
  · exact Or.inl rfl

/-- A reply with bytes ends where the file ends. -/
theorem OpenFile.add_size_readRange_le {file : OpenFile} {bound offset size : Nat}
    (hfile : file.NoLongerThan bound) (hbound : bound ≤ maxOffset)
    (hdata : (file.readRange offset size).data ≠ .empty) :
    offset + (file.readRange offset size).data.size ≤ bound := by
  rcases file.readRange_cases offset size with hend | ⟨data, hread, _, hreply⟩
  · rw [hend] at hdata
    exact (hdata rfl).elim
  · rw [hreply] at hdata ⊢
    have hpos : data.size ≠ 0 := mt ByteArray.size_eq_zero_iff.mp hdata
    rcases hfile with ⟨n, hlength, hn⟩ | hreads
    · have hsize := size_readUpTo_le hread
      simp only [capacity, hlength, Option.elim_some] at hsize
      have hle : offset + data.size ≤ n := by omega
      exact hle.trans hn
    · have hbytes : (Fill.ofFile file offset (file.capacity offset size)).bytes = data :=
        Fill.bytes_of_result hread
      subst hbytes
      exact (Fill.add_size_le hreads hbound).resolve_left hdata

namespace Scene

variable {s : Scene} {limit : Nat} {request : RangeRequest} {reply : RangeReply}

/-- No file that opens at the scene has more than `bound` bytes. -/
def NoLongerThan (s : Scene) (bound : Nat) : Prop :=
  ∀ path file, s.opening path = .ok file → file.NoLongerThan bound

/-- A reply with bytes was read at the very offset that was asked for, and ends where the file ends. -/
theorem exists_file_of_data (hfiles : s.NoLongerThan maxWireOffset)
    (hreply : s.respond limit request = .ok reply) (hdata : reply.data ≠ .empty) :
    ∃ path file, s.monitor.registry.resolve? request.task = some path ∧
      s.opening path = .ok file ∧ ∀ bound, bound ≤ maxOffset → file.NoLongerThan bound →
        request.offset + reply.data.size ≤ bound := by
  obtain ⟨path, file, hpath, hopening, rfl⟩ := Monitor.exists_file_of_clientRead hreply
  have huncut : min request.offset maxWireOffset = request.offset := by
    have hle := OpenFile.add_size_readRange_le (hfiles path file hopening) maxWireOffset_le_maxOffset
      hdata
    have hpos := mt ByteArray.size_eq_zero_iff.mp hdata
    omega
  refine ⟨path, file, hpath, hopening, ?_⟩
  intro bound hbound hfile
  have hle := OpenFile.add_size_readRange_le hfile hbound hdata
  rw [huncut] at hle ⊢
  exact hle

theorem add_size_le_of_data (hfiles : s.NoLongerThan maxWireOffset)
    (hreply : s.respond limit request = .ok reply) (hdata : reply.data ≠ .empty) :
    request.offset + reply.data.size ≤ maxWireOffset := by
  obtain ⟨path, file, _, hopening, hends⟩ := exists_file_of_data hfiles hreply hdata
  exact hends maxWireOffset maxWireOffset_le_maxOffset (hfiles path file hopening)

end Scene

/-- The bytes of the answer, if it brings any, end at `bound` or before it. -/
def Exchange.EndsBy (bound : Nat) (x : Exchange) : Prop :=
  answerBytes x.answer ≠ .empty → x.request.offset + (answerBytes x.answer).size ≤ bound

/-- The offset is where it was, or has moved forward to `bound` at most. -/
def Tail.MovedWithin (bound : Nat) (t later : Tail) : Prop :=
  ∃ n, later = t.withOffset (t.offset + n) ∧ (n = 0 ∨ t.offset + n ≤ bound)

namespace Tail

variable {bound : Nat} {t next later : Tail}

theorem MovedWithin.refl (bound : Nat) (t : Tail) : t.MovedWithin bound t :=
  ⟨0, rfl, Or.inl rfl⟩

theorem MovedWithin.trans (hfirst : t.MovedWithin bound next) (hsecond : next.MovedWithin bound later) :
    t.MovedWithin bound later := by
  obtain ⟨n, rfl, hn⟩ := hfirst
  obtain ⟨k, rfl, hk⟩ := hsecond
  refine ⟨n + k, ?_, ?_⟩
  · simp only [withOffset, Nat.add_assoc]
  · simp only [withOffset] at hk
    omega

theorem MovedWithin.le_offset (hmoved : t.MovedWithin bound later) : t.offset ≤ later.offset := by
  obtain ⟨n, rfl, -⟩ := hmoved
  exact Nat.le_add_right _ _

theorem MovedWithin.offset_le (hmoved : t.MovedWithin bound later) :
    later.offset ≤ max t.offset bound := by
  obtain ⟨n, rfl, hn⟩ := hmoved
  simp only [withOffset]
  omega

/-- A tail at the bound or past it does not move. -/
theorem MovedWithin.eq_of_le (hmoved : t.MovedWithin bound later) (hfar : bound ≤ t.offset) :
    later = t := by
  obtain ⟨n, rfl, hn⟩ := hmoved
  obtain rfl : n = 0 := by omega
  rfl

end Tail

namespace Poll

variable {p q : Poll} {xs : List Exchange} {x : Exchange} {taken : List ByteArray} {bound : Nat}

theorem GoesThroughTaking.joined_of_endsBy (hthrough : GoesThroughTaking p xs taken q)
    (hends : ∀ x ∈ xs, x.EndsBy bound) :
    (joined taken).size = 0 ∨ p.tail.offset + (joined taken).size ≤ bound := by
  induction hthrough with
  | pending | failed | empty | refused => exact Or.inl rfl
  | last hdata _ _ =>
      right
      rw [joined_singleton]
      exact hends _ List.mem_cons_self hdata
  | @more p q reply s xs taken hdata _ _ _ ih =>
      have hfirst : p.tail.offset + reply.data.size ≤ bound := hends _ List.mem_cons_self hdata
      have hrest := ih fun x hx => hends x (List.mem_cons_of_mem _ hx)
      right
      rw [joined_cons, ByteArray.size_append, ← Nat.add_assoc]
      rcases hrest with hnone | hle
      · rw [hnone]
        exact hfirst
      · exact hle

/-- What is asked for starts at the offset or behind it. -/
theorem GoesThroughTaking.le_offset_request (hthrough : GoesThroughTaking p xs taken q) (hx : x ∈ xs) :
    p.tail.offset ≤ x.request.offset := by
  obtain ⟨earlier, later, rfl⟩ := List.append_of_mem hx
  rw [hthrough.request_eq]
  exact Nat.le_add_right _ _

/-- Answers without bytes leave the sink as it was. -/
theorem GoesThroughTaking.received_of_silent (hthrough : GoesThroughTaking p xs taken q)
    (hsilent : ∀ x ∈ xs, answerBytes x.answer = .empty) : q.sink.received = p.sink.received := by
  have hchunks : chunksOf xs = [] := by
    rw [chunksOf, List.filter_eq_nil_iff]
    intro data hdata
    obtain ⟨x, hx, rfl⟩ := List.mem_map.mp hdata
    simp [hsilent x hx, ByteArray.isEmpty]
  obtain ⟨s, htake⟩ := hthrough.exists_takeAll?
  rcases hthrough.received htake with ⟨htaken, hreceived⟩ | ⟨chunk, _, _, hall, _⟩
  · rw [hchunks] at htaken
    subst htaken
    cases htake
    exact hreceived
  · rw [hchunks] at hall
    simp at hall

variable {limit : Nat} {scenes : List Scene}

theorem endsBy_of_mem_exchanges (hfiles : ∀ s ∈ scenes, s.NoLongerThan maxWireOffset)
    (hx : x ∈ p.exchanges (respondAll limit scenes)) : x.EndsBy maxWireOffset := by
  obtain ⟨s, hs, hanswer, _⟩ := exists_scene_of_mem_exchanges hx
  intro hdata
  rw [hanswer] at hdata ⊢
  rcases hreply : s.respond limit x.request with error | reply
  · rw [hreply] at hdata
    exact (hdata rfl).elim
  · rw [hreply] at hdata
    exact Scene.add_size_le_of_data (hfiles s hs) hreply hdata

end Poll

namespace Spot

/-- On the exchanges `xs` polls have come from one spot to the other, asking for nothing before the first offset
and getting nothing past `bound`. -/
structure PolledWithin (bound : Nat) (spot : Spot) (xs : List Exchange) (later : Spot) : Prop where
  tail : spot.tail.MovedWithin bound later.tail
  behind : ∀ x ∈ xs, spot.tail.offset ≤ x.request.offset
  ends : ∀ x ∈ xs, x.EndsBy bound
  received : (∀ x ∈ xs, answerBytes x.answer = .empty) → later.sink.received = spot.sink.received

variable {spot next later : Spot} {bound : Nat} {first second xs : List Exchange}

theorem PolledWithin.append (hfirst : spot.PolledWithin bound first next)
    (hsecond : next.PolledWithin bound second later) :
    spot.PolledWithin bound (first ++ second) later := by
  refine ⟨hfirst.tail.trans hsecond.tail, ?_, ?_, ?_⟩
  · intro x hx
    rcases List.mem_append.mp hx with hx | hx
    · exact hfirst.behind x hx
    · exact hfirst.tail.le_offset.trans (hsecond.behind x hx)
  · intro x hx
    rcases List.mem_append.mp hx with hx | hx
    · exact hfirst.ends x hx
    · exact hsecond.ends x hx
  · intro hsilent
    rw [List.forall_mem_append] at hsilent
    rw [hsecond.received hsilent.2, hfirst.received hsilent.1]

/-- From the bound on, polls get nothing and stay where they are. -/
theorem PolledWithin.of_far (hpolled : spot.PolledWithin bound xs later) (hfar : bound ≤ spot.tail.offset) :
    later.tail = spot.tail ∧ later.sink.received = spot.sink.received ∧
      ∀ x ∈ xs, answerBytes x.answer = .empty := by
  have hsilent : ∀ x ∈ xs, answerBytes x.answer = .empty := by
    intro x hx
    by_contra hdata
    have hends := hpolled.ends x hx hdata
    have hbehind := hpolled.behind x hx
    have hsize := mt ByteArray.size_eq_zero_iff.mp hdata
    omega
  exact ⟨hpolled.tail.eq_of_le hfar, hpolled.received hsilent, hsilent⟩

variable {calls : List Scene} {seen : List (List Scene)}

theorem polledWithin_after (spot : Spot) (limit : Nat)
    (hfiles : ∀ s ∈ calls, s.NoLongerThan maxWireOffset) :
    spot.PolledWithin maxWireOffset ((Poll.start spot.tail spot.sink).exchanges (respondAll limit calls))
      (spot.after (respondAll limit calls)) := by
  obtain ⟨taken, hthrough⟩ := Poll.exists_goesThroughTaking (p := Poll.start spot.tail spot.sink) rfl
    (respondAll limit calls)
  have hends : ∀ x ∈ (Poll.start spot.tail spot.sink).exchanges (respondAll limit calls),
      x.EndsBy maxWireOffset := fun x hx => Poll.endsBy_of_mem_exchanges hfiles hx
  exact ⟨⟨(joined taken).size, hthrough.moved.1, hthrough.joined_of_endsBy hends⟩,
    fun x hx => hthrough.le_offset_request hx, hends, hthrough.received_of_silent⟩

theorem polledWithin_afterAll (spot : Spot) (limit : Nat)
    (hfiles : ∀ s ∈ seen.flatten, s.NoLongerThan maxWireOffset) :
    spot.PolledWithin maxWireOffset (spot.exchanges (seen.map (respondAll limit)))
      (spot.afterAll (seen.map (respondAll limit))) := by
  induction seen generalizing spot with
  | nil => exact ⟨.refl _ _, by simp [exchanges], by simp [exchanges], fun _ => rfl⟩
  | cons calls rest ih =>
      rw [List.flatten_cons, List.forall_mem_append] at hfiles
      exact (spot.polledWithin_after limit hfiles.1).append (ih _ hfiles.2)

/-- A poll moves its offset by what it writes. -/
theorem offset_poll (spot : Spot) (calls : List Responder) :
    (spot.poll calls).tail.offset = spot.tail.offset + (spot.poll calls).written := by
  obtain ⟨taken, hthrough⟩ := Poll.exists_goesThroughTaking (p := Poll.start spot.tail spot.sink) rfl calls
  have hwritten : (spot.poll calls).written = 0 + (joined taken).size := hthrough.moved.2
  have htail : (spot.poll calls).tail = spot.tail.withOffset (spot.tail.offset + (joined taken).size) :=
    hthrough.moved.1
  rw [hwritten, htail, Nat.zero_add]
  rfl

/-- At any moment of a poll after others, the next reply with bytes ends where the file ends that it was read
from, so the offset and the count of the poll can be added to.  And if the first poll has started at the greatest
offset of the wire or past it, then all calls ask for that offset and get no bytes, and nothing moves. -/
theorem offset_stays_within (limit : Nat) (spot : Spot) (seen : List (List Scene)) (calls : List Scene)
    (hoffset : spot.tail.offset ≤ maxOffset)
    (hfiles : ∀ s ∈ (seen ++ [calls]).flatten, s.NoLongerThan maxWireOffset) :
    let p := (spot.afterAll (seen.map (respondAll limit))).poll (respondAll limit calls)
    p.tail.offset ≤ maxOffset ∧ p.written ≤ maxOffset ∧
    (∀ (s : Scene) (reply : RangeReply), s.NoLongerThan maxWireOffset →
      s.respond limit p.tail.request = .ok reply →
        p.tail.offset + reply.data.size ≤ maxOffset ∧ p.written + reply.data.size ≤ maxOffset ∧
        (reply.data ≠ .empty → p.tail.offset + reply.data.size ≤ maxWireOffset ∧
          ∃ path file, s.monitor.registry.resolve? p.tail.task = some path ∧
            s.opening path = .ok file ∧ ∀ bound, bound ≤ maxOffset → file.NoLongerThan bound →
              p.tail.offset + reply.data.size ≤ bound)) ∧
    (maxWireOffset ≤ spot.tail.offset →
      p.tail = spot.tail ∧ p.written = 0 ∧ p.sink.received = spot.sink.received ∧
      ∀ x ∈ spot.exchanges ((seen ++ [calls]).map (respondAll limit)),
        x.request.toWire.offset.toInt = maxWireOffset ∧ answerBytes x.answer = .empty) := by
  intro p
  have hpolled := spot.polledWithin_afterAll limit hfiles
  have hlater : spot.afterAll ((seen ++ [calls]).map (respondAll limit)) = ⟨p.tail, p.sink⟩ := by
    rw [List.map_append, afterAll_append]
    rfl
  rw [hlater] at hpolled
  have hmoved : p.tail.offset = (spot.afterAll (seen.map (respondAll limit))).tail.offset + p.written :=
    offset_poll _ _
  have hwire := maxWireOffset_le_maxOffset
  have htail : p.tail.offset ≤ maxOffset := by
    have hle : p.tail.offset ≤ max spot.tail.offset maxWireOffset := hpolled.tail.offset_le
    omega
  refine ⟨htail, by omega, ?_, ?_⟩
  · intro s reply hnow hreply
    by_cases hdata : reply.data = .empty
    · rw [hdata, ByteArray.size_empty]
      exact ⟨htail, by omega, fun hne => (hne rfl).elim⟩
    · have hle : p.tail.offset + reply.data.size ≤ maxWireOffset :=
        Scene.add_size_le_of_data hnow hreply hdata
      exact ⟨by omega, by omega, fun _ => ⟨hle, Scene.exists_file_of_data hnow hreply hdata⟩⟩
  · intro hfar
    obtain ⟨hsame, hreceived, hsilent⟩ := hpolled.of_far hfar
    refine ⟨hsame, ?_, hreceived, ?_⟩
    · rw [List.flatten_append, List.forall_mem_append] at hfiles
      have hstart := (spot.polledWithin_afterAll limit hfiles.1).tail.le_offset
      have hend : p.tail.offset = spot.tail.offset := congrArg Tail.offset hsame
      omega
    · intro x hx
      have hbehind := hpolled.behind x hx
      refine ⟨?_, hsilent x hx⟩
      rw [RangeRequest.toInt_offset_toWire, Nat.min_eq_right (hfar.trans hbehind)]

/-- A file is cut short and then replaced.  A tail in it gets the bytes that it still has, and a tail at the
greatest offset of all gets none. -/
theorem offset_stays_within_cut_file :
    let scene : ByteArray → Scene := fun content =>
      ⟨⟨Registry.empty.register ⟨⟨"t"⟩, ⟨"f"⟩⟩, 4⟩, fun _ => .ok (.regular content)⟩
    let near : Spot := ⟨(Tail.ofTask ⟨"t"⟩).withOffset 1, .fresh .accept⟩
    let far : Spot := ⟨(Tail.ofTask ⟨"t"⟩).withOffset maxOffset, .fresh .accept⟩
    let seen := [[scene "hello".toUTF8], [scene "he".toUTF8]]
    let calls := [scene "other".toUTF8]
    (∃ reply, (scene "he".toUTF8).respond 99 near.tail.request = .ok reply ∧ reply.data = "e".toUTF8 ∧
      near.tail.offset + reply.data.size ≤ 2) ∧
    ((far.afterAll (seen.map (respondAll 99))).poll (respondAll 99 calls)).tail = far.tail := by
  intro scene near far seen calls
  have hfiles : ∀ content : ByteArray, content.size ≤ maxWireOffset →
      (scene content).NoLongerThan maxWireOffset := by
    intro content hsize path file hopening
    cases hopening
    exact OpenFile.regular_noLongerThan hsize
  have hhello := hfiles "hello".toUTF8 (by decide)
  have hcut := hfiles "he".toUTF8 (by decide)
  have hother := hfiles "other".toUTF8 (by decide)
  constructor
  · have hpath : (scene "he".toUTF8).monitor.registry.resolve? near.tail.task = some ⟨"f"⟩ := rfl
    have hserves : (scene "he".toUTF8).Serves near.tail "he".toUTF8 4 99 :=
      Scene.serves_of_room rfl hpath rfl (OpenFile.regular_within _) (OpenFile.regular_readable _)
        (by decide)
    have hreply := hserves.respond_eq (by decide) (by decide)
    have hdata : "he".toUTF8.extract 1 (min (1 + 4) "he".toUTF8.size) = "e".toUTF8 := by
      decide +kernel
    have hbytes : "he".toUTF8.extract 1 (min (1 + 4) "he".toUTF8.size) ≠ .empty := by
      rw [hdata, Ne, ← ByteArray.size_eq_zero_iff]
      decide
    obtain ⟨-, -, hnext, -⟩ := offset_stays_within 99 near [] [] (by decide) (by simp)
    obtain ⟨-, -, hends⟩ := hnext _ _ hcut hreply
    obtain ⟨-, path, file, -, hopening, hbound⟩ := hends hbytes
    cases hopening
    exact ⟨_, hreply, hdata, hbound 2 (by decide) (OpenFile.regular_noLongerThan (by decide))⟩
  · have hall : ∀ s ∈ (seen ++ [calls]).flatten, s.NoLongerThan maxWireOffset := by
      change ∀ s ∈ [scene "hello".toUTF8, scene "he".toUTF8, scene "other".toUTF8], _
      rw [List.forall_mem_cons, List.forall_mem_cons, List.forall_mem_singleton]
      exact ⟨hhello, hcut, hother⟩
    obtain ⟨-, -, -, hstays⟩ := offset_stays_within 99 far seen calls (Nat.le_refl _) hall
    exact (hstays maxWireOffset_le_maxOffset).1

end Spot

end TaskTail
