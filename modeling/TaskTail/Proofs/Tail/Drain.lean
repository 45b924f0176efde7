/-
Draining an output that stays as it is.  How many bytes one call brings is up to the tail, the wire and the
monitor, and each call but the last brings as many as are left and allowed.  So the calls of a poll can be
counted beforehand, and what they bring together is the rest of the output, in chunks of whatever size.
-/
import Mathlib.Algebra.Order.Floor.Div
import Mathlib.Tactic.Common
import TaskTail.Proofs.Client.ReplyLimit
import TaskTail.Proofs.Tail.Known

namespace TaskTail

/-- The number of bytes that one call brings at most, through a monitor with a cap. -/
def Tail.step (t : Tail) (cap : Nat) : Nat :=
  min (min t.chunkSize maxWireSize) cap

/-- A first step leaves one step less. -/
theorem ceilDiv_eq_add_one {n k : Nat} (hk : 0 < k) (hn : 0 < n) :
    n ⌈/⌉ k = (n - k) ⌈/⌉ k + 1 := by
  simp only [Nat.ceilDiv_eq_add_pred_div]
  rcases Nat.le_total n k with hle | hle
  · have hlast : n - k + k - 1 = k - 1 := by omega
    have hfirst : n + k - 1 = n - 1 + k := by omega
    rw [hlast, hfirst, Nat.add_div_right _ hk, Nat.div_eq_of_lt (by omega : n - 1 < k),
      Nat.div_eq_of_lt (by omega : k - 1 < k)]
  · have hlast : n - k + k - 1 = n - 1 := by omega
    have hfirst : n + k - 1 = n - 1 + k := by omega
    rw [hlast, hfirst, Nat.add_div_right _ hk]

namespace Scene

/-- The task of the tail has a file at the scene that holds `content`, and that opens and can be read; the monitor has
the cap, and its replies to the tail and to what becomes of it are not too long for the client. -/
structure Serves (tail : Tail) (content : ByteArray) (cap limit : Nat) (s : Scene) : Prop where
  maxReadSize : s.monitor.maxReadSize = cap
  file : ∃ path file, s.monitor.registry.resolve? tail.task = some path ∧
    s.opening path = .ok file ∧ file.Within content ∧ file.Readable content
  fits : ∀ offset reply, tail.offset ≤ offset →
    s.monitor.server s.opening (tail.withOffset offset).request.toWire = .ok reply →
      reply.encodedLength ≤ limit

variable {s : Scene} {tail : Tail} {content : ByteArray} {cap limit : Nat}

theorem Serves.withOffset (hserves : s.Serves tail content cap limit) {offset : Nat}
    (hle : tail.offset ≤ offset) : s.Serves (tail.withOffset offset) content cap limit :=
  ⟨hserves.maxReadSize, hserves.file, fun later reply hlater => hserves.fits later reply (hle.trans hlater)⟩

/-- The client gets what the file gives at the offset that is sent. -/
theorem Serves.exists_file (hserves : s.Serves tail content cap limit) :
    ∃ file : OpenFile, file.Within content ∧ file.Readable content ∧
      s.respond limit tail.request =
        .ok (file.readRange (min tail.offset maxWireOffset) (tail.step cap)) := by
  obtain ⟨path, file, hpath, hopening, hwithin, hreadable⟩ := hserves.file
  have hserver : s.monitor.server s.opening tail.request.toWire =
      .ok (file.readRange (min tail.offset maxWireOffset) (tail.step cap)).toWire := by
    rw [Monitor.server_toWire, readRange_of_opened hpath hopening, hserves.maxReadSize]
    rfl
  have hfits := hserves.fits tail.offset _ (Nat.le_refl _) hserver
  refine ⟨file, hwithin, hreadable, ?_⟩
  rw [respond, ← Server.through_delivered]
  apply clientRead_through_of_length_le _ hserver
  rw [WireReply.length_encode_eq_encodedLength]
  exact hfits

/-- A client that may ask for something gets the next bytes of the content, or the end. -/
theorem Serves.respond_eq (hserves : s.Serves tail content cap limit)
    (hsize : content.size ≤ maxWireOffset) (hstep : 0 < tail.step cap) :
    s.respond limit tail.request = .ok (if content.size ≤ tail.offset then .atEnd else
      .ofData (content.extract tail.offset (min (tail.offset + tail.step cap) content.size))) := by
  obtain ⟨file, hwithin, hreadable, hanswer⟩ := hserves.exists_file
  rw [hanswer, OpenFile.readRange_of_content hwithin hreadable
    (Or.inl (hsize.trans maxWireOffset_le_maxOffset)) hstep]
  by_cases hend : content.size ≤ tail.offset
  · rw [if_pos hend, if_pos (Nat.le_min.mpr ⟨hend, hsize⟩)]
  · rw [Nat.min_eq_left (by omega : tail.offset ≤ maxWireOffset)]

/-- A client that may ask for nothing gets neither. -/
theorem Serves.respond_of_step_zero (hserves : s.Serves tail content cap limit)
    (hstep : tail.step cap = 0) : s.respond limit tail.request = .ok (.ofData .empty) := by
  obtain ⟨file, _, _, hanswer⟩ := hserves.exists_file
  rw [hanswer, hstep, OpenFile.readRange_zero]

/-- A client with some room beyond the cap takes every reply. -/
theorem serves_of_room {path : Path} {file : OpenFile} (hcap : s.monitor.maxReadSize = cap)
    (hpath : s.monitor.registry.resolve? tail.task = some path) (hopening : s.opening path = .ok file)
    (hwithin : file.Within content) (hreadable : file.Readable content) (hroom : cap + 8 ≤ limit) :
    s.Serves tail content cap limit := by
  refine ⟨hcap, ⟨path, file, hpath, hopening, hwithin, hreadable⟩, ?_⟩
  intro offset reply _ hreply
  have hlength := Monitor.length_encode_readOutput_le hreply
  rw [hcap] at hlength
  rw [← reply.length_encode_eq_encodedLength]
  exact hlength.trans hroom

end Scene

namespace Poll

variable {p q : Poll} {content : ByteArray} {cap limit : Nat} {scenes : List Scene}

theorem Took.trans {next : Poll} {first second : ByteArray} (hfirst : Took p first next)
    (hsecond : Took next second q) : Took p (first ++ second) q := by
  refine ⟨?_, hsecond.rule, ?_, ?_⟩
  · rw [hsecond.tail, hfirst.tail, ByteArray.size_append, ← Nat.add_assoc]
    rfl
  · rw [hsecond.received, hfirst.received, ByteArray.append_assoc]
  · rw [hsecond.written, hfirst.written, ByteArray.size_append, Nat.add_assoc]

/-- With one call, a poll whose answer brings nothing ends well. -/
theorem run_of_empty {reply : RangeReply} {respond : Responder} (hrule : p.sink.rule = .accept)
    (hpending : p.result = none) (hanswer : respond p.tail.request = .ok reply)
    (hdata : reply.data = .empty) (rest : List Responder) :
    Took p .empty (p.run (respond :: rest)).1 ∧
      (p.run (respond :: rest)).1.result = some (.ok (p.run (respond :: rest)).1.written) ∧
      (p.exchanges (respond :: rest)).length = 1 := by
  have hfed := fed_feed hrule hpending (.ok reply)
  have hover : (p.feed (.ok reply)).result = some (.ok (p.feed (.ok reply)).written) := by
    rw [hfed.result, resultAfter, isEmpty_iff.mpr hdata]
    rfl
  rw [run_cons_of_pending hpending, exchanges_cons_of_pending hpending, hanswer, run_of_over hover,
    exchanges_of_over hover]
  have htook := hfed.toTook
  rw [answerBytes, hdata] at htook
  exact ⟨htook, hover, rfl⟩

/-- An answer with a chunk keeps the poll going. -/
theorem feed_of_chunk {chunk : ByteArray} (hrule : p.sink.rule = .accept) (hpending : p.result = none)
    (hchunk : 0 < chunk.size) : Took p chunk (p.feed (.ok (.ofData chunk))) ∧
      (p.feed (.ok (.ofData chunk))).result = none := by
  have hfed := fed_feed hrule hpending (.ok (.ofData chunk))
  refine ⟨hfed.toTook, ?_⟩
  have hbytes : ¬ chunk.isEmpty = true := by
    rw [isEmpty_iff, ← ByteArray.size_eq_zero_iff]
    omega
  rw [hfed.result, resultAfter, RangeReply.ofData, Bool.or_false, if_neg hbytes]

/-- A poll takes the rest of the content, in as many calls as it has steps, and one more for its end. -/
theorem took_rest (hrule : p.sink.rule = .accept) (hpending : p.result = none)
    (hsize : content.size ≤ maxWireOffset) (hstep : 0 < p.tail.step cap)
    (hserves : ∀ s ∈ scenes, s.Serves p.tail content cap limit)
    (hcalls : (content.size - p.tail.offset) ⌈/⌉ p.tail.step cap < scenes.length) :
    let q := (p.run (respondAll limit scenes)).1
    Took p (content.extract p.tail.offset content.size) q ∧ q.result = some (.ok q.written) ∧
      (p.exchanges (respondAll limit scenes)).length =
        (content.size - p.tail.offset) ⌈/⌉ p.tail.step cap + 1 := by
  induction scenes generalizing p with
  | nil => exact (Nat.not_lt_zero _ hcalls).elim
  | cons s rest ih =>
      have hanswer := (hserves s List.mem_cons_self).respond_eq hsize hstep
      by_cases hend : content.size ≤ p.tail.offset
      · rw [if_pos hend] at hanswer
        have hrest : content.extract p.tail.offset content.size = .empty :=
          ByteArray.extract_eq_empty_iff.mpr (by omega)
        rw [hrest, Nat.sub_eq_zero_of_le hend, zero_ceilDiv, Nat.zero_add]
        exact run_of_empty hrule hpending hanswer rfl (respondAll limit rest)
      · rw [if_neg hend] at hanswer
        -- The next chunk ends one step further, or with the content.
        let stop := min (p.tail.offset + p.tail.step cap) content.size
        let chunk := content.extract p.tail.offset stop
        let next := p.feed (.ok (.ofData chunk))
        have hchunk : p.tail.offset + chunk.size = stop := by
          simp only [chunk, stop, ByteArray.size_extract]
          omega
        have hleft : content.size - p.tail.offset - p.tail.step cap = content.size - stop := by
          simp only [stop]
          omega
        have hpos : 0 < chunk.size := by omega
        obtain ⟨htook, hnext⟩ := feed_of_chunk hrule hpending hpos
        have htail : next.tail = p.tail.withOffset stop := by rw [htook.tail, hchunk]
        have hmore : ∀ s ∈ rest, s.Serves next.tail content cap limit := by
          intro s hs
          rw [htail]
          exact (hserves s (List.mem_cons_of_mem _ hs)).withOffset (by omega)
        have hcount := ceilDiv_eq_add_one hstep (Nat.sub_pos_of_lt (Nat.lt_of_not_le hend))
        rw [hleft] at hcount
        rw [hcount, List.length_cons] at hcalls
        obtain ⟨hrest, hresult, hlength⟩ := ih (p := next) htook.rule hnext (by rw [htail]; exact hstep)
          hmore (by rw [htail]; exact Nat.lt_of_succ_lt_succ hcalls)
        rw [respondAll, List.map_cons, run_cons_of_pending hpending, exchanges_cons_of_pending hpending,
          hanswer, hcount]
        refine ⟨?_, hresult, ?_⟩
        · rw [ByteArray.extract_eq_extract_append_extract stop (by omega) (Nat.min_le_right _ _)]
          rw [htail] at hrest
          exact htook.trans hrest
        · rw [htail] at hlength
          exact congrArg Nat.succ hlength

end Poll

/-- The calls of a poll that starts at `origin` of an output with a fixed content. -/
structure Drain (task : TaskId) (content : ByteArray) (origin : Nat) where
  chunkSize : Nat
  /-- The cap of the monitor. -/
  cap : Nat
  /-- The limit of the client on replies. -/
  limit : Nat
  scenes : List Scene
  serves : ∀ s ∈ scenes, s.Serves (((Tail.ofTask task).withOffset origin).withChunkSize chunkSize)
    content cap limit

namespace Drain

variable {task : TaskId} {content : ByteArray} {origin : Nat}

def tail (d : Drain task content origin) : Tail :=
  ((Tail.ofTask task).withOffset origin).withChunkSize d.chunkSize

/-- The number of bytes that one call brings at most. -/
def step (d : Drain task content origin) : Nat :=
  min (min (max d.chunkSize 1) maxWireSize) d.cap

def exchanges (d : Drain task content origin) (sink : Sink) : List Exchange :=
  (Poll.start d.tail sink).exchanges (respondAll d.limit d.scenes)

def poll (d : Drain task content origin) (sink : Sink) : Poll :=
  ((Poll.start d.tail sink).run (respondAll d.limit d.scenes)).1

/-- There are enough calls: one for each step, and one more. -/
def Suffices (d : Drain task content origin) : Prop :=
  (content.size - origin) ⌈/⌉ d.step < d.scenes.length

/-- A poll of up to `count` calls of a monitor that knows only this task, with a regular file. -/
def ofRegular (path : Path) (chunkSize cap count : Nat) : Drain task content origin where
  chunkSize := chunkSize
  cap := cap
  limit := cap + 8
  scenes := List.replicate count
    ⟨⟨Registry.empty.register ⟨task, path⟩, cap⟩, fun _ => .ok (.regular content)⟩
  serves := by
    intro s hs
    obtain rfl := List.eq_of_mem_replicate hs
    have hpath : (Registry.empty.register ⟨task, path⟩).resolve? task = some path := by
      rw [Registry.resolve?_register, if_pos rfl]
    exact Scene.serves_of_room rfl hpath rfl (OpenFile.regular_within content)
      (OpenFile.regular_readable content) (Nat.le_refl _)

theorem step_pos {d : Drain task content origin} (hcap : 0 < d.cap) : 0 < d.step := by
  rw [step, maxWireSize]
  omega

variable {d : Drain task content origin} {sink : Sink}

theorem poll_of_step_pos (hrule : sink.rule = .accept) (hsize : content.size ≤ maxWireOffset)
    (hstep : 0 < d.step) (hcalls : d.Suffices) :
    (d.poll sink).result = some (.ok (content.size - origin)) ∧
      (d.poll sink).sink.received = sink.received ++ content.extract origin content.size ∧
      (d.poll sink).tail = d.tail.withOffset (max origin content.size) ∧
      (d.exchanges sink).length = (content.size - origin) ⌈/⌉ d.step + 1 := by
  obtain ⟨htook, hresult, hlength⟩ := Poll.took_rest (p := Poll.start d.tail sink) hrule rfl hsize
    hstep d.serves hcalls
  have hrest : (content.extract origin content.size).size = content.size - origin := by
    rw [ByteArray.size_extract, Nat.min_self]
  have hwritten : (d.poll sink).written = 0 + (content.extract origin content.size).size :=
    htook.written
  have htail : (d.poll sink).tail =
      d.tail.withOffset (origin + (content.extract origin content.size).size) := htook.tail
  have hend : origin + (content.size - origin) = max origin content.size := by omega
  have hpoll : (d.poll sink).result = some (.ok (d.poll sink).written) := hresult
  rw [hrest, hend] at htail
  rw [hwritten, Nat.zero_add, hrest] at hpoll
  exact ⟨hpoll, htook.received, htail, hlength⟩

theorem poll_of_step_zero (hrule : sink.rule = .accept) (hstep : d.step = 0)
    (hcalls : d.scenes ≠ []) :
    (d.poll sink).result = some (.ok 0) ∧ (d.poll sink).sink.received = sink.received ∧
      (d.poll sink).tail = d.tail ∧ (d.exchanges sink).length = 1 := by
  obtain ⟨s, rest, hscenes⟩ := List.exists_cons_of_ne_nil hcalls
  have hanswer : s.respond d.limit d.tail.request = .ok (.ofData .empty) := by
    apply (d.serves s _).respond_of_step_zero hstep
    rw [hscenes]
    exact List.mem_cons_self
  obtain ⟨htook, hresult, hlength⟩ := Poll.run_of_empty (p := Poll.start d.tail sink) hrule rfl
    hanswer rfl (respondAll d.limit rest)
  have hall : respondAll d.limit d.scenes = s.respond d.limit :: respondAll d.limit rest := by
    rw [hscenes]
    rfl
  rw [← hall] at htook hresult hlength
  have hwritten : (d.poll sink).written = 0 := htook.written
  have hpoll : (d.poll sink).result = some (.ok (d.poll sink).written) := hresult
  rw [hwritten] at hpoll
  exact ⟨hpoll, htook.received.trans ByteArray.append_empty, htook.tail, hlength⟩

/-- A poll drains an output that stays as it is.  It ends with the call after the last step, having copied all that
was left and nothing twice; where nothing is left, or where the monitor lets nothing through, it ends with the first
call.  So neither the size of the chunks nor the cap matters to what is copied. -/
theorem drains (d : Drain task content origin) (sink : Sink) (hrule : sink.rule = .accept)
    (hsize : content.size ≤ maxWireOffset) :
    (0 < d.step → origin < content.size → d.Suffices →
      (d.poll sink).result = some (.ok (content.size - origin)) ∧
      (d.poll sink).sink.received = sink.received ++ content.extract origin content.size ∧
      (d.poll sink).tail = d.tail.withOffset content.size ∧
      (d.exchanges sink).length = (content.size - origin) ⌈/⌉ d.step + 1) ∧
    (d.step = 0 ∨ content.size ≤ origin → d.scenes ≠ [] →
      (d.poll sink).result = some (.ok 0) ∧ (d.poll sink).sink.received = sink.received ∧
      (d.poll sink).tail = d.tail ∧ (d.exchanges sink).length = 1) ∧
    ∀ e : Drain task content origin, 0 < d.cap → 0 < e.cap → d.Suffices → e.Suffices →
      (d.poll sink).sink.received = (e.poll sink).sink.received ∧
      (d.poll sink).result = (e.poll sink).result ∧
      (d.poll sink).tail.offset = (e.poll sink).tail.offset := by
  refine ⟨?_, ?_, ?_⟩
  · intro hstep hlt hcalls
    obtain ⟨hresult, hreceived, htail, hlength⟩ := poll_of_step_pos hrule hsize hstep hcalls
    rw [Nat.max_eq_right (Nat.le_of_lt hlt)] at htail
    exact ⟨hresult, hreceived, htail, hlength⟩
  · intro hnothing hcalls
    rcases Nat.eq_zero_or_pos d.step with hstep | hstep
    · exact poll_of_step_zero hrule hstep hcalls
    · have hend : content.size ≤ origin := hnothing.resolve_left (Nat.ne_of_gt hstep)
      have hone : (content.size - origin) ⌈/⌉ d.step = 0 := by
        rw [Nat.sub_eq_zero_of_le hend, zero_ceilDiv]
      have hsuffices : d.Suffices := by
        rw [Suffices, hone]
        exact List.length_pos_iff.mpr hcalls
      obtain ⟨hresult, hreceived, htail, hlength⟩ := poll_of_step_pos hrule hsize hstep hsuffices
      rw [Nat.sub_eq_zero_of_le hend] at hresult
      rw [ByteArray.extract_eq_empty_iff.mpr (by omega), ByteArray.append_empty] at hreceived
      rw [Nat.max_eq_left hend] at htail
      rw [hone] at hlength
      exact ⟨hresult, hreceived, htail, hlength⟩
  · intro e hcap hcap' hcalls hcalls'
    obtain ⟨hresult, hreceived, htail, _⟩ := poll_of_step_pos hrule hsize (step_pos hcap) hcalls
    obtain ⟨hresult', hreceived', htail', _⟩ := poll_of_step_pos hrule hsize (step_pos hcap') hcalls'
    refine ⟨hreceived.trans hreceived'.symm, hresult.trans hresult'.symm, ?_⟩
    rw [htail, htail']
    rfl

/-- The last five of six bytes, two at a time, and one at a time for want of a size. -/
theorem drains_six_bytes :
    let d : Drain ⟨"t"⟩ "abcdef".toUTF8 1 := ofRegular ⟨"f"⟩ 2 5 4
    let e : Drain ⟨"t"⟩ "abcdef".toUTF8 1 := ofRegular ⟨"f"⟩ 0 3 9
    (d.poll (.fresh .accept)).result = some (.ok 5) ∧ (d.exchanges (.fresh .accept)).length = 4 ∧
      (d.poll (.fresh .accept)).sink.received = "bcdef".toUTF8 ∧
      (e.poll (.fresh .accept)).sink.received = "bcdef".toUTF8 := by
  intro d e
  have hsize : "abcdef".toUTF8.size = 6 := by decide
  have hd : d.Suffices := by
    have hcalls : (6 - 1) ⌈/⌉ 2 < 4 := by decide
    rw [Suffices, hsize]
    exact hcalls
  have he : e.Suffices := by
    have hcalls : (6 - 1) ⌈/⌉ 1 < 9 := by decide
    rw [Suffices, hsize]
    exact hcalls
  have hstep : d.step = 2 := rfl
  have hwire : "abcdef".toUTF8.size ≤ maxWireOffset := by decide
  obtain ⟨hwhole, -, hsame⟩ := drains d (.fresh .accept) rfl hwire
  obtain ⟨hresult, hreceived, -, hlength⟩ := hwhole Nat.two_pos (by decide) hd
  obtain ⟨hother, -, -⟩ := hsame e (Nat.succ_pos 4) (Nat.succ_pos 2) hd he
  have hrest : ByteArray.empty ++ "abcdef".toUTF8.extract 1 "abcdef".toUTF8.size = "bcdef".toUTF8 := by
    decide +kernel
  have hfirst : (d.poll (.fresh .accept)).sink.received = "bcdef".toUTF8 := hreceived.trans hrest
  rw [hstep] at hlength
  exact ⟨hresult, hlength, hfirst, hother.symm.trans hfirst⟩

end Drain

end TaskTail
