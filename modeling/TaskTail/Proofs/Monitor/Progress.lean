/-
Reading an output to its end.  A reply to a request for at least one byte brings bytes or tells of the end,
and never both, unless the monitor is set to give no bytes at all: then it brings neither.  A client that
asks again and again, each time from where its bytes end, so gets closer to the end with every call.
-/
import Mathlib.Tactic.Common
import TaskTail.CommandLine.Monitor
import TaskTail.Proofs.Client.Agreement
import TaskTail.Proofs.Monitor.Answer

namespace TaskTail

/-- The reply brings bytes or tells of the end, and not both. -/
def WireReply.TellsBytesXorEnd (reply : WireReply) : Prop :=
  Xor (reply.data ≠ .empty) (reply.endOfFile = true)

theorem WireReply.tellsBytesXorEnd_iff (reply : WireReply) :
    reply.TellsBytesXorEnd ↔ (reply.endOfFile = true ↔ reply.data = .empty) := by
  rw [TellsBytesXorEnd, Ne, xor_comm, xor_not_right]

theorem WireRequest.sizeWithin_pos_iff {request : WireRequest} (hsize : 0 < request.size)
    (cap : Nat) : 0 < request.sizeWithin cap ↔ 0 < cap := by
  have hpos : 0 < request.size.toNatClampNeg := by
    rw [Int32.lt_iff_toInt_lt] at hsize
    exact Int.lt_toNat.mpr hsize
  rw [sizeWithin]
  omega

/-- A reply tells something exactly when it was read with room for at least one byte. -/
theorem OpenFile.tellsBytesXorEnd_toWire_iff (file : OpenFile) (offset size : Nat) :
    (file.readRange offset size).toWire.TellsBytesXorEnd ↔ 0 < size := by
  rw [WireReply.tellsBytesXorEnd_iff]
  constructor
  · intro htells
    rcases Nat.eq_zero_or_pos size with rfl | hpos
    · rw [file.readRange_zero] at htells
      exact absurd (htells.mpr rfl) (by decide)
    · exact hpos
  · exact file.endOfFile_readRange_iff offset

/-- A client on its way through an output: where it started, what it has got, and whether it was told of
the end. -/
structure Reading where
  start : Nat
  received : ByteArray
  ended : Bool

/-- What one call of the client finds, and how many bytes it asks for. -/
structure Demand where
  opening : Opening
  size : Int32

/-- The demand is for at least one byte, and the file opens and shows nothing but `content`. -/
structure Demand.Finds (d : Demand) (path : Path) (content : ByteArray) : Prop where
  size_pos : 0 < d.size
  opens : ∃ file, d.opening path = .ok file ∧ file.Within content

/-- No read fails of the file that the demand finds. -/
def Demand.Readable (d : Demand) (path : Path) (content : ByteArray) : Prop :=
  ∀ file, d.opening path = .ok file → file.Readable content

namespace Reading

/-- A client that has not asked for anything yet. -/
def startingAt (start : Nat) : Reading :=
  ⟨start, .empty, false⟩

/-- Where the bytes end that the client has got. -/
def position (r : Reading) : Nat :=
  r.start + r.received.size

/-- The next request. -/
def request (r : Reading) (task : String) (size : Int32) : WireRequest :=
  ⟨task, size, .ofNat r.position⟩

/-- The client after an answer; after a failure it asks once more. -/
def feed (r : Reading) : Except Status WireReply → Reading
  | .error _ => r
  | .ok reply =>
    if reply.endOfFile then { r with ended := true }
    else { r with received := r.received ++ reply.data }

/-- The client after the given demands, of which those after the end are not made. -/
def run (m : Monitor) (task : String) (r : Reading) : List Demand → Reading
  | [] => r
  | d :: rest =>
    if r.ended then r
    else (r.feed (m.readOutput d.opening (r.request task d.size))).run m task rest

/-- After some calls, the client has got what `content` holds from its start on, and each call brought at
least one byte unless the client was told of the end; `clean` says that no read failed. -/
structure GotContentFrom (clean : Prop) (start : Nat) (content : ByteArray) (calls : Nat)
    (r : Reading) : Prop where
  began : r.start = start
  received : r.received = content.extract start r.position
  reached : r.received = .empty ∨ r.position ≤ content.size
  grown : r.ended = false → calls ≤ r.received.size
  whole : clean → r.ended = true → content.size ≤ r.position

variable {clean : Prop} {r : Reading} {start calls : Nat} {content : ByteArray}

theorem gotContentFrom_startingAt (clean : Prop) (start : Nat) (content : ByteArray) :
    GotContentFrom clean start content 0 (startingAt start) :=
  ⟨rfl, ByteArray.extract_same.symm, Or.inl rfl, fun _ => Nat.zero_le _,
    fun _ hended => by cases hended⟩

/-- The wire can carry every offset that the client comes to. -/
theorem GotContentFrom.position_le (hgot : GotContentFrom clean start content calls r)
    (hstart : start ≤ maxWireOffset) (hsize : content.size ≤ maxWireOffset) :
    r.position ≤ maxWireOffset := by
  rcases hgot.reached with hnone | hle
  · rw [position, hgot.began, hnone]
    exact hstart
  · exact Nat.le_trans hle hsize

theorem GotContentFrom.received_size_le (hgot : GotContentFrom clean start content calls r) :
    r.received.size ≤ content.size - start := by
  have hbegan := hgot.began
  rcases hgot.reached with hnone | hle
  · rw [hnone]
    exact Nat.zero_le _
  · rw [position] at hle
    omega

theorem GotContentFrom.append (hgot : GotContentFrom clean start content calls r)
    (hgoing : r.ended = false) {data : ByteArray} {room : Nat} (hpart : IsPart content r.position room data)
    (hdata : data ≠ .empty) :
    GotContentFrom clean start content (calls + 1) { r with received := r.received ++ data } := by
  have hpos : 0 < data.size := by
    rw [Nat.pos_iff_ne_zero, Ne, ByteArray.size_eq_zero_iff]
    exact hdata
  have hposition : { r with received := r.received ++ data : Reading }.position =
      r.position + data.size := by
    simp only [position, ByteArray.size_append, Nat.add_assoc]
  have hle : start ≤ r.position := by
    rw [position, hgot.began]
    exact Nat.le_add_right _ _
  refine ⟨hgot.began, ?_, ?_, ?_, ?_⟩
  · rw [hposition, ByteArray.extract_eq_extract_append_extract r.position hle
      (Nat.le_add_right _ _), ← hpart.2, ← hgot.received]
  · rw [hposition]
    exact Or.inr (hpart.add_size_le hpos)
  · intro _
    have := hgot.grown hgoing
    simp only [ByteArray.size_append]
    omega
  · intro _ hended
    rw [hgoing] at hended
    cases hended

theorem GotContentFrom.tell (hgot : GotContentFrom clean start content calls r)
    (hend : clean → content.size ≤ r.position) :
    GotContentFrom clean start content (calls + 1) { r with ended := true } :=
  ⟨hgot.began, hgot.received, hgot.reached, (fun hgoing => by cases hgoing),
    fun hclean _ => hend hclean⟩

theorem GotContentFrom.of_ended (hgot : GotContentFrom clean start content calls r) (hended : r.ended = true)
    (more : Nat) : GotContentFrom clean start content (calls + more) r := by
  refine ⟨hgot.began, hgot.received, hgot.reached, fun hgoing => ?_, hgot.whole⟩
  rw [hended] at hgoing
  cases hgoing

theorem feed_of_end {reply : RangeReply} (hend : reply.endOfFile = true) :
    r.feed (.ok reply.toWire) = { r with ended := true } := by
  rw [feed, RangeReply.toWire, if_pos hend]

theorem feed_of_bytes {reply : RangeReply} (hend : ¬ reply.endOfFile = true) :
    r.feed (.ok reply.toWire) = { r with received := r.received ++ reply.data } := by
  rw [feed, RangeReply.toWire, if_neg hend]

theorem run_of_ended (hended : r.ended = true) (m : Monitor) (task : String)
    (demands : List Demand) : r.run m task demands = r := by
  cases demands with
  | nil => rfl
  | cons d rest => simp only [run, hended, if_true]

theorem run_cons_of_going (hgoing : r.ended = false) (m : Monitor) (task : String) (d : Demand)
    (rest : List Demand) :
    r.run m task (d :: rest) =
      (r.feed (m.readOutput d.opening (r.request task d.size))).run m task rest := by
  simp only [run, hgoing, Bool.false_eq_true, if_false]

section Run

variable {history : List TaskEntry} {cap : Nat} {task : String} {path : Path} {d : Demand}

/-- The answer to a client at a position that the wire can carry. -/
theorem readOutput_request (hpath : lastPath? history ⟨task⟩ = some path)
    (hposition : r.position ≤ maxWireOffset) (hsize : 0 < d.size) {file : OpenFile}
    (hopening : d.opening path = .ok file) :
    (Monitor.afterHistory history cap).readOutput d.opening (r.request task d.size) =
      .ok (file.readRange r.position ((r.request task d.size).sizeWithin cap)).toWire := by
  have hlt : r.position < 2 ^ 63 := by
    rw [maxWireOffset] at hposition
    omega
  have hoffset : (r.request task d.size).offset.toNatClampNeg = r.position :=
    Int64.toNatClampNeg_ofNat_of_lt hlt
  have haccepted : (r.request task d.size).Accepted := by
    refine ⟨?_, Int32.le_of_lt hsize⟩
    rw [Int64.le_iff_toInt_le, request, Int64.toInt_ofNat_of_lt hlt]
    exact Int.natCast_nonneg _
  rw [Monitor.readOutput_of_opened haccepted hpath hopening, hoffset]

/-- One call brings the client at least one byte further, or tells it of the end. -/
theorem GotContentFrom.feed (hgot : GotContentFrom clean start content calls r) (hgoing : r.ended = false)
    (hpath : lastPath? history ⟨task⟩ = some path) (hcap : 0 < cap)
    (hstart : start ≤ maxWireOffset) (hsize : content.size ≤ maxWireOffset)
    (hfinds : d.Finds path content) (hclean : clean → d.Readable path content) :
    GotContentFrom clean start content (calls + 1)
      (r.feed ((Monitor.afterHistory history cap).readOutput d.opening (r.request task d.size))) := by
  obtain ⟨hpos, file, hopening, hwithin⟩ := hfinds
  rw [readOutput_request hpath (hgot.position_le hstart hsize) hpos hopening]
  have hroom : 0 < (r.request task d.size).sizeWithin cap :=
    (WireRequest.sizeWithin_pos_iff hpos cap).mpr hcap
  generalize (r.request task d.size).sizeWithin cap = room at hroom
  have hreach : content.size ≤ maxOffset ∨ r.position + room ≤ maxOffset :=
    Or.inl (Nat.le_trans hsize maxWireOffset_le_maxOffset)
  have htells := file.endOfFile_readRange_iff r.position hroom
  by_cases hend : (file.readRange r.position room).endOfFile = true
  · rw [feed_of_end hend]
    apply hgot.tell
    intro hall
    exact OpenFile.size_le_of_endOfFile (hclean hall file hopening) hreach hroom hend
  · rw [feed_of_bytes hend]
    exact hgot.append hgoing (OpenFile.isPart_readRange hwithin hreach) (mt htells.mpr hend)

/-- All calls of the client bring it further, until it is told of the end. -/
theorem GotContentFrom.run {demands : List Demand} (hgot : GotContentFrom clean start content calls r)
    (hpath : lastPath? history ⟨task⟩ = some path) (hcap : 0 < cap)
    (hstart : start ≤ maxWireOffset) (hsize : content.size ≤ maxWireOffset)
    (hfinds : ∀ d ∈ demands, d.Finds path content)
    (hclean : clean → ∀ d ∈ demands, d.Readable path content) :
    GotContentFrom clean start content (calls + demands.length)
      (r.run (Monitor.afterHistory history cap) task demands) := by
  induction demands generalizing r calls with
  | nil => exact hgot
  | cons d rest ih =>
      cases hended : r.ended with
      | true =>
          rw [run_of_ended hended]
          exact hgot.of_ended hended _
      | false =>
          rw [run_cons_of_going hended, List.length_cons, Nat.add_comm rest.length,
            ← Nat.add_assoc]
          apply ih
          · exact hgot.feed hended hpath hcap hstart hsize (hfinds d List.mem_cons_self)
              fun hall => hclean hall d List.mem_cons_self
          · intro other hother
            exact hfinds other (List.mem_cons_of_mem d hother)
          · intro hall other hother
            exact hclean hall other (List.mem_cons_of_mem d hother)

end Run

end Reading

namespace Monitor

/-- A reply of a monitor to a request for at least one byte tells something exactly when the cap of the
monitor lets at least one byte through.  Then a client that asks from where its bytes end, as long as it
is not told of the end, gets at least one more byte of a fixed content with every call; after more calls
than there are bytes left it was told, and by then it has got them all, unless a read failed. -/
theorem readOutput_tells_iff {history : List TaskEntry} {task : String} {path : Path} (cap : Nat)
    (hpath : lastPath? history ⟨task⟩ = some path) :
    (∀ (opening : Opening) (file : OpenFile) (request : WireRequest), request.task = task →
      opening path = .ok file → 0 ≤ request.offset → 0 < request.size →
        ∃ reply, (afterHistory history cap).readOutput opening request = .ok reply ∧
          (reply.TellsBytesXorEnd ↔ 0 < cap)) ∧
    (0 < cap → ∀ (start : Nat) (content : ByteArray) (demands : List Demand),
      start ≤ maxWireOffset → content.size ≤ maxWireOffset →
      (∀ d ∈ demands, d.Finds path content) →
        let r := (Reading.startingAt start).run (afterHistory history cap) task demands
        r.received = content.extract start (start + r.received.size) ∧
        (r.ended = false → demands.length ≤ r.received.size) ∧
        (content.size - start < demands.length → r.ended = true) ∧
        ((∀ d ∈ demands, d.Readable path content) → r.ended = true →
          r.received = content.extract start content.size)) := by
  constructor
  · intro opening file request htask hopening hoffset hsize
    subst htask
    have haccepted : request.Accepted := ⟨hoffset, Int32.le_of_lt hsize⟩
    refine ⟨_, readOutput_of_opened haccepted hpath hopening, ?_⟩
    rw [OpenFile.tellsBytesXorEnd_toWire_iff, WireRequest.sizeWithin_pos_iff hsize]
  · intro hcap start content demands hstart hsize hfinds r
    have hgot : Reading.GotContentFrom (∀ d ∈ demands, d.Readable path content) start content
        (0 + demands.length) r :=
      (Reading.gotContentFrom_startingAt _ start content).run hpath hcap hstart hsize hfinds id
    rw [Nat.zero_add] at hgot
    have hposition : r.position = start + r.received.size := by
      rw [Reading.position, hgot.began]
    have hreceived := hgot.received
    refine ⟨?_, hgot.grown, ?_, ?_⟩
    · rw [← hposition]
      exact hreceived
    · intro hlong
      by_contra hgoing
      have hgrown := hgot.grown (Bool.eq_false_iff.mpr hgoing)
      have hbound := hgot.received_size_le
      omega
    · intro hreadable hended
      have hend := hgot.whole hreadable hended
      rw [hreceived, extract_min, Nat.min_eq_right hend]

/-- A client that starts at the second of five bytes, of a monitor that gives two at a time. -/
theorem readOutput_tells_iff_two_at_a_time :
    let history : List TaskEntry := [⟨⟨"t"⟩, ⟨"old"⟩⟩, ⟨⟨"t"⟩, ⟨"f"⟩⟩]
    let opening : Opening := fun _ => .ok (.regular "abcde".toUTF8)
    let demands : List Demand := [⟨opening, 7⟩, ⟨opening, 1⟩, ⟨opening, 3⟩, ⟨opening, 5⟩, ⟨opening, 2⟩]
    let r := (Reading.startingAt 1).run (afterHistory history 2) "t" demands
    lastPath? history ⟨"t"⟩ = some ⟨"f"⟩ ∧ (∀ d ∈ demands, d.Finds ⟨"f"⟩ "abcde".toUTF8) ∧
      r.ended = true ∧ r.received = "bcde".toUTF8 := by
  intro history opening demands r
  have hpath : lastPath? history ⟨"t"⟩ = some ⟨"f"⟩ := rfl
  have hopens : ∀ d ∈ demands, 0 < d.size ∧ d.opening = opening := by
    simp only [demands, List.forall_mem_cons, and_true, List.not_mem_nil, false_imp_iff,
      implies_true]
    decide
  have hfinds : ∀ d ∈ demands, d.Finds ⟨"f"⟩ "abcde".toUTF8 := by
    intro d hd
    obtain ⟨hpos, hopening⟩ := hopens d hd
    exact ⟨hpos, _, by rw [hopening], OpenFile.regular_within _⟩
  have hreadable : ∀ d ∈ demands, d.Readable ⟨"f"⟩ "abcde".toUTF8 := by
    intro d hd file hfile
    rw [(hopens d hd).2] at hfile
    cases hfile
    exact OpenFile.regular_readable _
  obtain ⟨_, hreads⟩ := readOutput_tells_iff 2 hpath
  obtain ⟨_, _, hends, hwhole⟩ :=
    hreads (by decide) 1 "abcde".toUTF8 demands (by decide) (by decide) hfinds
  have hended : r.ended = true := hends (by decide)
  refine ⟨hpath, hfinds, hended, ?_⟩
  rw [hwhole hreadable hended]
  decide

/-- A monitor that is set to give no bytes: at the end of a file, its reply to a request for five bytes
has no bytes and does not tell of the end. -/
theorem readOutput_silent_of_zero_cap :
    ∃ config reply,
      CommandLine.parseMonitor ["--max-read-size", "0", "--watch", "t1=out.log"] = .ok config ∧
      (ofConfig config).readOutput (fun _ => .ok (.regular "hello world".toUTF8))
        ⟨"t1", 5, 11⟩ = .ok reply ∧
      ¬ reply.TellsBytesXorEnd := by
  have haccepted : WireRequest.Accepted ⟨"t1", 5, 11⟩ := by
    unfold WireRequest.Accepted
    decide
  refine ⟨{ maxReadSize := 0, watches := [⟨⟨"t1"⟩, ⟨"out.log"⟩⟩] }, ⟨.empty, false⟩, ?_, ?_, ?_⟩
  · decide +kernel
  · have hopened : (afterHistory [⟨⟨"t1"⟩, ⟨"out.log"⟩⟩] 0).readOutput
        (fun _ => .ok (.regular "hello world".toUTF8)) ⟨"t1", 5, 11⟩ = .ok _ :=
      readOutput_of_opened haccepted rfl rfl
    rw [WireRequest.sizeWithin, Nat.min_zero, OpenFile.readRange_zero] at hopened
    exact hopened
  · rw [WireReply.tellsBytesXorEnd_iff]
    decide

end Monitor

end TaskTail
