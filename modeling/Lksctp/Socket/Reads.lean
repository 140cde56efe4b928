-- SUMMARY: Sequences of receive calls against a closed queue: every item is delivered once, whole and in order.
import Lksctp.Socket.Recv

/-!
# Reading a queue to its end

`Reads` is a reader that calls `recv_msg` again and again, with whatever buffers
it likes; a buffer for data must hold at least one byte. `Delivers` is what an
item is worth to such a reader: one result for a notification, and for a piece of
data as many results as its buffers make necessary.
-/

namespace Lksctp

open Rust Machine Kernel

namespace Socket

/-- A call of `recv_msg` with the result it had. -/
structure Call where
  buf : Bytes
  wantFrom : Bool
  out : Received

def Call.payload (c : Call) : Bytes := c.out.payload

/-- An empty buffer is no use while data is waiting. -/
def Admissible : List Item → Bytes → Prop
  | .data .. :: _, buf => 0 < buf.length
  | _, _ => True

/-- A sequence of calls, from one queue to another. -/
inductive Reads (t : Target) : List Item → List Call → List Item → Prop where
  | nil (q : List Item) : Reads t q [] q
  | cons {q q' q'' : List Item} {c : Call} {cs : List Call} (hbuf : Admissible q c.buf)
      (hret : (recvMsg t).Returns (recvmsg t) (.first c.buf c.wantFrom) q c.out q')
      (hrest : Reads t q' cs q'') : Reads t q (c :: cs) q''

/-- The calls that deliver one item, from its first byte to its last. -/
inductive Delivers (t : Target) : Item → List Call → Prop where
  | notification (bytes : Bytes) (peer : SocketAddr) (buf : Bytes) (wantFrom : Bool) :
      Delivers t (.notification bytes peer)
        [{ buf, wantFrom
           out :=
            { result := (notificationResult t.endian buf.length bytes).map fun p =>
                (.notification p, reportedSender wantFrom peer)
              buf := overwrite buf bytes } }]
  /-- The rest of the piece fits the buffer. -/
  | dataEnd {bytes buf : Bytes} (h : bytes.length ≤ buf.length) (last : Bool)
      (info : Sys.SctpRcvinfo) (pad : Octets 2) (peer : SocketAddr) (wantFrom : Bool) :
      Delivers t (.data bytes last info pad peer)
        [{ buf, wantFrom
           out :=
            { result := .ok (.data bytes.length (some (RcvInfo.fromSys t.endian info)) last,
                reportedSender wantFrom peer)
              buf := bytes ++ buf.drop bytes.length } }]
  /-- The buffer is filled and more calls follow. -/
  | dataMore {bytes buf : Bytes} {last : Bool} {info : Sys.SctpRcvinfo} {pad : Octets 2}
      {peer : SocketAddr} {cs : List Call} (hpos : 0 < buf.length) (h : buf.length < bytes.length)
      (wantFrom : Bool) (hrest : Delivers t (.data (bytes.drop buf.length) last info pad peer) cs) :
      Delivers t (.data bytes last info pad peer)
        ({ buf, wantFrom
           out :=
            { result := .ok (.data buf.length (some (RcvInfo.fromSys t.endian info)) false,
                reportedSender wantFrom peer)
              buf := bytes.take buf.length } } :: cs)

/-- How many calls an item can take, whatever the buffers. -/
def readCost : Item → Nat
  | .data bytes .. => max 1 bytes.length
  | _ => 1

def totalCost (items : List Item) : Nat := (items.map readCost).sum

/-- A queue that holds these items and ends there. -/
def closedQueue (items : List Item) : List Item := items ++ [.eof]

def NoEof (items : List Item) : Prop := ∀ i ∈ items, i ≠ .eof

/-! ## One call -/

variable {t : Target}

theorem Reads.cons_iff {q q'' : List Item} {c : Call} {cs : List Call} :
    Reads t q (c :: cs) q'' ↔ Admissible q c.buf ∧ c.out = (deliver t c.buf c.wantFrom q).1 ∧
      Reads t (deliver t c.buf c.wantFrom q).2 cs q'' := by
  constructor
  · intro h
    cases h with
    | cons hbuf hret hrest =>
      rw [recvMsg_returns_iff] at hret
      rw [hret]
      exact ⟨hbuf, rfl, hrest⟩
  · rintro ⟨hbuf, hout, hrest⟩
    exact .cons hbuf (recvMsg_returns_iff.mpr (by rw [hout])) hrest

theorem Reads.append {q q' q'' : List Item} {cs cs' : List Call} (h : Reads t q cs q')
    (h' : Reads t q' cs' q'') : Reads t q (cs ++ cs') q'' := by
  induction h with
  | nil => exact h'
  | cons hbuf hret _ ih => exact .cons hbuf hret (ih h')

theorem Delivers.payload {item : Item} {cs : List Call} (h : Delivers t item cs) :
    cs.flatMap Call.payload = itemPayload item := by
  induction h with
  | notification bytes peer buf wantFrom =>
    cases hres : notificationResult t.endian buf.length bytes with
    | error e => simp [Call.payload, Received.payload, itemPayload, Except.map]
    | ok p => simp [Call.payload, Received.payload, itemPayload]
  | dataEnd h last info pad peer wantFrom => simp [Call.payload, Received.payload, itemPayload]
  | @dataMore bytes buf last info pad peer cs hpos h wantFrom _ ih =>
    rw [List.flatMap_cons, ih]
    simp only [Call.payload, Received.payload, itemPayload, List.take_take, min_self]
    exact List.take_append_drop _ _

/-! ## Whole runs -/

theorem overwrite_of_le {buf bytes : Bytes} (h : bytes.length ≤ buf.length) :
    overwrite buf bytes = bytes ++ buf.drop bytes.length := by
  rw [overwrite, List.take_of_length_le h]

theorem overwrite_of_lt {buf bytes : Bytes} (h : buf.length < bytes.length) :
    overwrite buf bytes = bytes.take buf.length := by
  rw [overwrite, List.drop_of_length_le h.le, List.append_nil]

theorem Received.ofData_of_le {buf bytes : Bytes} (h : bytes.length ≤ buf.length)
    (wantFrom last : Bool) (info : Sys.SctpRcvinfo) (peer : SocketAddr) :
    Received.ofData t buf wantFrom bytes last info peer =
      { result := .ok (.data bytes.length (some (RcvInfo.fromSys t.endian info)) last,
          reportedSender wantFrom peer)
        buf := bytes ++ buf.drop bytes.length } := by
  simp [Received.ofData, overwrite_of_le h, h]

theorem Received.ofData_of_lt {buf bytes : Bytes} (h : buf.length < bytes.length)
    (wantFrom last : Bool) (info : Sys.SctpRcvinfo) (peer : SocketAddr) :
    Received.ofData t buf wantFrom bytes last info peer =
      { result := .ok (.data buf.length (some (RcvInfo.fromSys t.endian info)) false,
          reportedSender wantFrom peer)
        buf := bytes.take buf.length } := by
  simp [Received.ofData, overwrite_of_lt h, h.le, not_le.mpr h]

theorem deliver_data_rest_of_le {buf bytes : Bytes} (h : bytes.length ≤ buf.length)
    {wantFrom last : Bool} {info : Sys.SctpRcvinfo} {pad : Octets 2} {peer : SocketAddr}
    {rest : List Item} :
    (deliver t buf wantFrom (.data bytes last info pad peer :: rest)).2 = rest := by
  rw [deliver, keepRest_of_le h]

theorem deliver_data_rest_of_lt {buf bytes : Bytes} (h : buf.length < bytes.length)
    {wantFrom last : Bool} {info : Sys.SctpRcvinfo} {pad : Octets 2} {peer : SocketAddr}
    {rest : List Item} :
    (deliver t buf wantFrom (.data bytes last info pad peer :: rest)).2 =
      .data (bytes.drop buf.length) last info pad peer :: rest := by
  rw [deliver, keepRest_of_lt h]

/-- A run to the end consists of one group of calls per item, and of calls that
    report the end. -/
theorem Reads.groups {calls : List Call} (items : List Item) (hitems : NoEof items)
    (h : Reads t (closedQueue items) calls [.eof]) :
    ∃ groups eofs, List.Forall₂ (Delivers t) items groups ∧
      (∀ c ∈ eofs, c.out = .ofEof c.buf) ∧ calls = groups.flatten ++ eofs := by
  -- The calls are the structure: each takes a whole item off or shortens the first.
  induction calls generalizing items with
  | nil =>
    match items with
    | [] => exact ⟨[], [], .nil, by simp, rfl⟩
    | item :: rest =>
      generalize hq : closedQueue (item :: rest) = q at h
      cases h
      simp [closedQueue] at hq
  | cons c cs ih =>
    obtain ⟨buf, wantFrom, out⟩ := c
    obtain ⟨hbuf, hout, hrest⟩ := cons_iff.mp h
    dsimp only at hbuf hout hrest
    subst hout
    match items with
    | [] =>
      obtain ⟨groups, eofs, hgroups, heofs, hcs⟩ := ih [] hitems hrest
      cases hgroups
      refine ⟨[], ⟨buf, wantFrom, .ofEof buf⟩ :: eofs, .nil, ?_, congrArg _ hcs⟩
      rintro c (_ | ⟨_, hc⟩)
      · rfl
      · exact heofs c hc
    | .eof :: rest => exact absurd rfl (hitems .eof (by simp))
    | .notification bytes peer :: rest =>
      obtain ⟨groups, eofs, hgroups, heofs, hcs⟩ :=
        ih rest (fun i hi => hitems i (by simp [hi])) hrest
      exact ⟨_ :: groups, eofs, .cons (.notification bytes peer buf wantFrom) hgroups, heofs,
        by simp [hcs, deliver, closedQueue, Received.ofNotification]⟩
    | .data bytes last info pad peer :: rest =>
      have hnoEof : NoEof rest := fun i hi => hitems i (by simp [hi])
      simp only [closedQueue, List.cons_append, deliver] at hrest ⊢
      by_cases hle : bytes.length ≤ buf.length
      · rw [keepRest_of_le hle] at hrest
        obtain ⟨groups, eofs, hgroups, heofs, hcs⟩ := ih rest hnoEof hrest
        rw [Received.ofData_of_le hle]
        exact ⟨_ :: groups, eofs, .cons (.dataEnd hle last info pad peer wantFrom) hgroups, heofs,
          by simp [hcs]⟩
      · have hlt : buf.length < bytes.length := not_le.mp hle
        rw [keepRest_of_lt hlt] at hrest
        obtain ⟨groups, eofs, hgroups, heofs, hcs⟩ :=
          ih (.data (bytes.drop buf.length) last info pad peer :: rest)
            (by rintro i (_ | ⟨_, hi⟩); exacts [by simp, hnoEof i hi]) hrest
        rw [Received.ofData_of_lt hlt]
        cases hgroups with
        | @cons _ group _ groups hfirst hothers =>
          exact ⟨_ :: groups, eofs, .cons (.dataMore hbuf hlt wantFrom hfirst) hothers, heofs,
            by simp [hcs]⟩

/-- Whatever has been read, the rest of a closed queue can be read as well. -/
theorem Reads.exists_to_end (t : Target) {items : List Item} (hitems : NoEof items) :
    ∃ calls, Reads t (closedQueue items) calls [.eof] := by
  induction items with
  | nil => exact ⟨[], .nil _⟩
  | cons item rest ih =>
    obtain ⟨calls, hcalls⟩ := ih fun i hi => hitems i (by simp [hi])
    -- A buffer of this length takes the whole item.
    have hbuf : Admissible (closedQueue (item :: rest)) (zeros (readCost item)) := by
      cases item <;> simp [closedQueue, Admissible, readCost]
    have htakes : (deliver t (zeros (readCost item)) false (closedQueue (item :: rest))).2 =
        closedQueue rest := by
      cases item with
      | eof => exact absurd rfl (hitems .eof (by simp))
      | notification => rfl
      | data bytes last info pad peer => exact deliver_data_rest_of_le (by simp [readCost])
    have hret := recvMsg_returns t (zeros (readCost item)) false (closedQueue (item :: rest))
    rw [htakes] at hret
    exact ⟨_, .cons (c := ⟨zeros (readCost item), false, _⟩) hbuf hret hcalls⟩

/-- A call takes at least its share off the queue. -/
theorem deliver_cost {items : List Item} {buf : Bytes} (wantFrom : Bool) (hitems : NoEof items)
    (hbuf : Admissible (closedQueue items) buf) :
    ∃ items', (deliver t buf wantFrom (closedQueue items)).2 = closedQueue items' ∧
      NoEof items' ∧ totalCost items' ≤ totalCost items - 1 := by
  match items with
  | [] => exact ⟨[], rfl, hitems, by simp [totalCost]⟩
  | .eof :: rest => exact absurd rfl (hitems .eof (by simp))
  | .notification bytes peer :: rest =>
    exact ⟨rest, rfl, fun i hi => hitems i (by simp [hi]), by simp [totalCost, readCost]⟩
  | .data bytes last info pad peer :: rest =>
    have hnoEof : NoEof rest := fun i hi => hitems i (by simp [hi])
    have hpos : 0 < buf.length := hbuf
    by_cases hle : bytes.length ≤ buf.length
    · refine ⟨rest, deliver_data_rest_of_le hle, hnoEof, ?_⟩
      simp only [totalCost, readCost, List.map_cons, List.sum_cons]
      omega
    · have hlt : buf.length < bytes.length := not_le.mp hle
      refine ⟨.data (bytes.drop buf.length) last info pad peer :: rest,
        deliver_data_rest_of_lt hlt, ?_, ?_⟩
      · rintro i (_ | ⟨_, hi⟩)
        · simp
        · exact hnoEof i hi
      · simp only [totalCost, readCost, List.map_cons, List.sum_cons, List.length_drop]
        omega

theorem Reads.cost {items : List Item} {calls : List Call} {q : List Item} (hitems : NoEof items)
    (h : Reads t (closedQueue items) calls q) :
    ∃ items', q = closedQueue items' ∧ NoEof items' ∧
      totalCost items' ≤ totalCost items - calls.length := by
  induction calls generalizing items with
  | nil =>
    cases h
    exact ⟨items, rfl, hitems, le_rfl⟩
  | cons c cs ih =>
    obtain ⟨hbuf, -, hrest⟩ := cons_iff.mp h
    obtain ⟨items₁, hq, hitems₁, hcost₁⟩ := deliver_cost (t := t) c.wantFrom hitems hbuf
    obtain ⟨items₂, hq₂, hitems₂, hcost₂⟩ := ih hitems₁ (hq ▸ hrest)
    refine ⟨items₂, hq₂, hitems₂, ?_⟩
    rw [List.length_cons]
    omega

theorem eq_nil_of_totalCost {items : List Item} (h : totalCost items = 0) : items = [] := by
  cases items with
  | nil => rfl
  | cons item rest => cases item <;> simp [totalCost, readCost] at h

/-- The receive path refines the queue. Every call returns, with one result. A
    sequence of calls delivers the items in order, each of them completely before
    the next: it can be continued to the end of the queue, and then consists of one
    group of calls per item and of reports of the end. After as many calls as the
    items can need, everything has been delivered. No byte of user data is lost. -/
theorem recvMsg_refines_queue (t : Target) (items : List Item) (hitems : NoEof items) :
    (∀ q buf wantFrom, ∃! o : Received × List Item,
      (recvMsg t).Returns (recvmsg t) (.first buf wantFrom) q o.1 o.2) ∧
    (∀ calls q, Reads t (closedQueue items) calls q →
      ∃ groups eofs more,
        Reads t q more [.eof] ∧
        List.Forall₂ (Delivers t) items groups ∧
        (∀ c ∈ eofs, c.out = .ofEof c.buf) ∧
        calls ++ more = groups.flatten ++ eofs ∧
        (totalCost items ≤ calls.length → more = [])) ∧
    (∀ item calls, Delivers t item calls → calls.flatMap Call.payload = itemPayload item) := by
  refine ⟨?_, ?_, fun item calls => Delivers.payload⟩
  · intro q buf wantFrom
    refine ⟨deliver t buf wantFrom q, recvMsg_returns t buf wantFrom q, ?_⟩
    rintro ⟨r, q'⟩ hret
    exact (recvMsg_returns_iff.mp hret).symm
  · intro calls q h
    obtain ⟨left, rfl, hleft, hcost⟩ := h.cost hitems
    have hmore : ∃ more, Reads t (closedQueue left) more [.eof] ∧
        (totalCost items ≤ calls.length → more = []) := by
      by_cases hall : totalCost items ≤ calls.length
      · have hcost : totalCost left = 0 := by omega
        obtain rfl := eq_nil_of_totalCost hcost
        exact ⟨[], .nil _, fun _ => rfl⟩
      · obtain ⟨more, hmore⟩ := Reads.exists_to_end t hleft
        exact ⟨more, hmore, fun h => absurd h hall⟩
    obtain ⟨more, hmore, hnone⟩ := hmore
    obtain ⟨groups, eofs, hgroups, heofs, hcalls⟩ := Reads.groups _ hitems (h.append hmore)
    exact ⟨groups, eofs, more, hmore, hgroups, heofs, hcalls, hnone⟩

/-- A message in two pieces, with a notification between them. -/
def interruptedMessage : List Item :=
  [.data [1, 2, 3] false ⟨7, 1, 0, 0, 10, 10, 0, 1⟩ (Octets.zeros 2) (.loopback 5000),
    .notification [5, 128, 0, 0, 12, 0, 0, 0, 1, 0, 0, 0] (.loopback 5000),
    .data [4] true ⟨7, 1, 0, 0, 11, 11, 0, 1⟩ (Octets.zeros 2) (.loopback 5000)]

theorem recvMsg_refines_queue_interrupted :
    ∃ calls groups eofs,
      Reads ⟨.little, .w64⟩ (closedQueue interruptedMessage) calls [.eof] ∧
      List.Forall₂ (Delivers ⟨.little, .w64⟩) interruptedMessage groups ∧
      calls = groups.flatten ++ eofs := by
  have hitems : NoEof interruptedMessage := by simp [NoEof, interruptedMessage]
  obtain ⟨-, hruns, -⟩ := recvMsg_refines_queue ⟨.little, .w64⟩ interruptedMessage hitems
  obtain ⟨groups, eofs, calls, hreads, hgroups, -, hcalls, -⟩ := hruns [] _ (.nil _)
  exact ⟨calls, groups, eofs, hreads, hgroups, by simpa using hcalls⟩

end Socket

end Lksctp
