import PoolServer.Proofs.StampedAnswer
import PoolServer.Proofs.HeadReading
/-!
# Dropping the body of a request

After the head of a `POST` the server drops the body the head announced, so that closing the
connection does not reset it under the client. It reads in buffers of 8192 bytes, never asking
for more than is still to be dropped, and stops when that much is gone or a read delivers
nothing.

What the connection has to give is described by `Inbound.served`: the bytes it delivers, under
its chunk schedule, to a reader that asks for one buffer at a time until a read delivers nothing.
Dropping `p` bytes takes exactly the first `min p n` of them, where `n` is the number served: the
reads it makes are those of that reader, except that the last one asks for no more than is left.

A failure planned at one read ends the drop with that failure exactly when the drop without it
makes that read, and then fewer than `p` bytes are gone; a failure planned for a later read
changes nothing.

Main statement: `discardBody_consumes_pending`.
-/
namespace PoolServer

namespace Inbound

/-- The bytes the connection delivers to a reader that asks for `room` bytes at a time, up to the
first read that delivers nothing or fails. -/
def served (room : Nat) (c : Inbound) : Bytes :=
  match h : c.read room with
  | (_, .error _) => []
  | (c', .ok chunk) => if hc : chunk = [] then [] else chunk ++ served room c'
termination_by c.pending.length
decreasing_by exact read_pending_lt h hc

/-- A read that delivers bytes is followed by the next ones. -/
theorem served_of_read {c c' : Inbound} {room : Nat} {chunk : Bytes}
    (h : c.read room = (c', .ok chunk)) (hc : chunk ≠ []) :
    c.served room = chunk ++ c'.served room := by
  rw [served]
  split <;> simp_all

/-- A read that delivers nothing ends what is served. -/
theorem served_of_empty_read {c c' : Inbound} {room : Nat} (h : c.read room = (c', .ok [])) :
    c.served room = [] := by
  rw [served]
  split <;> simp_all

/-- Nothing is served once no byte is pending. -/
theorem served_of_pending_nil {c : Inbound} {room : Nat} (hc : c.failure = none)
    (hp : c.pending = []) : c.served room = [] := by
  have h := read_clean hc room
  simp only [hp, List.take_nil, List.drop_nil] at h
  exact served_of_empty_read h

/-- No more is served than is pending. -/
theorem served_length_le (room : Nat) (c : Inbound) : (c.served room).length ≤ c.pending.length := by
  induction hn : c.pending.length using Nat.strongRecOn generalizing c with
  | _ n ih =>
  match hr : c.read room with
  | (c₁, .error e) =>
    rw [served]
    split <;> simp_all
  | (c₁, .ok chunk) =>
    by_cases hc : chunk = []
    · subst hc
      simp [served_of_empty_read hr]
    · have hpend := read_ok hr
      have := ih _ (hn ▸ read_pending_lt hr hc) c₁ rfl
      rw [served_of_read hr hc, List.length_append, ← hn, hpend, List.length_append]
      omega

/-- A read planned to fail does so, and leaves the pending bytes alone. -/
theorem read_failing {c : Inbound} {e : IoError} (hf : c.failure = some (c.reads, e))
    (room : Nat) : c.read room = ({ c with reads := c.reads + 1 }, .error e) := by
  simp [read, hf]

/-- A read other than the one planned to fail delivers as if none were planned. -/
theorem read_other {c : Inbound} {i : Nat} {e : IoError} (hf : c.failure = some (i, e))
    (hi : i ≠ c.reads) (room : Nat) :
    c.read room =
      ({ c with reads := c.reads + 1, pending := c.pending.drop (min room (c.allowance.getD room)) },
        .ok (c.pending.take (min room (c.allowance.getD room)))) := by
  simp [read, read.deliver, hf, hi]

/-- Every read counts, whatever it delivers. -/
@[simp] theorem read_reads (c : Inbound) (room : Nat) : (c.read room).1.reads = c.reads + 1 := by
  unfold read read.deliver
  split
  · split <;> rfl
  · rfl

/-- A failed read takes nothing. -/
theorem read_error_pending {c c' : Inbound} {room : Nat} {e : IoError}
    (h : c.read room = (c', .error e)) : c'.pending = c.pending := by
  unfold read read.deliver at h
  split at h
  · split at h
    · simp only [Prod.mk.injEq] at h
      obtain ⟨rfl, -⟩ := h
      rfl
    · simp at h
  · simp at h

/-- A read delivers at most what the reader asked for. -/
theorem read_length_le {c c' : Inbound} {room : Nat} {b : Bytes}
    (h : c.read room = (c', .ok b)) : b.length ≤ room := by
  unfold read read.deliver at h
  split at h
  · split at h
    · simp at h
    · simp only [Prod.mk.injEq, Except.ok.injEq] at h
      rw [← h.2, List.length_take]
      omega
  · simp only [Prod.mk.injEq, Except.ok.injEq] at h
    rw [← h.2, List.length_take]
    omega

end Inbound

namespace Reading

variable {left : Nat} {c c₁ : Inbound}

theorem dropBytes_zero (c : Inbound) : dropBytes 0 c = (c, .ok ()) := by
  rw [dropBytes, if_pos rfl]

/-- A read that fails ends the drop with its failure. -/
theorem dropBytes_of_error {e : IoError} (hl : left ≠ 0)
    (h : c.read (min left bodyBuffer) = (c₁, .error e)) : dropBytes left c = (c₁, .error e) := by
  rw [dropBytes, if_neg hl]
  split <;> simp_all

/-- A read that delivers nothing ends the drop. -/
theorem dropBytes_of_empty_read (hl : left ≠ 0)
    (h : c.read (min left bodyBuffer) = (c₁, .ok [])) : dropBytes left c = (c₁, .ok ()) := by
  rw [dropBytes, if_neg hl]
  split <;> simp_all

/-- A read that delivers bytes leaves that many fewer to drop. -/
theorem dropBytes_of_read {chunk : Bytes} (hl : left ≠ 0)
    (h : c.read (min left bodyBuffer) = (c₁, .ok chunk)) (hc : chunk ≠ []) :
    dropBytes left c = dropBytes (left - chunk.length) c₁ := by
  rw [dropBytes, if_neg hl]
  split <;> simp_all

/-- Dropping takes at most what it was asked to drop, from the front of the pending bytes. -/
theorem dropBytes_taken (left : Nat) (c : Inbound) :
    ∃ d, c.pending = d ++ (dropBytes left c).1.pending ∧ d.length ≤ left := by
  induction hn : c.pending.length using Nat.strongRecOn generalizing left c with
  | _ n ih =>
  by_cases hl : left = 0
  · exact ⟨[], by simp [hl, dropBytes_zero], by simp⟩
  · match hr : c.read (min left bodyBuffer) with
    | (c₁, .error e) =>
      exact ⟨[], by simp [dropBytes_of_error hl hr, Inbound.read_error_pending hr], by simp⟩
    | (c₁, .ok chunk) =>
      have hpend := Inbound.read_ok hr
      by_cases hc : chunk = []
      · subst hc
        exact ⟨[], by simpa [dropBytes_of_empty_read hl hr] using hpend, by simp⟩
      · have hlt := Inbound.read_pending_lt hr hc
        obtain ⟨d, hd, hdl⟩ := ih _ (hn ▸ hlt) (left - chunk.length) c₁ rfl
        have hroom : chunk.length ≤ left := by
          have := Inbound.read_length_le hr
          omega
        refine ⟨chunk ++ d, ?_, ?_⟩
        · rw [dropBytes_of_read hl hr hc, List.append_assoc, ← hd, hpend]
        · simp only [List.length_append]
          omega

/-- With no failure planned, dropping `left` bytes ends well, having taken the first
`min left n` bytes of the connection, where `n` is what it serves one buffer at a time. -/
theorem dropBytes_clean (left : Nat) (c : Inbound) (hc : c.failure = none) :
    ∃ c' d, dropBytes left c = (c', .ok ()) ∧ c'.failure = none ∧ c.pending = d ++ c'.pending ∧
      d.length = min left (c.served bodyBuffer).length := by
  induction hn : c.pending.length using Nat.strongRecOn generalizing left c with
  | _ n ih =>
  by_cases hl : left = 0
  · exact ⟨c, [], by rw [hl, dropBytes_zero], hc, rfl, by simp [hl]⟩
  have hr := Inbound.read_clean hc (min left bodyBuffer)
  have hs := Inbound.read_clean hc bodyBuffer
  generalize hk : min (min left bodyBuffer) (c.allowance.getD (min left bodyBuffer)) = k at hr
  generalize hk' : min bodyBuffer (c.allowance.getD bodyBuffer) = k' at hs
  have hkk : k = min left k' := by
    rw [← hk, ← hk']
    cases c.allowance <;> simp
  have hserved := Inbound.served_length_le bodyBuffer c
  by_cases hd : c.pending.take k = []
  · have hk0 : k = 0 ∨ c.pending = [] := by simpa using hd
    have hs0 : c.pending.take k' = [] := by
      rcases hk0 with h0 | hp
      · have : k' = 0 := by omega
        simp [this]
      · simp [hp]
    have hdrop : c.pending.drop k = c.pending := by
      rcases hk0 with h0 | hp
      · rw [h0, List.drop_zero]
      · simp [hp]
    rw [hs0] at hs
    rw [hd] at hr
    refine ⟨_, [], dropBytes_of_empty_read hl hr, hc, by simp [hdrop], ?_⟩
    simp [Inbound.served_of_empty_read hs]
  · obtain ⟨c', d, hrun, hfail, hpend, hlen⟩ := ih _ (hn ▸ Inbound.read_pending_lt hr hd)
      (left - (c.pending.take k).length) { c with reads := c.reads + 1, pending := c.pending.drop k }
      hc rfl
    refine ⟨c', c.pending.take k ++ d, (dropBytes_of_read hl hr hd).trans hrun, hfail, ?_, ?_⟩
    · rw [List.append_assoc, ← hpend]
      exact (List.take_append_drop k _).symm
    have hd' : c.pending.take k' ≠ [] := fun h' => hd (by
      rcases List.take_eq_nil_iff.1 h' with h0 | hp <;> simp [*])
    have hfirst := congrArg List.length (Inbound.served_of_read hs hd')
    have hrest := Inbound.served_length_le bodyBuffer
      { c with reads := c.reads + 1, pending := c.pending.drop k }
    rw [List.length_append] at hfirst ⊢
    rw [hlen]
    simp only [List.length_take, List.length_drop] at hfirst hrest ⊢
    by_cases hle : k' ≤ left
    · have hkk' : k = k' := by omega
      subst hkk'
      omega
    · omega

/-- A drop of something makes at least one read. -/
theorem reads_lt_dropBytes (hl : left ≠ 0) (c : Inbound) : c.reads < (dropBytes left c).1.reads := by
  induction hn : c.pending.length using Nat.strongRecOn generalizing left c with
  | _ n ih =>
  have hreads := Inbound.read_reads c (min left bodyBuffer)
  match hr : c.read (min left bodyBuffer) with
  | (c₁, .error e) => simp_all [dropBytes_of_error hl hr]
  | (c₁, .ok chunk) =>
    rw [hr] at hreads
    by_cases hc : chunk = []
    · subst hc
      simp_all [dropBytes_of_empty_read hl hr]
    · rw [dropBytes_of_read hl hr hc]
      by_cases hl' : left - chunk.length = 0
      · simp_all [dropBytes_zero]
      · have := ih _ (hn ▸ Inbound.read_pending_lt hr hc) hl' c₁ rfl
        simp only at hreads
        omega

/-- A failure planned at a read that the drop without it makes ends the drop with that failure,
before `left` bytes are gone; a failure planned at any other read changes nothing. -/
theorem dropBytes_failure (left : Nat) (c : Inbound) {i : Nat} {e : IoError}
    (hf : c.failure = some (i, e)) :
    ∃ c₀, dropBytes left { c with failure := none } = (c₀, .ok ()) ∧
      (c.reads ≤ i ∧ i < c₀.reads →
        ∃ c' d, dropBytes left c = (c', .error e) ∧ c.pending = d ++ c'.pending ∧ d.length < left) ∧
      (¬ (c.reads ≤ i ∧ i < c₀.reads) →
        dropBytes left c = ({ c₀ with failure := c.failure }, .ok ())) := by
  induction hn : c.pending.length using Nat.strongRecOn generalizing left c with
  | _ n ih =>
  by_cases hl : left = 0
  · subst hl
    refine ⟨_, dropBytes_zero _, fun h => by simp at h; omega, fun _ => ?_⟩
    rw [dropBytes_zero]
  obtain ⟨c₀, d₀, hclean, -, -, -⟩ := dropBytes_clean left { c with failure := none } rfl
  by_cases hi : i = c.reads
  · subst hi
    have hmore := reads_lt_dropBytes hl { c with failure := none }
    rw [hclean] at hmore
    refine ⟨c₀, hclean, fun _ => ⟨{ c with reads := c.reads + 1 }, [], ?_, rfl, by simp; omega⟩,
      fun h => absurd ⟨Nat.le_refl _, hmore⟩ h⟩
    exact dropBytes_of_error hl (Inbound.read_failing hf _)
  have hr := Inbound.read_other hf hi (min left bodyBuffer)
  have hr₀ : ({ c with failure := none } : Inbound).read (min left bodyBuffer) =
      ({ c with
          failure := none, reads := c.reads + 1,
          pending := c.pending.drop (min (min left bodyBuffer) (c.allowance.getD (min left bodyBuffer))) },
        .ok (c.pending.take (min (min left bodyBuffer) (c.allowance.getD (min left bodyBuffer))))) :=
    Inbound.read_clean rfl _
  generalize hk : min (min left bodyBuffer) (c.allowance.getD (min left bodyBuffer)) = k at hr hr₀
  by_cases hd : c.pending.take k = []
  · rw [hd] at hr hr₀
    rw [dropBytes_of_empty_read hl hr₀] at hclean
    cases hclean
    refine ⟨_, dropBytes_of_empty_read hl hr₀, fun h => by simp at h; omega, fun _ => ?_⟩
    rw [dropBytes_of_empty_read hl hr]
  · obtain ⟨c₁, hrun₁, herr, hok⟩ := ih _ (hn ▸ Inbound.read_pending_lt hr hd)
      (left - (c.pending.take k).length)
      { c with reads := c.reads + 1, pending := c.pending.drop k } hf rfl
    rw [dropBytes_of_read hl hr₀ hd] at hclean
    refine ⟨c₁, (dropBytes_of_read hl hr₀ hd).trans hrun₁, fun h => ?_, fun h => ?_⟩
    · obtain ⟨c', d, hrun, hpend, hlen⟩ :=
        herr ⟨Nat.succ_le_of_lt (Nat.lt_of_le_of_ne h.1 (Ne.symm hi)), h.2⟩
      refine ⟨c', c.pending.take k ++ d, (dropBytes_of_read hl hr hd).trans hrun, ?_, ?_⟩
      · rw [List.append_assoc, ← hpend]
        exact (List.take_append_drop k _).symm
      · simp only [List.length_append]
        omega
    · rw [dropBytes_of_read hl hr hd, hok fun h' => h ⟨Nat.le_of_succ_le h'.1, h'.2⟩]

/-- A head read takes what it returns past its start from the front of the pending bytes. -/
theorem readHeadFrom_taken (head : Bytes) (c : Inbound) {c' : Inbound} {out : Bytes}
    (h : readHeadFrom head c = (c', .ok out)) : ∃ d, out = head ++ d ∧ c.pending = d ++ c'.pending := by
  induction hn : c.pending.length using Nat.strongRecOn generalizing head c with
  | _ n ih =>
  by_cases hgo : head.length < headLimit ∧ Request.headEnd? head = none
  · match hr : c.read headBuffer with
    | (c₁, .error e) =>
      rw [readHeadFrom, if_pos hgo] at h
      split at h <;> simp_all
    | (c₁, .ok chunk) =>
      have hpend := Inbound.read_ok hr
      by_cases hc : chunk = []
      · subst hc
        rw [readHeadFrom_dry hgo hr] at h
        cases h
        exact ⟨[], by simp, by simpa using hpend⟩
      · rw [readHeadFrom_more hgo hr hc] at h
        obtain ⟨d, hout, hd⟩ := ih _ (hn ▸ Inbound.read_pending_lt hr hc) _ c₁ h rfl
        exact ⟨chunk ++ d, by simp [hout], by rw [hpend, hd, List.append_assoc]⟩
  · rw [readHeadFrom_stop hgo] at h
    cases h
    exact ⟨[], by simp, by simp⟩

/-- Dropping a body takes what `dropBytes` takes for the announced length, capped, less what the
head's reads already brought. -/
theorem discardBody_eq (r : Request) (a : Nat) (c : Inbound) :
    discardBody r a c = dropBytes (min (r.contentLength?.getD 0) 65536 - a) c := rfl

end Reading

namespace Site

variable {site : Site} {arrival : Instant} {dispatch : Duration}

/-- Answering leaves the inbound side alone. -/
theorem answer_inbound (x : Exchange) (plan : Plan) :
    (site.answer arrival dispatch x plan).1.inbound = x.inbound := by
  unfold answer
  simp only
  split <;> rfl

/-- Handling reads from the connection only while reading and planning. -/
theorem handle_inbound (x : Exchange) :
    (site.handle arrival dispatch x).1.inbound = (site.prepare x).1.inbound := by
  unfold handle
  split
  · next h => rw [h]
  · next h => rw [answer_inbound, h]

/-- After a head that parses, reading goes on only for the body of a `POST`. -/
theorem prepare_inbound {x : Exchange} {c₁ : Inbound} {raw : Bytes} {r : Request}
    (hread : Reading.readHead x.inbound = (c₁, .ok raw)) (hparse : Request.parse raw = .ok r) :
    (site.prepare x).1.inbound =
      if r.method = .post then (Reading.discardBody r (raw.length - r.headLen) c₁).1 else c₁ := by
  unfold prepare
  rw [hread]
  simp only [hparse, Exchange.report]
  split
  · next hp =>
    rw [if_pos (by simpa using hp)]
    split <;> simp_all
  · next hp => rw [if_neg (by simpa using hp)]

/-- Handling a request whose head parses takes from the connection no more than the bytes its
head reads brought and the announced body, capped at 65536 bytes, after the head. -/
theorem handle_reads_within {x x' : Exchange} {res : Except IoError Outcome} {c₁ : Inbound}
    {raw : Bytes} {r : Request} (h : site.handle arrival dispatch x = (x', res))
    (hread : Reading.readHead x.inbound = (c₁, .ok raw)) (hparse : Request.parse raw = .ok r) :
    ∃ d, x.inbound.pending = d ++ x'.inbound.pending ∧
      d.length ≤ max raw.length (r.headLen + min (r.contentLength?.getD 0) 65536) := by
  obtain ⟨d₁, hraw, hpend₁⟩ := Reading.readHeadFrom_taken [] x.inbound hread
  rw [List.nil_append] at hraw
  subst hraw
  have hhead := Request.headLen_le_of_parse hparse
  have hin : x'.inbound = (site.prepare x).1.inbound := by rw [← handle_inbound, h]
  rw [prepare_inbound hread hparse] at hin
  split at hin
  · obtain ⟨d₂, hpend₂, hlen₂⟩ := Reading.dropBytes_taken
      (min (r.contentLength?.getD 0) 65536 - (raw.length - r.headLen)) c₁
    refine ⟨raw ++ d₂, by rw [hpend₁, hin, Reading.discardBody_eq, hpend₂, List.append_assoc], ?_⟩
    simp only [List.length_append]
    omega
  · exact ⟨raw, by rw [hpend₁, hin], by omega⟩

end Site

/-- Dropping the body of a request consumes exactly the pending body. With no failure planned, it
ends well after taking the first `min p n` bytes, where `p` is the announced length (none counts
as zero) capped at 65536, less the `a` bytes the head's reads already brought, and `n` is what
the connection serves one buffer at a time. A failure planned at a read that this drop makes ends
it with that failure before `p` bytes are gone; one planned elsewhere changes nothing. So the
handler, after a head that parses, never takes more from the connection than what its head reads
brought and the capped body after the head. -/
theorem discardBody_consumes_pending :
    (∀ (r : Request) (a : Nat) (c : Inbound), c.failure = none →
      ∃ c' d, Reading.discardBody r a c = (c', .ok ()) ∧ c.pending = d ++ c'.pending ∧
        d.length =
          min (min (r.contentLength?.getD 0) 65536 - a) (c.served Reading.bodyBuffer).length) ∧
    (∀ (r : Request) (a : Nat) (c : Inbound) (i : Nat) (e : IoError), c.failure = some (i, e) →
      ∃ c₀, Reading.discardBody r a { c with failure := none } = (c₀, .ok ()) ∧
        (c.reads ≤ i ∧ i < c₀.reads →
          ∃ c' d, Reading.discardBody r a c = (c', .error e) ∧ c.pending = d ++ c'.pending ∧
            d.length < min (r.contentLength?.getD 0) 65536 - a) ∧
        (¬ (c.reads ≤ i ∧ i < c₀.reads) →
          Reading.discardBody r a c = ({ c₀ with failure := c.failure }, .ok ()))) ∧
    (∀ (site : Site) (arrival : Instant) (dispatch : Duration) (x x' : Exchange)
      (res : Except IoError Outcome) (c₁ : Inbound) (raw : Bytes) (r : Request),
      site.handle arrival dispatch x = (x', res) → Reading.readHead x.inbound = (c₁, .ok raw) →
      Request.parse raw = .ok r →
      ∃ d, x.inbound.pending = d ++ x'.inbound.pending ∧
        d.length ≤ max raw.length (r.headLen + min (r.contentLength?.getD 0) 65536)) :=
  ⟨fun _ _ c hc => by
      obtain ⟨c', d, hrun, -, hpend, hlen⟩ := Reading.dropBytes_clean _ c hc
      exact ⟨c', d, hrun, hpend, hlen⟩,
    fun _ _ c _ _ hf => Reading.dropBytes_failure _ c hf,
    fun _ _ _ _ _ _ _ _ _ h hread hparse => Site.handle_reads_within h hread hparse⟩

/-- A `POST` announcing ten bytes, four of which came with the head: six more are dropped from the
fourteen that follow. -/
theorem discardBody_consumes_pending_announced :
    ∃ c' d, Reading.discardBody
        { method := .post, uri := "/", path := "/", query := "", version := "HTTP/1.0",
          headers := [("content-length", "10")], headLen := 38 } 4
        { pending := Utf8.encode "0123456789tail" } = (c', .ok ()) ∧
      Utf8.encode "0123456789tail" = d ++ c'.pending ∧ d.length = 6 := by
  obtain ⟨c', d, hrun, hpend, hlen⟩ := discardBody_consumes_pending.1
    { method := .post, uri := "/", path := "/", query := "", version := "HTTP/1.0",
      headers := [("content-length", "10")], headLen := 38 } 4
    { pending := Utf8.encode "0123456789tail" } rfl
  have hfirst : Inbound.read { pending := Utf8.encode "0123456789tail" } Reading.bodyBuffer =
      ({ pending := [], reads := 1 }, .ok (Utf8.encode "0123456789tail")) := by
    have hlen : (Utf8.encode "0123456789tail").length ≤ Reading.bodyBuffer := by decide
    rw [Inbound.read_clean rfl]
    simp [Inbound.allowance, List.drop_eq_nil_of_le hlen, List.take_of_length_le hlen]
  have hserved : Inbound.served Reading.bodyBuffer { pending := Utf8.encode "0123456789tail" } =
      Utf8.encode "0123456789tail" := by
    rw [Inbound.served_of_read hfirst (by decide), Inbound.served_of_pending_nil rfl rfl,
      List.append_nil]
  have hcl : Request.contentLength?
      { method := .post, uri := "/", path := "/", query := "", version := "HTTP/1.0",
        headers := [("content-length", "10")], headLen := 38 } = some 10 := by decide +kernel
  have hrest : (Utf8.encode "0123456789tail").length = 14 := by decide
  refine ⟨c', d, hrun, hpend, ?_⟩
  rw [hlen, hserved, hcl, hrest]
  rfl

end PoolServer
