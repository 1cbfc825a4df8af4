import PoolServer.Http.Reading
/-!
# Reading a head in pieces

A head arrives in reads of at most one buffer each, and reading stops at the first empty line, at
the size limit, or at a read that delivers nothing. Where the first empty line of the bytes ends
does not depend on what follows it (`Request.headEnd?_take`), so the parse of a head read in pieces
is the parse of the whole input as soon as the pieces reach that line (`Request.parse_take`).

Main statement: `readHead_agrees_with_parse`. Reading stops at most one buffer past the empty line
and parses as the whole input does, whatever the chunk sizes, as long as the client does not stall
before all of its bytes could have arrived; and under any schedule without failures, reading
returns a prefix of the input of bounded length that stops only for the three reasons above.
-/
namespace PoolServer

namespace Request

open Reading

theorem headEnd?_cons (b : UInt8) (rest : Bytes) :
    headEnd? (b :: rest) =
      if (b :: rest).take 4 = headTerminator then some 4 else (headEnd? rest).map (· + 1) := rfl

/-- The first empty line ends at least four bytes in. -/
theorem four_le_of_headEnd? {x : Bytes} {e : Nat} (h : headEnd? x = some e) : 4 ≤ e := by
  induction x generalizing e with
  | nil => simp [headEnd?] at h
  | cons b rest ih =>
    rw [headEnd?_cons] at h
    split at h
    · cases h; exact Nat.le_refl 4
    · obtain ⟨e', he', rfl⟩ := Option.map_eq_some_iff.1 h
      exact Nat.le_succ_of_le (ih he')

/-- The first empty line ends inside the bytes. -/
theorem le_length_of_headEnd? {x : Bytes} {e : Nat} (h : headEnd? x = some e) : e ≤ x.length := by
  induction x generalizing e with
  | nil => simp [headEnd?] at h
  | cons b rest ih =>
    rw [headEnd?_cons] at h
    split at h
    · next ht =>
      cases h
      have := congrArg List.length ht
      simp only [List.length_take, headTerminator, List.length_cons, List.length_nil] at this ⊢
      omega
    · obtain ⟨e', he', rfl⟩ := Option.map_eq_some_iff.1 h
      simpa using ih he'

/-- Fewer than four bytes are no terminator. -/
theorem take_ne_headTerminator {x : Bytes} {n : Nat} (hn : n < 4) : x.take n ≠ headTerminator := by
  intro h
  have := congrArg List.length h
  simp [headTerminator] at this
  omega

/-- The head of the first `k` bytes is the head of all of them, if it ends by then. -/
theorem headEnd?_take (x : Bytes) (k : Nat) :
    headEnd? (x.take k) = (headEnd? x).filter (· ≤ k) := by
  induction x generalizing k with
  | nil => simp [headEnd?]
  | cons b rest ih =>
    cases k with
    | zero =>
      cases h : headEnd? (b :: rest) with
      | none => simp [headEnd?]
      | some e =>
        have := four_le_of_headEnd? h
        simp [headEnd?, Option.filter, show ¬ e ≤ 0 by omega]
    | succ k =>
      have hwin : (b :: rest.take k).take 4 = (b :: rest).take (min 4 (k + 1)) := by
        rw [← List.take_succ_cons, List.take_take]
      rw [List.take_succ_cons, headEnd?_cons b (rest.take k), headEnd?_cons b rest, hwin, ih]
      by_cases ht : (b :: rest).take 4 = headTerminator
      · by_cases hk : 4 ≤ k + 1
        · simp [ht, Option.filter, hk]
        · rw [if_neg (take_ne_headTerminator (by omega)), if_pos ht]
          cases h : headEnd? rest with
          | none => simp [Option.filter, hk]
          | some e =>
            have := four_le_of_headEnd? h
            simp [Option.filter, hk, show ¬ e ≤ k by omega]
      · have hne : (b :: rest).take (min 4 (k + 1)) ≠ headTerminator := by
          intro h'
          have hlen := congrArg List.length h'
          simp [headTerminator] at hlen
          exact ht (by rw [← h', Nat.min_eq_left (by omega)])
        rw [if_neg hne, if_neg ht]
        cases headEnd? rest <;> simp [Option.filter]

theorem headEnd?_take_of_le {x : Bytes} {e k : Nat} (h : headEnd? x = some e) (hk : e ≤ k) :
    headEnd? (x.take k) = some e := by
  simp [headEnd?_take, h, Option.filter, hk]

theorem headEnd?_take_of_lt {x : Bytes} {e k : Nat} (h : headEnd? x = some e) (hk : k < e) :
    headEnd? (x.take k) = none := by
  simp [headEnd?_take, h, Option.filter, show ¬ e ≤ k by omega]

/-- The head never runs past the bytes. -/
theorem headLength_le (buffer : Bytes) : headLength buffer ≤ buffer.length := by
  unfold headLength
  cases h : headEnd? buffer with
  | none => exact Nat.le_refl _
  | some e => exact le_length_of_headEnd? h

/-- Bytes after the first empty line change nothing of the parse. -/
theorem parse_take {x : Bytes} {e k : Nat} (h : headEnd? x = some e) (hk : e ≤ k) :
    parse (x.take k) = parse x := by
  have hlen : headLength (x.take k) = e := by simp [headLength, headEnd?_take_of_le h hk]
  have hlen' : headLength x = e := by simp [headLength, h]
  unfold parse
  rw [hlen, hlen']
  simp only [List.take_take, Nat.min_eq_left hk]

/-- A parsed head records the length it was given. -/
theorem headLen_of_ofLines {n : Nat} {lines : List (List Char)} {r : Request}
    (h : ofLines n lines = .ok r) : r.headLen = n := by
  unfold ofLines at h
  split at h
  · cases h
  · rename_i headerLines
    split at h
    · split at h
      simp only at h
      split at h
      · cases hr : readHeaders [] headerLines with
        | error err => simp [hr, Except.map] at h
        | ok hs =>
          simp only [hr, Except.map, Except.ok.injEq] at h
          rw [← h]
      · cases h
    · cases h

/-- A parsed head is never longer than the bytes it was read from. -/
theorem headLen_le_of_parse {buffer : Bytes} {r : Request} (h : parse buffer = .ok r) :
    r.headLen ≤ buffer.length := by
  unfold parse at h
  simp only at h
  split at h
  · cases h
  · split at h
    · cases h
    · rw [headLen_of_ofLines h]
      exact headLength_le buffer

end Request

namespace Inbound

/-- With no failure planned, a read delivers the front of the pending bytes: as many as the buffer
and the schedule allow. -/
theorem read_clean {c : Inbound} (h : c.failure = none) (room : Nat) :
    c.read room =
      ({ c with reads := c.reads + 1, pending := c.pending.drop (min room (c.allowance.getD room)) },
        .ok (c.pending.take (min room (c.allowance.getD room)))) := by
  simp [read, read.deliver, h]

end Inbound

namespace Reading

open Request

variable {head chunk : Bytes} {c c₁ : Inbound}

/-- Reading stops once the head has an empty line or reaches the limit. -/
theorem readHeadFrom_stop (h : ¬ (head.length < headLimit ∧ headEnd? head = none)) :
    readHeadFrom head c = (c, .ok head) := by
  rw [readHeadFrom, if_neg h]

/-- A read that delivers nothing ends the head. -/
theorem readHeadFrom_dry (hgo : head.length < headLimit ∧ headEnd? head = none)
    (hr : c.read headBuffer = (c₁, .ok [])) : readHeadFrom head c = (c₁, .ok head) := by
  rw [readHeadFrom, if_pos hgo]
  split <;> simp_all

/-- A read that delivers bytes adds them to the head, and reading goes on. -/
theorem readHeadFrom_more (hgo : head.length < headLimit ∧ headEnd? head = none)
    (hr : c.read headBuffer = (c₁, .ok chunk)) (hc : chunk ≠ []) :
    readHeadFrom head c = readHeadFrom (head ++ chunk) c₁ := by
  rw [readHeadFrom, if_pos hgo]
  split <;> simp_all

/-- A head that comes whole in the first read, with nothing after it, is read by that read. -/
theorem readHead_whole {b : Bytes} (hne : b ≠ []) (hlen : b.length ≤ headBuffer)
    (hend : headEnd? b ≠ none) :
    readHead { pending := b } = ({ pending := [], reads := 1 }, .ok b) := by
  have hread :
      Inbound.read { pending := b } headBuffer = ({ pending := [], reads := 1 }, .ok b) := by
    rw [Inbound.read_clean rfl]
    simp [Inbound.allowance, List.drop_eq_nil_of_le hlen, List.take_of_length_le hlen]
  rw [readHead, readHeadFrom_more (by decide) hread hne, List.nil_append,
    readHeadFrom_stop (by simp [hend])]

/-- What a head read that started from `head` on connection `c` and ended with `out` on `c'` has
done: it took the bytes it added from the front of the pending bytes, left the schedule alone,
grew at most one buffer past the limit, and stopped only at an empty line, at the limit, or after a
read that delivered nothing. -/
structure HeadRead (c : Inbound) (head out : Bytes) (c' : Inbound) : Prop where
  taken : ∃ d, out = head ++ d ∧ c.pending = d ++ c'.pending
  chunks : c'.chunks = c.chunks
  failure : c'.failure = c.failure
  bounded : out.length ≤ max head.length (headLimit - 1 + headBuffer)
  stopped : headEnd? out = none → headLimit ≤ out.length ∨
    (c.reads < c'.reads ∧ ({ c' with reads := c'.reads - 1 }.read headBuffer).2 = .ok [])

/-- Reading a head from a connection that never fails ends with bytes, and it ends as
`HeadRead` says. -/
theorem readHeadFrom_clean (head : Bytes) (c : Inbound) (hc : c.failure = none) :
    ∃ c' out, readHeadFrom head c = (c', .ok out) ∧ HeadRead c head out c' := by
  induction hn : c.pending.length using Nat.strongRecOn generalizing head c with
  | _ n ih =>
  by_cases hgo : head.length < headLimit ∧ headEnd? head = none
  · have hr := Inbound.read_clean hc headBuffer
    generalize hk : min headBuffer (c.allowance.getD headBuffer) = k at hr
    by_cases hd : c.pending.take k = []
    · have hdrop : c.pending.drop k = c.pending := by
        rcases List.take_eq_nil_iff.1 hd with rfl | he
        · rfl
        · simp [he]
      refine ⟨{ c with reads := c.reads + 1, pending := c.pending.drop k }, head,
        readHeadFrom_dry hgo (by rw [hr, hd]), ⟨[], by simp, by simp [hdrop]⟩, rfl, rfl,
        Nat.le_max_left _ _, fun _ => .inr ⟨Nat.lt_succ_self _, ?_⟩⟩
      have hback : { { c with reads := c.reads + 1, pending := c.pending.drop k } with
          reads := c.reads + 1 - 1 } = c := by
        rw [hdrop]; cases c; rfl
      rw [hback, hr, hd]
    · have hlt : (c.pending.drop k).length < n := by
        have : 0 < k := Nat.pos_of_ne_zero (fun h0 => hd (by simp [h0]))
        have : c.pending ≠ [] := fun he => hd (by simp [he])
        rw [List.length_drop, ← hn]
        have := List.length_pos_iff.2 this
        omega
      obtain ⟨c', out, hrun, hread⟩ :=
        ih _ hlt (head ++ c.pending.take k) { c with reads := c.reads + 1, pending := c.pending.drop k }
          hc rfl
      refine ⟨c', out, (readHeadFrom_more hgo hr hd).trans hrun, ?_, hread.chunks, hread.failure, ?_, ?_⟩
      · obtain ⟨d, hout, hpend⟩ := hread.taken
        refine ⟨c.pending.take k ++ d, by rw [hout, List.append_assoc], ?_⟩
        calc c.pending = c.pending.take k ++ c.pending.drop k := (List.take_append_drop k _).symm
          _ = c.pending.take k ++ d ++ c'.pending := by rw [List.append_assoc, ← hpend]
      · have hbuf : (c.pending.take k).length ≤ headBuffer := by
          rw [List.length_take, ← hk]
          omega
        have := hread.bounded
        simp only [List.length_append] at this
        omega
      · intro hnone
        rcases hread.stopped hnone with hlim | ⟨hreads, hdry⟩
        · exact .inl hlim
        · exact .inr ⟨Nat.lt_of_succ_lt hreads, hdry⟩
  · exact ⟨c, head, readHeadFrom_stop hgo, ⟨[], by simp, by simp⟩, rfl, rfl, Nat.le_max_left _ _,
      fun hnone => .inl (Nat.le_of_not_lt fun hl => hgo ⟨hl, hnone⟩)⟩

/-- The most that reads under the chunk sizes `cs` can deliver: each at most one buffer. -/
def capacity : List Nat → Nat
  | [] => 0
  | n :: ns => min headBuffer n + capacity ns

theorem capacity_drop {l : List Nat} {r : Nat} (hr : r < l.length) :
    capacity (l.drop r) = min headBuffer l[r] + capacity (l.drop (r + 1)) := by
  rw [List.drop_eq_getElem_cons hr, capacity]

/-- Reading a head whose empty line ends at `e`, from `h < e` bytes in, when a chunk of zero
comes only once the chunks before it could have carried all the bytes: reading stops after the
read that reaches `e`, which is at most one buffer past the last head without an empty line. -/
theorem readHeadFrom_reaches {x : Bytes} {cs : List Nat} {e : Nat} (he : headEnd? x = some e)
    (hlim : e ≤ headLimit) (h r : Nat) (hh : h < e)
    (hz : ∀ i, r ≤ i → cs[i]? = some 0 → x.length ≤ h + capacity ((cs.take i).drop r)) :
    ∃ c' k, readHeadFrom (x.take h) ⟨x.drop h, cs, none, r⟩ = (c', .ok (x.take k)) ∧
      e ≤ k ∧ k ≤ x.length ∧ k ≤ e - 1 + headBuffer := by
  have hex := le_length_of_headEnd? he
  induction hn : x.length - h using Nat.strongRecOn generalizing h r with
  | _ n ih =>
  have hgo : (x.take h).length < headLimit ∧ headEnd? (x.take h) = none :=
    ⟨by rw [List.length_take]; omega, headEnd?_take_of_lt he hh⟩
  generalize hk : min headBuffer ((cs[r]?).getD headBuffer) = k
  have hk1 : 1 ≤ k := by
    cases hc : cs[r]? with
    | none => simp [hc, headBuffer] at hk; omega
    | some m =>
      rcases Nat.eq_zero_or_pos m with rfl | hm
      · have := hz r (Nat.le_refl r) hc
        simp [capacity] at this
        omega
      · simp [hc, headBuffer] at hk; omega
  have hr := Inbound.read_clean (c := ⟨x.drop h, cs, none, r⟩) rfl headBuffer
  simp only [Inbound.allowance, hk] at hr
  have hchunk : (x.drop h).take k ≠ [] := by
    simp only [ne_eq, List.take_eq_nil_iff, List.drop_eq_nil_iff, not_or]
    omega
  rw [readHeadFrom_more hgo hr hchunk, ← List.take_add, List.drop_drop]
  by_cases hfar : e ≤ h + k
  · refine ⟨⟨x.drop (h + k), cs, none, r + 1⟩, min (h + k) x.length, ?_, by omega, by omega, by simp [headBuffer] at hk ⊢; omega⟩
    have hend : headEnd? (x.take (h + k)) = some e := headEnd?_take_of_le he hfar
    rw [readHeadFrom_stop (by simp [hend]), ← List.take_take (j := x.length), List.take_length]
  · have hz' : ∀ i, r + 1 ≤ i → cs[i]? = some 0 →
        x.length ≤ h + k + capacity ((cs.take i).drop (r + 1)) := by
      intro i hi hc
      have hic : i < cs.length := (List.getElem?_eq_some_iff.1 hc).1
      have hrl : r < (cs.take i).length := by rw [List.length_take]; omega
      have := hz i (by omega) hc
      rw [capacity_drop hrl, List.getElem_take] at this
      have hkr : k = min headBuffer cs[r] := by
        rw [← hk, List.getElem?_eq_getElem (by omega), Option.getD_some]
      omega
    exact ih (x.length - (h + k)) (by omega) (h + k) (r + 1) (by omega) hz' rfl

/-- Reading a head in pieces agrees with parsing the whole input. When the first empty line of `x`
ends `e ≤ 8192` bytes in, and a chunk of zero comes only once the chunks before it could have
carried all of `x`, reading returns the first `k` bytes of `x` for an `e ≤ k ≤ min |x| (e + 1023)`,
and they parse as `x` does. Under every schedule without failures, reading returns a prefix of the
input of at most `8192 + 1023` bytes, which, if it holds no empty line, is at least 8192 bytes
long or ends with a read that delivered nothing; and a parsed head never counts more bytes than it
was given. -/
theorem readHead_agrees_with_parse (x : Bytes) (cs : List Nat) :
    (∀ e, headEnd? x = some e → e ≤ headLimit →
      (∀ i, cs[i]? = some 0 → x.length ≤ capacity (cs.take i)) →
      ∃ c' k, readHead { pending := x, chunks := cs } = (c', .ok (x.take k)) ∧
        e ≤ k ∧ k ≤ min x.length (e + headBuffer - 1) ∧ parse (x.take k) = parse x) ∧
    (∃ c' out, readHead { pending := x, chunks := cs } = (c', .ok out) ∧ out <+: x ∧
      out.length ≤ headLimit + headBuffer - 1 ∧
      (headEnd? out = none → headLimit ≤ out.length ∨
        (0 < c'.reads ∧ ({ c' with reads := c'.reads - 1 }.read headBuffer).2 = .ok []))) ∧
    ∀ (buffer : Bytes) (r : Request), parse buffer = .ok r → r.headLen ≤ buffer.length := by
  refine ⟨?_, ?_, fun _ _ => headLen_le_of_parse⟩
  · intro e he hlim hz
    obtain ⟨c', k, hrun, hek, hkx, hke⟩ :=
      readHeadFrom_reaches he hlim 0 0 (by have := four_le_of_headEnd? he; omega)
        (fun i _ hi => by simpa using hz i hi)
    simp only [List.take_zero, List.drop_zero] at hrun
    have := four_le_of_headEnd? he
    exact ⟨c', k, hrun, hek, by simp only [headBuffer] at hke ⊢; omega, parse_take he hek⟩
  · obtain ⟨c', out, hrun, hread⟩ := readHeadFrom_clean [] { pending := x, chunks := cs } rfl
    obtain ⟨d, hout, hx⟩ := hread.taken
    refine ⟨c', out, hrun, ⟨c'.pending, by rw [hout, List.nil_append]; exact hx.symm⟩, ?_, ?_⟩
    · have := hread.bounded
      simp only [List.length_nil, headLimit, headBuffer] at this ⊢
      omega
    · intro hnone
      rcases hread.stopped hnone with hlim | ⟨hreads, hdry⟩
      · exact .inl hlim
      · exact .inr ⟨hreads, hdry⟩

/-- A request line and an empty line, served in chunks of 5, 7 and 3 bytes and then in full
buffers: reading stops at the empty line, and the bytes read parse as the whole input. -/
theorem readHead_agrees_with_parse_request_line :
    headEnd? [71, 69, 84, 32, 47, 32, 72, 84, 84, 80, 47, 49, 46, 48, 13, 10, 13, 10] = some 18 ∧
      18 ≤ headLimit ∧
      ∃ c' k, readHead ⟨[71, 69, 84, 32, 47, 32, 72, 84, 84, 80, 47, 49, 46, 48, 13, 10, 13, 10],
          [5, 7, 3], none, 0⟩ =
        (c', .ok (List.take k [71, 69, 84, 32, 47, 32, 72, 84, 84, 80, 47, 49, 46, 48, 13, 10, 13, 10])) ∧
        18 ≤ k ∧ k ≤ min 18 (18 + headBuffer - 1) ∧
        parse (List.take k [71, 69, 84, 32, 47, 32, 72, 84, 84, 80, 47, 49, 46, 48, 13, 10, 13, 10]) =
          parse [71, 69, 84, 32, 47, 32, 72, 84, 84, 80, 47, 49, 46, 48, 13, 10, 13, 10] :=
  ⟨by decide, by decide,
    (readHead_agrees_with_parse _ [5, 7, 3]).1 18 (by decide) (by decide)
      (fun _ h => absurd (List.mem_of_getElem? h) (by decide))⟩

end Reading


end PoolServer
