import PoolServer.Proofs.SiteStages
import PoolServer.Proofs.HeadRoundTrip
/-!
# A served request is in every later dump

A worker that serves a file or a program's output with `200 OK` appends the request's statistics
record to the log before it writes the response, and the append returns only once its record is
linked. So when the write is done, the record is among the records linked so far
(`served_record_linked`). A dump's response carries the reply of the worker's `snapshot`
(`dump_body_of_sent`), and that reply is the records linked when the worker was admitted to the
log for it, whole and in order (`snapshot_reply_admission`): a thread admitted again would have
replied in between. Records are never taken back, so a snapshot admitted after the write holds the
record.

Main statement: `served_record_in_later_dump`.
-/
namespace PoolServer

namespace SiteMonitor

variable {site : Site} {n : Nat} {tr : List Event} {s : SiteMonitor}

/-- A worker that writes a response was about to write it. -/
theorem sending_before {i w : Nat} {k : Kind} {st : Stamp} {resp : Response}
    (hr : Steps (Step site) (init n) tr s) (hi : tr[i]? = some (.sent w k st resp)) :
    ∃ m x, Steps (Step site) (init n) (tr.take i) m ∧
      m.workers[w]? = some ⟨x, .sending k st resp⟩ := by
  obtain ⟨m, m', hm, hstep⟩ := hr.before hi
  cases hstep with
  | send hw _ => exact ⟨m, _, hm, hw⟩

/-- Once a logged response is written, its record is among the records linked so far. -/
theorem served_record_linked {i w : Nat} {k : Kind} {st : Stamp} {resp : Response}
    (hr : Steps (Step site) (init n) tr s) (hi : tr[i]? = some (.sent w k st resp))
    (hl : Site.logged k resp.status = true) :
    Utf8.encode st.record ∈ LogMonitor.linked (logTrace (tr.take i)) := by
  obtain ⟨m, x, hm, hw⟩ := sending_before hr hi
  rw [← (LogMonitor.LinkInv.run (log_run hm)).records]
  exact (SiteInv.run hm w x _ hw).2.1 hl

/-- A dump's response carries the bytes of the worker's last `snapshot` reply, after which the
worker was not admitted to the log again. -/
theorem dump_body_of_sent {l u : Nat} {st : Stamp} {resp : Response}
    (hr : Steps (Step site) (init n) tr s) (hl : tr[l]? = some (.sent u .post st resp)) :
    ∃ p b, p < l ∧ tr[p]? = some (.log (.replied u .snapshot (.bytes b))) ∧
      resp.body = .framed b ∧
      ∀ m c, p < m → m < l → tr[m]? ≠ some (.log (.entered u c)) := by
  obtain ⟨m, x, hm, hw⟩ := sending_before hr hl
  obtain ⟨p, b, hp, hb, hquiet⟩ := (SiteInv.run hm u x _ hw).2.2 rfl
  obtain ⟨hpl, hp'⟩ := LockMonitor.getElem?_of_getElem?_take hp
  refine ⟨p, b, hpl, hp', hb, fun m c hpm hml => ?_⟩
  have := hquiet m c hpm
  rwa [List.getElem?_take_of_lt hml] at this

/-- A `snapshot` replies with the records linked before the worker's last admission. -/
theorem snapshot_reply_admission {p j u : Nat} {b : Bytes}
    (hr : Steps (Step site) (init n) tr s)
    (hp : tr[p]? = some (.log (.replied u .snapshot (.bytes b))))
    (hj : tr[j]? = some (.log (.entered u .snapshot))) (hjp : j < p)
    (hlast : ∀ m c, j < m → m < p → tr[m]? ≠ some (.log (.entered u c))) :
    b = (LogMonitor.linked (logTrace (tr.take j))).flatten := by
  have hlog := log_run hr
  obtain ⟨j', hw, hb⟩ := LogMonitor.read_reply hlog (logTrace_getElem? hp) rfl
  have hjj : j' = (logTrace (tr.take j)).length := by
    rcases Nat.lt_trichotomy j' (logTrace (tr.take j)).length with hlt | heq | hgt
    · obtain ⟨m, c, r, hm₁, hm₂, hm⟩ :=
        LogMonitor.admitted_again_replied hlog hw.entered (logTrace_getElem? hj) hlt
      exact absurd hm (hw.silent m c r hm₁ (hm₂.trans (length_logTrace_take_lt hj hjp)))
    · exact heq
    · obtain ⟨m, hm, hlen⟩ := exists_of_logTrace_getElem? hw.entered
      have hjm : j < m := by
        by_contra hle
        have := length_logTrace_take_le tr (Nat.le_of_not_lt hle)
        omega
      have hmp : m < p := by
        by_contra hle
        have := length_logTrace_take_le tr (Nat.le_of_not_lt hle)
        have := hw.lt
        omega
      exact absurd hm (hlast m _ hjm hmp)
  rw [hjj, take_logTrace] at hb
  simpa [LogMonitor.Call.work, Journal.snapshot] using hb

/-- Whatever the workers do and however their steps interleave, once one of them has written a
`200 OK` answer to a file or program request, a dump whose `snapshot` is admitted afterwards
answers with whole records, oldest first, among them that request's statistics record. The dump
is the one worker `u` writes at `l`, for the snapshot it was last admitted to at `j`. -/
theorem served_record_in_later_dump (hr : Steps (Step site) (init n) tr s)
    {i j l w u : Nat} {k : Kind} {st st' : Stamp} {resp resp' : Response}
    (hi : tr[i]? = some (.sent w k st resp)) (hk : k = .static ∨ k = .dynamic)
    (hok : resp.status = .ok) (hj : tr[j]? = some (.log (.entered u .snapshot))) (hij : i < j)
    (hl : tr[l]? = some (.sent u .post st' resp')) (hjl : j < l)
    (hlast : ∀ m c, j < m → m < l → tr[m]? ≠ some (.log (.entered u c))) :
    ∃ rs : List Bytes, resp'.body = .framed rs.flatten ∧ Utf8.encode st.record ∈ rs := by
  obtain ⟨p, b, hpl, hp, hb, hquiet⟩ := dump_body_of_sent hr hl
  have hjp : j < p := by
    rcases Nat.lt_or_ge j p with h | h
    · exact h
    · rcases Nat.eq_or_lt_of_le h with rfl | hpj
      · rw [hp] at hj
        cases hj
      · exact absurd hj (hquiet j _ hpj hjl)
  have hbytes := snapshot_reply_admission hr hp hj hjp fun m c hjm hmp =>
    hlast m c hjm (hmp.trans hpl)
  refine ⟨LogMonitor.linked (logTrace (tr.take j)), hbytes ▸ hb, ?_⟩
  have hrec := served_record_linked hr hi ((Site.logged_iff _ _).2 ⟨hk, hok⟩)
  exact ((logTrace_take_prefix_take tr hij.le).filterMap _).subset hrec

/-! ### A file served, then a dump

Two workers over one site: worker 0 serves a file and writes its answer, then worker 1 takes a
`POST`, and its dump holds worker 0's record. -/

/-- The head of `POST /`, with no body. -/
def postHello : Bytes := Utf8.encode "POST / HTTP/1.0\r\n\r\n"

/-- A worker reading `POST /` with no body plans a dump. -/
theorem helloSite_prepare_post {x : Exchange} (hx : x.inbound = { pending := postHello }) :
    helloSite.prepare x =
      ({ x with inbound := { pending := [], reads := 1 } }.report .debug "request received"
          [("worker", .num x.counters.id), ("method", .text "POST"), ("uri", .text "/")],
        .ok .dump) := by
  have hend : Request.headEnd? postHello = some postHello.length := by decide
  have hparse : Request.parse postHello = .ok
      { method := .post, uri := "/", path := "/", query := "", version := "HTTP/1.0",
        headers := [], headLen := 19 } := by
    rw [postHello, Request.parse_whole hend]
    rfl
  rw [Site.prepare_whole hx (by decide) (by decide) (by decide) hparse rfl]
  rfl

theorem serve_helloSite_file :
    serve helloSite (.static "/a" "text/plain") =
      (Response.content [104, 105] "text/plain", []) := by
  simp only [serve, Site.execute, helloSite_read]

theorem refusal_append_record (st : Stamp) :
    (LogMonitor.Call.append (Utf8.encode st.record)).refusal = none := by
  simp [LogMonitor.Call.refusal, Utf8.encode_eq_nil, Stamp.record_ne_empty]

/-- Worker 0 serves `/a` and writes `200 OK` at step 5; worker 1 is admitted for its snapshot
at step 8 and writes its dump at step 11, and the dump holds the record of `/a`. -/
theorem served_record_in_later_dump_file_then_dump :
    ∃ (tr : List Event) (s : SiteMonitor) (st st' : Stamp) (resp resp' : Response),
      Steps (Step helloSite) (init 2) tr s ∧ tr[5]? = some (.sent 0 .static st resp) ∧
      resp.status = .ok ∧ tr[8]? = some (.log (.entered 1 .snapshot)) ∧
      tr[11]? = some (.sent 1 .post st' resp') ∧
      (∀ m c, 8 < m → m < 11 → tr[m]? ≠ some (.log (.entered 1 c))) ∧
      ∃ rs : List Bytes, resp'.body = .framed rs.flatten ∧ Utf8.encode st.record ∈ rs := by
  have h₁ := (@Steps.nil _ _ (Step helloSite) (init 2)).snoc
    (Step.plan (w := 0) { pending := getHello } {} Instant.epoch Duration.zero rfl
      (helloSite_prepare_get rfl))
  have h₂ := h₁.snoc (Step.record (w := 0) rfl nofun
    (by rw [serve_helloSite_file, Stamp.apply_status]; rfl)
    (.call rfl rfl (refusal_append_record _)))
  have h₃ := h₂.snoc (Step.inside (.enter (t := 0) rfl (.writerEntersAtOnce rfl rfl))
    (.inr (.inl ⟨_, _, rfl⟩)))
  have h₄ := h₃.snoc (Step.inside (.work (t := 0) rfl) (.inr (.inr ⟨_, _, rfl⟩)))
  have h₅ := h₄.snoc (Step.appended (w := 0) rfl
    (.leave rfl (.writerLeaves rfl (.none (by decide)))))
  have h₆ := h₅.snoc (Step.send (w := 0) rfl rfl)
  have h₇ := h₆.snoc
    (Step.plan (w := 1) { pending := postHello } {} Instant.epoch Duration.zero rfl
      (helloSite_prepare_post rfl))
  have h₈ := h₇.snoc (Step.dump (w := 1) rfl (.call rfl rfl rfl))
  have h₉ := h₈.snoc (Step.inside (.enter (t := 1) rfl (.readerEnters rfl (.inl rfl) rfl))
    (.inr (.inl ⟨_, _, rfl⟩)))
  have h₁₀ := h₉.snoc (Step.inside (.work (t := 1) rfl) (.inr (.inr ⟨_, _, rfl⟩)))
  have h₁₁ := h₁₀.snoc (Step.dumped (w := 1) rfl
    (.leave rfl (.lastReaderLeaves rfl rfl (.none (by decide)))))
  have h₁₂ := h₁₁.snoc (Step.send (w := 1) rfl rfl)
  refine ⟨_, _, _, _, _, _, h₁₂, rfl, ?hok, rfl, rfl, ?hlast,
    served_record_in_later_dump (i := 5) (j := 8) (l := 11) h₁₂ rfl (.inl rfl) ?hok rfl
      (by decide) rfl (by decide) ?hlast⟩
  case hok => rw [Stamp.apply_status, serve_helloSite_file]; rfl
  case hlast =>
    intro m c h₁ h₂ he
    have hm : m = 9 ∨ m = 10 := by omega
    rcases hm with rfl | rfl
    · cases he
    · cases he

end SiteMonitor

end PoolServer
