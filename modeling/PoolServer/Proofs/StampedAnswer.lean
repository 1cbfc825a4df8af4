import PoolServer.Site.Handle
import PoolServer.Proofs.HeadRoundTrip
/-!
# Statistics, counters and the log in step

Handling a request counts it once in the worker's counters, stamps the response with the
statistics taken after counting, and, for a file or a program served with `200 OK`, appends the
same statistics to the log before the response is written. The statistics reach the client as
header lines named `<field>:` written by the response's printer, and reach the log as lines
`<field>:: <value>` written directly; they are the same bytes because the printer puts `: `
between a name and its value (`Stamp.headText_apply`).

Main statement: `handle_stats_in_step`. On a host that grants the log its memory, whenever
handling ends with an outcome, the counters grew by one in the total and in the outcome's kind and
nowhere else; the bytes written are the stamped response, whose header lines end with the
statistics record just before the empty line or the program's output; and the log gained exactly
that record when a file or a program was served with `200 OK`, and nothing otherwise.
-/
namespace PoolServer

namespace Journal

/-- A record with bytes in it whose memory is reserved is appended; one whose memory is not
leaves the log as it was. -/
theorem append_of_ne_nil (j : Journal) (reserve : Nat → Bool) {data : Bytes} (h : data ≠ []) :
    j.append reserve data =
      if reserve data.length then .ok ⟨j.records ++ [data]⟩ else .error (.allocation data.length) := by
  simp [append, h]

end Journal

namespace Site

/-- The log takes an answer exactly when a file or a program was served with `200 OK`. -/
theorem logged_iff (k : Kind) (s : Status) :
    logged k s = true ↔ (k = .static ∨ k = .dynamic) ∧ s = .ok := by
  rw [← Status.isSuccess_iff]
  cases k <;> simp [logged]

variable {site : Site} {arrival : Instant} {dispatch : Duration}

/-- A record with bytes in it goes into the log when the host reserves its memory, and otherwise
the log stays as it was. -/
theorem logRecord_fst (site : Site) (id : Nat) (j : Journal) {record : Bytes} (h : record ≠ []) :
    (site.logRecord id j record).1 =
      if site.host.reserve record.length then ⟨j.records ++ [record]⟩ else j := by
  unfold logRecord
  rw [Journal.append_of_ne_nil _ _ h]
  cases site.host.reserve record.length <;> rfl

/-- Reading and planning leave the counters, the log and the outbound side alone. -/
theorem prepare_frame {x x' : Exchange} {p : Except IoError Plan} (h : site.prepare x = (x', p)) :
    x'.counters = x.counters ∧ x'.journal = x.journal ∧ x'.outbound = x.outbound := by
  unfold prepare at h
  split at h
  · cases h; simp
  · split at h
    · cases h; simp
    · simp only at h
      split at h
      · split at h <;> (cases h; simp [Exchange.report])
      · cases h; simp [Exchange.report]

/-- Reading and planning come to a `400 Bad Request` for a head that does not parse, and otherwise
to the plan of the parsed request. -/
theorem prepare_plan {x x' : Exchange} {plan : Plan} (h : site.prepare x = (x', .ok plan)) :
    (∃ cause, plan = .reject .badRequest cause) ∨
      ∃ r, plan = Plan.ofRequest site.host site.publicDir r := by
  unfold prepare at h
  split at h
  · cases h
  · split at h
    · cases h
      exact .inl ⟨_, rfl⟩
    · simp only at h
      split at h
      · split at h
        · cases h
        · cases h
          exact .inr ⟨_, rfl⟩
      · cases h
        exact .inr ⟨_, rfl⟩

/-- A connection whose pending bytes are one whole head that parses and announces no body is read
in one go, and planned as its request. -/
theorem prepare_whole {x : Exchange} {raw : Bytes} {r : Request}
    (hx : x.inbound = { pending := raw }) (hne : raw ≠ []) (hlen : raw.length ≤ Reading.headBuffer)
    (hend : Request.headEnd? raw ≠ none) (hparse : Request.parse raw = .ok r)
    (hbody : r.contentLength? = none) :
    site.prepare x =
      ({ x with inbound := { pending := [], reads := 1 } }.report .debug "request received"
          [("worker", .num x.counters.id), ("method", .text r.method.word), ("uri", .text r.uri)],
        .ok (Plan.ofRequest site.host site.publicDir r)) := by
  have hread : Reading.readHead x.inbound = ({ pending := [], reads := 1 }, .ok raw) := by
    rw [hx]
    exact Reading.readHead_whole hne hlen hend
  have hdrop (k : Nat) (c : Inbound) : Reading.discardBody r k c = (c, .ok ()) := by
    rw [Reading.discardBody, Reading.pendingBody, hbody, Reading.dropBytes, if_pos (by simp)]
  unfold prepare
  simp only [hread, hparse, hdrop]
  split <;> rfl

/-- Handling that ends with an outcome read and planned the request, then answered the plan. -/
theorem handle_ok {x x' : Exchange} {o : Outcome} (h : site.handle arrival dispatch x = (x', .ok o)) :
    ∃ x₁ plan, site.prepare x = (x₁, .ok plan) ∧ site.answer arrival dispatch x₁ plan = (x', .ok o) := by
  unfold handle at h
  split at h
  · cases h
  · exact ⟨_, _, ‹_›, h⟩

/-- An answer that is written counts the plan's kind, writes the stamped response, and logs its
statistics when `logged` says so. -/
theorem answer_ok {x x' : Exchange} {plan : Plan} {o : Outcome}
    (h : site.answer arrival dispatch x plan = (x', .ok o)) :
    o.kind = plan.kind ∧ x'.counters = x.counters.record plan.kind ∧
      x'.outbound.written = x.outbound.written ++
        ((Stamp.capture arrival dispatch x'.counters).apply (site.execute x.journal plan).1).toBytes ∧
      o.bytesSent =
        ((Stamp.capture arrival dispatch x'.counters).apply (site.execute x.journal plan).1).toBytes.length ∧
      x'.journal = if logged plan.kind (site.execute x.journal plan).1.status then
        (site.logRecord x'.counters.id x.journal
          (Utf8.encode (Stamp.capture arrival dispatch x'.counters).record)).1
      else x.journal := by
  unfold answer at h
  simp only at h
  split at h
  · cases h
  · next outbound hw =>
    simp only [Prod.mk.injEq, Except.ok.injEq] at h
    obtain ⟨rfl, rfl⟩ := h
    simp only [Outbound.writeAll] at hw
    split at hw
    · cases hw
    · cases hw
      refine ⟨rfl, rfl, rfl, by simp only [Exchange.report], ?_⟩
      simp only [Stamp.apply_status]
      by_cases hl : logged plan.kind (site.execute x.journal plan).1.status = true
      · simp only [Exchange.report, hl, if_true]
      · simp only [Exchange.report, hl, if_false, Bool.false_eq_true]

/-- Handling that ends with an outcome counts the outcome's kind once. -/
theorem handle_counters {x x' : Exchange} {o : Outcome}
    (h : site.handle arrival dispatch x = (x', .ok o)) : x'.counters = x.counters.record o.kind := by
  obtain ⟨x₁, plan, hp, ha⟩ := handle_ok h
  obtain ⟨hk, hcount, -⟩ := answer_ok ha
  rw [hcount, (prepare_frame hp).1, hk]

/-- Answering on a connection that takes writes always ends with an outcome. -/
theorem answer_writable {x : Exchange} (plan : Plan) (h : x.outbound.failure = none) :
    ∃ x' o, site.answer arrival dispatch x plan = (x', .ok o) := by
  unfold answer
  simp [Outbound.writeAll, h]

/-- Handling a connection that takes writes, once its request is planned, ends with an outcome of
the plan's kind. -/
theorem handle_writable {x x₁ : Exchange} {plan : Plan} (hp : site.prepare x = (x₁, .ok plan))
    (hw : x.outbound.failure = none) :
    ∃ x' o, site.handle arrival dispatch x = (x', .ok o) ∧ o.kind = plan.kind := by
  obtain ⟨x', o, ha⟩ := @answer_writable site arrival dispatch x₁ plan
    (by rw [(prepare_frame hp).2.2, hw])
  refine ⟨x', o, ?_, (answer_ok ha).1⟩
  rw [handle, hp]
  exact ha

end Site

/-- What handling a request that ended with outcome `o` leaves behind, from exchange `x` to `x'`,
with the statistics `Stamp.capture arrival dispatch x'.counters` taken after counting: the
counters grew by one in the total and in the outcome's kind and nowhere else; and for the response
`r` the plan produced, the bytes written are `r` stamped, which carry the statistics record as
their last header lines, and the log gained that record exactly when a file or a program was
served with `200 OK`. -/
structure StatsInStep (arrival : Instant) (dispatch : Duration) (x x' : Exchange) (o : Outcome) :
    Prop where
  id_kept : x'.counters.id = x.counters.id
  total_grew : x'.counters.total = x.counters.total + 1
  static_grew : x'.counters.static = x.counters.static + if o.kind = .static then 1 else 0
  dynamic_grew : x'.counters.dynamic = x.counters.dynamic + if o.kind = .dynamic then 1 else 0
  post_grew : x'.counters.post = x.counters.post + if o.kind = .post then 1 else 0
  answered : ∃ r : Response,
    x'.outbound.written = x.outbound.written ++
      ((Stamp.capture arrival dispatch x'.counters).apply r).toBytes ∧
    o.bytesSent = ((Stamp.capture arrival dispatch x'.counters).apply r).toBytes.length ∧
    ((Stamp.capture arrival dispatch x'.counters).apply r).toBytes =
      Utf8.encode (r.headText ++ (Stamp.capture arrival dispatch x'.counters).record) ++
        r.afterHead ∧
    (((o.kind = .static ∨ o.kind = .dynamic) ∧ r.status = .ok ∧
        x'.journal.records = x.journal.records ++
          [Utf8.encode (Stamp.capture arrival dispatch x'.counters).record]) ∨
      (¬ ((o.kind = .static ∨ o.kind = .dynamic) ∧ r.status = .ok) ∧ x'.journal = x.journal))

/-- On a host that grants the log its memory, handling that ends with an outcome keeps the
counters, the response and the log in step. -/
theorem handle_stats_in_step {site : Site} {arrival : Instant} {dispatch : Duration}
    {x x' : Exchange} {o : Outcome} (hm : ∀ n, site.host.reserve n = true)
    (h : site.handle arrival dispatch x = (x', .ok o)) :
    StatsInStep arrival dispatch x x' o := by
  obtain ⟨x₁, plan, hp, ha⟩ := Site.handle_ok h
  obtain ⟨-, hj₁, ho₁⟩ := Site.prepare_frame hp
  obtain ⟨hk, -, hw, hb, hj⟩ := Site.answer_ok ha
  have hcount := Site.handle_counters h
  refine ⟨by simp [hcount], by simp [hcount], by simp [hcount], by simp [hcount],
    by simp [hcount], (site.execute x₁.journal plan).1, by rw [hw, ho₁], hb, ?_, ?_⟩
  · rw [Response.toBytes_eq, Stamp.headText_apply]
    rfl
  · have hrec := Site.logRecord_fst site x'.counters.id x.journal
      (mt Utf8.encode_eq_nil.1 (Stamp.record_ne_empty (Stamp.capture arrival dispatch x'.counters)))
    rw [hm, if_pos rfl] at hrec
    rw [hj, hj₁, hk]
    by_cases hl : Site.logged plan.kind (site.execute x.journal plan).1.status = true
    · exact .inl ⟨((Site.logged_iff _ _).1 hl).1, ((Site.logged_iff _ _).1 hl).2, by simp [hl, hrec]⟩
    · exact .inr ⟨fun h' => hl ((Site.logged_iff _ _).2 h'), by simp [hl]⟩

/-! ### A file served -/

/-- A disk whose root holds one readable file `a`, with the text `hi`. -/
def helloDisk : Disk := ⟨.dir 0o755 [("a", .file 0o644 (.data [104, 105]))], [], false⟩

/-- The site serving `helloDisk` from its root. -/
def helloSite : Site := ⟨Host.ofDisk helloDisk, "/"⟩

theorem helloDisk_walk :
    helloDisk.walk "/a" true = .ok (["a"], .file 0o644 (.data [104, 105])) := by
  have hn : Disk.names "/a" = ["a"] := by decide
  simp [Disk.walk, hn, Disk.walkFrom, helloDisk, Disk.isAbsolute, Disk.endsInSlash, Node.at?,
    Node.child?, Mode.allows, Mode.ownerExec]
  rfl

theorem helloSite_read : helloSite.host.read "/a" = .ok [104, 105] := by
  simp [helloSite, Disk.read, helloDisk_walk, Mode.allows, Mode.ownerRead]
  rfl

/-- The head of `GET /a`. -/
def getHello : Bytes := Utf8.encode "GET /a HTTP/1.0\r\n\r\n"

/-- The request `GET /a`. -/
def getHelloRequest : Request :=
  { method := .get, uri := "/a", path := "/a", query := "", version := "HTTP/1.0", headers := [],
    headLen := 19 }

theorem parse_getHello : Request.parse getHello = .ok getHelloRequest := by
  have hend : Request.headEnd? getHello = some getHello.length := by decide
  rw [getHello, Request.parse_whole hend]
  rfl

/-- A worker reading `GET /a` plans to serve the file. -/
theorem helloSite_prepare_get {x : Exchange} (hx : x.inbound = { pending := getHello }) :
    helloSite.prepare x =
      ({ x with inbound := { pending := [], reads := 1 } }.report .debug "request received"
          [("worker", .num x.counters.id), ("method", .text "GET"), ("uri", .text "/a")],
        .ok (.static "/a" "text/plain")) := by
  have hplan : Plan.ofRequest helloSite.host helloSite.publicDir getHelloRequest =
      .static "/a" "text/plain" := by
    have hm : Plan.mentionsProgram "/a" = false := by decide
    have hj : Plan.joinPath "/" "a" = "/a" := by decide
    have hc : Plan.contentTypeFor "/a" = "text/plain" := by decide
    simp [Plan.ofRequest, Plan.ofGet, getHelloRequest, Disk.stat, hm, hj, helloDisk_walk, hc,
      Disk.metaOf, helloSite, Disk.endsInSlash, Mode.allows, Mode.ownerRead]
    rfl
  rw [Site.prepare_whole hx (by decide) (by decide) (by decide) parse_getHello rfl, hplan]
  rfl

/-- A fresh worker's exchange for `GET /a`, over an empty log. -/
def helloExchange : Exchange :=
  { inbound := { pending := getHello }, counters := Counters.new 1, journal := {} }

/-- `GET /a` is served `200 OK` on a host that grants the log its memory: the answer is in step,
counted as static, and its statistics record is the one record of the log. -/
theorem handle_stats_in_step_served_file :
    (∀ n, helloSite.host.reserve n = true) ∧
      ∃ x' o, helloSite.handle Instant.epoch Duration.zero helloExchange = (x', .ok o) ∧
        StatsInStep Instant.epoch Duration.zero helloExchange x' o ∧ o.kind = .static ∧
        x'.journal.records =
          [Utf8.encode (Stamp.capture Instant.epoch Duration.zero x'.counters).record] := by
  have hm : ∀ n, helloSite.host.reserve n = true := fun _ => rfl
  have hp := helloSite_prepare_get (x := helloExchange) rfl
  obtain ⟨x', o, h, hk⟩ := @Site.handle_writable helloSite Instant.epoch Duration.zero _ _ _ hp rfl
  obtain ⟨x₁, plan, hp', ha⟩ := Site.handle_ok h
  rw [hp] at hp'
  simp only [Prod.mk.injEq, Except.ok.injEq] at hp'
  obtain ⟨rfl, rfl⟩ := hp'
  obtain ⟨-, -, -, -, hj⟩ := Site.answer_ok ha
  rw [(Site.prepare_frame hp).2.1] at hj
  have hserve : (helloSite.execute helloExchange.journal (.static "/a" "text/plain")).1.status =
      .ok := by
    simp only [Site.execute, helloSite_read]
    rfl
  have hl : Site.logged (Plan.static "/a" "text/plain").kind .ok = true := rfl
  have hrec := Site.logRecord_fst helloSite x'.counters.id helloExchange.journal
    (mt Utf8.encode_eq_nil.1 (Stamp.record_ne_empty (Stamp.capture Instant.epoch Duration.zero
      x'.counters)))
  refine ⟨hm, x', o, h, handle_stats_in_step hm h, hk, ?_⟩
  simp only [hj, hserve, hl, hrec, hm, if_true]
  rfl

end PoolServer
