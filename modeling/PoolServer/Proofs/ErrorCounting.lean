import PoolServer.Proofs.StampedAnswer
import PoolServer.Proofs.ReportWords
/-!
# What the error count counts

A request is counted by the kind of its plan before the plan is carried out: a refusal counts as
an error, a dump as a `POST`, a file as static and a program as dynamic. Carrying the plan out
can still fail. A file the host cannot read, a program it cannot run, and a dump it has no memory
for are answered `500 Internal Server Error` and stay counted as static, dynamic or `POST`.

So a refusal is never answered `200 OK`, but not every answer other than `200 OK` is counted as
an error. A worker's error count (its total less its static, dynamic and dump counts) and the
pool report's are the responses other than `200 OK` less the `500`s of files, programs and dumps.
`unreadable_file_counted_static` shows one such `500`.

Main statement: `errors_count_refusals`.
-/
namespace PoolServer

namespace Response

/-- A response starts with `HTTP/1.0 ` and the code of its status. -/
theorem toBytes_code (r : Response) :
    ∃ rest, r.toBytes = Utf8.encode ("HTTP/1.0 " ++ Decimal.text r.status.code) ++ rest := by
  obtain ⟨tail, htail⟩ : ∃ tail, r.headText = "HTTP/1.0 " ++ Decimal.text r.status.code ++ tail :=
    ⟨_, by
      rw [headText, Status.display]
      simp only [String.append_assoc]
      rfl⟩
  refine ⟨Utf8.encode tail ++ r.afterHead, ?_⟩
  rw [toBytes_eq, htail, Utf8.encode_append, List.append_assoc]

/-- The status line comes first, so the bytes of a response tell its status. -/
theorem status_eq_of_toBytes {r₁ r₂ : Response} (h : r₁.toBytes = r₂.toBytes) :
    r₁.status = r₂.status := by
  obtain ⟨rest₁, h₁⟩ := toBytes_code r₁
  obtain ⟨rest₂, h₂⟩ := toBytes_code r₂
  have hline : ∀ (s : Status) (rest : Bytes),
      (Utf8.encode ("HTTP/1.0 " ++ Decimal.text s.code) ++ rest).take 12 =
        Utf8.encode ("HTTP/1.0 " ++ Decimal.text s.code) := fun s _ =>
    List.take_left' (by cases s <;> decide +kernel)
  have h12 := congrArg (List.take 12) (h₁.symm.trans (h.trans h₂))
  rw [hline, hline] at h12
  revert h12
  cases r₁.status <;> cases r₂.status <;> decide +kernel

end Response

namespace Kind

/-- Whether a status fits the kind a request was counted as: a refusal is never answered `200 OK`,
and a file, a program or a dump is answered `200 OK`, or `500` when the host fails it. -/
def fits : Kind → Status → Bool
  | .error, s => s != .ok
  | _, s => s == .ok || s == .internalServerError

/-- A fitting status is other than `200 OK` exactly for an error, or for the `500` of a request of
another kind. -/
theorem fits_iff {k : Kind} {s : Status} (h : k.fits s = true) :
    s ≠ .ok ↔ k = .error ∨ s = .internalServerError ∧ k ≠ .error := by
  revert h
  cases k <;> cases s <;> decide

/-- Answers split by kind. -/
theorem countP_kinds (l : List (Kind × Response)) :
    l.countP (·.1 == .static) + l.countP (·.1 == .dynamic) + l.countP (·.1 == .post) +
      l.countP (·.1 == .error) = l.length := by
  induction l with
  | nil => rfl
  | cons a l ih =>
    simp only [List.countP_cons, List.length_cons]
    cases a.1 <;> simp <;> omega

/-- When every status fits its kind, the answers other than `200 OK` are the errors and the
`500`s of the other kinds. -/
theorem countP_error_add_failed {l : List (Kind × Response)}
    (hl : ∀ a ∈ l, a.1.fits a.2.status = true) :
    l.countP (·.1 == .error) +
        l.countP (fun a => a.2.status == .internalServerError && a.1 != .error) =
      l.countP (·.2.status != .ok) := by
  induction l with
  | nil => rfl
  | cons a l ih =>
    simp only [List.mem_cons, forall_eq_or_imp] at hl
    have hrest := ih hl.2
    have ha := hl.1
    simp only [List.countP_cons]
    revert ha
    cases a.1 <;> cases a.2.status <;> simp [fits] <;> omega

end Kind

namespace Plan

/-- Planning refuses with `403 Forbidden`, `404 Not Found` or `501 Not Implemented`, never with
`200 OK`. -/
theorem ofRequest_reject_ne_ok {host : Host} {dir : String} {r : Request} {status : Status}
    {cause : String} (h : ofRequest host dir r = .reject status cause) : status ≠ .ok := by
  unfold ofRequest ofGet at h
  split at h
  · cases h
  · split at h
    · cases h
      decide
    · simp only at h
      split at h
      · cases h
        split <;> decide
      · split at h
        · split at h
          · cases h
          · cases h
            decide
        · split at h
          · cases h
          · cases h
            decide
  · cases h
    decide

end Plan

namespace Site

variable {site : Site} {arrival : Instant} {dispatch : Duration}

/-- The status a plan is answered with over the log `j`: a refusal's own; `200 OK` for a file the
host reads, a program it runs, or a dump it has the memory for, and `500` otherwise. -/
def statusFor (site : Site) (j : Journal) : Plan → Status
  | .static path _ =>
    match site.host.read path with
    | .ok _ => .ok
    | .error _ => .internalServerError
  | .dynamic path query =>
    match site.host.spawn path [("QUERY_STRING", Utf8.encode query)] with
    | .ok _ => .ok
    | .error _ => .internalServerError
  | .dump =>
    match j.snapshot? site.host.reserve with
    | .ok _ => .ok
    | .error _ => .internalServerError
  | .reject status _ => status

/-- Carrying a plan out answers it with the status `statusFor` gives it. -/
theorem execute_status (site : Site) (j : Journal) (p : Plan) :
    (site.execute j p).1.status = site.statusFor j p := by
  cases p with
  | static path contentType =>
    simp only [execute, statusFor]
    cases site.host.read path <;> rfl
  | dynamic path query =>
    simp only [execute, statusFor]
    cases site.host.spawn path [("QUERY_STRING", Utf8.encode query)] <;> rfl
  | dump =>
    simp only [execute, statusFor]
    cases j.snapshot? site.host.reserve <;> rfl
  | reject status cause => rfl

/-- Reading and planning never come to a refusal with `200 OK`. -/
theorem prepare_reject_ne_ok {x x' : Exchange} {status : Status} {cause : String}
    (h : site.prepare x = (x', .ok (.reject status cause))) : status ≠ .ok := by
  rcases prepare_plan h with ⟨c, hc⟩ | ⟨r, hr⟩
  · cases hc
    decide
  · exact Plan.ofRequest_reject_ne_ok hr.symm

/-- The status of a prepared plan fits the plan's kind. -/
theorem fits_statusFor {x x' : Exchange} {plan : Plan} (h : site.prepare x = (x', .ok plan))
    (j : Journal) : plan.kind.fits (site.statusFor j plan) = true := by
  cases plan with
  | reject status cause => simpa [Plan.kind, statusFor, Kind.fits] using prepare_reject_ne_ok h
  | _ =>
    simp only [Plan.kind, statusFor]
    split <;> rfl

/-- Handling that ends with an outcome writes a response whose status is the one `statusFor`
gives the prepared plan, and that status fits the outcome's kind. -/
theorem handle_status {x x' : Exchange} {o : Outcome}
    (h : site.handle arrival dispatch x = (x', .ok o)) :
    ∃ x₁ plan, ∃ resp : Response, site.prepare x = (x₁, .ok plan) ∧ o.kind = plan.kind ∧
      resp.status = site.statusFor x.journal plan ∧
      x'.outbound.written = x.outbound.written ++ resp.toBytes ∧ o.kind.fits resp.status := by
  obtain ⟨x₁, plan, hp, ha⟩ := handle_ok h
  obtain ⟨-, hj₁, ho₁⟩ := prepare_frame hp
  obtain ⟨hk, -, hw, -, -⟩ := answer_ok ha
  refine ⟨x₁, plan, _, hp, hk, ?_, by rw [hw, ho₁], ?_⟩
  · rw [Stamp.apply_status, execute_status, hj₁]
  · rw [hk, Stamp.apply_status, execute_status]
    exact fits_statusFor hp _

end Site

/-- A worker handling its connections one after another, each to an outcome: every handling
starts with the counters the one before left, and each entry lists the outcome's kind with the
response written for it. Each handling asks the host as it is then, over the log as it is then:
files, programs and memory may change between handlings, and other workers write to the log. -/
inductive Turns : Counters → List (Kind × Response) → Counters → Prop
  | nil (c : Counters) : Turns c [] c
  | cons {site : Site} {arrival : Instant} {dispatch : Duration} {x x' : Exchange} {o : Outcome}
      {resp : Response} {answers : List (Kind × Response)} {c : Counters}
      (h : site.handle arrival dispatch x = (x', .ok o))
      (hw : x'.outbound.written = x.outbound.written ++ resp.toBytes)
      (rest : Turns x'.counters answers c) :
      Turns x.counters ((o.kind, resp) :: answers) c

namespace Turns

variable {c c' : Counters} {answers : List (Kind × Response)}

/-- Every response a worker wrote has a status that fits its kind. -/
theorem fits (h : Turns c answers c') : ∀ a ∈ answers, a.1.fits a.2.status = true := by
  induction h with
  | nil => simp
  | cons hh hw _ ih =>
    obtain ⟨-, -, resp₀, -, -, -, hw₀, hfit⟩ := Site.handle_status hh
    have hs := Response.status_eq_of_toBytes (List.append_cancel_left (hw.symm.trans hw₀))
    simp only [List.mem_cons, forall_eq_or_imp]
    exact ⟨hs ▸ hfit, ih⟩

/-- A worker's turns leave the counters that counting the kinds of its answers in order gives. -/
theorem eq_foldl (h : Turns c answers c') : c' = (answers.map Prod.fst).foldl Counters.record c := by
  induction h with
  | nil => rfl
  | cons hh _ _ ih => rw [ih, List.map_cons, List.foldl_cons, Site.handle_counters hh]

/-- Counted on words, as the program counts, a fresh worker's answers give the same counters,
with no count overflowing, while they are no more than the largest word. -/
theorem onWords {id : Nat} (h : Turns (Counters.new id) answers c)
    (hw : answers.length ≤ Decimal.wordMax) :
    (answers.map Prod.fst).foldlM Counters.record? (Counters.new id) = some c := by
  rw [h.eq_foldl]
  exact Counters.foldlM_record? (Counters.balanced_new id) (by simpa [Counters.new] using hw)

/-- Each handling adds one to the total and one to the counter of its kind. -/
theorem counters (h : Turns c answers c') :
    c'.total = c.total + answers.length ∧
      c'.static = c.static + answers.countP (·.1 == .static) ∧
      c'.dynamic = c.dynamic + answers.countP (·.1 == .dynamic) ∧
      c'.post = c.post + answers.countP (·.1 == .post) := by
  obtain ⟨-, ht, hs, hd, hp⟩ := Counters.foldl_record c (answers.map Prod.fst)
  rw [h.eq_foldl]
  simp [ht, hs, hd, hp, List.count, List.countP_map, Function.comp_def]

/-- A fresh worker's error count is the number of its answers counted as errors. -/
theorem errors_of_new {id : Nat} (h : Turns (Counters.new id) answers c) :
    c.total - c.static - c.dynamic - c.post = answers.countP (·.1 == .error) := by
  obtain ⟨ht, hs, hd, hp⟩ := h.counters
  have hk := Kind.countP_kinds answers
  simp only [Counters.new] at ht hs hd hp
  omega

end Turns

namespace Report

/-- Over fresh workers, the report's error count is the number of their answers counted as
errors. -/
theorem errors_of_turns {ws : List (Counters × List (Kind × Response))}
    (hws : ∀ w ∈ ws, ∃ id, Turns (Counters.new id) w.2 w.1) :
    (ofWorkers (ws.map Prod.fst)).errors = (ws.flatMap Prod.snd).countP (·.1 == .error) := by
  have hsums : tally (·.total) (ws.map Prod.fst) = (ws.flatMap Prod.snd).length ∧
      tally (·.static) (ws.map Prod.fst) = (ws.flatMap Prod.snd).countP (·.1 == .static) ∧
      tally (·.dynamic) (ws.map Prod.fst) = (ws.flatMap Prod.snd).countP (·.1 == .dynamic) ∧
      tally (·.post) (ws.map Prod.fst) = (ws.flatMap Prod.snd).countP (·.1 == .post) := by
    induction ws with
    | nil => simp
    | cons w ws ih =>
      obtain ⟨id, hw⟩ := hws w (by simp)
      obtain ⟨ht, hs, hd, hp⟩ := hw.counters
      obtain ⟨ih₁, ih₂, ih₃, ih₄⟩ := ih fun w' hw' => hws w' (by simp [hw'])
      simp only [Counters.new, Nat.zero_add] at ht hs hd hp
      simp only [List.map_cons, tally_cons, List.flatMap_cons, List.length_append,
        List.countP_append, ih₁, ih₂, ih₃, ih₄, ht, hs, hd, hp, and_self]
  obtain ⟨ht, hs, hd, hp⟩ := hsums
  have hk := Kind.countP_kinds (ws.flatMap Prod.snd)
  simp only [ofWorkers, ht, hs, hd, hp]
  omega

end Report

/-- A request counted as an error is never answered `200 OK`, but a file the host cannot read, a
program it cannot run and a dump it has no memory for are answered `500` and counted as static,
dynamic and `POST`. Handling that ends with an outcome writes a response whose status is the one
`Site.statusFor` gives the prepared plan, other than `200 OK` exactly for an error or such a `500`.
So a worker's error count, its total less its static, dynamic and dump counts, and the pool
report's error count are the responses other than `200 OK` less those `500`s. -/
theorem errors_count_refusals (site : Site) :
    (∀ (arrival : Instant) (dispatch : Duration) (x x' : Exchange) (o : Outcome),
      site.handle arrival dispatch x = (x', .ok o) →
      ∃ x₁ plan, ∃ resp : Response, site.prepare x = (x₁, .ok plan) ∧ o.kind = plan.kind ∧
        resp.status = site.statusFor x.journal plan ∧
        x'.outbound.written = x.outbound.written ++ resp.toBytes ∧
        (resp.status ≠ .ok ↔
          o.kind = .error ∨ resp.status = .internalServerError ∧ o.kind ≠ .error)) ∧
    (∀ (id : Nat) (answers : List (Kind × Response)) (c : Counters),
      Turns (Counters.new id) answers c →
      c.total - c.static - c.dynamic - c.post +
          answers.countP (fun a => a.2.status == .internalServerError && a.1 != .error) =
        answers.countP (·.2.status != .ok)) ∧
    (∀ ws : List (Counters × List (Kind × Response)),
      (∀ w ∈ ws, ∃ id, Turns (Counters.new id) w.2 w.1) →
      (Report.ofWorkers (ws.map Prod.fst)).errors +
          (ws.flatMap Prod.snd).countP (fun a =>
            a.2.status == .internalServerError && a.1 != .error) =
        (ws.flatMap Prod.snd).countP (·.2.status != .ok)) := by
  refine ⟨fun arrival dispatch x x' o h => ?_, fun id answers c h => ?_, fun ws hws => ?_⟩
  · obtain ⟨x₁, plan, resp, hp, hk, hs, hw, hfit⟩ := Site.handle_status h
    exact ⟨x₁, plan, resp, hp, hk, hs, hw, Kind.fits_iff hfit⟩
  · rw [h.errors_of_new]
    exact Kind.countP_error_add_failed h.fits
  · rw [Report.errors_of_turns hws]
    refine Kind.countP_error_add_failed fun a ha => ?_
    obtain ⟨w, hw, ha⟩ := List.mem_flatMap.1 ha
    obtain ⟨id, ht⟩ := hws w hw
    exact ht.fits a ha

/-- A disk whose root holds `mem`, a file of mode `0o600` whose reads fail, as a process's memory
image does. -/
def memDisk : Disk := ⟨.dir 0o755 [("mem", .file 0o600 (.unreadable .io))], [], false⟩

/-- The site serving `memDisk` from its root. -/
def memSite : Site := ⟨Host.ofDisk memDisk, "/"⟩

/-- The head of `GET /mem`. -/
def getMem : Bytes := Utf8.encode "GET /mem HTTP/1.0\r\n\r\n"

/-- A fresh worker's exchange for the request `GET /mem`. -/
def memExchange : Exchange :=
  { inbound := { pending := getMem }, counters := Counters.new 1, journal := {} }

theorem memDisk_walk :
    memDisk.walk "/mem" true = .ok (["mem"], .file 0o600 (.unreadable .io)) := by
  have hn : Disk.names "/mem" = ["mem"] := by decide
  simp [Disk.walk, hn, Disk.walkFrom, memDisk, Disk.isAbsolute, Disk.endsInSlash, Node.at?,
    Node.child?, Mode.allows, Mode.ownerExec]
  rfl

/-- The file's mode lets its owner read it, but reading it fails. -/
theorem memSite_statusFor (j : Journal) :
    memSite.statusFor j (.static "/mem" "text/plain") = .internalServerError := by
  have hread : memDisk.read "/mem" = .error (.os .io) := by
    rw [Disk.read, memDisk_walk]
    rfl
  simp [Site.statusFor, memSite, hread]

/-- A worker reading `GET /mem` plans to serve the file. -/
theorem memSite_prepare :
    memSite.prepare memExchange =
      ({ memExchange with inbound := { pending := [], reads := 1 } }.report .debug
          "request received" [("worker", .num 1), ("method", .text "GET"), ("uri", .text "/mem")],
        .ok (.static "/mem" "text/plain")) := by
  have hend : Request.headEnd? getMem = some getMem.length := by decide
  have hparse : Request.parse getMem = .ok
      { method := .get, uri := "/mem", path := "/mem", query := "", version := "HTTP/1.0",
        headers := [], headLen := 21 } := by
    rw [getMem, Request.parse_whole hend]
    rfl
  have hplan : Plan.ofRequest memSite.host memSite.publicDir
      { method := .get, uri := "/mem", path := "/mem", query := "", version := "HTTP/1.0",
        headers := [], headLen := 21 } = .static "/mem" "text/plain" := by
    have hm : Plan.mentionsProgram "/mem" = false := by decide
    have hj : Plan.joinPath "/" "mem" = "/mem" := by decide
    have hc : Plan.contentTypeFor "/mem" = "text/plain" := by decide
    simp [Plan.ofRequest, Plan.ofGet, Disk.stat, hm, hj, memDisk_walk, hc, Disk.metaOf,
      memSite, Disk.endsInSlash, Mode.allows, Mode.ownerRead]
    rfl
  rw [Site.prepare_whole rfl (by decide) (by decide) (by decide) hparse rfl, hplan]
  rfl

/-- A fresh worker handles `GET /mem` to an outcome counted as static. -/
theorem memSite_handle :
    ∃ x' n, memSite.handle Instant.epoch Duration.zero memExchange = (x', .ok ⟨.static, n⟩) := by
  obtain ⟨x', ⟨k, n⟩, h, hk⟩ :=
    @Site.handle_writable memSite Instant.epoch Duration.zero _ _ _ memSite_prepare rfl
  cases hk
  exact ⟨x', n, h⟩

/-- A file the host cannot read is answered `500 Internal Server Error` but counted as static: the
worker's error count stays at zero. -/
theorem unreadable_file_counted_static :
    ∃ x' n, memSite.handle Instant.epoch Duration.zero memExchange = (x', .ok ⟨.static, n⟩) ∧
      ∃ resp : Response, resp.status = .internalServerError ∧
        x'.outbound.written = resp.toBytes ∧
        x'.counters.total - x'.counters.static - x'.counters.dynamic - x'.counters.post = 0 := by
  obtain ⟨x', n, h⟩ := memSite_handle
  obtain ⟨x₁, plan, resp, hp, -, hs, hw, -⟩ := Site.handle_status h
  rw [memSite_prepare] at hp
  simp only [Prod.mk.injEq, Except.ok.injEq] at hp
  obtain ⟨-, rfl⟩ := hp
  have hc := Site.handle_counters h
  have hw' : x'.outbound.written = resp.toBytes := by
    rw [hw, show memExchange.outbound.written = [] from rfl, List.nil_append]
  refine ⟨x', n, h, resp, hs.trans (memSite_statusFor _), hw', ?_⟩
  simp [hc, memExchange, Counters.new]

/-- The worker that answered `GET /mem` with a `500` counts no error: its one answer other than
`200 OK` is the `500` of a file. -/
theorem errors_count_refusals_unreadable_file :
    ∃ (c : Counters) (resp : Response),
      Turns (Counters.new 1) [(.static, resp)] c ∧ resp.status = .internalServerError ∧
        c.total - c.static - c.dynamic - c.post = 0 := by
  obtain ⟨x', n, h⟩ := memSite_handle
  obtain ⟨x₁, plan, resp, hp, -, hs, hw, -⟩ := (errors_count_refusals memSite).1 _ _ _ _ _ h
  rw [memSite_prepare] at hp
  simp only [Prod.mk.injEq, Except.ok.injEq] at hp
  obtain ⟨-, rfl⟩ := hp
  have ht : Turns (Counters.new 1) [(.static, resp)] x'.counters := .cons h hw (.nil _)
  have hcount := (errors_count_refusals memSite).2.1 _ _ _ ht
  have h500 := hs.trans (memSite_statusFor _)
  simp [h500] at hcount
  exact ⟨x'.counters, resp, ht, h500, hcount⟩

end PoolServer
