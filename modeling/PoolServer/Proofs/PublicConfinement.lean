import PoolServer.Proofs.StampedAnswer
import PoolServer.Proofs.HeadRoundTrip
/-!
# The server stays in its public directory

A `GET` is served from a path relative to the public directory: the target's path with its
leading slashes dropped, and `home.html` after it when it names a directory. A path with a `..`
segment is refused before that. So every path the server looks up, reads or runs is the public
directory joined to a relative path that does not start at the root and has no `..` name
(`Disk.Below`), and the whole of handling a connection depends on the host's files only through
what it shows at such paths (`Site.handle_congr`): two hosts that agree there, and on memory, are
served alike, whatever else they hold.

A `GET` whose path has a `..` segment is answered `403 Forbidden` and counted as an error, and
its handling does not depend on the site at all: nothing is asked of the host.

Main statement: `handle_stays_in_public`.
-/
namespace PoolServer

namespace Text

variable {α : Type} {p : α → Bool}

/-- Cutting at a separator between two stretches cuts each stretch on its own. -/
theorem splitWhere_append_sep (a b : List α) {x : α} (hx : p x = true) :
    splitWhere p (a ++ x :: b) = splitWhere p a ++ splitWhere p b := by
  induction a with
  | nil => simp [splitWhere, hx]
  | cons y a ih =>
    by_cases hy : p y = true
    · simp [splitWhere, hy, ih]
    · obtain ⟨w, ws, hw⟩ := List.exists_cons_of_ne_nil (splitWhere_ne_nil p a)
      simp [splitWhere, hy, ih, hw]

/-- Separators dropped from the front leave pieces that were pieces already. -/
theorem mem_splitWhere_dropWhile {xs w : List α} (h : w ∈ splitWhere p (xs.dropWhile p)) :
    w ∈ splitWhere p xs := by
  induction xs with
  | nil => simpa using h
  | cons a as ih =>
    by_cases ha : p a = true
    · rw [List.dropWhile_cons_of_pos ha] at h
      simp [splitWhere, ha, ih h]
    · rwa [List.dropWhile_cons_of_neg ha] at h

end Text

namespace Disk

/-- A relative path that stays below the directory it is joined to: it does not start at the
root, and none of its names is `..`. -/
def Below (rel : String) : Prop := isAbsolute rel = false ∧ ".." ∉ names rel

/-- A relative path followed by a relative path is relative. -/
theorem isAbsolute_append {s t : String} (hs : isAbsolute s = false) (ht : isAbsolute t = false) :
    isAbsolute (s ++ t) = false := by
  simp only [isAbsolute, String.toList_append] at *
  cases hc : s.toList with
  | nil => simpa [hc] using ht
  | cons c cs => simpa [hc] using hs

/-- A path none of whose `/`-separated pieces is `..` has no name `..`. -/
theorem dotdot_not_mem_names {s : String}
    (h : ['.', '.'] ∉ Text.splitWhere (· == '/') s.toList) : ".." ∉ names s := by
  simp only [names, List.mem_filterMap, not_exists, not_and]
  intro w hw hname
  split at hname
  · simp at hname
  · have : w = ['.', '.'] := by
      have := congrArg String.toList (Option.some.inj hname)
      simpa using this
    exact h (this ▸ hw)

end Disk

namespace Host

/-- Two hosts that show the same at every path below `dir` (to status queries, to reads, and to
programs run there) and grant the same reservations of memory. -/
structure AgreeBelow (dir : String) (h₁ h₂ : Host) : Prop where
  stat : ∀ rel, Disk.Below rel → h₁.stat (Plan.joinPath dir rel) = h₂.stat (Plan.joinPath dir rel)
  read : ∀ rel, Disk.Below rel → h₁.read (Plan.joinPath dir rel) = h₂.read (Plan.joinPath dir rel)
  spawn : ∀ rel, Disk.Below rel → ∀ env,
    h₁.spawn (Plan.joinPath dir rel) env = h₂.spawn (Plan.joinPath dir rel) env
  reserve : h₁.reserve = h₂.reserve

end Host

namespace Plan

/-- Whether a request path has a `..` segment, as the planner tests it. -/
def climbs (r : Request) : Bool := (Text.splitWhere (· == '/') r.path.toList).any (· == ['.', '.'])

/-- The path a `GET` is served from, relative to the public directory: the target's path with its
leading slashes dropped, and `home.html` after it when it names a directory and no program is
asked for. -/
def relative (r : Request) : String :=
  let rel := String.ofList (r.path.toList.dropWhile (· == '/'))
  if !mentionsProgram r.uri && (rel.isEmpty || Disk.endsInSlash rel) then rel ++ homePage else rel

/-- The plan for a `GET`, with the path it looks up named. -/
theorem ofGet_eq (host : Host) (dir : String) (r : Request) :
    ofGet host dir r =
      if climbs r then .reject .forbidden r.uri
      else
        match host.stat (joinPath dir (relative r)) with
        | .error e => .reject (if e.isPermissionDenied then .forbidden else .notFound) r.uri
        | .ok info =>
          if mentionsProgram r.uri then
            if info.isFile && Mode.allows info.mode Mode.ownerExec then
              .dynamic (joinPath dir (relative r)) r.query
            else .reject .forbidden r.uri
          else
            if info.isFile && Mode.allows info.mode Mode.ownerRead then
              .static (joinPath dir (relative r)) (contentTypeFor (joinPath dir (relative r)))
            else .reject .forbidden r.uri := rfl

/-- A path that passed the `..` test, its leading slashes dropped and the home page perhaps added,
stays below the public directory. -/
theorem relative_below {r : Request} (h : climbs r = false) : Disk.Below (relative r) := by
  have hpath : ['.', '.'] ∉ Text.splitWhere (· == '/') r.path.toList := fun hm => by
    simp only [climbs, List.any_eq_false] at h
    exact h _ hm (by decide)
  have hrest : ['.', '.'] ∉ Text.splitWhere (· == '/') (r.path.toList.dropWhile (· == '/')) :=
    fun hm => hpath (Text.mem_splitWhere_dropWhile hm)
  have hrel : Disk.isAbsolute (String.ofList (r.path.toList.dropWhile (· == '/'))) = false := by
    have hhead := List.head?_dropWhile_not (· == '/') r.path.toList
    cases hd : (r.path.toList.dropWhile (· == '/')) with
    | nil => simp [Disk.isAbsolute]
    | cons c cs =>
      rw [hd] at hhead
      simp_all [Disk.isAbsolute]
  have hhome : Text.splitWhere (· == '/') homePage.toList = [homePage.toList] := by decide
  unfold relative
  simp only
  split
  · next hcond =>
    simp only [Bool.and_eq_true, Bool.not_eq_true', Bool.or_eq_true, String.isEmpty_iff] at hcond
    refine ⟨Disk.isAbsolute_append hrel (by decide), Disk.dotdot_not_mem_names ?_⟩
    rcases hcond.2 with hemp | hslash
    · rw [String.toList_append, show (r.path.toList.dropWhile (· == '/')) = [] by simpa using hemp,
        String.toList_ofList, List.nil_append, hhome]
      decide
    · obtain ⟨a, ha⟩ := List.getLast?_eq_some_iff.1 (by simpa [Disk.endsInSlash] using hslash)
      rw [String.toList_append, String.toList_ofList, ha, List.append_assoc, List.singleton_append,
        Text.splitWhere_append_sep _ _ (by rfl), hhome]
      rw [ha, Text.splitWhere_append_sep _ _ (by rfl)] at hrest
      simp only [List.mem_append, List.mem_singleton, not_or] at hrest ⊢
      exact ⟨hrest.1, by decide⟩
  · exact ⟨hrel, Disk.dotdot_not_mem_names (by simpa using hrest)⟩

/-- A plan whose file or program, if it has one, is at the public directory `dir` joined to a
path below it. -/
def Within (dir : String) : Plan → Prop
  | .static path _ => ∃ rel, Disk.Below rel ∧ path = joinPath dir rel
  | .dynamic path _ => ∃ rel, Disk.Below rel ∧ path = joinPath dir rel
  | .dump => True
  | .reject _ _ => True

/-- A `GET` serves a file or runs a program only at the path it looked up, below the public
directory. -/
theorem ofGet_within (host : Host) (dir : String) (r : Request) : (ofGet host dir r).Within dir := by
  rw [ofGet_eq]
  split
  · trivial
  · next hc =>
    have hb := relative_below (by simpa using hc)
    split
    · trivial
    · split
      · split
        · exact ⟨_, hb, rfl⟩
        · trivial
      · split
        · exact ⟨_, hb, rfl⟩
        · trivial

theorem ofRequest_within (host : Host) (dir : String) (r : Request) :
    (ofRequest host dir r).Within dir := by
  unfold ofRequest
  split
  · trivial
  · exact ofGet_within host dir r
  · trivial

/-- A `GET` whose path has a `..` segment is refused, whatever the host holds. -/
theorem ofGet_climbs {r : Request} (h : climbs r = true) (host : Host) (dir : String) :
    ofGet host dir r = .reject .forbidden r.uri := by
  rw [ofGet_eq, if_pos h]

/-- Planning asks the host only about the path below the public directory that it serves. -/
theorem ofRequest_congr {dir : String} {h₁ h₂ : Host} (h : Host.AgreeBelow dir h₁ h₂)
    (r : Request) : ofRequest h₁ dir r = ofRequest h₂ dir r := by
  unfold ofRequest
  split
  · rfl
  · by_cases hc : climbs r = true
    · rw [ofGet_climbs hc, ofGet_climbs hc]
    · rw [ofGet_eq, ofGet_eq, h.stat _ (relative_below (by simpa using hc))]
  · rfl

end Plan

namespace Site

variable {dir : String} {h₁ h₂ : Host} {arrival : Instant} {dispatch : Duration}

/-- Carrying out a plan within the public directory reads or runs only there. -/
theorem execute_congr (h : Host.AgreeBelow dir h₁ h₂) (j : Journal) {plan : Plan}
    (hp : plan.Within dir) : execute ⟨h₁, dir⟩ j plan = execute ⟨h₂, dir⟩ j plan := by
  cases plan with
  | static path contentType =>
    obtain ⟨rel, hb, rfl⟩ := hp
    simp only [execute, h.read rel hb]
  | dynamic path query =>
    obtain ⟨rel, hb, rfl⟩ := hp
    simp only [execute, h.spawn rel hb]
  | dump => simp only [execute, h.reserve]
  | reject status cause => rfl

theorem prepare_congr (h : Host.AgreeBelow dir h₁ h₂) (x : Exchange) :
    prepare ⟨h₁, dir⟩ x = prepare ⟨h₂, dir⟩ x := by
  simp only [prepare, Plan.ofRequest_congr h]

/-- Every plan reading and planning come to is within the public directory. -/
theorem prepare_within {site : Site} {x x' : Exchange} {plan : Plan}
    (hp : site.prepare x = (x', .ok plan)) : plan.Within site.publicDir := by
  rcases prepare_plan hp with ⟨cause, rfl⟩ | ⟨r, rfl⟩
  · trivial
  · exact Plan.ofRequest_within _ _ _

/-- Handling a connection depends on the host's files only through what it shows below the public
directory. -/
theorem handle_congr (h : Host.AgreeBelow dir h₁ h₂) (x : Exchange) :
    handle ⟨h₁, dir⟩ arrival dispatch x = handle ⟨h₂, dir⟩ arrival dispatch x := by
  unfold handle
  rw [prepare_congr h]
  split
  · rfl
  · next x₁ plan hp =>
    simp only [answer, logRecord, execute_congr h x₁.journal (prepare_within hp), h.reserve]

/-- A parsed `GET` is planned by `Plan.ofGet`, after the event that reports it. -/
theorem prepare_get {site : Site} {x : Exchange} {c₁ : Inbound} {raw : Bytes} {r : Request}
    (hread : Reading.readHead x.inbound = (c₁, .ok raw)) (hparse : Request.parse raw = .ok r)
    (hget : r.method = .get) :
    site.prepare x =
      ({ x with inbound := c₁ }.report .debug "request received"
          [("worker", .num x.counters.id), ("method", .text "GET"), ("uri", .text r.uri)],
        .ok (Plan.ofGet site.host site.publicDir r)) := by
  unfold prepare
  rw [hread]
  simp [hparse, hget, Plan.ofRequest, Method.word]

/-- Refusing costs the same on every site: an error page asks nothing of the host. -/
theorem answer_reject (site site' : Site) (x : Exchange) (status : Status) (cause : String) :
    site.answer arrival dispatch x (.reject status cause) =
      site'.answer arrival dispatch x (.reject status cause) := by
  have hl (s : Status) : logged Kind.error s = false := rfl
  simp only [answer, execute, Plan.kind, hl, Bool.false_eq_true, if_false]

/-- A parsed `GET` whose path has a `..` segment is handled alike on every site, and on a
connection that takes writes it is answered `403 Forbidden` and counted as an error. -/
theorem handle_climbs {x : Exchange} {c₁ : Inbound} {raw : Bytes} {r : Request}
    (hread : Reading.readHead x.inbound = (c₁, .ok raw)) (hparse : Request.parse raw = .ok r)
    (hget : r.method = .get) (hclimb : Plan.climbs r = true) (site site' : Site) :
    site.handle arrival dispatch x = site'.handle arrival dispatch x ∧
      (x.outbound.failure = none → ∃ x' n,
        site.handle arrival dispatch x = (x', .ok ⟨.error, n⟩) ∧
        ∃ resp : Response, resp.status = .forbidden ∧
          x'.outbound.written = x.outbound.written ++ resp.toBytes) := by
  have hplan : ∀ s : Site, s.prepare x =
      ({ x with inbound := c₁ }.report .debug "request received"
          [("worker", .num x.counters.id), ("method", .text "GET"), ("uri", .text r.uri)],
        .ok (.reject .forbidden r.uri)) := fun s => by
    rw [prepare_get hread hparse hget, Plan.ofGet_climbs hclimb]
  have hhandle : ∀ s : Site, s.handle arrival dispatch x = s.answer arrival dispatch
      ({ x with inbound := c₁ }.report .debug "request received"
          [("worker", .num x.counters.id), ("method", .text "GET"), ("uri", .text r.uri)])
      (.reject .forbidden r.uri) := fun s => by
    rw [handle, hplan s]
  refine ⟨by rw [hhandle, hhandle, answer_reject], fun hw => ?_⟩
  obtain ⟨x', o, ha⟩ := @answer_writable site arrival dispatch
    ({ x with inbound := c₁ }.report .debug "request received"
      [("worker", .num x.counters.id), ("method", .text "GET"), ("uri", .text r.uri)])
    (.reject .forbidden r.uri) hw
  obtain ⟨hk, -, hwritten, -, -⟩ := answer_ok ha
  refine ⟨x', o.bytesSent, ?_, _, by simp [execute, Response.error, Response.withBody,
    Response.new], hwritten⟩
  rw [hhandle, ha]
  cases o
  simp_all [Plan.kind]

end Site

/-- The server never leaves its public directory. Every file it reads and every program it runs
is at the public directory joined to a path below it; handling a connection depends on the host's
files only through what status queries, reads and program runs show at such paths; and a `GET`
whose path has a `..` segment is handled alike on every site, without asking the host anything,
and is answered `403 Forbidden` and counted as an error on a connection that takes writes. -/
theorem handle_stays_in_public :
    (∀ (host : Host) (dir : String) (r : Request), (Plan.ofRequest host dir r).Within dir) ∧
    (∀ (dir : String) (h₁ h₂ : Host), Host.AgreeBelow dir h₁ h₂ →
      ∀ (arrival : Instant) (dispatch : Duration) (x : Exchange),
        Site.handle ⟨h₁, dir⟩ arrival dispatch x = Site.handle ⟨h₂, dir⟩ arrival dispatch x) ∧
    (∀ (site site' : Site) (arrival : Instant) (dispatch : Duration) (x : Exchange) (c₁ : Inbound)
      (raw : Bytes) (r : Request),
      Reading.readHead x.inbound = (c₁, .ok raw) → Request.parse raw = .ok r → r.method = .get →
      ['.', '.'] ∈ Text.splitWhere (· == '/') r.path.toList →
      site.handle arrival dispatch x = site'.handle arrival dispatch x ∧
        (x.outbound.failure = none → ∃ x' n,
          site.handle arrival dispatch x = (x', .ok ⟨.error, n⟩) ∧
          ∃ resp : Response, resp.status = .forbidden ∧
            x'.outbound.written = x.outbound.written ++ resp.toBytes)) := by
  refine ⟨Plan.ofRequest_within, fun _ _ _ h _ _ x => Site.handle_congr h x,
    fun site site' _ _ _ _ _ _ hread hparse hget hmem => ?_⟩
  have hclimb : Plan.climbs _ = true := List.any_eq_true.2 ⟨_, hmem, by decide⟩
  exact Site.handle_climbs hread hparse hget hclimb site site'

/-- A site over an empty disk, serving `/srv`. -/
def bareSite : Site := ⟨Host.ofDisk ⟨.dir 0o755 [], [], false⟩, "/srv"⟩

/-- A site over a disk that holds `/etc/passwd`, serving `/srv`. -/
def passwdSite : Site :=
  ⟨Host.ofDisk ⟨.dir 0o755 [("etc", .dir 0o755 [("passwd", .file 0o644 (.data [114]))])], [], false⟩,
    "/srv"⟩

/-- The head of `GET /../etc/passwd`. -/
def getParent : Bytes := Utf8.encode "GET /../etc/passwd HTTP/1.0\r\n\r\n"

/-- A fresh worker's exchange for `GET /../etc/passwd`. -/
def parentExchange : Exchange :=
  { inbound := { pending := getParent }, counters := Counters.new 1, journal := {} }

/-- `GET /../etc/passwd` is handled alike whether the disk holds `/etc/passwd` or nothing, and is
refused with `403 Forbidden`. -/
theorem handle_stays_in_public_parent_path :
    bareSite.handle Instant.epoch Duration.zero parentExchange =
        passwdSite.handle Instant.epoch Duration.zero parentExchange ∧
      ∃ x' n, bareSite.handle Instant.epoch Duration.zero parentExchange = (x', .ok ⟨.error, n⟩) ∧
        ∃ resp : Response, resp.status = .forbidden ∧ x'.outbound.written = [] ++ resp.toBytes := by
  have hend : Request.headEnd? getParent = some getParent.length := by decide
  have hparse : Request.parse getParent = .ok
      { method := .get, uri := "/../etc/passwd", path := "/../etc/passwd", query := "",
        version := "HTTP/1.0", headers := [], headLen := 31 } := by
    rw [getParent, Request.parse_whole hend]
    rfl
  obtain ⟨hsame, hanswer⟩ := handle_stays_in_public.2.2 bareSite passwdSite Instant.epoch
    Duration.zero parentExchange _ _ _ (Reading.readHead_whole (by decide) (by decide) (by decide))
    hparse rfl (by decide)
  exact ⟨hsame, hanswer rfl⟩

end PoolServer
