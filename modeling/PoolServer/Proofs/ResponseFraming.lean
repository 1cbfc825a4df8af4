import PoolServer.Proofs.HeadRoundTrip
import PoolServer.Http.Response
import PoolServer.Worker.Stamp
/-!
# Framing of the responses the server frames itself

A content response or an error page, with any header lines added to it afterwards (the
statistics, for one), goes out as its head, an empty line and its body. The head is the status
line and one `name: value` line per header, with a line end between two lines. So long as no
name or value holds a carriage return, no line of the head is empty: a client that reads up to
the first empty line reads exactly the head, and the body starts right after it. The body's
length is announced once, by the `Content-Length` line that setting the body added, since the
lines added later have other names.

A line feed on its own does not end a line, so names and values may hold one.

Main statement: `framed_response`.
-/
namespace PoolServer

namespace Text

/-- A line end after each piece is a line end before each piece after the first, and one at the
end. -/
theorem append_flatMap_sep {α β : Type} (a s : List α) (f : β → List α) (xs : List β) :
    a ++ s ++ xs.flatMap (fun x => f x ++ s) = a ++ xs.flatMap (fun x => s ++ f x) ++ s := by
  induction xs generalizing a with
  | nil => simp
  | cons x xs ih =>
    have := ih (a ++ s ++ f x)
    simp only [List.append_assoc] at this
    simp [List.append_assoc, this]

/-- Lines without carriage returns, with a line end between two of them, cut back into those
lines. -/
theorem crlfLines_sep {l : List Char} {ls : List (List Char)} (hl : '\r' ∉ l)
    (hls : ∀ m ∈ ls, '\r' ∉ m) :
    crlfLines (l ++ ls.flatMap (['\r', '\n'] ++ ·)) = l :: ls := by
  induction ls generalizing l with
  | nil => simpa using crlfLines_of_no_cr hl
  | cons m ms ih =>
    obtain ⟨hm, hms⟩ := List.forall_mem_cons.1 hls
    have hsplit : l ++ (m :: ms).flatMap (['\r', '\n'] ++ ·) =
        l ++ '\r' :: '\n' :: (m ++ ms.flatMap (['\r', '\n'] ++ ·)) := by
      simp
    rw [hsplit, crlfLines_append _ hl, ih hm hms]

end Text

namespace Request

/-- Bytes that hold the end of a head find it within them, whatever follows. -/
theorem headEnd?_le_of_infix {xs : Bytes} (rest : Bytes) (h : headTerminator <:+: xs) :
    ∃ e, headEnd? (xs ++ rest) = some e ∧ e ≤ xs.length := by
  obtain ⟨s, t, rfl⟩ := h
  induction s with
  | nil => exact ⟨4, by simp [headEnd?, headTerminator], by simp [headTerminator]⟩
  | cons b s ih =>
    obtain ⟨e, he, hle⟩ := ih
    rw [List.cons_append, List.cons_append, List.cons_append, headEnd?_cons]
    split
    · exact ⟨4, rfl, by simp [headTerminator]; omega⟩
    · refine ⟨e + 1, by simp only [List.append_assoc] at he ⊢; simp [he], ?_⟩
      simp only [List.length_append, List.length_cons] at hle ⊢
      omega

/-- Bytes after which a head is found to end hold no end of a head themselves. -/
theorem not_infix_of_headEnd? {xs rest : Bytes} {e : Nat} (h : headEnd? (xs ++ rest) = some e)
    (hlt : xs.length < e) : ¬ headTerminator <:+: xs := fun hin => by
  obtain ⟨e', he', hle⟩ := headEnd?_le_of_infix rest hin
  rw [h] at he'
  cases he'
  omega

end Request

namespace Response

/-- The status line, without its line end. -/
def statusLine (r : Response) : String := "HTTP/1.0 " ++ r.status.display

/-- The line written for a header, without its line end. -/
def headerLine (h : String × String) : String := h.1 ++ ": " ++ h.2

/-- The lines of a response's head: the status line, then one line per header. -/
def lines (r : Response) : List String := r.statusLine :: r.headers.map headerLine

/-- The head of a response: its lines, with a line end between two of them. -/
def head (r : Response) : String :=
  r.statusLine ++ String.join (r.headers.map fun h => "\r\n" ++ headerLine h)

/-- The characters of the head lines: the status line's, then each header line's. -/
theorem map_toList_lines (r : Response) :
    r.lines.map String.toList =
      r.statusLine.toList :: r.headers.map fun h => (headerLine h).toList := by
  simp [lines]

/-- The head's characters: the status line's, then a line end and each header line's. -/
theorem toList_head (r : Response) :
    r.head.toList = r.statusLine.toList ++
      (r.headers.map fun h => (headerLine h).toList).flatMap (['\r', '\n'] ++ ·) := by
  simp [head, String.toList_join, List.flatMap_map]

/-- The printed header lines are the head lines, each ended by a line end. -/
theorem toList_headText (r : Response) :
    r.headText.toList = (r.lines.map String.toList).flatMap (· ++ ['\r', '\n']) := by
  simp [headText, lines, statusLine, headerLine, String.toList_join, List.flatMap_map,
    Function.comp_def, List.append_assoc]

/-- The printed header lines are the head and one line end. -/
theorem toList_headText_eq_head (r : Response) :
    r.headText.toList = r.head.toList ++ ['\r', '\n'] := by
  rw [toList_headText, map_toList_lines, List.flatMap_cons, toList_head,
    Text.append_flatMap_sep]

/-- The head, a line end and an empty line, in bytes. -/
theorem encode_head_crlf (r : Response) :
    ((r.head.toList ++ ['\r', '\n']) ++ ['\r', '\n']).flatMap String.utf8EncodeChar =
      Utf8.encode r.head ++ Request.headTerminator := by
  simp only [Utf8.encode, List.flatMap_append, List.append_assoc]
  rfl

/-- A framed body follows the head, an empty line and nothing else. -/
theorem toBytes_of_framed {r : Response} {data : Bytes} (hb : r.body = .framed data) :
    r.toBytes = Utf8.encode r.head ++ Request.headTerminator ++ data := by
  rw [toBytes, hb, ← encode_head_crlf, ← toList_headText_eq_head]
  simp only [Utf8.encode, List.flatMap_append, List.append_assoc]
  rfl

/-- Every line of a head has characters: the status line its protocol name, a header line the
`: ` after the name. -/
theorem lines_ne_nil (r : Response) : ∀ l ∈ r.lines.map String.toList, l ≠ [] := by
  rw [map_toList_lines]
  intro l hl
  simp only [List.mem_cons, List.mem_map] at hl
  rcases hl with rfl | ⟨h, -, rfl⟩ <;> simp [statusLine, headerLine]

/-- The headers of a response hold no carriage return. -/
def CrFree (r : Response) : Prop := ∀ h ∈ r.headers, '\r' ∉ h.1.toList ∧ '\r' ∉ h.2.toList

/-- No status line holds a carriage return. -/
theorem cr_not_mem_statusLine (r : Response) : '\r' ∉ r.statusLine.toList := by
  have : '\r' ∉ r.status.display.toList := by cases r.status <;> decide
  simpa [statusLine] using this

theorem cr_not_mem_lines {r : Response} (hr : r.CrFree) :
    ∀ l ∈ r.lines.map String.toList, '\r' ∉ l := by
  rw [map_toList_lines]
  intro l hl
  simp only [List.mem_cons, List.mem_map] at hl
  rcases hl with rfl | ⟨h, hh, rfl⟩
  · exact cr_not_mem_statusLine r
  · have := hr h hh
    simp [headerLine, this.1, this.2]

/-- A head of lines without carriage returns cuts back into its lines. -/
theorem crlfLines_head {r : Response} (hr : r.CrFree) :
    Text.crlfLines r.head.toList = r.lines.map String.toList := by
  have hcr := cr_not_mem_lines hr
  rw [map_toList_lines] at hcr ⊢
  rw [toList_head]
  exact Text.crlfLines_sep (List.forall_mem_cons.1 hcr).1 (List.forall_mem_cons.1 hcr).2

/-- The first empty line of a framed response is the one after its head. -/
theorem headEnd?_toBytes {r : Response} {data : Bytes} (hb : r.body = .framed data)
    (hr : r.CrFree) :
    Request.headEnd? r.toBytes = some ((Utf8.encode r.head).length + 4) := by
  have hcr := cr_not_mem_lines hr
  have hne := lines_ne_nil r
  rw [map_toList_lines] at hcr hne
  have hend := Request.headEnd?_lines hne hcr data
  rw [← map_toList_lines, ← toList_headText, toList_headText_eq_head, encode_head_crlf] at hend
  rw [toBytes_of_framed hb, hend]
  simp [Request.headTerminator]

/-- Header lines added one after another, as a caller adds them. -/
def addHeaders (r : Response) (hs : List (String × String)) : Response :=
  hs.foldl (fun r h => r.addHeader h.1 h.2) r

/-- Added header lines come after the others, and the status and the body stay. -/
theorem addHeaders_eq (r : Response) (hs : List (String × String)) :
    r.addHeaders hs = { r with headers := r.headers ++ hs } := by
  induction hs generalizing r with
  | nil => simp [addHeaders]
  | cons h hs ih =>
    simp only [addHeaders, List.foldl_cons] at ih ⊢
    rw [ih]
    simp [addHeader]

/-- A number's decimal text holds no carriage return. -/
theorem cr_not_mem_decimal (n : Nat) : '\r' ∉ (Decimal.text n).toList := by
  intro h
  have hd : (Decimal.text n).toList = Nat.toDigits 10 n := by simp [Decimal.text, Nat.repr]
  rw [hd] at h
  simpa using Nat.isDigit_of_mem_toDigits (by decide) (by decide) h

/-- How a response with a framed body goes out: its head `P`, an empty line and its body. `P`
holds no empty line, so a reader that reads up to the first empty line stops right before the
body; `P` cuts at its line ends into the status line and one line per header; and exactly one
header is named `Content-Length` (ASCII case aside), with the decimal length of the body as its
value. -/
structure Framed (r : Response) : Prop where
  split : r.toBytes = Utf8.encode r.head ++ Request.headTerminator ++ r.bodyBytes
  head_open : ¬ Request.headTerminator <:+: Utf8.encode r.head
  head_ends : Request.headEnd? r.toBytes = some ((Utf8.encode r.head).length + 4)
  lines_head : Text.crlfLines r.head.toList = r.lines.map String.toList
  length_once : r.headers.filter (fun h => h.1.toLower == "content-length") =
    [("Content-Length", Decimal.text r.bodyBytes.length)]

/-- A framed body, headers without carriage returns and one `Content-Length` header with the
body's length frame a response. -/
theorem framed_of {r : Response} {data : Bytes} (hb : r.body = .framed data) (hr : r.CrFree)
    (hl : r.headers.filter (fun h => h.1.toLower == "content-length") =
      [("Content-Length", Decimal.text data.length)]) : Framed r := by
  have hbytes : r.bodyBytes = data := by simp [bodyBytes, hb]
  have hsplit := toBytes_of_framed hb
  have hend := headEnd?_toBytes hb hr
  refine ⟨hbytes ▸ hsplit, ?_, hend, crlfLines_head hr, hbytes ▸ hl⟩
  rw [hsplit, List.append_assoc] at hend
  exact Request.not_infix_of_headEnd? hend (by omega)

/-- The headers a content response or an error page starts with: the server's name, the body's
length, and the content type. -/
theorem headers_of_built {r : Response} {data : Bytes} {t : String}
    (hr : r.headers = [("Server", serverName), ("Content-Length", toString data.length),
      ("Content-Type", t)]) (ht : '\r' ∉ t.toList) (hs : List (String × String))
    (hcr : ∀ h ∈ hs, '\r' ∉ h.1.toList ∧ '\r' ∉ h.2.toList)
    (hcl : ∀ h ∈ hs, h.1.toLower ≠ "content-length") :
    (r.addHeaders hs).CrFree ∧
      (r.addHeaders hs).headers.filter (fun h => h.1.toLower == "content-length") =
        [("Content-Length", Decimal.text data.length)] := by
  rw [addHeaders_eq]
  have hserver : ("Server" : String).toLower = "content-length" ↔ False := by decide +kernel
  have hlength : ("Content-Length" : String).toLower = "content-length" := by decide +kernel
  have htype : ("Content-Type" : String).toLower = "content-length" ↔ False := by decide +kernel
  constructor
  · intro h hh
    simp only [hr, List.cons_append, List.nil_append, List.mem_cons] at hh
    rcases hh with rfl | rfl | rfl | hh
    · exact ⟨by decide, by decide⟩
    · exact ⟨show '\r' ∉ "Content-Length".toList by decide, cr_not_mem_decimal _⟩
    · exact ⟨show '\r' ∉ "Content-Type".toList by decide, ht⟩
    · exact hcr h hh
  · have hrest : hs.filter (fun h => h.1.toLower == "content-length") = [] :=
      List.filter_eq_nil_iff.2 fun h hh => by simpa using hcl h hh
    simp [hr, hrest, hserver, hlength, htype, Decimal.text]

/-- A content response or an error page, with any header lines added after it that hold no
carriage return and are not named `Content-Length`, is framed: its head holds no empty line, the
body follows the first empty line, and one `Content-Length` line announces the body's length. -/
theorem framed_response {r : Response}
    (hr : (∃ b t, '\r' ∉ t.toList ∧ r = content b t) ∨ ∃ s c, r = error s c)
    (hs : List (String × String)) (hcr : ∀ h ∈ hs, '\r' ∉ h.1.toList ∧ '\r' ∉ h.2.toList)
    (hcl : ∀ h ∈ hs, h.1.toLower ≠ "content-length") : Framed (r.addHeaders hs) := by
  rcases hr with ⟨b, t, ht, rfl⟩ | ⟨s, c, rfl⟩
  · obtain ⟨hfree, hlen⟩ := headers_of_built (r := content b t) rfl ht hs hcr hcl
    exact framed_of (by rw [addHeaders_eq]; rfl) hfree hlen
  · obtain ⟨hfree, hlen⟩ := headers_of_built (r := error s c) rfl (by decide) hs hcr hcl
    exact framed_of (by rw [addHeaders_eq]; rfl) hfree hlen

end Response

namespace Stamp

/-- The statistics are header lines named `<field>:`, added after the others. -/
theorem apply_eq_addHeaders (s : Stamp) (r : Response) :
    s.apply r = r.addHeaders (s.fields.map fun h => (h.1 ++ ":", h.2)) := by
  simp [apply, Response.addHeaders, List.foldl_map]

/-- A printed duration holds no carriage return: digits and a point. -/
theorem cr_not_mem_timeval (d : Duration) : '\r' ∉ d.timeval.toList := by
  have hpad : '\r' ∉ (Decimal.padded 6 d.subsecMicros).toList := by
    have := Response.cr_not_mem_decimal d.subsecMicros
    simp only [Decimal.padded, String.toList_ofList, List.mem_append, List.mem_replicate]
    simp_all [Decimal.text]
  simp [Duration.timeval, Response.cr_not_mem_decimal, hpad]

/-- The statistics' lines hold no carriage return and none is named `Content-Length`. -/
theorem fields_headers (s : Stamp) :
    ∀ h ∈ s.fields.map (fun h => (h.1 ++ ":", h.2)),
      ('\r' ∉ h.1.toList ∧ '\r' ∉ h.2.toList) ∧ h.1.toLower ≠ "content-length" := by
  simp only [fields, List.map_cons, List.map_nil, List.mem_cons, List.not_mem_nil, or_false]
  rintro h (rfl | rfl | rfl | rfl | rfl | rfl | rfl) <;> dsimp only <;>
    refine ⟨⟨by decide, ?_⟩, by decide +kernel⟩ <;>
    simp [cr_not_mem_timeval, Response.cr_not_mem_decimal]

end Stamp

namespace Response

/-- The stamped error page for a missing file is framed. -/
theorem framed_response_stamped_error :
    Framed ((Stamp.capture Instant.epoch Duration.zero (Counters.new 1)).apply
      (error .notFound "/missing")) := by
  rw [Stamp.apply_eq_addHeaders]
  exact framed_response (.inr ⟨_, _, rfl⟩) _ (fun h hh => (Stamp.fields_headers _ h hh).1)
    (fun h hh => (Stamp.fields_headers _ h hh).2)

end Response

end PoolServer
