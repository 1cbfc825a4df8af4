import Mathlib.Data.List.TakeWhile
import PoolServer.Proofs.HeadReading
import PoolServer.Proofs.Utf8RoundTrip
/-!
# Parsing a printed head

A request head is printed as a request line, one `name:value` line per header field and an empty
line, each ended by a carriage return and a line feed (`Request.headText`). Parsing the bytes of
such a head, followed by any bytes at all, gives back every part of it
(`Request.parse_headText`): the head ends at its empty line because no other line is empty and no
other character encodes to a carriage return byte, its bytes decode to its text, its lines split
back at the line ends, the request line splits back into its three words, and the header table,
set one field after another, holds for each name the value of the last field with that name.
-/
namespace PoolServer

namespace Text

section Split

variable {α : Type} {p : α → Bool}

/-- A stretch without a separator is one piece. -/
theorem splitWhere_of_forall {a : List α} (ha : ∀ y ∈ a, p y = false) : splitWhere p a = [a] := by
  induction a with
  | nil => rfl
  | cons y a ih =>
    have hy := ha y (List.mem_cons_self ..)
    rw [splitWhere, if_neg (by simp [hy]), ih (fun z hz => ha z (List.mem_cons_of_mem _ hz))]

/-- A stretch without a separator, then a separator, is the first piece. -/
theorem splitWhere_append_cons {a : List α} (b : List α) {x : α} (ha : ∀ y ∈ a, p y = false)
    (hx : p x = true) : splitWhere p (a ++ x :: b) = a :: splitWhere p b := by
  induction a with
  | nil => simp [splitWhere, hx]
  | cons y a ih =>
    have hy := ha y (List.mem_cons_self ..)
    rw [List.cons_append, splitWhere, if_neg (by simp [hy]),
      ih (fun z hz => ha z (List.mem_cons_of_mem _ hz))]

end Split

/-- Three blank-free words with single blanks between them are the words of their line. -/
theorem words_three {m u v : List Char} (hm : m ≠ [] ∧ ∀ c ∈ m, isBlank c = false)
    (hu : u ≠ [] ∧ ∀ c ∈ u, isBlank c = false) (hv : v ≠ [] ∧ ∀ c ∈ v, isBlank c = false) :
    words (m ++ ' ' :: (u ++ ' ' :: v)) = [m, u, v] := by
  have hsp : isBlank ' ' = true := by decide
  rw [words, fieldsWhere, splitWhere_append_cons _ hm.2 hsp, splitWhere_append_cons _ hu.2 hsp,
    splitWhere_of_forall hv.2]
  simp [hm.1, hu.1, hv.1]

/-- A line without a carriage return is one line. -/
theorem crlfLines_of_no_cr {l : List Char} (hl : '\r' ∉ l) : crlfLines l = [l] := by
  induction l with
  | nil => rfl
  | cons c l ih =>
    have hc : c ≠ '\r' := fun h => hl (h ▸ List.mem_cons_self ..)
    rw [crlfLines.eq_3 c l (fun _ h => absurd h hc), ih (fun h => hl (List.mem_cons_of_mem _ h))]

/-- A line without a carriage return, ended by a carriage return and a line feed, comes first. -/
theorem crlfLines_append {l : List Char} (rest : List Char) (hl : '\r' ∉ l) :
    crlfLines (l ++ '\r' :: '\n' :: rest) = l :: crlfLines rest := by
  induction l with
  | nil => rfl
  | cons c l ih =>
    have hc : c ≠ '\r' := fun h => hl (h ▸ List.mem_cons_self ..)
    rw [List.cons_append, crlfLines.eq_3 c _ (fun _ h => absurd h hc),
      ih (fun h => hl (List.mem_cons_of_mem _ h))]

/-- Lines without carriage returns, each ended by a carriage return and a line feed. -/
theorem crlfLines_flatMap {ls : List (List Char)} (rest : List Char) (h : ∀ l ∈ ls, '\r' ∉ l) :
    crlfLines (ls.flatMap (· ++ ['\r', '\n']) ++ rest) = ls ++ crlfLines rest := by
  induction ls with
  | nil => rfl
  | cons l ls ih =>
    rw [List.flatMap_cons, List.append_assoc, List.append_assoc, List.cons_append, List.cons_append,
      List.nil_append, crlfLines_append _ (h l (List.mem_cons_self ..)),
      ih (fun l' hl' => h l' (List.mem_cons_of_mem _ hl')), List.cons_append]

/-- The parts around the first separator of a list with none before it. -/
theorem splitFirst_append_cons {α : Type} [DecidableEq α] {sep : α} {l : List α} (r : List α)
    (hl : sep ∉ l) : splitFirst sep (l ++ sep :: r) = some (l, r) := by
  induction l with
  | nil => simp [splitFirst]
  | cons a l ih =>
    have ha : a ≠ sep := fun h => hl (h ▸ List.mem_cons_self ..)
    simp [splitFirst, ha, ih (fun h => hl (List.mem_cons_of_mem _ h))]

/-- Blanks dropped from the front leave a blank-free remainder only if there was nothing else. -/
theorem forall_dropWhile_isBlank {cs : List Char} :
    (∀ c ∈ cs.dropWhile isBlank, isBlank c = true) ↔ ∀ c ∈ cs, isBlank c = true := by
  induction cs with
  | nil => simp
  | cons c cs ih => by_cases hc : isBlank c = true <;> simp [hc, ih]

/-- Trimming leaves nothing exactly when every character is blank. -/
theorem trim_eq_nil_iff {cs : List Char} : trim cs = [] ↔ ∀ c ∈ cs, isBlank c = true := by
  simp [trim, List.dropWhile_eq_nil_iff, forall_dropWhile_isBlank]

end Text

namespace Method

/-- Only the word `GET` reads as the method `GET`. -/
theorem ofWord_eq_get {w : String} : ofWord w = .get ↔ w = "GET" := by
  by_cases hg : w = "GET"
  · simp [ofWord, hg]
  · by_cases hp : w = "POST" <;> simp [ofWord, hg, hp]

/-- Only the word `POST` reads as the method `POST`. -/
theorem ofWord_eq_post {w : String} : ofWord w = .post ↔ w = "POST" := by
  by_cases hg : w = "GET"
  · simp [ofWord, hg]
  · by_cases hp : w = "POST" <;> simp [ofWord, hg, hp]

end Method

namespace HeaderTable

/-- The value under a name in two tables one after the other: the first table's, if it has one. -/
theorem get?_append (a b : HeaderTable) (m : String) :
    get? (a ++ b) m = (get? a m).or (get? b m) := by
  cases h : a.find? (·.1 == m) <;> simp [get?, List.find?_append, h]

/-- Setting a name changes the value under that name and no other. -/
theorem get?_set (t : HeaderTable) (n v m : String) :
    (t.set n v).get? m = if n = m then some v else t.get? m := by
  unfold set
  split
  · next hany =>
    have hmatch : ((·.1 == m) ∘ fun p : String × String => if p.1 == n then (n, v) else p) =
        (·.1 == m) := by
      funext p
      by_cases hp : p.1 = n <;> simp [hp]
    rw [get?, List.find?_map, hmatch, Option.map_map]
    cases hf : t.find? (·.1 == m) with
    | none =>
      have : n ≠ m := fun hnm => by
        subst hnm
        obtain ⟨p, hp, hpn⟩ := List.any_eq_true.1 hany
        exact List.find?_eq_none.1 hf p hp hpn
      simp [get?, hf, this]
    | some p =>
      have hpm : p.1 = m := by simpa using List.find?_some hf
      by_cases hnm : n = m
      · simp [hpm, hnm]
      · simp [get?, hf, hpm, hnm, Ne.symm hnm]
  · next hnone =>
    have : t.get? n = none := by
      simp only [get?, Option.map_eq_none_iff, List.find?_eq_none]
      exact fun p hp hpn => hnone (List.any_eq_true.2 ⟨p, hp, hpn⟩)
    rw [get?_append]
    by_cases hnm : n = m
    · subst hnm; rw [this]; simp [get?]
    · simp [get?, hnm]

/-- Setting fields one after another: the last field of a name gives its value. -/
theorem get?_foldl_set (t : HeaderTable) (fs : List (String × String)) (m : String) :
    (fs.foldl (fun t f => t.set f.1 f.2) t).get? m = (get? fs.reverse m).or (t.get? m) := by
  induction fs generalizing t with
  | nil => simp [get?]
  | cons f fs ih =>
    rw [List.foldl_cons, ih, get?_set, List.reverse_cons, get?_append, Option.or_assoc]
    by_cases hf : f.1 = m <;> simp [get?, hf]

end HeaderTable

namespace Request

/-- The text of a request head: the request line, a `name:value` line for each header field, and
an empty line. -/
def headText (m u v : String) (fields : List (String × String)) : String :=
  m ++ " " ++ u ++ " " ++ v ++ "\r\n" ++
    String.join (fields.map fun f => f.1 ++ ":" ++ f.2 ++ "\r\n") ++ "\r\n"

/-- A head's characters: its lines, each ended by a line end, then an empty line. -/
theorem toList_headText (m u v : String) (fields : List (String × String)) :
    (headText m u v fields).toList =
      ((m.toList ++ ' ' :: (u.toList ++ ' ' :: v.toList)) ::
        fields.map (fun f => f.1.toList ++ ':' :: f.2.toList)).flatMap (· ++ ['\r', '\n']) ++
        ['\r', '\n'] := by
  simp [headText, String.toList_join, List.flatMap_map]

/-- Bytes without a carriage return hold no end of a head: it is looked for after them. -/
theorem headEnd?_append_of_not_mem {xs : Bytes} (rest : Bytes) (h : (13 : UInt8) ∉ xs) :
    headEnd? (xs ++ rest) = (headEnd? rest).map (· + xs.length) := by
  induction xs with
  | nil => simp
  | cons b xs ih =>
    have hb : b ≠ 13 := fun hb => h (hb ▸ List.mem_cons_self ..)
    have hwin : (b :: (xs ++ rest)).take 4 ≠ headTerminator := fun ht =>
      hb (by simpa [headTerminator] using congrArg List.head? ht)
    rw [List.cons_append, headEnd?_cons, if_neg hwin, ih (fun h' => h (List.mem_cons_of_mem _ h'))]
    simp [Option.map_map, Function.comp_def, Nat.add_assoc]

/-- A line end before a line that has bytes and no carriage return is not the end of a head. -/
theorem headEnd?_crlf_append {xs : Bytes} (rest : Bytes) (hne : xs ≠ []) (h : (13 : UInt8) ∉ xs) :
    headEnd? (13 :: 10 :: (xs ++ rest)) = (headEnd? rest).map (· + (xs.length + 2)) := by
  obtain ⟨y, ys, rfl⟩ := List.exists_cons_of_ne_nil hne
  have hy : y ≠ 13 := fun hy => h (hy ▸ List.mem_cons_self ..)
  have h₁ : (13 :: 10 :: y :: (ys ++ rest)).take 4 ≠ headTerminator := fun ht => by
    simp [headTerminator] at ht
    exact hy ht.1
  have h₂ : (10 :: y :: (ys ++ rest)).take 4 ≠ headTerminator := fun ht => by
    simpa [headTerminator] using congrArg List.head? ht
  rw [List.cons_append, headEnd?_cons, if_neg h₁, headEnd?_cons, if_neg h₂, ← List.cons_append,
    headEnd?_append_of_not_mem _ h]
  cases headEnd? rest <;> simp
  omega

/-- Header lines ended by line ends, between a line end and an empty line: the head ends at the
empty line. -/
theorem headEnd?_crlf_lines {ls : List (List Char)} (hne : ∀ l ∈ ls, l ≠ [])
    (hcr : ∀ l ∈ ls, '\r' ∉ l) (b : Bytes) :
    headEnd? (13 :: 10 :: ((ls.flatMap (· ++ ['\r', '\n'])).flatMap String.utf8EncodeChar ++
      13 :: 10 :: b)) =
      some (((ls.flatMap (· ++ ['\r', '\n'])).flatMap String.utf8EncodeChar).length + 4) := by
  induction ls with
  | nil => simp [headEnd?_cons, headTerminator]
  | cons l ls ih =>
    have hl : l.flatMap String.utf8EncodeChar ≠ [] := by
      obtain ⟨c, cs, rfl⟩ := List.exists_cons_of_ne_nil (hne l (List.mem_cons_self ..))
      simp [String.utf8EncodeChar_ne_nil]
    have hcrl : (13 : UInt8) ∉ l.flatMap String.utf8EncodeChar := fun h =>
      hcr l (List.mem_cons_self ..) (Utf8.cr_mem_of_mem h)
    have henc : ((l :: ls).flatMap (· ++ ['\r', '\n'])).flatMap String.utf8EncodeChar =
        l.flatMap String.utf8EncodeChar ++
          13 :: 10 :: (ls.flatMap (· ++ ['\r', '\n'])).flatMap String.utf8EncodeChar := by
      simp [List.flatMap_append]
      rfl
    rw [henc, List.append_assoc, List.cons_append, List.cons_append, headEnd?_crlf_append _ hl hcrl,
      ih (List.forall_mem_cons.1 hne).2 (List.forall_mem_cons.1 hcr).2]
    simp
    omega

/-- Header lines, each with a colon, then a line of nothing: the table of their fields. -/
theorem readHeaders_fields (t : HeaderTable) (fs : List (String × String)) (rest : List (List Char))
    (hcolon : ∀ f ∈ fs, ':' ∉ f.1.toList) :
    readHeaders t (fs.map (fun f => f.1.toList ++ ':' :: f.2.toList) ++ [] :: rest) =
      .ok ((fs.map fun f => ((String.ofList (Text.trim f.1.toList)).toLower,
        String.ofList (Text.trim f.2.toList))).foldl (fun t f => t.set f.1 f.2) t) := by
  induction fs generalizing t with
  | nil => rfl
  | cons f fs ih =>
    have hline : (Text.trim (f.1.toList ++ ':' :: f.2.toList)).isEmpty = false := by
      rw [List.isEmpty_eq_false_iff, ne_eq, Text.trim_eq_nil_iff]
      exact fun h => absurd (h ':' (by simp)) (by decide)
    rw [List.map_cons, List.cons_append, readHeaders, if_neg (by simp [hline]), headerField,
      Text.splitFirst_append_cons _ (hcolon f (List.mem_cons_self ..))]
    exact ih _ (fun f' hf' => hcolon f' (List.mem_cons_of_mem _ hf'))

/-- The lines of a head ended by an empty line: the head ends there, whatever follows it. -/
theorem headEnd?_lines {l : List Char} {ls : List (List Char)} (hne : ∀ l' ∈ l :: ls, l' ≠ [])
    (hcr : ∀ l' ∈ l :: ls, '\r' ∉ l') (b : Bytes) :
    headEnd? ((((l :: ls).flatMap (· ++ ['\r', '\n']) ++ ['\r', '\n']).flatMap
      String.utf8EncodeChar) ++ b) =
      some ((((l :: ls).flatMap (· ++ ['\r', '\n']) ++ ['\r', '\n']).flatMap
        String.utf8EncodeChar).length) := by
  have hcrl : (13 : UInt8) ∉ l.flatMap String.utf8EncodeChar := fun h =>
    hcr l (List.mem_cons_self ..) (Utf8.cr_mem_of_mem h)
  have henc : (((l :: ls).flatMap (· ++ ['\r', '\n']) ++ ['\r', '\n']).flatMap
      String.utf8EncodeChar) ++ b = l.flatMap String.utf8EncodeChar ++
        13 :: 10 :: ((ls.flatMap (· ++ ['\r', '\n'])).flatMap String.utf8EncodeChar ++
          13 :: 10 :: b) := by
    simp [List.flatMap_append]
    rfl
  rw [henc, headEnd?_append_of_not_mem _ hcrl,
    headEnd?_crlf_lines (List.forall_mem_cons.1 hne).2 (List.forall_mem_cons.1 hcr).2]
  simp [List.flatMap_append, show '\r'.utf8Size = 1 from rfl, show '\n'.utf8Size = 1 from rfl]
  omega

/-- Bytes that are the encoding of one whole head parse as the lines of its text. -/
theorem parse_whole {t : String}
    (hend : headEnd? (Utf8.encode t) = some (Utf8.encode t).length) :
    parse (Utf8.encode t) =
      if (Text.trim t.toList).isEmpty then .error .emptyRequest
      else ofLines (Utf8.encode t).length (Text.crlfLines t.toList) := by
  rw [parse, headLength, hend, Option.getD_some, List.take_length, Utf8.decode_encode]

/-- A head followed by any bytes parses back to its parts. The method, target and version are the
words of the request line, the target splits at its first `?`, the head's length is that of its
bytes, and a header lookup finds the last field whose trimmed name matches up to ASCII case. -/
theorem parse_headText {m u v : String} {fields : List (String × String)} (body : Bytes)
    (hm : m ≠ "" ∧ ∀ c ∈ m.toList, Text.isBlank c = false)
    (hu : u ≠ "" ∧ ∀ c ∈ u.toList, Text.isBlank c = false)
    (hv : v = "HTTP/1.0" ∨ v = "HTTP/1.1")
    (hname : ∀ f ∈ fields, ':' ∉ f.1.toList ∧ '\r' ∉ f.1.toList)
    (hvalue : ∀ f ∈ fields, '\r' ∉ f.2.toList) :
    ∃ r, parse (Utf8.encode (headText m u v fields) ++ body) = .ok r ∧
      r.method.word = m ∧ (r.method = .get ↔ m = "GET") ∧ (r.method = .post ↔ m = "POST") ∧
      r.uri = u ∧
      (u = r.path ++ "?" ++ r.query ∧ '?' ∉ r.path.toList ∨
        '?' ∉ u.toList ∧ r.path = u ∧ r.query = "") ∧
      r.version = v ∧ r.headLen = (Utf8.encode (headText m u v fields)).length ∧
      ∀ q, r.header? q = (fields.reverse.find? fun f =>
        (String.ofList (Text.trim f.1.toList)).toLower == q.toLower).map
          fun f => String.ofList (Text.trim f.2.toList) := by
  set L0 := m.toList ++ ' ' :: (u.toList ++ ' ' :: v.toList) with hL0
  set F := fields.map (fun f => f.1.toList ++ ':' :: f.2.toList) with hF
  have hcrm : ∀ {w : String}, (∀ c ∈ w.toList, Text.isBlank c = false) → '\r' ∉ w.toList :=
    fun hw h => absurd (hw _ h) (by decide)
  have hv' : v.toList ≠ [] ∧ ∀ c ∈ v.toList, Text.isBlank c = false := by
    rcases hv with rfl | rfl <;> simp [Text.isBlank]
  have hne : ∀ l ∈ L0 :: F, l ≠ [] := by
    simp only [hL0, hF, List.mem_cons, List.mem_map]
    rintro l (rfl | ⟨f, hf, rfl⟩) <;> simp
  have hcr : ∀ l ∈ L0 :: F, '\r' ∉ l := by
    simp only [hL0, hF, List.mem_cons, List.mem_map]
    rintro l (rfl | ⟨f, hf, rfl⟩)
    · simp [hcrm hm.2, hcrm hu.2, hcrm hv'.2]
    · simp [(hname f hf).2, hvalue f hf]
  have hchars := toList_headText m u v fields
  have hend : headEnd? (Utf8.encode (headText m u v fields) ++ body) =
      some (Utf8.encode (headText m u v fields)).length := by
    rw [Utf8.encode, hchars]
    exact headEnd?_lines hne hcr body
  have htrim : (Text.trim (headText m u v fields).toList).isEmpty = false := by
    obtain ⟨c, cs, hc⟩ := List.exists_cons_of_ne_nil (mt String.toList_eq_nil_iff.1 hm.1)
    rw [List.isEmpty_eq_false_iff, ne_eq, Text.trim_eq_nil_iff]
    intro h
    have := h c (by simp [hchars, hc])
    simp [hm.2 c (by simp [hc])] at this
  have hlines : Text.crlfLines (headText m u v fields).toList = L0 :: (F ++ [[], []]) := by
    rw [hchars, Text.crlfLines_flatMap _ hcr]
    rfl
  have hparse : parse (Utf8.encode (headText m u v fields) ++ body) =
      ofLines (Utf8.encode (headText m u v fields)).length (L0 :: (F ++ [[], []])) := by
    rw [parse, headLength, hend, Option.getD_some, List.take_left, Utf8.decode_encode]
    simp only
    rw [if_neg (by simp [htrim]), hlines]
  have hwords : Text.words L0 = [m.toList, u.toList, v.toList] :=
    Text.words_three ⟨mt String.toList_eq_nil_iff.1 hm.1, hm.2⟩
      ⟨mt String.toList_eq_nil_iff.1 hu.1, hu.2⟩ hv'
  have hheaders := readHeaders_fields [] fields [[]] (fun f hf => (hname f hf).1)
  rw [ofLines, hwords] at hparse
  simp only [String.ofList_toList, if_pos hv] at hparse
  rw [hF, hheaders] at hparse
  refine ⟨_, hparse, Method.word_ofWord m, Method.ofWord_eq_get, Method.ofWord_eq_post, rfl, ?_, rfl,
    rfl, fun q => ?_⟩
  · cases h : Text.splitFirst '?' u.toList with
    | none => exact .inr ⟨Text.splitFirst_eq_none.1 h, by simp, rfl⟩
    | some pq =>
      obtain ⟨hsplit, hp⟩ := Text.splitFirst_eq_some h
      refine .inl ⟨String.toList_inj.1 ?_, by simpa using hp⟩
      simp [hsplit]
  · simp only [header?]
    rw [HeaderTable.get?_foldl_set, HeaderTable.get?, ← List.map_reverse, List.find?_map,
      Option.map_map, show HeaderTable.get? [] q.toLower = none from rfl, Option.or_none]
    rfl

/-- A `GET` head with a query and a padded header field, followed by a byte that is not UTF-8. -/
theorem parse_headText_get_query :
    ∃ r, parse (Utf8.encode (headText "GET" "/log?n=1" "HTTP/1.1" [("Host", " pool ")]) ++ [0xff]) =
        .ok r ∧
      r.method.word = "GET" ∧ (r.method = .get ↔ "GET" = "GET") ∧ (r.method = .post ↔ "GET" = "POST") ∧
      r.uri = "/log?n=1" ∧
      ("/log?n=1" = r.path ++ "?" ++ r.query ∧ '?' ∉ r.path.toList ∨
        '?' ∉ "/log?n=1".toList ∧ r.path = "/log?n=1" ∧ r.query = "") ∧
      r.version = "HTTP/1.1" ∧
      r.headLen = (Utf8.encode (headText "GET" "/log?n=1" "HTTP/1.1" [("Host", " pool ")])).length ∧
      ∀ q, r.header? q = ([("Host", " pool ")].reverse.find? fun f =>
        (String.ofList (Text.trim f.1.toList)).toLower == q.toLower).map
          fun f => String.ofList (Text.trim f.2.toList) :=
  parse_headText [0xff] ⟨by decide, by simp [Text.isBlank]⟩ ⟨by decide, by simp [Text.isBlank]⟩
    (.inr rfl) (by decide) (by decide)

end Request

end PoolServer
