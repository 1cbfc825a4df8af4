/-!
# Escaping text for an HTML page

Text quoted on an error page is escaped so that it cannot open a tag. The text goes through three
replacements, each over the whole of it: every `&` becomes `&amp;`, then every `<` becomes `&lt;`,
then every `>` becomes `&gt;`. Nothing else changes; quotes stay as they are.

The order matters. The entities the later passes write start with `&`, so replacing `&` first is
what keeps them from being escaped again; and neither `&amp;` nor `&lt;` holds a character a later
pass replaces. So the three passes escape each character on its own (`toList_escape`).

Escaping `&` along with the other two is what makes it reversible: after escaping, every `&` starts
one of the three entities, so a single left-to-right pass that reads the entities back
(`unescape`) returns the text that was escaped.

Main statements: escaped text has no `<` or `>` (`lt_not_mem_escape`, `gt_not_mem_escape`), every
`&` in it starts an entity (`entity_of_amp`), and `unescape` undoes `escape`
(`unescape_escape`).
-/
namespace PoolServer

namespace Html

/-- Replaces every `c` of a text by `rep`, left to right, as a replacement of a character
pattern does. -/
def replaceAll (c : Char) (rep : List Char) : List Char → List Char
  | [] => []
  | d :: ds => if d = c then rep ++ replaceAll c rep ds else d :: replaceAll c rep ds

/-- Escapes `&`, `<` and `>`: three replacements over the whole text, `&` first. -/
def escape (s : String) : String :=
  String.ofList (replaceAll '>' "&gt;".toList
    (replaceAll '<' "&lt;".toList (replaceAll '&' "&amp;".toList s.toList)))

example : escape "a&b<c>\"" = "a&amp;b&lt;c&gt;\"" := by decide

/-- With `<` replaced first, the `&` of `&lt;` would be escaped again. -/
example :
    replaceAll '&' "&amp;".toList (replaceAll '<' "&lt;".toList ['<']) = "&amp;lt;".toList := by
  decide

/-- The escaped form of one character. -/
def escapeChar (c : Char) : List Char :=
  if c = '&' then ['&', 'a', 'm', 'p', ';']
  else if c = '<' then ['&', 'l', 't', ';']
  else if c = '>' then ['&', 'g', 't', ';']
  else [c]

/-- A replacement is a map of each character to a text. -/
theorem replaceAll_eq_flatMap (c : Char) (rep l : List Char) :
    replaceAll c rep l = l.flatMap fun d => if d = c then rep else [d] := by
  induction l with
  | nil => rfl
  | cons d ds ih => by_cases h : d = c <;> simp [replaceAll, h, ih]

/-- The three replacements, `&` first, escape each character on its own: no entity an earlier pass
writes holds a character a later pass replaces. -/
theorem toList_escape (s : String) : (escape s).toList = s.toList.flatMap escapeChar := by
  simp only [escape, String.toList_ofList, replaceAll_eq_flatMap, List.flatMap_assoc]
  congr 1
  funext d
  by_cases h₁ : d = '&'
  · subst h₁; decide
  · by_cases h₂ : d = '<'
    · subst h₂; decide
    · by_cases h₃ : d = '>'
      · subst h₃; decide
      · simp [escapeChar, h₁, h₂, h₃]

/-- Reads escaped text back in one left-to-right pass: `&amp;`, `&lt;` and `&gt;` become the
character they stand for, and every other character stays. -/
def unescape : List Char → List Char
  | '&' :: 'a' :: 'm' :: 'p' :: ';' :: rest => '&' :: unescape rest
  | '&' :: 'l' :: 't' :: ';' :: rest => '<' :: unescape rest
  | '&' :: 'g' :: 't' :: ';' :: rest => '>' :: unescape rest
  | c :: rest => c :: unescape rest
  | [] => []

/-- Whether every `&` in the text starts `&amp;`, `&lt;` or `&gt;`. -/
def entitiesOnly : List Char → Bool
  | '&' :: rest =>
    (['a', 'm', 'p', ';'].isPrefixOf rest || ['l', 't', ';'].isPrefixOf rest ||
      ['g', 't', ';'].isPrefixOf rest) && entitiesOnly rest
  | _ :: rest => entitiesOnly rest
  | [] => true

/-- A character other than `&` is read back as itself. -/
theorem unescape_cons {c : Char} (h : c ≠ '&') (rest : List Char) :
    unescape (c :: rest) = c :: unescape rest := by
  rw [unescape.eq_def]
  split <;> simp_all

/-- A character other than `&` starts no entity. -/
theorem entitiesOnly_cons {c : Char} (h : c ≠ '&') (rest : List Char) :
    entitiesOnly (c :: rest) = entitiesOnly rest := by
  rw [entitiesOnly.eq_def]
  split <;> simp_all

/-- A character that is not escaped stands for itself. -/
theorem escapeChar_plain {c : Char} (h₁ : c ≠ '&') (h₂ : c ≠ '<') (h₃ : c ≠ '>') :
    escapeChar c = [c] := by
  simp [escapeChar, h₁, h₂, h₃]

/-- Reading back escaped characters gives the characters. -/
theorem unescape_flatMap (l : List Char) : unescape (l.flatMap escapeChar) = l := by
  induction l with
  | nil => rfl
  | cons c l ih =>
    by_cases h₁ : c = '&'
    · subst h₁; simp [escapeChar, unescape, ih]
    · by_cases h₂ : c = '<'
      · subst h₂; simp [escapeChar, unescape, ih]
      · by_cases h₃ : c = '>'
        · subst h₃; simp [escapeChar, unescape, ih]
        · rw [List.flatMap_cons, escapeChar_plain h₁ h₂ h₃, List.singleton_append,
            unescape_cons h₁, ih]

/-- Escaping is undone by reading back. -/
theorem unescape_escape (s : String) : unescape (escape s).toList = s.toList := by
  rw [toList_escape, unescape_flatMap]

/-- Two texts with the same escaped form are the same. -/
theorem escape_injective {s t : String} (h : escape s = escape t) : s = t := by
  have := congrArg (fun e => unescape e.toList) h
  simp only [unescape_escape] at this
  exact String.toList_inj.mp this

/-- Escaped characters use entities only. -/
theorem entitiesOnly_flatMap (l : List Char) : entitiesOnly (l.flatMap escapeChar) = true := by
  induction l with
  | nil => rfl
  | cons c l ih =>
    by_cases h₁ : c = '&'
    · subst h₁; simp [escapeChar, entitiesOnly, List.isPrefixOf, ih]
    · by_cases h₂ : c = '<'
      · subst h₂; simp [escapeChar, entitiesOnly, List.isPrefixOf, ih]
      · by_cases h₃ : c = '>'
        · subst h₃; simp [escapeChar, entitiesOnly, List.isPrefixOf, ih]
        · rw [List.flatMap_cons, escapeChar_plain h₁ h₂ h₃, List.singleton_append,
            entitiesOnly_cons h₁, ih]

/-- In a text that uses entities only, whatever follows an `&` spells one. -/
theorem entity_of_entitiesOnly : ∀ (pre : List Char) {l post : List Char},
    entitiesOnly l = true → l = pre ++ '&' :: post →
      ['a', 'm', 'p', ';'] <+: post ∨ ['l', 't', ';'] <+: post ∨ ['g', 't', ';'] <+: post
  | [], l, post, h, hl => by
    subst hl
    simp only [List.nil_append, entitiesOnly, Bool.and_eq_true, Bool.or_eq_true,
      List.isPrefixOf_iff_prefix] at h
    rcases h.1 with (h | h) | h
    · exact Or.inl h
    · exact Or.inr (Or.inl h)
    · exact Or.inr (Or.inr h)
  | c :: pre, l, post, h, hl => by
    subst hl
    refine entity_of_entitiesOnly pre ?_ rfl
    by_cases hc : c = '&'
    · subst hc
      simp only [List.cons_append, entitiesOnly, Bool.and_eq_true] at h
      exact h.2
    · rwa [List.cons_append, entitiesOnly_cons hc] at h

/-- Every `&` of an escaped text starts `&amp;`, `&lt;` or `&gt;`. -/
theorem entity_of_amp (s : String) {pre post : List Char}
    (h : (escape s).toList = pre ++ '&' :: post) :
    ['a', 'm', 'p', ';'] <+: post ∨ ['l', 't', ';'] <+: post ∨ ['g', 't', ';'] <+: post := by
  rw [toList_escape] at h
  exact entity_of_entitiesOnly pre (entitiesOnly_flatMap _) h

/-- Escaped text holds no `<`. -/
theorem lt_not_mem_escape (s : String) : '<' ∉ (escape s).toList := by
  rw [toList_escape, List.mem_flatMap]
  rintro ⟨c, _, hc⟩
  unfold escapeChar at hc
  split at hc
  · simp at hc
  · split at hc
    · simp at hc
    · split at hc
      · simp at hc
      · next h₂ _ => exact h₂ (List.mem_singleton.mp hc).symm

/-- Escaped text holds no `>`. -/
theorem gt_not_mem_escape (s : String) : '>' ∉ (escape s).toList := by
  rw [toList_escape, List.mem_flatMap]
  rintro ⟨c, _, hc⟩
  unfold escapeChar at hc
  split at hc
  · simp at hc
  · split at hc
    · simp at hc
    · split at hc
      · simp at hc
      · next h₃ => exact h₃ (List.mem_singleton.mp hc).symm

end Html

end PoolServer
