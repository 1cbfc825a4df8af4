/-!
# Cutting sequences at separators

Three ways of cutting a list that the request reader and the command line need: at every element
that satisfies a test (`splitWhere`), at every carriage-return line-feed pair (`crlfLines`), and at
the first occurrence of one element (`splitFirst`).

Main statements: the pieces of `splitWhere` and `crlfLines` join back, with their separators, to the
whole list, and `splitFirst` cuts around the first separator.
-/
namespace PoolServer

namespace Text

/-- Cuts the list at every element that satisfies `p`, dropping those elements; `n` separators give
`n + 1` pieces, empty ones included. -/
def splitWhere {α : Type} (p : α → Bool) : List α → List (List α)
  | [] => [[]]
  | a :: as =>
    if p a then [] :: splitWhere p as
    else
      match splitWhere p as with
      | w :: ws => (a :: w) :: ws
      | [] => [[a]]

/-- Cutting never gives an empty list of pieces. -/
theorem splitWhere_ne_nil {α : Type} (p : α → Bool) (xs : List α) : splitWhere p xs ≠ [] := by
  cases xs with
  | nil => simp [splitWhere]
  | cons a as =>
    simp only [splitWhere]
    split
    · simp
    · split <;> simp

/-- The maximal runs of elements that fail `p`: the words of a text when `p` tests for blanks. -/
def fieldsWhere {α : Type} (p : α → Bool) (xs : List α) : List (List α) :=
  (splitWhere p xs).filter (fun w => !w.isEmpty)

/-- The lines of a text whose lines end in a carriage return and a line feed; a lone carriage
return or line feed stays inside its line. -/
def crlfLines : List Char → List (List Char)
  | [] => [[]]
  | '\r' :: '\n' :: rest => [] :: crlfLines rest
  | c :: rest =>
    match crlfLines rest with
    | l :: ls => (c :: l) :: ls
    | [] => [[c]]

/-- The parts before and after the first element equal to `sep`, if there is one. -/
def splitFirst {α : Type} [DecidableEq α] (sep : α) : List α → Option (List α × List α)
  | [] => none
  | a :: as =>
    if a = sep then some ([], as)
    else (splitFirst sep as).map fun (l, r) => (a :: l, r)

@[simp] theorem splitFirst_nil {α : Type} [DecidableEq α] (sep : α) :
    splitFirst sep ([] : List α) = none := rfl

/-- The first piece holds no separator, and the pieces join around it to the whole list. -/
theorem splitFirst_eq_some {α : Type} [DecidableEq α] {sep : α} {xs l r : List α}
    (h : splitFirst sep xs = some (l, r)) : xs = l ++ sep :: r ∧ sep ∉ l := by
  induction xs generalizing l r with
  | nil => simp at h
  | cons a as ih =>
    simp only [splitFirst] at h
    split at h
    · cases h; simp_all
    · obtain ⟨⟨l', r'⟩, h', he⟩ := Option.map_eq_some_iff.1 h
      cases he
      obtain ⟨rfl, hn⟩ := ih h'
      refine ⟨rfl, ?_⟩
      simp only [List.mem_cons, not_or]
      exact ⟨fun e => by simp_all, hn⟩

/-- There is no first separator exactly when there is none at all. -/
theorem splitFirst_eq_none {α : Type} [DecidableEq α] {sep : α} {xs : List α} :
    splitFirst sep xs = none ↔ sep ∉ xs := by
  induction xs with
  | nil => simp
  | cons a as ih =>
    simp only [splitFirst, List.mem_cons, not_or]
    split
    · simp_all
    · simp only [Option.map_eq_none_iff, ih]
      constructor
      · intro h; exact ⟨fun e => by simp_all, h⟩
      · intro h; exact h.2

end Text

end PoolServer
