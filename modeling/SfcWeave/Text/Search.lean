/-!
# Searching in a text

Texts are lists of characters. `after?` strips a text from the front, `before?` from the back, and
`firstCut?` cuts at the first occurrence of a text. `splitOn` takes a text apart at one character,
and `join` puts parts together.
-/

namespace SfcWeave.Text

/-- What follows `front`, when the text starts with it. -/
def after? : List Char → List Char → Option (List Char)
  | [], cs => some cs
  | _ :: _, [] => none
  | f :: front, c :: cs => if f = c then after? front cs else none

theorem eq_append_of_after? {front cs rest : List Char} (h : after? front cs = some rest) :
    cs = front ++ rest := by
  induction front generalizing cs with
  | nil => simpa [after?, eq_comm] using h
  | cons f front ih =>
    cases cs with
    | nil => simp [after?] at h
    | cons c cs =>
      rw [after?] at h
      split at h
      · rename_i hfc
        rw [ih h, hfc]; rfl
      · simp at h

@[simp] theorem after?_append (front rest : List Char) :
    after? front (front ++ rest) = some rest := by
  induction front with
  | nil => simp [after?]
  | cons f front ih => simp [after?, ih]

/-- What precedes `back`, when the text ends with it. -/
def before? (back cs : List Char) : Option (List Char) :=
  (after? back.reverse cs.reverse).map List.reverse

/-- Cuts at the first occurrence of `needle`: the text before it, and the text from it on. -/
def firstCut? (needle : List Char) : List Char → Option (List Char × List Char)
  | [] => if needle = [] then some ([], []) else none
  | c :: cs =>
    if (after? needle (c :: cs)).isSome then some ([], c :: cs)
    else (firstCut? needle cs).map fun (before, found) => (c :: before, found)

/-- The text before the first occurrence of `needle`, and the text after it. -/
def splitOnce? (needle cs : List Char) : Option (List Char × List Char) :=
  (firstCut? needle cs).map fun (before, found) => (before, found.drop needle.length)

theorem length_of_after? {front cs rest : List Char} (h : after? front cs = some rest) :
    cs.length = front.length + rest.length := by
  rw [eq_append_of_after? h, List.length_append]

/-- The parts of a text between the occurrences of one character. -/
def splitOn (separator : Char) : List Char → List (List Char)
  | [] => [[]]
  | c :: cs =>
    if c = separator then [] :: splitOn separator cs
    else match splitOn separator cs with
      | part :: parts => (c :: part) :: parts
      | [] => [[c]]

/-- The texts in order with `separator` between them. -/
def join (separator : List Char) : List (List Char) → List Char
  | [] => []
  | [part] => part
  | part :: parts => part ++ separator ++ join separator parts

end SfcWeave.Text
