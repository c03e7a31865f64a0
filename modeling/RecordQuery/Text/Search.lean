/-!
# Finding one text in another

* `aroundFirst?`: the parts of a text before and after the first place where another text occurs.
* `occursIn`: whether it occurs at all.
* `splitAtText`, `joinWith`: the parts of a text between the places where a separator occurs, and
  the text that parts make with a separator between them.
-/

namespace RecordQuery.Text

/-- What is left of a list behind a given beginning. -/
def dropFront? {α : Type} [BEq α] : (front xs : List α) → Option (List α)
  | [], xs => some xs
  | y :: front, x :: xs => if x == y then dropFront? front xs else none
  | _ :: _, [] => none

/-- The parts before and after the first occurrence of a text. -/
def aroundFirst? (needle : List Char) : List Char → Option (List Char × List Char)
  | [] => if needle = [] then some ([], []) else none
  | c :: cs =>
    match dropFront? needle (c :: cs) with
    | some rest => some ([], rest)
    | none => (aroundFirst? needle cs).map fun found => (c :: found.1, found.2)

/-- Whether a text occurs in another one. -/
def occursIn (needle cs : List Char) : Bool := (aroundFirst? needle cs).isSome

/--
Splits at a separator that is not empty.  A number of characters, which belong to the separator last
found, is passed over first; `part` is the current part, its last character first.
-/
def splitPassing (separator : List Char) (passed : Nat) (part : List Char) :
    List Char → List (List Char)
  | [] => [part.reverse]
  | c :: cs =>
    match passed with
    | passed + 1 => splitPassing separator passed part cs
    | 0 =>
      if separator.isPrefixOf (c :: cs) then
        part.reverse :: splitPassing separator (separator.length - 1) [] cs
      else splitPassing separator 0 (c :: part) cs

/-- The parts of a text between the occurrences of a separator that is not empty. -/
def splitAtText (separator cs : List Char) : List (List Char) := splitPassing separator 0 [] cs

/-- The texts with a separator between them. -/
def joinWith (separator : List Char) : List (List Char) → List Char
  | [] => []
  | [part] => part
  | part :: parts => part ++ separator ++ joinWith separator parts

theorem append_of_dropFront? {front xs rest : List Char} (h : dropFront? front xs = some rest) :
    front ++ rest = xs := by
  induction front generalizing xs with
  | nil => simpa [dropFront?] using h.symm
  | cons y front ih =>
    cases xs with
    | nil => simp [dropFront?] at h
    | cons x xs =>
      rw [dropFront?] at h
      split at h
      · next hxy =>
        have hxy : x = y := by simpa using hxy
        rw [List.cons_append, ih h, hxy]
      · simp at h

/-- The two parts and the text between them are the whole. -/
theorem append_of_aroundFirst? {needle cs before after : List Char}
    (h : aroundFirst? needle cs = some (before, after)) : before ++ needle ++ after = cs := by
  induction cs generalizing before with
  | nil =>
    rw [aroundFirst?] at h
    split at h
    · next hn => simp_all
    · simp at h
  | cons c cs ih =>
    rw [aroundFirst?] at h
    split at h
    · next rest hrest =>
      obtain ⟨rfl, rfl⟩ : [] = before ∧ rest = after := by simpa using h
      simpa using append_of_dropFront? hrest
    · obtain ⟨⟨front, rest⟩, hfound, heq⟩ := Option.map_eq_some_iff.1 h
      obtain ⟨rfl, rfl⟩ : c :: front = before ∧ rest = after := by simpa using heq
      simp [← ih hfound]

end RecordQuery.Text
