import RecordQuery.Proofs.Text.Search
import RecordQuery.Proofs.Transform.Arrays

/-!
# Splitting and joining

A text that is split at a separator and joined with the same one comes back, whether the separator
is missing, empty or any other text.  The two operators take a missing separator differently, one
for none at all and the other for a comma, but a text that is not split is a single part, and
nothing is put beside it.

* `Value.partsOf`: the parts of a text.
* `Value.projected?_split`, `Value.projected?_join`: the operators by these parts.
* `Value.split_join`: what is split comes back.
-/

namespace RecordQuery.Value

open RecordQuery.Text (splitAtText joinWith joinWith_splitAtText)

/-- An option that may be left out. -/
def ofText? : Option String → Value
  | some text => .string text
  | none => .undefined

/-- The parts of a text: the whole of it, its characters, or what is between the occurrences of a
separator. -/
def partsOf (s : String) : Option String → List String
  | none => [s]
  | some separator =>
    (if separator = "" then s.toList.map fun c => [c]
      else splitAtText separator.toList s.toList).map String.ofList

variable (functions : Functions) {separator : Option String} {options : Value}

theorem projected?_split (h : options.field "separator" = ofText? separator) (s : String) :
    projected? functions (.string s) "$split" options =
      some (.array ((partsOf s separator).map .string)) := by
  refine projected?_ofText rfl rfl rfl ?_ nofun
  rw [h]
  cases separator with
  | none => rfl
  | some separator =>
    rw [ofText?, splitText?, partsOf, List.map_map]
    rfl

theorem itemTexts_map_string (parts : List String) :
    itemTexts (parts.map .string) = parts.map String.toList := by
  induction parts with
  | nil => rfl
  | cons part parts ih => rw [List.map_cons, itemTexts, ih]; rfl

theorem projected?_join (h : options.field "separator" = ofText? separator) (parts : List String) :
    projected? functions (.array (parts.map .string)) "$join" options =
      some (.string (String.ofList
        (joinWith (separator.getD ",").toList (parts.map String.toList)))) := by
  have hseparator : (options.textOption? "separator").getD "," = separator.getD "," := by
    rw [textOption?, h]
    cases separator <;> rfl
  refine projected?_of_eq_some rfl rfl rfl ?_ nofun
  dsimp only
  rw [array?, Option.bind_some, hseparator, joinTexts, itemTexts_map_string]

theorem joinWith_partsOf (s : String) (separator : Option String) :
    joinWith (separator.getD ",").toList ((partsOf s separator).map String.toList) = s.toList := by
  cases separator with
  | none => rfl
  | some separator =>
    rw [Option.getD_some, partsOf, List.map_map]
    have hid : String.toList ∘ String.ofList = id := funext fun _ => String.toList_ofList
    rw [hid, List.map_id]
    split
    · next hempty => rw [hempty]; exact Text.joinWith_nil_map_singleton s.toList
    · next hne => exact joinWith_splitAtText (by simpa using hne) s.toList

/-- **What is split comes back.**  For every text and every separator, also the empty one and none
at all, splitting gives texts that the same separator joins to the text again.  If the separator is
not empty, it occurs in none of them. -/
theorem split_join (s : String) {splitting joining : Value}
    (hsplitting : splitting.field "separator" = ofText? separator)
    (hjoining : joining.field "separator" = ofText? separator) :
    ∃ parts : List String,
      projected? functions (.string s) "$split" splitting = some (.array (parts.map .string)) ∧
      projected? functions (.array (parts.map .string)) "$join" joining = some (.string s) ∧
      ∀ mark, separator = some mark → mark ≠ "" →
        ∀ part ∈ parts, ¬ mark.toList <:+: part.toList := by
  refine ⟨partsOf s separator, projected?_split functions hsplitting s, ?_, ?_⟩
  · rw [projected?_join functions hjoining, joinWith_partsOf, String.ofList_toList]
  · rintro mark rfl hne part hpart
    rw [partsOf, if_neg hne, List.mem_map] at hpart
    obtain ⟨chars, hchars, rfl⟩ := hpart
    rw [String.toList_ofList]
    exact Text.not_isInfix_of_mem_splitAtText (by simpa using hne) hchars

/-- A separator that overlaps with itself is found from the left. -/
theorem split_join_overlapping :
    let functions : Functions := fun _ _ => .undefined
    let options : Value := .record [("separator", .string "aa")]
    options.field "separator" = ofText? (some "aa") ∧
      projected? functions (.string "aaabaa") "$split" options =
        some (.array [.string "", .string "ab", .string ""]) ∧
      projected? functions (.array [.string "", .string "ab", .string ""]) "$join" options =
        some (.string "aaabaa") := by
  intro functions options
  have hoption : options.field "separator" = ofText? (some "aa") := rfl
  obtain ⟨parts, hsplit, hjoin, -⟩ := split_join functions "aaabaa" hoption hoption
  have hparts : partsOf "aaabaa" (some "aa") = ["", "ab", ""] := by decide
  have hmade := projected?_split functions hoption "aaabaa"
  rw [hparts] at hmade
  rw [← Option.some.inj (hmade.symm.trans hsplit)] at hjoin
  exact ⟨hoption, hmade, hjoin⟩

end RecordQuery.Value
