import RecordQuery.Proofs.Text.Search
import RecordQuery.Proofs.Transform.Arrays

/-!
# Templates and their placeholders

A template is read once, from left to right.  Literals stay as they are, a placeholder becomes the
text of the value that its path leads to, and what is put in is not read again.

* `Template.Fills`: a template and what it becomes, piece by piece.
* `Template.textFrom`: the text of the value at a path in the first source that has one.
* `Template.fills_iff`: a template becomes one text, and that is the one which filling gives.
* `Value.format_fills`: the operator.
-/

namespace RecordQuery

namespace Template

open RecordQuery.Text (aroundFirst? aroundFirst?_append trimBlanks)

/-- What a template becomes: literals without an opening and placeholders whose path has no closing
take turns, and an opening that nothing closes ends them. -/
inductive Fills (textAt : List Char → List Char) : (template out : List Char) → Prop where
  | literal {text : List Char} (htext : ¬ opening <:+: text) : Fills textAt text text
  | unclosed {text inside : List Char} (htext : ¬ opening <:+: text)
      (hinside : '\x7d' ∉ inside) :
      Fills textAt (text ++ (opening ++ inside)) (text ++ (opening ++ inside))
  | placeholder {text path rest out : List Char} (htext : ¬ opening <:+: text)
      (hpath : '\x7d' ∉ path) (hrest : Fills textAt rest out) :
      Fills textAt (text ++ (opening ++ (path ++ (closing ++ rest)))) (text ++ (textAt path ++ out))

/-- The text of the value at a path, blanks around it apart, in the first source that has one. -/
def textFrom (sources : List Value) (path : List Char) : List Char :=
  match sources.findSome? (Value.getPath? (String.ofList (trimBlanks path))) with
  | some v => v.textChars
  | none => "undefined".toList

theorem isInfix_closing_iff {chars : List Char} : closing <:+: chars ↔ '\x7d' ∈ chars :=
  List.singleton_infix_iff ..

variable {textAt : List Char → List Char} {template out : List Char}

theorem fill_placeholder {text path rest : List Char} (htext : ¬ opening <:+: text)
    (hpath : '\x7d' ∉ path) :
    fill textAt (text ++ (opening ++ (path ++ (closing ++ rest)))) =
      text ++ (textAt (trimBlanks path) ++ fill textAt rest) := by
  have hopen : aroundFirst? opening (text ++ (opening ++ (path ++ (closing ++ rest)))) =
      some (text, path ++ (closing ++ rest)) :=
    aroundFirst?_append (by decide) (by decide) htext
  have hclose : aroundFirst? closing (path ++ (closing ++ rest)) = some (path, rest) :=
    aroundFirst?_append (by decide) (by decide) (by rwa [isInfix_closing_iff])
  rw [fill]
  split
  · next hnone => rw [hopen] at hnone; cases hnone
  · next hsome =>
    obtain ⟨rfl, rfl⟩ : text = _ ∧ path ++ (closing ++ rest) = _ := by
      simpa using hopen.symm.trans hsome
    split
    · next hnone => rw [hclose] at hnone; cases hnone
    · next hsome =>
      obtain ⟨rfl, rfl⟩ : path = _ ∧ rest = _ := by simpa using hclose.symm.trans hsome
      rw [List.append_assoc]

theorem fill_eq_self (h : ∀ text inside, aroundFirst? opening template = some (text, inside) →
    aroundFirst? closing inside = none) : fill textAt template = template := by
  rw [fill]
  split
  · rfl
  · next hsome =>
    split
    · rfl
    · next hclose => rw [h _ _ hsome] at hclose; cases hclose

theorem aroundFirst?_closing_eq_none_iff {inside : List Char} :
    aroundFirst? closing inside = none ↔ '\x7d' ∉ inside := by
  rw [Text.aroundFirst?_eq_none_iff (by decide), isInfix_closing_iff]

theorem fills_fill (textAt : List Char → List Char) (template : List Char) :
    Fills (fun path => textAt (trimBlanks path)) template (fill textAt template) := by
  induction template using fill.induct with
  | case1 template hnone =>
    rw [fill_eq_self fun text inside h => by rw [hnone] at h; cases h]
    exact .literal ((Text.aroundFirst?_eq_none_iff (by decide)).mp hnone)
  | case2 template text inside hopen hnone =>
    rw [fill_eq_self fun text' inside' h => by
      rw [hopen, Option.some.injEq, Prod.mk.injEq] at h; rwa [← h.2]]
    have htext := Text.not_isInfix_of_aroundFirst? (by decide) hopen
    rw [← Text.append_of_aroundFirst? hopen, List.append_assoc]
    exact .unclosed htext (aroundFirst?_closing_eq_none_iff.mp hnone)
  | case3 template text inside hopen path rest hclose ih =>
    have htext := Text.not_isInfix_of_aroundFirst? (by decide) hopen
    have hpath : '\x7d' ∉ path := by
      rw [← isInfix_closing_iff]
      exact Text.not_isInfix_of_aroundFirst? (by decide) hclose
    rw [← Text.append_of_aroundFirst? hopen, ← Text.append_of_aroundFirst? hclose]
    simp only [List.append_assoc]
    rw [fill_placeholder htext hpath]
    exact .placeholder htext hpath ih

theorem fill_eq_of_fills (h : Fills (fun path => textAt (trimBlanks path)) template out) :
    fill textAt template = out := by
  induction h with
  | literal htext =>
    refine fill_eq_self fun text inside hopen => ?_
    rw [(Text.aroundFirst?_eq_none_iff (by decide)).mpr htext] at hopen
    cases hopen
  | unclosed htext hinside =>
    refine fill_eq_self fun text inside hopen => ?_
    rw [aroundFirst?_append (by decide) (by decide) htext, Option.some.injEq,
      Prod.mk.injEq] at hopen
    rwa [← hopen.2, aroundFirst?_closing_eq_none_iff]
  | placeholder htext hpath hrest ih => rw [fill_placeholder htext hpath, ih]

/-- **A template becomes what filling gives**, and nothing else. -/
theorem fills_iff :
    Fills (fun path => textAt (trimBlanks path)) template out ↔ out = fill textAt template := by
  refine ⟨fun h => (fill_eq_of_fills h).symm, ?_⟩
  rintro rfl
  exact fills_fill textAt template

theorem textChars_valueAt (preferred other : Value) (path : List Char) :
    (valueAt preferred other (String.ofList (trimBlanks path))).textChars =
      textFrom [preferred, other] path := by
  rw [valueAt, textFrom, List.findSome?_cons, List.findSome?_cons, List.findSome?_nil]
  cases preferred.getPath? (String.ofList (trimBlanks path)) with
  | some v => rfl
  | none =>
    cases other.getPath? (String.ofList (trimBlanks path)) with
    | some v => rfl
    | none => rfl

end Template

namespace Value

open Template (Fills textFrom fillFrom)

/-- The sources of a template in the order in which they are asked. -/
def sources (subject options : Value) : List Value :=
  if options.textOption? "precedence" = some "values" then [options.field "values", subject]
  else [subject, options.field "values"]

variable {subject options : Value} {template : String}

theorem fills_fillFrom_iff (preferred other : Value) (template : String) (out : List Char) :
    Fills (textFrom [preferred, other]) template.toList out ↔
      out = (fillFrom preferred other template).toList := by
  rw [fillFrom, String.toList_ofList, ← Template.fills_iff]
  simp only [Template.textChars_valueAt]

/-- **Templates are filled once.**  For every subject but `undefined` and `null`, all values and
both orders of the two sources, every template becomes one text.  It has the literals as they stand
and, in the place of each placeholder, the text of the value at its path in the first of the sources
that has one there, and else the word for what is missing; from a placeholder on that is not closed
it is the template. -/
theorem format_fills (functions : Functions) (hsubject : subject.isNullish = false)
    (htemplate : options.field "template" = .string template) :
    ∃ out : String, projected? functions subject "$format" options = some (.string out) ∧
      ∀ chars, Fills (textFrom (sources subject options)) template.toList chars ↔
        chars = out.toList := by
  have hoption : options.textOption? "template" = some template := by
    rw [textOption?, htemplate]
    rfl
  have hmade : fillTemplate? subject options = some (.string
      (if options.textOption? "precedence" == some "values"
        then fillFrom (options.field "values") subject template
        else fillFrom subject (options.field "values") template)) := by
    rw [fillTemplate?, hsubject, hoption]
    rfl
  refine ⟨_, projected?_of_eq_some rfl rfl rfl hmade nofun, fun chars => ?_⟩
  rw [sources]
  by_cases hvalues : options.textOption? "precedence" = some "values"
  · rw [if_pos hvalues, if_pos (beq_iff_eq.mpr hvalues)]
    exact fills_fillFrom_iff ..
  · rw [if_neg hvalues, if_neg (mt beq_iff_eq.mp hvalues)]
    exact fills_fillFrom_iff ..

/-- A text with a placeholder in it is put in as it stands, and an opening that nothing closes is
left. -/
theorem format_fills_nested :
    let functions : Functions := fun _ _ => .undefined
    let subject : Value := .record [("a", .string "$\x7bb\x7d"), ("b", .null)]
    let template := "é$$\x7b a \x7d$\x7bb\x7d$\x7bb"
    let options : Value := .record [("template", .string template)]
    subject.isNullish = false ∧ options.field "template" = .string template ∧
      projected? functions subject "$format" options =
        some (.string "é$$\x7bb\x7dnull$\x7bb") := by
  intro functions subject template options
  have hsubject : subject.isNullish = false := rfl
  have htemplate : options.field "template" = .string template := rfl
  obtain ⟨out, hmade, hout⟩ := format_fills functions hsubject htemplate
  refine ⟨hsubject, htemplate, ?_⟩
  rw [hmade]
  have hpieces : template.toList = ['é', '$'] ++ (Template.opening ++ ([' ', 'a', ' '] ++
      (Template.closing ++ ([] ++ (Template.opening ++ (['b'] ++ (Template.closing ++
        ([] ++ (Template.opening ++ ['b']))))))))) := by decide
  have hfills : Fills (textFrom (sources subject options)) template.toList
      (['é', '$'] ++ (textFrom (sources subject options) [' ', 'a', ' '] ++
        ([] ++ (textFrom (sources subject options) ['b'] ++
          ([] ++ (Template.opening ++ ['b'])))))) := by
    rw [hpieces]
    refine .placeholder ?_ ?_ (.placeholder ?_ ?_ (.unclosed ?_ ?_)) <;> decide
  have hvalue : out = "é$$\x7bb\x7dnull$\x7bb" := by
    rw [← String.ofList_toList (s := out), ← (hout _).mp hfills]
    decide
  rw [hvalue]

end Value

end RecordQuery
