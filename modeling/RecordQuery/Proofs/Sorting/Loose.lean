import RecordQuery.Proofs.Pattern.Nesting
import RecordQuery.Sorting

/-!
# Loose criteria

A record that names no path and direction is searched for the first word that stands for a
direction; the keys above it are joined to a path.  The empty path stands for none, so that an empty
key at the root is lost as soon as another key follows it.

* `SortCriterion.mentions`: the words in a record, depth first, with the keys above them.
* `SortCriterion.firstLeaf?_eq_found`: the search finds the first of them.
* `Path.named`, `Path.foldl_child`: what is left of the keys in the path.
* `Path.segments_intercalate`: the segments of joined keys.
* `SortCriterion.ofValue_loose`: what a loose criterion comes to.
-/

namespace RecordQuery

namespace Path

/-! ### Joined keys -/

/-- What is left of keys in their path: empty keys at the front are lost, except for the last
key. -/
def named : List String → List String
  | "" :: key :: rest => named (key :: rest)
  | keys => keys

theorem named_suffix (keys : List String) : named keys <:+ keys := by
  fun_induction named keys with
  | case1 key rest ih => exact ih.trans (List.suffix_cons ..)
  | case2 keys => exact List.suffix_refl _

theorem named_ne_nil {keys : List String} (h : keys ≠ []) : named keys ≠ [] := by
  fun_induction named keys with
  | case1 key rest ih => exact ih (List.cons_ne_nil _ _)
  | case2 keys => exact h

theorem named_eq_self_iff {keys : List String} :
    named keys = keys ↔ ∀ key rest, keys ≠ "" :: key :: rest := by
  fun_cases named keys with
  | case1 key rest =>
    refine ⟨fun h => ?_, fun h => absurd rfl (h key rest)⟩
    have hlength := (named_suffix (key :: rest)).length_le
    rw [h] at hlength
    exact absurd hlength (Nat.not_succ_le_self _)
  | case2 keys h => exact ⟨fun _ key rest hk => h key rest hk, fun _ => rfl⟩

theorem foldl_child_of_ne_empty : ∀ {keys : List String} {parent : String}, parent ≠ "" →
    keys.foldl child parent = ".".intercalate (parent :: keys) := by
  intro keys
  induction keys with
  | nil => intro parent _; rw [List.foldl_nil, String.intercalate_singleton]
  | cons key keys ih =>
    intro parent h
    have hchild : child parent key = parent ++ "." ++ key := if_neg h
    have hne : child parent key ≠ "" := by
      rw [hchild]
      simp
    rw [List.foldl_cons, ih hne, hchild, String.intercalate_cons_append,
      String.intercalate_cons_cons]

/-- The path of keys below the root is that of the keys which are left of them. -/
theorem foldl_child (keys : List String) :
    keys.foldl child "" = ".".intercalate (named keys) := by
  fun_induction named keys with
  | case1 key rest ih => exact ih
  | case2 keys h =>
    cases keys with
    | nil => rw [List.foldl_nil, String.intercalate_nil]
    | cons key rest =>
      have hchild : child "" key = key := if_pos rfl
      rw [List.foldl_cons, hchild]
      by_cases hk : key = ""
      · cases rest with
        | nil => rw [List.foldl_nil, String.intercalate_singleton]
        | cons next rest => exact absurd (hk ▸ rfl) (h next rest)
      · exact foldl_child_of_ne_empty hk

/-- **Joined keys without dots are taken apart again.** -/
theorem segments_intercalate : ∀ {keys : List String}, keys ≠ [] →
    (∀ key ∈ keys, isDotted key = false) → segments (".".intercalate keys) = keys := by
  intro keys
  induction keys with
  | nil => intro h; exact absurd rfl h
  | cons key keys ih =>
    intro _ hplain
    obtain ⟨hkey, hkeys⟩ := List.forall_mem_cons.mp hplain
    have hfirst := Pattern.segments_of_isDotted_eq_false hkey
    cases keys with
    | nil => rw [String.intercalate_singleton, hfirst]
    | cons next rest =>
      have hrest := ih (List.cons_ne_nil _ _) hkeys
      have hjoined : (".".intercalate (key :: next :: rest)).toList =
          key.toList ++ '.' :: (".".intercalate (next :: rest)).toList := by
        simp [String.intercalate_cons_cons]
      rw [segments] at hfirst hrest ⊢
      rw [hjoined, Pattern.splitOn_append rfl, List.map_append, hfirst, hrest,
        List.singleton_append]

end Path

namespace Value

theorem exists_record_of_follow?_atPath {v w : Value} : ∀ {path keys : List String},
    path.length < keys.length → follow? path (v.atPath keys) = some w →
      ∃ entries, w = .record entries := by
  intro path
  induction path with
  | nil =>
    intro keys hlength h
    cases keys with
    | nil => cases hlength
    | cons key keys => exact ⟨_, (Option.some.inj h).symm⟩
  | cons segment path ih =>
    intro keys hlength h
    cases keys with
    | nil => cases hlength
    | cons key keys =>
      rw [follow?, atPath] at h
      obtain ⟨child, hchild, h⟩ := Option.bind_eq_some_iff.mp h
      have hmem := Assoc.mem_of_get? hchild
      rw [List.mem_singleton, Prod.mk.injEq] at hmem
      rw [hmem.2] at h
      exact ih (Nat.lt_of_succ_lt_succ hlength) h

end Value

namespace SortCriterion

open RecordQuery.Path (child named isDotted)

/-! ### The search -/

/-- A word that stands for a direction in a criterion, and the keys above it. -/
structure Mention where
  keys : List String
  word : String
deriving DecidableEq, Repr

/-- The mention as seen from above. -/
def Mention.under (key : String) (mention : Mention) : Mention :=
  { mention with keys := key :: mention.keys }

mutual

/-- The words in a record that stand for directions, depth first. -/
def mentions : List (String × Value) → List Mention
  | [] => []
  | (key, value) :: rest => (mentionsIn value).map (.under key) ++ mentions rest

/-- The words in a value that stand for directions: the value itself or what it holds under `order`,
and then those further below. -/
def mentionsIn : Value → List Mention
  | .string word => [⟨[], word⟩]
  | .record nested =>
    match (Assoc.get? "order" nested).bind Value.string? with
    | some word => ⟨[], word⟩ :: mentions nested
    | none => mentions nested
  | _ => []

end

/-- What a search below a path comes to that finds a mention, or none. -/
def found (parent : String) : Option Mention → Except SortError (Option SortCriterion)
  | none => .ok none
  | some mention => (ofWord (mention.keys.foldl child parent) mention.word).map some

mutual

/-- **The search finds the first mention.** -/
theorem firstLeaf?_eq_found (parent : String) : ∀ entries : List (String × Value),
    firstLeaf? parent entries = found parent (mentions entries).head?
  | [] => rfl
  | (key, value) :: rest => by
    rw [firstLeaf?, leaf?_eq_found (child parent key) value, firstLeaf?_eq_found parent rest,
      mentions, List.head?_append, List.head?_map]
    cases (mentionsIn value).head? with
    | none => rfl
    | some mention =>
      show _ = (ofWord (mention.keys.foldl child (child parent key)) mention.word).map some
      rw [found]
      cases ofWord (mention.keys.foldl child (child parent key)) mention.word <;> rfl

theorem leaf?_eq_found (path : String) : ∀ value : Value,
    leaf? path value = found path (mentionsIn value).head?
  | .string word => by rw [leaf?, mentionsIn]; rfl
  | .record nested => by
    rw [leaf?, mentionsIn, firstLeaf?_eq_found path nested]
    cases (Assoc.get? "order" nested).bind Value.string? <;> rfl
  | .undefined | .null | .bool _ | .number _ | .date _ | .binary _ | .array _ | .function _ => by
    rw [leaf?, mentionsIn]
    · rfl
    all_goals simp

end

theorem keys_ne_nil_of_mem_mentions {entries : Entries} {mention : Mention}
    (h : mention ∈ mentions entries) : mention.keys ≠ [] := by
  induction entries with
  | nil => cases h
  | cons entry rest ih =>
    obtain ⟨key, value⟩ := entry
    rw [mentions, List.mem_append, List.mem_map] at h
    rcases h with ⟨_, -, rfl⟩ | h
    · exact List.cons_ne_nil _ _
    · exact ih h

/-- A record without path and direction comes to what its first mention comes to. -/
theorem ofValue_record {entries : Entries}
    (h : Assoc.get? "path" entries = none ∨ Assoc.get? "direction" entries = none) :
    ofValue (.record entries) =
      (mentions entries).head?.elim (.error (.invalidCriterion (.record entries))) fun first =>
        ofWord (".".intercalate (named first.keys)) first.word := by
  rw [ofValue, firstLeaf?_eq_found]
  split
  · next hpath hdirection => simp [hpath, hdirection] at h
  · cases (mentions entries).head? with
    | none => rfl
    | some first =>
      rw [found, Path.foldl_child, Option.elim_some]
      cases ofWord (".".intercalate (named first.keys)) first.word <;> rfl

theorem ofWord_word (path : String) (direction : Direction) :
    ofWord path direction.word = .ok ⟨path, direction⟩ := by
  cases direction <;> rfl

theorem ofWord_of_forall_ne {word : String} (h : ∀ direction : Direction, word ≠ direction.word)
    (path : String) : ofWord path word = .error (.invalidDirection word) := by
  have hasc : word ≠ "asc" := h .ascending
  have hdesc : word ≠ "desc" := h .descending
  rw [ofWord, Direction.ofWord, if_neg hasc, if_neg hdesc]
  rfl

theorem getPath?_intercalate_named {keys : List String} (hkeys : keys ≠ [])
    (hplain : ∀ key ∈ keys, isDotted key = false) (record : Value) :
    record.getPath? (".".intercalate (named keys)) = record.follow? (named keys) := by
  rw [Value.getPath?, Path.segments_intercalate (Path.named_ne_nil hkeys) fun key hk =>
    hplain key ((Path.named_suffix keys).subset hk)]

theorem named_eq_self_of_forall_follow? {keys : List String}
    (h : ∀ record : Value, record.follow? (named keys) = record.follow? keys) :
    named keys = keys := by
  have hfollow := h (Value.null.atPath keys)
  rw [Value.follow?_atPath] at hfollow
  refine (Path.named_suffix keys).eq_of_length_le (Nat.le_of_not_lt fun hlt => ?_)
  obtain ⟨entries, hrecord⟩ := Value.exists_record_of_follow?_atPath hlt hfollow
  cases hrecord

/-- **A loose criterion comes to the first mention of a direction in it.**  Without one it is
refused, and so is the word if it stands for no direction; otherwise it has that direction, and for
its path the keys above the word, joined by dots.  Lookup follows exactly those keys unless the
first of several is empty, which is lost. -/
theorem ofValue_loose {entries : Entries}
    (h : Assoc.get? "path" entries = none ∨ Assoc.get? "direction" entries = none) :
    ((∃ e, ofValue (.record entries) = .error e) ↔
      ∀ first ∈ (mentions entries).head?, ∀ direction : Direction,
        first.word ≠ direction.word) ∧
    ((mentions entries).head? = none →
      ofValue (.record entries) = .error (.invalidCriterion (.record entries))) ∧
    ∀ first ∈ (mentions entries).head?,
      ((∀ direction : Direction, first.word ≠ direction.word) →
        ofValue (.record entries) = .error (.invalidDirection first.word)) ∧
      ∀ direction : Direction, first.word = direction.word →
        ∃ path, ofValue (.record entries) = .ok ⟨path, direction⟩ ∧
          path = ".".intercalate (named first.keys) ∧
          ((∀ key ∈ first.keys, isDotted key = false) →
            (∀ record : Value, record.getPath? path = record.follow? (named first.keys)) ∧
            ((∀ record : Value, record.getPath? path = record.follow? first.keys) ↔
              ∀ key rest, first.keys ≠ "" :: key :: rest) ∧
            (path = ".".intercalate first.keys ↔ ∀ key rest, first.keys ≠ "" :: key :: rest)) := by
  have hvalue := ofValue_record h
  refine ⟨?_, fun hnone => ?_, fun first hfirst => ⟨fun hno => ?_, fun direction hword => ?_⟩⟩
  · rw [hvalue]
    cases (mentions entries).head? with
    | none => simp
    | some first =>
      simp only [Option.mem_def, Option.some.injEq, forall_eq', Option.elim_some]
      constructor
      · rintro ⟨e, he⟩ direction hword
        rw [hword, ofWord_word] at he
        cases he
      · intro hno
        exact ⟨_, ofWord_of_forall_ne hno _⟩
  · rw [hvalue, hnone, Option.elim_none]
  · rw [Option.mem_def] at hfirst
    rw [hvalue, hfirst, Option.elim_some, ofWord_of_forall_ne hno]
  · rw [Option.mem_def] at hfirst
    rw [hvalue, hfirst, Option.elim_some, hword, ofWord_word]
    refine ⟨_, rfl, rfl, fun hplain => ?_⟩
    have hkeys : first.keys ≠ [] := keys_ne_nil_of_mem_mentions (List.mem_of_mem_head? hfirst)
    have hlookup := getPath?_intercalate_named hkeys hplain
    refine ⟨hlookup, ?_, ?_⟩
    · rw [← Path.named_eq_self_iff]
      simp only [hlookup]
      exact ⟨named_eq_self_of_forall_follow?, fun hsame record => by rw [hsame]⟩
    · rw [← Path.named_eq_self_iff]
      refine ⟨fun hpath => ?_, fun hsame => by rw [hsame]⟩
      refine named_eq_self_of_forall_follow? fun record => ?_
      rw [← hlookup, hpath, Value.getPath?, Path.segments_intercalate hkeys hplain]

/-- A word under `order` comes before those below it, and an empty key with another key behind it is
lost. -/
theorem ofValue_loose_nested :
    let loose : Entries :=
      [("n", .number 1.0), ("user", .record [("age", .record [("order", .string "desc")])]),
        ("name", .string "up")]
    let headed : Entries := [("", .record [("a", .string "asc")])]
    ofValue (.record loose) = .ok ⟨"user.age", .descending⟩ ∧
      (∀ record : Value, record.getPath? "user.age" = record.follow? ["user", "age"]) ∧
      ofValue (.record headed) = .ok ⟨"a", .ascending⟩ ∧
      ¬ ∀ record : Value, record.getPath? "a" = record.follow? ["", "a"] := by
  intro loose headed
  have hloose : (mentions loose).head? = some ⟨["user", "age"], "desc"⟩ := by decide
  have hheaded : (mentions headed).head? = some ⟨["", "a"], "asc"⟩ := by decide
  obtain ⟨path, hvalue, hpath, hfollow⟩ :=
    ((ofValue_loose (Or.inl rfl)).2.2 _ hloose).2 .descending rfl
  obtain ⟨hlost, hlostValue, hlostPath, hlostFollow⟩ :=
    ((ofValue_loose (Or.inl rfl)).2.2 _ hheaded).2 .ascending rfl
  have hjoined : ".".intercalate (named ["user", "age"]) = "user.age" := by rfl
  have hleft : ".".intercalate (named ["", "a"]) = "a" := by rfl
  subst hpath hlostPath
  rw [hjoined] at hvalue hfollow
  rw [hleft] at hlostValue hlostFollow
  refine ⟨hvalue, (hfollow (by decide)).1, hlostValue, fun hsame => ?_⟩
  exact (hlostFollow (by decide)).2.1.mp hsame "a" [] rfl

/-- The keys `""` and `a` above a direction are joined to the path `a`, which leads elsewhere. -/
theorem not_follow?_ofValue :
    let criterion : Value := .record [("", .record [("a", .string "desc")])]
    let record : Value := .record [("", .record [("a", .null)])]
    ofValue criterion = .ok ⟨"a", .descending⟩ ∧
      record.getPath? "a" = none ∧ record.follow? ["", "a"] = some .null ∧
      record.getPath? ".a" = some .null := by
  have hjoined : Path.segments ".a" = ["", "a"] := by decide
  have hlone : Path.segments "a" = ["a"] := Pattern.segments_of_isDotted_eq_false (by decide)
  intro criterion record
  refine ⟨rfl, ?_, rfl, ?_⟩
  · rw [Value.getPath?, hlone]
    rfl
  · rw [Value.getPath?, hjoined]
    rfl

end SortCriterion

end RecordQuery
