import TextGrammar.Proofs.CursorHistory

set_option autoImplicit false

namespace TextGrammar

namespace Cursor

theorem advance_some (cursor next : Cursor) (c : Char) (advanced : cursor.advance = (some c, next)) :
    cursor.ahead = c :: next.ahead ∧ next = cursor.pass [c] next.ahead := by
  obtain ⟨left, ahead, passed⟩ := cursor.advance_passes
  rw [advanced] at ahead passed
  have same : next.ahead = left := congrArg Cursor.ahead passed
  exact ⟨by simpa [same] using ahead, by simpa [same] using passed⟩

theorem advance_none (cursor next : Cursor) (advanced : cursor.advance = (none, next)) :
    cursor.ahead = [] := by
  cases ahead : cursor.ahead with
  | nil => rfl
  | cons c left => simp [advance, ahead] at advanced

theorem advance_cons (cursor : Cursor) (c : Char) (left : List Char)
    (ahead : cursor.ahead = c :: left) : cursor.advance = (some c, cursor.pass [c] left) := by
  simp [advance, ahead]

theorem since_pass (cursor : Cursor) (taken left : List Char) :
    (cursor.pass taken left).since cursor = String.ofList taken :=
  since_behind _ _ _ (by simp [pass])

theorem rest_append (cursor : Cursor) (front back : String) :
    cursor.rest = front ++ back ↔ cursor.ahead = front.toList ++ back.toList := by
  rw [← String.toList_inj, rest, String.toList_ofList, String.toList_append]

def advanceBy : Nat → Cursor → Cursor
  | 0, cursor => cursor
  | count + 1, cursor => advanceBy count cursor.advance.2

def advanceWhile (test : Char → Bool) (cursor : Cursor) : Cursor :=
  match _ : cursor.advance with
  | (none, _) => cursor
  | (some c, next) => if test c then advanceWhile test next else cursor
termination_by cursor.ahead.length
decreasing_by simp [(advance_some cursor next c ‹_›).1]

def advanceTo (delimiter : Char) (cursor : Cursor) : Option (Cursor × Cursor) :=
  match _ : cursor.advance with
  | (none, _) => none
  | (some c, next) => if c = delimiter then some (cursor, next) else advanceTo delimiter next
termination_by cursor.ahead.length
decreasing_by simp [(advance_some cursor next c ‹_›).1]

-- `next` is the cursor of the same source that has passed `taken`, one character after the other.
structure Passes (source : String) (cursor : Cursor) (taken : String) (next : Cursor) : Prop where
  stands : next.Stands source
  ahead : cursor.rest = taken ++ next.rest
  since : next.since cursor = taken
  offset : next.offset = cursor.offset + taken.utf8ByteSize
  steps : next = advanceBy taken.length cursor

theorem advance_by_pass (cursor : Cursor) (taken left : List Char)
    (ahead : cursor.ahead = taken ++ left) :
    advanceBy taken.length cursor = cursor.pass taken left := by
  induction taken generalizing cursor with
  | nil => exact (cursor.pass_stays left ahead).symm
  | cons c taken ih =>
      rw [List.length_cons, advanceBy, cursor.advance_cons c (taken ++ left) ahead, ih _ rfl,
        pass_pass]
      rfl

theorem pass_passes (source : String) (cursor : Cursor) (taken : String) (left : List Char)
    (stands : cursor.Stands source) (ahead : cursor.ahead = taken.toList ++ left) :
    Passes source cursor taken (cursor.pass taken.toList left) where
  stands := pass_stands source cursor _ left stands ahead
  ahead := by
    rw [rest, ahead, String.ofList_append, String.ofList_toList]
    rfl
  since := by rw [since_pass, String.ofList_toList]
  offset := by
    rw [← String.ofList_toList (s := taken), ← utf8_length_bytes, String.toList_ofList]
    rfl
  steps := by rw [← String.length_toList, advance_by_pass cursor _ left ahead]

theorem take_while_steps (cursor : Cursor) (test : Char → Bool) :
    (cursor.takeWhile test).2 = advanceWhile test cursor := by
  fun_induction advanceWhile test cursor with
  | case1 cursor next found =>
      have ahead := advance_none cursor next found
      simp [takeWhile, ahead, cursor.pass_stays [] ahead]
  | case2 cursor c next found passed ih =>
      obtain ⟨ahead, after⟩ := advance_some cursor next c found
      rw [← ih]
      simp only [takeWhile, ahead, List.takeWhile_cons_of_pos passed,
        List.dropWhile_cons_of_pos passed]
      rw [after, pass_pass]
      rfl
  | case3 cursor c next found refused =>
      obtain ⟨ahead, -⟩ := advance_some cursor next c found
      simp [takeWhile, ahead, refused, cursor.pass_stays _ ahead]

def LongestRun (test : Char → Bool) (text taken : String) : Prop :=
  (∀ c ∈ taken.toList, test c = true) ∧
    ∀ front back, text = front ++ back → (∀ c ∈ front.toList, test c = true) →
      ∃ more, taken = front ++ more

theorem take_while_longest (cursor : Cursor) (test : Char → Bool) :
    LongestRun test cursor.rest (cursor.takeWhile test).1 := by
  rw [takeWhile]
  refine ⟨fun c member => ?_, fun front back shape all => ?_⟩
  · rw [String.toList_ofList] at member
    exact List.mem_takeWhile_imp member
  · refine ⟨String.ofList (back.toList.takeWhile test), ?_⟩
    rw [(rest_append cursor front back).mp shape, List.takeWhile_append_of_pos all,
      String.ofList_append, String.ofList_toList]

section

variable (cursor : Cursor) (delimiter : Char) (front back : List Char)

theorem advance_to_first (ahead : cursor.ahead = front ++ delimiter :: back)
    (first : delimiter ∉ front) :
    advanceTo delimiter cursor =
      some (cursor.pass front (delimiter :: back), cursor.pass (front ++ [delimiter]) back) := by
  induction front generalizing cursor with
  | nil =>
      rw [advanceTo, cursor.advance_cons delimiter back ahead,
        cursor.pass_stays (delimiter :: back) ahead]
      simp
  | cons c front ih =>
      obtain ⟨other, first⟩ := List.ne_and_not_mem_of_not_mem_cons first
      rw [advanceTo, cursor.advance_cons c _ ahead]
      simp only [if_neg (Ne.symm other)]
      rw [ih _ rfl first, pass_pass, pass_pass]
      rfl

theorem advance_to_nowhere (missing : delimiter ∉ cursor.ahead) :
    advanceTo delimiter cursor = none := by
  fun_induction advanceTo delimiter cursor with
  | case1 cursor next found => rfl
  | case2 cursor next found =>
      rw [(advance_some cursor next delimiter found).1] at missing
      exact absurd List.mem_cons_self missing
  | case3 cursor c next found other ih =>
      rw [(advance_some cursor next c found).1] at missing
      exact ih (List.not_mem_of_not_mem_cons missing)

theorem take_until_steps :
    cursor.takeUntil delimiter =
      (advanceTo delimiter cursor).map fun (before, behind) => (before.since cursor, behind) := by
  by_cases occurs : delimiter ∈ cursor.ahead
  · obtain ⟨front, back, ahead, first⟩ := List.eq_append_cons_of_mem occurs
    rw [take_until_first cursor delimiter front back ahead first,
      advance_to_first cursor delimiter front back ahead first]
    simp [since_pass]
  · rw [(take_until_none cursor delimiter).mpr occurs, advance_to_nowhere cursor delimiter occurs]
    rfl

end

-- The bytes of an expected text stand ahead exactly when its characters do.
theorem rest_begins (cursor : Cursor) (expected : String) :
    expected.toList <+: cursor.ahead ↔ ∃ back, cursor.rest = expected ++ back := by
  constructor
  · rintro ⟨left, ahead⟩
    refine ⟨String.ofList left, (rest_append cursor _ _).mpr ?_⟩
    rw [String.toList_ofList, ahead]
  · rintro ⟨back, ahead⟩
    exact ⟨back.toList, ((rest_append cursor _ _).mp ahead).symm⟩

theorem text_begins (cursor : Cursor) (expected : String) :
    (cursor.text expected).isSome = true ↔ expected.toList <+: cursor.ahead := by
  rw [Option.isSome_iff_exists]
  constructor
  · rintro ⟨next, found⟩
    obtain ⟨left, ahead, -⟩ := (text_some cursor next expected).mp found
    exact ⟨left, ahead.symm⟩
  · rintro ⟨left, ahead⟩
    exact ⟨_, (text_some cursor _ expected).mpr ⟨left, ahead.symm, rfl⟩⟩

theorem text_none (cursor : Cursor) (expected : String) :
    cursor.text expected = none ↔ ∀ back, cursor.rest ≠ expected ++ back := by
  rw [← not_exists, ← rest_begins, ← text_begins, Bool.not_eq_true, Option.isSome_eq_false_iff,
    Option.isNone_iff_eq_none]

theorem text_steps (cursor : Cursor) (expected : String) :
    cursor.text expected =
      if cursor.rest.startsWith expected then some (advanceBy expected.length cursor) else none := by
  have begins : cursor.rest.startsWith expected = true ↔ expected.toList <+: cursor.ahead := by
    rw [String.startsWith_string_iff, rest, String.toList_ofList]
  by_cases stands : expected.toList <+: cursor.ahead
  · obtain ⟨left, ahead⟩ := stands
    rw [if_pos (begins.mpr ⟨left, ahead⟩), ← String.length_toList,
      advance_by_pass cursor _ left ahead.symm]
    exact (text_some cursor _ expected).mpr ⟨left, ahead.symm, rfl⟩
  · rw [if_neg (fun found => stands (begins.mp found)), text_none, ← not_exists, ← rest_begins]
    exact stands

theorem bytes_ahead (source : String) (cursor : Cursor) (expected : String)
    (stands : cursor.Stands source) :
    source.toByteArray.extract cursor.offset (cursor.offset + expected.utf8ByteSize) =
        expected.toByteArray ↔
      expected.toList <+: cursor.ahead := by
  constructor
  · intro same
    have sound := stands_sound source cursor stands
    have bound := sound.within
    have sizes := congrArg ByteArray.size same
    rw [ByteArray.size_extract, String.size_toByteArray, String.size_toByteArray] at sizes
    have begins : expected.toByteArray ++ source.toByteArray.extract
        (cursor.offset + expected.utf8ByteSize) source.utf8ByteSize = cursor.rest.toByteArray := by
      rw [← same, ← sound.ahead, ByteArray.extract_append_extract, Nat.min_eq_left (by omega),
        Nat.max_eq_right (by omega)]
    have chars : expected.toList <+: cursor.rest.toList := by
      apply List.isPrefix_of_utf8Encode_append_eq_utf8Encode
      rw [String.utf8Encode_toList, String.utf8Encode_toList]
      exact begins
    rwa [rest, String.toList_ofList] at chars
  · rintro ⟨left, ahead⟩
    have cut := cut_bytes source cursor.behind.reverse expected.toList left
      (by rw [← stands.whole, ahead])
    rwa [utf8Length_append, ← stands.place, utf8_length_bytes, String.ofList_toList] at cut

theorem first_of_earliest (cursor next : Cursor) (texts : List String) (expected : String) :
    cursor.firstOf texts = some (expected, next) ↔
      cursor.text expected = some next ∧ ∃ before after, texts = before ++ expected :: after ∧
        ∀ earlier ∈ before, ∀ back, cursor.rest ≠ earlier ++ back := by
  rw [firstOf, List.findSome?_eq_some_iff]
  constructor
  · rintro ⟨before, candidate, after, shape, found, none⟩
    obtain ⟨_, found, same⟩ := Option.map_eq_some_iff.mp found
    cases same
    refine ⟨found, before, after, shape, fun earlier member => ?_⟩
    exact (text_none cursor earlier).mp (Option.map_eq_none_iff.mp (none earlier member))
  · rintro ⟨found, before, after, shape, none⟩
    refine ⟨before, expected, after, shape, by rw [found]; rfl, fun earlier member => ?_⟩
    exact Option.map_eq_none_iff.mpr ((text_none cursor earlier).mpr (none earlier member))

theorem first_of_none (cursor : Cursor) (texts : List String) :
    cursor.firstOf texts = none ↔
      ∀ expected ∈ texts, ∀ back, cursor.rest ≠ expected ++ back := by
  simp only [firstOf, List.findSome?_eq_none_iff, Option.map_eq_none_iff, text_none]

theorem operator_trial (cursor : Cursor) :
    cursor.operator.isSome = (cursor.firstOf Operator.symbols).isSome := by
  cases first : cursor.firstOf Operator.symbols with
  | none => simp [Cursor.operator, first]
  | some pair =>
      obtain ⟨-, before, after, shape, -⟩ := (first_of_earliest cursor pair.2 _ pair.1).mp first
      have member : pair.1 ∈ Operator.symbols := by simp [shape]
      obtain ⟨operator, -, symbol⟩ := List.mem_map.mp member
      rw [(operator_first cursor pair.2 operator).mpr (by rw [first, symbol])]
      rfl

structure Scans (source : String) (cursor : Cursor) : Prop where
  run (test : Char → Bool) : ∃ taken next, cursor.takeWhile test = (taken, next) ∧
    Passes source cursor taken next ∧ LongestRun test cursor.rest taken
  runSteps (test : Char → Bool) :
    cursor.takeWhile test = ((advanceWhile test cursor).since cursor, advanceWhile test cursor)
  delimited (delimiter : Char) (front back : String) :
    (∃ next, cursor.takeUntil delimiter = some (front, next) ∧ next.rest = back ∧
        Passes source cursor (front ++ String.singleton delimiter) next) ↔
      cursor.rest = front ++ String.singleton delimiter ++ back ∧ delimiter ∉ front.toList
  undelimited (delimiter : Char) :
    cursor.takeUntil delimiter = none ↔ delimiter ∉ cursor.rest.toList
  delimitedSteps (delimiter : Char) :
    cursor.takeUntil delimiter =
      (advanceTo delimiter cursor).map fun (before, behind) => (before.since cursor, behind)
  expected (text back : String) :
    (∃ next, cursor.text text = some next ∧ next.rest = back ∧ Passes source cursor text next) ↔
      cursor.rest = text ++ back
  unexpected (text : String) : cursor.text text = none ↔ ∀ back, cursor.rest ≠ text ++ back
  expectedBytes (text : String) :
    (cursor.text text).isSome = true ↔
      source.toByteArray.extract cursor.offset (cursor.offset + text.utf8ByteSize) =
        text.toByteArray
  expectedSteps (text : String) :
    cursor.text text =
      if cursor.rest.startsWith text then some (advanceBy text.length cursor) else none
  first (texts : List String) (text : String) (next : Cursor) :
    cursor.firstOf texts = some (text, next) ↔
      cursor.text text = some next ∧ ∃ before after, texts = before ++ text :: after ∧
        ∀ earlier ∈ before, ∀ back, cursor.rest ≠ earlier ++ back
  nothing (texts : List String) :
    cursor.firstOf texts = none ↔ ∀ text ∈ texts, ∀ back, cursor.rest ≠ text ++ back
  operator (operator : Operator) (next : Cursor) :
    cursor.operator = some (operator, next) ↔
      cursor.firstOf Operator.symbols = some (operator.symbol, next)
  trial : cursor.operator.isSome = (cursor.firstOf Operator.symbols).isSome

section

variable (source : String) (cursor : Cursor) (stands : cursor.Stands source)

include stands

theorem take_while_passes (test : Char → Bool) :
    Passes source cursor (cursor.takeWhile test).1 (cursor.takeWhile test).2 := by
  have split : cursor.ahead = cursor.ahead.takeWhile test ++ cursor.ahead.dropWhile test :=
    List.takeWhile_append_dropWhile.symm
  have passes := pass_passes source cursor (String.ofList (cursor.ahead.takeWhile test))
    (cursor.ahead.dropWhile test) stands (by rw [String.toList_ofList]; exact split)
  rwa [String.toList_ofList] at passes

theorem until_splits (delimiter : Char) (front back : String) :
    (∃ next, cursor.takeUntil delimiter = some (front, next) ∧ next.rest = back ∧
        Passes source cursor (front ++ String.singleton delimiter) next) ↔
      cursor.rest = front ++ String.singleton delimiter ++ back ∧ delimiter ∉ front.toList := by
  constructor
  · rintro ⟨next, found, rfl, passes⟩
    exact ⟨passes.ahead, ((take_until_some cursor delimiter front next).mp found).1⟩
  · rintro ⟨shape, first⟩
    have ahead := (rest_append cursor _ _).mp shape
    have passes := pass_passes source cursor (front ++ String.singleton delimiter) back.toList stands
      ahead
    refine ⟨_, ?_, ?_, passes⟩
    · refine (take_until_some cursor delimiter front _).mpr ⟨first, back.toList, ?_, ?_⟩
      · simpa using ahead
      · simp
    · simp [rest]

theorem text_passes (text back : String) :
    (∃ next, cursor.text text = some next ∧ next.rest = back ∧ Passes source cursor text next) ↔
      cursor.rest = text ++ back := by
  constructor
  · rintro ⟨next, -, rfl, passes⟩
    exact passes.ahead
  · intro shape
    have ahead := (rest_append cursor _ _).mp shape
    refine ⟨_, (text_some cursor _ text).mpr ⟨back.toList, ahead, rfl⟩, ?_,
      pass_passes source cursor text back.toList stands ahead⟩
    simp [rest]

end

-- Wherever in a source a cursor stands, every operation takes what the text ahead says it takes.
theorem scanning_exact (source : String) (cursor : Cursor) (stands : cursor.Stands source) :
    cursor.Scans source where
  run test := ⟨_, _, rfl, take_while_passes source cursor stands test, take_while_longest cursor test⟩
  runSteps test := by
    have since : (cursor.takeWhile test).2.since cursor = (cursor.takeWhile test).1 :=
      since_pass cursor _ _
    rw [← take_while_steps, since]
  delimited := until_splits source cursor stands
  undelimited delimiter := by rw [take_until_none, rest, String.toList_ofList]
  delimitedSteps := take_until_steps cursor
  expected := text_passes source cursor stands
  unexpected := text_none cursor
  expectedBytes text := by rw [bytes_ahead source cursor text stands, text_begins]
  expectedSteps := text_steps cursor
  first texts text next := first_of_earliest cursor next texts text
  nothing := first_of_none cursor
  operator operator next := operator_first cursor next operator
  trial := operator_trial cursor

theorem scanning_exact_overlapping :
    let cursor : Cursor := ⟨['"', 'x'], ['é', 'é', '&', '"'], 2⟩
    cursor.Stands "x\"éé&\"" ∧ cursor.Scans "x\"éé&\"" ∧
      cursor.takeWhile (· == 'é') = ("éé", ⟨['é', 'é', '"', 'x'], ['&', '"'], 6⟩) ∧
      cursor.takeUntil '"' = some ("éé&", ⟨['"', '&', 'é', 'é', '"', 'x'], [], 8⟩) ∧
      cursor.firstOf ["ß", "é", "éé"] = some ("é", ⟨['é', '"', 'x'], ['é', '&', '"'], 4⟩) ∧
      cursor.operator = none := by
  intro cursor
  have stands : cursor.Stands "x\"éé&\"" := ⟨by decide, by decide⟩
  exact ⟨stands, scanning_exact "x\"éé&\"" cursor stands, by decide, by decide, by decide,
    by decide⟩

end Cursor

end TextGrammar
