import TextGrammar.Proofs.Placement

set_option autoImplicit false

namespace TextGrammar

namespace Cursor

inductive Operation where
  | advance
  | char (expected : Char)
  | any (set : List Char)
  | takeWhile (test : Char → Bool)
  | takeUntil (delimiter : Char)
  | text (expected : String)
  | firstOf (texts : List String)
  | operator

def perform (cursor : Cursor) : Operation → Option (String × Cursor)
  | .advance => some (String.ofList cursor.advance.1.toList, cursor.advance.2)
  | .char expected => (cursor.char expected).map fun next => (String.singleton expected, next)
  | .any set => (cursor.any set).map fun (c, next) => (String.singleton c, next)
  | .takeWhile test => some (cursor.takeWhile test)
  | .takeUntil delimiter =>
      (cursor.takeUntil delimiter).map fun (taken, next) =>
        (taken ++ String.singleton delimiter, next)
  | .text expected => (cursor.text expected).map fun next => (expected, next)
  | .firstOf texts => cursor.firstOf texts
  | .operator => cursor.operator.map fun (operator, next) => (operator.symbol, next)

inductive Action where
  | perform (operation : Operation)
  | goBack (index : Nat)

-- All cursors produced so far, in their order, and the one that is read from.
structure History where
  cursors : List Cursor
  current : Cursor

namespace History

def start (source : String) : History := ⟨[ofString source], ofString source⟩

def act (history : History) : Action → History
  | .perform operation =>
      match history.current.perform operation with
      | some (_, next) => ⟨history.cursors ++ [next], next⟩
      | none => history
  | .goBack index =>
      match history.cursors[index]? with
      | some earlier => { history with current := earlier }
      | none => history

def run (source : String) (actions : List Action) : History := actions.foldl act (start source)

end History

theorem advance_passes (cursor : Cursor) :
    ∃ left, cursor.ahead = cursor.advance.1.toList ++ left ∧
      cursor.advance.2 = cursor.pass cursor.advance.1.toList left := by
  cases ahead : cursor.ahead with
  | nil =>
      refine ⟨[], by simp [advance, ahead], ?_⟩
      simp [advance, ahead, cursor.pass_stays [] ahead]
  | cons c left => exact ⟨left, by simp [advance, ahead], by simp [advance, ahead]⟩

theorem any_some (cursor next : Cursor) (set : List Char) (c : Char)
    (found : cursor.any set = some (c, next)) : cursor.advance = (some c, next) := by
  rw [any] at found
  split at found
  · rename_i d after advanced
    split at found
    · cases found
      exact advanced
    · cases found
  · cases found

theorem char_some (cursor next : Cursor) (expected : Char)
    (found : cursor.char expected = some next) : cursor.advance = (some expected, next) := by
  rw [char] at found
  split at found
  · rename_i d after advanced
    split at found
    · rename_i same
      cases found
      exact same ▸ advanced
    · cases found
  · cases found

section

variable (cursor : Cursor) (delimiter : Char)

theorem others_pass (text : List Char) (missing : delimiter ∉ text) :
    ∀ c ∈ text, (c != delimiter) = true := by
  intro c member
  have other : c ≠ delimiter := fun same => missing (same ▸ member)
  simpa using other

theorem take_until_first (front back : List Char) (ahead : cursor.ahead = front ++ delimiter :: back)
    (first : delimiter ∉ front) :
    cursor.takeUntil delimiter =
      some (String.ofList front, cursor.pass (front ++ [delimiter]) back) := by
  obtain ⟨taken, left⟩ := take_while_maximal (· != delimiter) front (delimiter :: back)
    (others_pass delimiter front first) (by simp)
  simp only [takeUntil, ahead, taken, left]

theorem take_until_none : cursor.takeUntil delimiter = none ↔ delimiter ∉ cursor.ahead := by
  constructor
  · intro none occurs
    obtain ⟨front, back, ahead, first⟩ := List.eq_append_cons_of_mem occurs
    rw [take_until_first cursor delimiter front back ahead first] at none
    cases none
  · intro missing
    have nothing : cursor.ahead.dropWhile (· != delimiter) = [] :=
      List.dropWhile_eq_nil_iff.mpr (others_pass delimiter cursor.ahead missing)
    simp only [takeUntil, nothing]

theorem take_until_some (taken : String) (next : Cursor) :
    cursor.takeUntil delimiter = some (taken, next) ↔
      delimiter ∉ taken.toList ∧ ∃ left, cursor.ahead = taken.toList ++ delimiter :: left ∧
        next = cursor.pass (taken.toList ++ [delimiter]) left := by
  constructor
  · intro found
    by_cases occurs : delimiter ∈ cursor.ahead
    · obtain ⟨front, back, ahead, first⟩ := List.eq_append_cons_of_mem occurs
      rw [take_until_first cursor delimiter front back ahead first] at found
      cases found
      rw [String.toList_ofList]
      exact ⟨first, back, ahead, rfl⟩
    · rw [(take_until_none cursor delimiter).mpr occurs] at found
      cases found
  · rintro ⟨first, left, ahead, rfl⟩
    rw [take_until_first cursor delimiter _ left ahead first, String.ofList_toList]

end

theorem perform_passes (cursor next : Cursor) (operation : Operation) (consumed : String)
    (performed : cursor.perform operation = some (consumed, next)) :
    ∃ left, cursor.ahead = consumed.toList ++ left ∧ next = cursor.pass consumed.toList left := by
  cases operation with
  | advance =>
      cases performed
      simpa using cursor.advance_passes
  | char expected =>
      obtain ⟨after, found, same⟩ := Option.map_eq_some_iff.mp performed
      cases same
      have passed := cursor.advance_passes
      rw [char_some cursor _ _ found] at passed
      simpa using passed
  | any set =>
      obtain ⟨⟨c, after⟩, found, same⟩ := Option.map_eq_some_iff.mp performed
      cases same
      have passed := cursor.advance_passes
      rw [any_some cursor _ _ _ found] at passed
      simpa using passed
  | takeWhile test =>
      cases performed
      refine ⟨cursor.ahead.dropWhile test, ?_, ?_⟩
      · rw [String.toList_ofList, List.takeWhile_append_dropWhile]
      · rw [String.toList_ofList]
  | takeUntil delimiter =>
      obtain ⟨⟨taken, after⟩, found, same⟩ := Option.map_eq_some_iff.mp performed
      cases same
      simpa using ((take_until_some cursor _ _ _).mp found).2
  | text expected =>
      obtain ⟨after, found, same⟩ := Option.map_eq_some_iff.mp performed
      cases same
      exact (text_some cursor _ _).mp found
  | firstOf texts => exact (text_some cursor _ _).mp (first_of_some cursor _ _ _ performed)
  | operator =>
      obtain ⟨⟨operator, after⟩, found, same⟩ := Option.map_eq_some_iff.mp performed
      cases same
      exact (operator_some cursor _ _).mp found

-- The cursor is somewhere in the source, and its offset counts the bytes behind it.
structure Stands (source : String) (cursor : Cursor) : Prop where
  whole : cursor.behind.reverse ++ cursor.ahead = source.toList
  place : cursor.offset = utf8Length cursor.behind.reverse

theorem start_stands (source : String) : (ofString source).Stands source := ⟨rfl, rfl⟩

theorem pass_stands (source : String) (cursor : Cursor) (taken left : List Char)
    (stands : cursor.Stands source) (ahead : cursor.ahead = taken ++ left) :
    (cursor.pass taken left).Stands source := by
  refine ⟨?_, ?_⟩
  · rw [← stands.whole, ahead]
    simp [pass]
  · simp [pass, utf8Length_append, stands.place]

theorem perform_stands (source : String) (cursor next : Cursor) (operation : Operation)
    (consumed : String) (stands : cursor.Stands source)
    (performed : cursor.perform operation = some (consumed, next)) : next.Stands source := by
  obtain ⟨left, ahead, rfl⟩ := perform_passes cursor next operation consumed performed
  exact pass_stands source cursor _ left stands ahead

def History.Stands (source : String) (history : History) : Prop :=
  history.current.Stands source ∧ ∀ cursor ∈ history.cursors, cursor.Stands source

theorem act_stands (source : String) (history : History) (action : Action)
    (stands : history.Stands source) : (history.act action).Stands source := by
  obtain ⟨current, all⟩ := stands
  cases action with
  | perform operation =>
      rw [History.act]
      cases performed : history.current.perform operation with
      | none => exact ⟨current, all⟩
      | some result =>
          have next := perform_stands source _ result.2 operation result.1 current performed
          exact ⟨next, List.forall_mem_append.mpr ⟨all, by simpa using next⟩⟩
  | goBack index =>
      rw [History.act]
      cases found : history.cursors[index]? with
      | none => exact ⟨current, all⟩
      | some earlier => exact ⟨all earlier (List.mem_of_getElem? found), all⟩

theorem run_stands (source : String) (actions : List Action) :
    (History.run source actions).Stands source := by
  have begun : (History.start source).Stands source :=
    ⟨start_stands source, by simpa [History.start] using start_stands source⟩
  rw [History.run]
  generalize History.start source = history at begun
  induction actions generalizing history with
  | nil => exact begun
  | cons action actions ih => exact ih _ (act_stands source history action begun)

theorem utf8_length_bytes (text : List Char) :
    utf8Length text = (String.ofList text).utf8ByteSize := by
  induction text with
  | nil => simp [utf8Length]
  | cons c text ih =>
      have split : String.ofList (c :: text) = String.singleton c ++ String.ofList text := by
        rw [String.singleton_eq_ofList, ← String.ofList_append]
        rfl
      rw [split, String.utf8ByteSize_append, String.utf8ByteSize_singleton, ← ih]
      rfl

theorem cut_bytes (source : String) (before between after : List Char)
    (whole : source.toList = before ++ (between ++ after)) :
    source.toByteArray.extract (utf8Length before) (utf8Length (before ++ between)) =
      (String.ofList between).toByteArray := by
  have split : source.toByteArray = (String.ofList before).toByteArray ++
      ((String.ofList between).toByteArray ++ (String.ofList after).toByteArray) := by
    rw [← String.toByteArray_append, ← String.toByteArray_append, ← String.ofList_append,
      ← String.ofList_append, ← whole, String.ofList_toList]
  have first : utf8Length before = (String.ofList before).toByteArray.size := by
    rw [utf8_length_bytes, String.size_toByteArray]
  have second : utf8Length between = (String.ofList between).toByteArray.size := by
    rw [utf8_length_bytes, String.size_toByteArray]
  have shifted := ByteArray.extract_append_size_add' (i := 0) (j := utf8Length between)
    (b := (String.ofList between).toByteArray ++ (String.ofList after).toByteArray) first
  rw [split, utf8Length_append]
  exact shifted.trans (ByteArray.extract_append_eq_left second)

theorem since_behind (earlier later : Cursor) (between : List Char)
    (shape : later.behind.reverse = earlier.behind.reverse ++ between) :
    later.since earlier = String.ofList between := by
  have behind : later.behind = between.reverse ++ earlier.behind := by
    rw [← List.reverse_reverse later.behind, shape, List.reverse_append, List.reverse_reverse]
  rw [since, behind, List.length_append, Nat.add_sub_cancel, List.take_left, List.reverse_reverse]

theorem stands_ordered (source : String) (earlier later : Cursor) (stands : earlier.Stands source)
    (stands' : later.Stands source) (ordered : earlier.offset ≤ later.offset) :
    ∃ between, later.behind.reverse = earlier.behind.reverse ++ between := by
  have shape := stands'.whole.trans stands.whole.symm
  obtain ⟨beyond, longer, -⟩ | ⟨between, longer, -⟩ := List.append_eq_append_iff.mp shape
  · cases beyond with
    | nil => exact ⟨[], by simpa using longer.symm⟩
    | cons c beyond =>
        have size := c.utf8Size_pos
        rw [stands.place, stands'.place, longer, utf8Length_append] at ordered
        simp only [utf8Length, List.foldr_cons] at ordered
        omega
  · exact ⟨between, longer⟩

structure Sound (source : String) (cursor : Cursor) : Prop where
  boundary : (String.Pos.Raw.mk cursor.offset).IsValid source
  within : cursor.offset ≤ source.utf8ByteSize
  behind : source.toByteArray.extract 0 cursor.offset =
    (cursor.since (ofString source)).toByteArray
  ahead : source.toByteArray.extract cursor.offset source.utf8ByteSize = cursor.rest.toByteArray
  parts : cursor.since (ofString source) ++ cursor.rest = source
  next : cursor.peek = cursor.rest.toList.head?
  before (consumed : List Char) (since : cursor.since (ofString source) = String.ofList consumed)
    (back : Nat) :
    cursor.last back =
      if 1 ≤ back ∧ back ≤ consumed.length then consumed[consumed.length - back]? else none
  moves (operation : Operation) (consumed : String) (next : Cursor)
    (performed : cursor.perform operation = some (consumed, next)) :
    cursor.offset ≤ next.offset ∧ next.since cursor = consumed ∧
      cursor.rest = consumed ++ next.rest ∧
      source.toByteArray.extract cursor.offset next.offset = consumed.toByteArray

theorem last_consumed (cursor : Cursor) (consumed : List Char)
    (behind : cursor.behind.reverse = consumed) (back : Nat) :
    cursor.last back =
      if 1 ≤ back ∧ back ≤ consumed.length then consumed[consumed.length - back]? else none := by
  subst behind
  cases back with
  | zero => rfl
  | succ back =>
      rw [last, List.length_reverse]
      by_cases inside : back < cursor.behind.length
      · rw [if_pos ⟨by omega, by omega⟩, List.getElem?_reverse (by omega)]
        congr 1
        omega
      · rw [if_neg (by omega), List.getElem?_eq_none (by omega)]

theorem perform_consumes (source : String) (cursor next : Cursor) (operation : Operation)
    (consumed : String) (stands : cursor.Stands source)
    (performed : cursor.perform operation = some (consumed, next)) :
    cursor.offset ≤ next.offset ∧ next.since cursor = consumed ∧
      cursor.rest = consumed ++ next.rest ∧
      source.toByteArray.extract cursor.offset next.offset = consumed.toByteArray := by
  obtain ⟨left, ahead, rfl⟩ := perform_passes cursor next operation consumed performed
  have behind : (cursor.pass consumed.toList left).behind.reverse =
      cursor.behind.reverse ++ consumed.toList := by simp [pass]
  refine ⟨Nat.le_add_right _ _, ?_, ?_, ?_⟩
  · rw [since_behind _ _ _ behind, String.ofList_toList]
  · rw [rest, rest, ahead, String.ofList_append, String.ofList_toList]
    rfl
  · have passed := cut_bytes source cursor.behind.reverse consumed.toList left
      (by rw [← stands.whole, ahead])
    rwa [utf8Length_append, ← stands.place, String.ofList_toList] at passed

theorem stands_sound (source : String) (cursor : Cursor) (stands : cursor.Stands source) :
    cursor.Sound source := by
  have since : cursor.since (ofString source) = String.ofList cursor.behind.reverse :=
    since_behind (ofString source) cursor _ rfl
  have parts : cursor.since (ofString source) ++ cursor.rest = source := by
    rw [since, rest, ← String.ofList_append, stands.whole, String.ofList_toList]
  have size : source.utf8ByteSize = utf8Length (cursor.behind.reverse ++ cursor.ahead) := by
    rw [stands.whole, utf8_length_bytes, String.ofList_toList]
  refine ⟨?_, ?_, ?_, ?_, parts, ?_, ?_, ?_⟩
  · refine String.Pos.Raw.isValid_iff_exists_append.mpr ⟨_, _, parts.symm, ?_⟩
    rw [since, stands.place, utf8_length_bytes]
    rfl
  · rw [size, utf8Length_append, stands.place]
    exact Nat.le_add_right _ _
  · rw [since, stands.place]
    exact cut_bytes source [] cursor.behind.reverse cursor.ahead stands.whole.symm
  · rw [size, stands.place]
    exact cut_bytes source cursor.behind.reverse cursor.ahead [] (by simp [stands.whole])
  · simp [peek, rest]
  · intro consumed same
    refine last_consumed cursor consumed ?_
    simpa using congrArg String.toList (since.symm.trans same)
  · exact fun operation consumed next =>
      perform_consumes source cursor next operation consumed stands

-- Whatever was done to the cursors of a source, and wherever it was gone back to, they are sound, and
-- any two of them cut out of the source what the later one has consumed since the earlier one.
theorem history_sound (source : String) (actions : List Action) :
    ∀ cursor ∈ (History.run source actions).cursors, cursor.Sound source ∧
      ∀ earlier ∈ (History.run source actions).cursors, earlier.offset ≤ cursor.offset →
        source.toByteArray.extract earlier.offset cursor.offset =
          (cursor.since earlier).toByteArray := by
  have all := (run_stands source actions).2
  intro cursor produced
  have stands := all cursor produced
  refine ⟨stands_sound source cursor stands, fun earlier produced' ordered => ?_⟩
  have stands' := all earlier produced'
  obtain ⟨between, behind⟩ := stands_ordered source earlier cursor stands' stands ordered
  rw [since_behind _ _ _ behind, stands.place, stands'.place, behind]
  exact cut_bytes source _ between cursor.ahead
    (by rw [← List.append_assoc, ← behind, stands.whole])

theorem history_sound_returning :
    let history := History.run "aé'ß"
      [.perform .advance, .perform (.takeUntil '\''), .goBack 1, .perform (.text "é"),
        .perform (.char 'x')]
    history.cursors.map Cursor.offset = [0, 1, 4, 3] ∧ history.current.offset = 3 ∧
      ⟨['\'', 'é', 'a'], ['ß'], 4⟩ ∈ history.cursors ∧
      (Cursor.mk ['\'', 'é', 'a'] ['ß'] 4).Sound "aé'ß" ∧
      "aé'ß".toByteArray.extract 1 4 = "é'".toByteArray := by
  have sound := history_sound "aé'ß"
    [.perform .advance, .perform (.takeUntil '\''), .goBack 1, .perform (.text "é"),
      .perform (.char 'x')] ⟨['\'', 'é', 'a'], ['ß'], 4⟩ (by decide)
  refine ⟨by decide, by decide, by decide, sound.1, ?_⟩
  exact sound.2 ⟨['a'], ['é', '\'', 'ß'], 1⟩ (by decide) (by decide)

end Cursor

end TextGrammar
