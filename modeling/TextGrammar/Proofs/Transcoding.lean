import TextGrammar.Proofs.Bytewise
import TextGrammar.Proofs.CursorHistory
import TextGrammar.Proofs.Transfer
import TextGrammar.Proofs.Unfinished

set_option autoImplicit false

namespace TextGrammar

def bytePlace (text : List Char) (offset : Nat) : Nat := utf8Length ((bytewise text).take offset)

theorem byte_place_ordered (text : List Char) (a b : Nat) (less : a ≤ b) :
    bytePlace text a ≤ bytePlace text b := by
  obtain ⟨between, longer⟩ := List.take_prefix_take_left (l := bytewise text) less
  rw [bytePlace, bytePlace, ← longer, Cursor.utf8Length_append]
  exact Nat.le_add_right _ _

theorem byte_place_front (front rest : List Char) :
    bytePlace (front ++ rest) (utf8Length front) = utf8Length (bytewise front) := by
  rw [bytePlace, bytewise_append, ← bytewise_length front, List.take_left]

def transcoding (source : String) : Transfer where
  place := bytePlace source.toList
  ordered := byte_place_ordered source.toList
  text := bytewiseText

theorem spells_bytewise (source : String) (lexeme : Lexeme) (word next : List Char)
    (spells : Lexeme.Spells lexeme word next) (known : ∀ c, lexeme = .stray c → Ascii c) :
    Lexeme.Spells ((transcoding source).lexeme lexeme) (bytewise word) (bytewise next) := by
  cases spells with
  | opening => exact .opening
  | closing => exact .closing
  | operator operator =>
      rw [bytewise_ascii _ (symbol_ascii operator)]
      exact .operator operator
  | name maximal =>
      obtain ⟨nonempty, all, stop⟩ := maximal
      rw [bytewise_ascii word fun c member => name_ascii c (all c member)]
      exact .name ⟨nonempty, all, bytewise_apart next stop⟩
  | @literal quote body _ delimits first =>
      have ascii := quote_ascii quote delimits
      rw [bytewise_cons, bytewise_append, byte_chars_ascii quote ascii,
        bytewise_ascii [quote] (by simpa using ascii)]
      have quotable := bytewise_quotable quote body ascii first
      simpa [Transfer.lexeme, transcoding, bytewiseText] using Lexeme.Spells.literal delimits quotable
  | @unclosed quote body delimits escaped =>
      have ascii := quote_ascii quote delimits
      rw [bytewise_cons, byte_chars_ascii quote ascii]
      exact .unclosed delimits (bytewise_escaped quote body ascii escaped)
  | @stray c _ other =>
      rw [bytewise_ascii [c] (by simpa using known c rfl)]
      exact .stray other

namespace Cursor

def bytewise (cursor : Cursor) : Cursor :=
  ⟨(TextGrammar.bytewise cursor.behind.reverse).reverse, TextGrammar.bytewise cursor.ahead,
    utf8Length (TextGrammar.bytewise cursor.behind.reverse)⟩

theorem pass_bytewise (cursor : Cursor) (taken left : List Char) :
    (cursor.pass taken left).bytewise =
      cursor.bytewise.pass (TextGrammar.bytewise taken) (TextGrammar.bytewise left) := by
  simp [bytewise, pass, bytewise_append, utf8Length_append]

theorem start_bytewise (source : String) :
    (ofString source).bytewise = ofString (bytewiseText source) := by
  simp [bytewise, ofString, bytewiseText, TextGrammar.bytewise, utf8Length]

theorem stands_place (source : String) (cursor : Cursor) (stands : cursor.Stands source) :
    (transcoding source).place cursor.offset = cursor.bytewise.offset := by
  rw [stands.place]
  change bytePlace source.toList _ = _
  rw [← stands.whole, byte_place_front]
  rfl

theorem blanks_place (source : String) (cursor : Cursor) (stands : cursor.Stands source)
    (blanks left : List Char) (ahead : cursor.ahead = blanks ++ left) (blank : Blank blanks) :
    (transcoding source).place (cursor.offset + utf8Length blanks) =
      cursor.bytewise.offset + utf8Length blanks := by
  have place := stands_place source _ (pass_stands source cursor blanks left stands ahead)
  rw [pass_bytewise, bytewise_blank blanks blank] at place
  exact place

theorem tokens_blank (count : Nat) (cursor : Cursor) (blank : Blank cursor.ahead) :
    tokens count cursor = [] := by
  have dropped : cursor.ahead.dropWhile isBlank = [] := List.dropWhile_eq_nil_iff.mpr blank
  cases count with
  | zero => rfl
  | succ count => simp [tokens, skipBlanks, takeWhile, Cursor.token, advance, dropped]

theorem token_none (cursor : Cursor) (none : cursor.skipBlanks.token = none) :
    Blank cursor.ahead := by
  cases rest : cursor.ahead.dropWhile isBlank with
  | nil => exact List.dropWhile_eq_nil_iff.mp rest
  | cons c left => simp [skipBlanks, takeWhile, Cursor.token, advance, rest] at none

section

variable (source : String) (cursor after : Cursor) (token : Token) (stands : cursor.Stands source)
  (found : cursor.skipBlanks.token = some (token, after))

include stands found

theorem next_stands : after.Stands source ∧ after.ahead.length < cursor.ahead.length ∧
    after.bytewise.ahead.length < cursor.bytewise.ahead.length := by
  obtain ⟨blanks, word, next, ahead, -, spells, -, rfl⟩ := (next_token _ _ _).mp found
  obtain ⟨c, left, rfl, -⟩ := spells_visible _ _ _ spells
  refine ⟨pass_stands source cursor _ _ stands (by simp [ahead]), ?_, ?_⟩
  · simp only [ahead, ahead_pass, List.length_append, List.length_cons]
    omega
  · have width := c.utf8Size_pos
    rw [pass_bytewise, ahead_pass, bytewise, ahead]
    simp only [bytewise_length, utf8Length_append, utf8_length_cons]
    omega

theorem next_bytewise (known : ∀ c, token.lexeme = .stray c → Ascii c) :
    cursor.bytewise.skipBlanks.token = some ((transcoding source).token token, after.bytewise) := by
  have stands' := (next_stands source cursor after token stands found).1
  obtain ⟨blanks, word, next, ahead, blank, spells, span, rfl⟩ := (next_token _ _ _).mp found
  have plain := bytewise_blank blanks blank
  have starts := blanks_place source cursor stands blanks (word ++ next) ahead blank
  refine (next_token _ _ _).mpr ⟨blanks, TextGrammar.bytewise word, TextGrammar.bytewise next, ?_,
    blank, spells_bytewise source _ word next spells known, ?_, ?_⟩
  · rw [bytewise, ahead, bytewise_append, bytewise_append, plain]
  · rw [Transfer.token, span, Transfer.span_range, starts, stands_place source _ stands']
  · rw [pass_bytewise, bytewise_append, plain]

-- A stray character beyond ASCII has stray ones in its place, of which the first is the next token.
theorem next_foreign (c : Char) (stray : token.lexeme = .stray c) (foreign : ¬ Ascii c) :
    ∃ d there after', cursor.bytewise.skipBlanks.token = some (⟨.stray d, there⟩, after') ∧
      isAsciiMark c = isAsciiMark d ∧
        there.start = (transcoding source).place token.span.start := by
  obtain ⟨blanks, word, next, ahead, blank, spells, span, rfl⟩ := (next_token _ _ _).mp found
  have plain := bytewise_blank blanks blank
  have starts := blanks_place source cursor stands blanks (word ++ next) ahead blank
  rw [stray] at spells
  cases spells with
  | stray other =>
      obtain ⟨d, others, chars⟩ := byte_chars_cons c
      have beyond := byte_chars_foreign c foreign d (by simp [chars])
      refine ⟨d, _, _, (next_token _ _ _).mpr ⟨blanks, [d], others ++ TextGrammar.bytewise next, ?_,
        blank, .stray (foreign_stray d beyond), rfl, rfl⟩, ?_, ?_⟩
      · rw [bytewise, ahead, bytewise_append, bytewise_append, plain, bytewise_cons, chars]
        simp [TextGrammar.bytewise]
      · rw [foreign_unmarked c foreign, foreign_unmarked d beyond]
      · rw [span]
        exact starts.symm

end

-- By induction on the number of tokens that may be left: behind a token fewer characters are ahead of
-- both cursors.
theorem tokens_found (source : String) (count count' : Nat) (cursor : Cursor)
    (stands : cursor.Stands source) (enough : cursor.ahead.length ≤ count)
    (enough' : cursor.bytewise.ahead.length ≤ count') :
    (transcoding source).Found (tokens count cursor) (tokens count' cursor.bytewise) := by
  induction count generalizing count' cursor with
  | zero =>
      have ended : cursor.ahead = [] := List.length_eq_zero_iff.mp (Nat.le_zero.mp enough)
      rw [tokens_blank count' _ (by simp [bytewise, ended, TextGrammar.bytewise, Blank])]
      exact .none
  | succ count ih =>
      cases found : cursor.skipBlanks.token with
      | none =>
          have blank := token_none cursor found
          have blank' : Blank cursor.bytewise.ahead := by rwa [bytewise, bytewise_blank _ blank]
          rw [tokens_blank _ _ blank, tokens_blank _ _ blank']
          exact .none
      | some pair =>
          obtain ⟨token, after⟩ := pair
          obtain ⟨stands', less, less'⟩ := next_stands source cursor after token stands found
          obtain ⟨more, rfl⟩ := Nat.exists_eq_add_one_of_ne_zero (show count' ≠ 0 by omega)
          rw [tokens, tokens, found]
          by_cases known : ∀ c, token.lexeme = .stray c → Ascii c
          · rw [next_bytewise source cursor after token stands found known]
            exact .token token (ih more after stands' (by omega) (by omega))
          · push Not at known
            obtain ⟨c, stray, foreign⟩ := known
            obtain ⟨d, there, after', found', marked, start⟩ :=
              next_foreign source cursor after token stands found c stray foreign
            rcases token with ⟨lexeme, here⟩
            obtain rfl : lexeme = .stray c := stray
            rw [found']
            exact .stray marked start

end Cursor

theorem tokens_of_found (source : String) :
    (transcoding source).Found (tokensOf source) (tokensOf (bytewiseText source)) := by
  have found := Cursor.tokens_found source source.length (bytewiseText source).length
    (Cursor.ofString source) (Cursor.start_stands source) (Nat.le_of_eq String.length_toList)
    (by rw [Cursor.start_bytewise]; exact Nat.le_of_eq String.length_toList)
  rwa [Cursor.start_bytewise] at found

theorem read_bytewise (limit : Nat) (source : String) :
    Grammar.readWithin limit (bytewiseText source) =
      (transcoding source).outcome (transcoding source).grammar
        (Grammar.readWithin limit source) := by
  refine (transcoding source).read_within limit source _ (tokens_of_found source) ?_
  have place := byte_place_front source.toList []
  rw [List.append_nil] at place
  rw [bytewiseText, String.toList_ofList]
  exact place.symm

theorem tokens_within (source : String) :
    ∀ token ∈ tokensOf source, token.span.start ≤ utf8Length source.toList := by
  intro token member
  obtain ⟨text, blanks, whole, -, placed⟩ := placed_all source _ rfl
  obtain ⟨-, stop⟩ := spread_within _ _ _ (placed_laid _ _ _ _ placed).spread token.span
    (List.mem_map_of_mem member)
  rw [Span.stop] at stop
  rw [whole, Cursor.utf8Length_append]
  omega

theorem step_offset (limit : Nat) (state : Partial) (token : Token) (error : ReadError)
    (failed : state.step limit token = .error error) :
    error.diagnostic.offset = token.span.start := by
  rcases state.step_fails limit token error failed with ⟨-, start⟩ | ⟨-, -, unfinished, -⟩
  · exact start
  · obtain ⟨-, quote, -, rfl⟩ := state.step_unfinished limit token error failed unfinished
    rfl

theorem run_error_within (limit stop : Nat) (state : Partial) (tokens : List Token)
    (error : ReadError) (failed : state.run limit stop tokens = .error error)
    (within : ∀ token ∈ state.tokens ++ tokens, token.span.start ≤ stop) :
    error.diagnostic.offset ≤ stop := by
  obtain ⟨front, last, reaches, ⟨rfl, rfl⟩ | ⟨token, rest, rfl, refused⟩⟩ :=
    state.run_fails limit stop tokens error failed
  · rcases last.at_end_place limit stop with unfinished | same
    · obtain ⟨awaits, opening, opens, same⟩ := last.at_end_unfinished limit stop unfinished
      obtain ⟨outer, due, nodes, shape, -⟩ := last.open_leads opening opens
      have read : ⟨.opening, opening⟩ ∈ last.tokens := by
        rw [Partial.tokens_awaiting last _ awaits, shape]
        simp
      rw [Partial.reaches_tokens _ _ _ _ reaches] at read
      rw [same]
      exact within _ read
    · exact Nat.le_of_eq same
  · rw [step_offset limit last token error refused]
    exact within token (by simp)

theorem read_error_within (limit : Nat) (source : String) (error : ReadError)
    (failed : Grammar.readWithin limit source = .error error) :
    error.diagnostic.offset ≤ utf8Length source.toList := by
  have within := tokens_within source
  rw [Grammar.readWithin] at failed
  cases given : tokensOf source with
  | nil =>
      rw [given] at failed
      cases failed
      exact Nat.le_refl _
  | cons token rest =>
      rw [given] at failed within
      rcases token with ⟨lexeme, opening⟩
      cases lexeme with
      | opening => exact run_error_within limit _ ⟨opening, [], [], .statement⟩ rest error failed within
      | closing | operator op | name text | literal text quote | unclosed quote | stray c =>
          cases failed
          exact within _ List.mem_cons_self

theorem error_offset (transfer : Transfer) (error : ReadError) :
    (transfer.error error).diagnostic.offset = transfer.place error.diagnostic.offset := by
  cases error <;> rfl

theorem offset_counted (source : String) (error : ReadError)
    (within : error.diagnostic.offset ≤ utf8Length source.toList) :
    ∃ before after : String, bytewiseText source = before ++ after ∧
      before.length = error.diagnostic.offset ∧
      utf8Length before.toList = ((transcoding source).error error).diagnostic.offset := by
  refine ⟨String.ofList ((bytewise source.toList).take error.diagnostic.offset),
    String.ofList ((bytewise source.toList).drop error.diagnostic.offset), ?_, ?_, ?_⟩
  · rw [← String.ofList_append, List.take_append_drop, bytewiseText]
  · rw [String.length_ofList, List.length_take, bytewise_length, Nat.min_eq_left within]
  · rw [error_offset, String.toList_ofList]
    rfl

theorem latin1_encoded (text : String) :
    Encoding.decode .latin1 (text.toList.flatMap String.utf8EncodeChar) =
      .ok (bytewiseText text) := by
  rw [Encoding.decode, List.map_flatMap]
  rfl

theorem encoded_bytes (text : String) :
    text.toByteArray.data.toList = text.toList.flatMap String.utf8EncodeChar := by
  rw [← text.ofList_toList, String.toByteArray_ofList, String.toList_ofList]
  exact List.toList_data_toByteArray

-- Of valid UTF-8 both decodings read alike: the trees differ in nothing but that each literal has the
-- Latin-1 decoding of its bytes and that places count those characters, and an error is of the same
-- kind and has as many characters before it as there were bytes.
theorem decoding_keeps_structure (limit : Nat) (bytes : List UInt8)
    (valid : bytes.toByteArray.IsValidUTF8) :
    ∃ source latin : String, Encoding.decode .utf8 bytes = .ok source ∧
      Encoding.decode .latin1 bytes = .ok latin ∧
      (∀ text : String, Encoding.decode .latin1 text.toByteArray.data.toList =
        .ok ((transcoding source).text text)) ∧
      match Grammar.readWithin limit source with
      | .ok grammar => Grammar.readWithin limit latin = .ok ((transcoding source).grammar grammar)
      | .error error =>
          Grammar.readWithin limit latin = .error ((transcoding source).error error) ∧
            ∃ before after : String, latin = before ++ after ∧
              before.length = error.diagnostic.offset ∧
              utf8Length before.toList = ((transcoding source).error error).diagnostic.offset := by
  obtain ⟨chars, encoded⟩ := valid
  obtain ⟨source, rfl⟩ : ∃ source : String, chars = source.toList :=
    ⟨String.ofList chars, String.toList_ofList.symm⟩
  obtain rfl : bytes = source.toList.flatMap String.utf8EncodeChar := by
    simpa [List.utf8Encode] using congrArg (fun encoded => encoded.data.toList) encoded
  refine ⟨source, bytewiseText source, ?_, latin1_encoded source, fun text => ?_, ?_⟩
  · rw [Encoding.decode, Utf8.decode_encoded, Except.map, String.ofList_toList]
  · rw [encoded_bytes, latin1_encoded]
    rfl
  · have carried := read_bytewise limit source
    cases read : Grammar.readWithin limit source with
    | ok grammar =>
        rw [read] at carried
        exact carried
    | error error =>
        rw [read] at carried
        exact ⟨carried, offset_counted source error (read_error_within limit source error read)⟩

theorem decoding_keeps_structure_accented :
    let bytes : List UInt8 := [0x28, 0x3D, 0x78, 0x27, 0xC3, 0xA9, 0x27, 0x29]
    let broken : List UInt8 := [0x28, 0x22, 0xC3, 0xBC, 0x22, 0xC3, 0x9F, 0x29]
    Encoding.decode .utf8 bytes = .ok "(=x'é')" ∧
      Encoding.decode .latin1 bytes = .ok "(=x'Ã©')" ∧
      (∃ grammar, Grammar.readWithin 2 "(=x'é')" = .ok grammar ∧
        Grammar.readWithin 2 "(=x'Ã©')" = .ok ((transcoding "(=x'é')").grammar grammar)) ∧
      Encoding.decode .utf8 broken = .ok "(\"ü\"ß)" ∧
      Grammar.readWithin 2 "(\"ü\"ß)" = .error (.expectedStatement 5) ∧
      ∃ latin before after : String, Encoding.decode .latin1 broken = .ok latin ∧
        Grammar.readWithin 2 latin = .error (.expectedStatement 7) ∧
        latin = before ++ after ∧ before.length = 5 ∧ utf8Length before.toList = 7 := by
  intro bytes broken
  have valid : bytes.toByteArray.IsValidUTF8 := ⟨"(=x'é')".toList, by decide⟩
  have valid' : broken.toByteArray.IsValidUTF8 := ⟨"(\"ü\"ß)".toList, by decide⟩
  have decodes : Encoding.decode .utf8 bytes = .ok "(=x'é')" := by rfl
  have decodes' : Encoding.decode .utf8 broken = .ok "(\"ü\"ß)" := by rfl
  have latin1 : Encoding.decode .latin1 bytes = .ok "(=x'Ã©')" := by rfl
  have fails : Grammar.readWithin 2 "(\"ü\"ß)" = .error (.expectedStatement 5) := by rfl
  obtain ⟨grammar, read⟩ : ∃ grammar, Grammar.readWithin 2 "(=x'é')" = .ok grammar := ⟨_, rfl⟩
  obtain ⟨source, latin, decoded, known, -, alike⟩ := decoding_keeps_structure 2 bytes valid
  obtain rfl := Except.ok.inj (decodes.symm.trans decoded)
  obtain rfl := Except.ok.inj (latin1.symm.trans known)
  obtain ⟨source', latin', decoded', known', -, alike'⟩ := decoding_keeps_structure 2 broken valid'
  obtain rfl := Except.ok.inj (decodes'.symm.trans decoded')
  rw [read] at alike
  rw [fails] at alike'
  obtain ⟨same, before, after, parts, count, offset⟩ := alike'
  exact ⟨decodes, latin1, ⟨grammar, read, alike⟩, decodes', fails,
    latin', before, after, known', same, parts, count, offset⟩

end TextGrammar
