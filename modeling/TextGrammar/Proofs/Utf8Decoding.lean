import TextGrammar.Text.Encoding

set_option autoImplicit false

namespace TextGrammar.Utf8

-- What the leading bytes promise. Of each length the first and the last one keep something out.
theorem expected_two : ∀ offset : Fin 30,
    expected (UInt8.ofNat (offset.val + 0xC2)) = some (1, 0x80, 0xBF) := by decide

theorem expected_three : ∀ offset : Fin 16,
    expected (UInt8.ofNat (offset.val + 0xE0)) =
      some (2, if offset.val = 0 then 0xA0 else 0x80, if offset.val = 13 then 0x9F else 0xBF) := by decide

theorem expected_four : ∀ offset : Fin 5,
    expected (UInt8.ofNat (offset.val + 0xF0)) =
      some (3, if offset.val = 0 then 0x90 else 0x80, if offset.val = 4 then 0x8F else 0xBF) := by decide

section

variable (index : Nat) (done : List Char) (rest : List UInt8)

theorem decode_single (number : Nat) (small : number < 0x80) :
    decodeFrom index none done (UInt8.ofNat number :: rest) =
      decodeFrom (index + 1) none (Char.ofNat number :: done) rest := by
  have value : (UInt8.ofNat number).toNat = number := UInt8.toNat_ofNat_of_lt' (Nat.lt_trans small (by decide))
  have low : UInt8.ofNat number < 0x80 := by
    rw [UInt8.lt_iff_toNat_lt, value]
    exact small
  rw [decodeFrom]
  simp only [if_pos low, value]

theorem decode_leading (number due : Nat) (low high : UInt8) (large : 0x80 ≤ number)
    (small : number < 256) (promised : expected (UInt8.ofNat number) = some (due, low, high)) :
    decodeFrom index none done (UInt8.ofNat number :: rest) =
      decodeFrom (index + 1) (some ⟨index, number % (64 >>> due), due, low, high⟩) done rest := by
  have value : (UInt8.ofNat number).toNat = number := UInt8.toNat_ofNat_of_lt' small
  have beyond : ¬ UInt8.ofNat number < 0x80 := by
    rw [UInt8.lt_iff_toNat_lt, value]
    exact Nat.not_lt.mpr large
  rw [decodeFrom]
  simp only [if_neg beyond, promised, leadingBits, value]

theorem decode_continuing (start value due bits : Nat) (low high : UInt8) (six : bits < 64)
    (lower : low.toNat ≤ bits + 0x80) (upper : bits + 0x80 ≤ high.toNat) :
    decodeFrom index (some ⟨start, value, due, low, high⟩) done
        (UInt8.ofNat (bits + 0x80) :: rest) =
      if due ≤ 1 then decodeFrom (index + 1) none (Char.ofNat (64 * value + bits) :: done) rest
      else
        decodeFrom (index + 1) (some ⟨start, 64 * value + bits, due - 1, 0x80, 0xBF⟩) done rest := by
  have same : (UInt8.ofNat (bits + 0x80)).toNat = bits + 0x80 :=
    UInt8.toNat_ofNat_of_lt' (Nat.lt_trans (Nat.add_lt_add_right six _) (by decide))
  have within : low ≤ UInt8.ofNat (bits + 0x80) ∧ UInt8.ofNat (bits + 0x80) ≤ high := by
    rw [UInt8.le_iff_toNat_le, UInt8.le_iff_toNat_le, same]
    exact ⟨lower, upper⟩
  have added : (bits + 0x80) % 64 = bits := by omega
  rw [decodeFrom]
  simp only [if_pos within, same, added]

theorem decode_last (start value bits : Nat) (low high : UInt8) (six : bits < 64)
    (lower : low.toNat ≤ bits + 0x80) (upper : bits + 0x80 ≤ high.toNat) :
    decodeFrom index (some ⟨start, value, 1, low, high⟩) done (UInt8.ofNat (bits + 0x80) :: rest) =
      decodeFrom (index + 1) none (Char.ofNat (64 * value + bits) :: done) rest :=
  decode_continuing index done rest start value 1 bits low high six lower upper

theorem decode_two (v : Nat) (least : 0x80 ≤ v) (most : v < 0x800) :
    decodeFrom index none done
        (UInt8.ofNat (v / 64 % 32 + 0xC0) :: UInt8.ofNat (v % 64 + 0x80) :: rest) =
      decodeFrom (index + 2) none (Char.ofNat v :: done) rest := by
  have promised := expected_two ⟨v / 64 - 2, by omega⟩
  dsimp only at promised
  rw [show v / 64 - 2 + 0xC2 = v / 64 % 32 + 0xC0 by omega] at promised
  have bits : (v / 64 % 32 + 0xC0) % (64 >>> 1) = v / 64 := by simp; omega
  rw [decode_leading index done _ _ 1 0x80 0xBF (by omega) (by omega) promised, bits,
    decode_last (index + 1) done rest index _ _ 0x80 0xBF (by omega) (by simp) (by simp; omega),
    show 64 * (v / 64) + v % 64 = v from Nat.div_add_mod v 64]

theorem decode_three (v : Nat) (least : 0x800 ≤ v) (most : v < 0x10000)
    (valid : v < 0xD800 ∨ 0xDFFF < v) :
    decodeFrom index none done
        (UInt8.ofNat (v / 4096 % 16 + 0xE0) :: UInt8.ofNat (v / 64 % 64 + 0x80) ::
          UInt8.ofNat (v % 64 + 0x80) :: rest) =
      decodeFrom (index + 3) none (Char.ofNat v :: done) rest := by
  have promised := expected_three ⟨v / 4096, by omega⟩
  dsimp only at promised
  rw [show v / 4096 + 0xE0 = v / 4096 % 16 + 0xE0 by omega] at promised
  have bits : (v / 4096 % 16 + 0xE0) % (64 >>> 2) = v / 4096 := by simp; omega
  have lower : (if v / 4096 = 0 then 0xA0 else 0x80 : UInt8).toNat ≤ v / 64 % 64 + 0x80 := by
    split <;> simp
    omega
  have upper : v / 64 % 64 + 0x80 ≤ (if v / 4096 = 13 then 0x9F else 0xBF : UInt8).toNat := by
    split <;> simp <;> omega
  rw [decode_leading index done _ _ 2 _ _ (by omega) (by omega) promised, bits,
    decode_continuing (index + 1) done _ index _ 2 _ _ _ (by omega) lower upper,
    if_neg (by decide),
    decode_last (index + 2) done rest index _ _ 0x80 0xBF (by omega) (by simp) (by simp; omega),
    show 64 * (64 * (v / 4096) + v / 64 % 64) + v % 64 = v by omega]

theorem decode_four (v : Nat) (least : 0x10000 ≤ v) (most : v < 0x110000) :
    decodeFrom index none done
        (UInt8.ofNat (v / 262144 % 8 + 0xF0) :: UInt8.ofNat (v / 4096 % 64 + 0x80) ::
          UInt8.ofNat (v / 64 % 64 + 0x80) :: UInt8.ofNat (v % 64 + 0x80) :: rest) =
      decodeFrom (index + 4) none (Char.ofNat v :: done) rest := by
  have promised := expected_four ⟨v / 262144, by omega⟩
  dsimp only at promised
  rw [show v / 262144 + 0xF0 = v / 262144 % 8 + 0xF0 by omega] at promised
  have bits : (v / 262144 % 8 + 0xF0) % (64 >>> 3) = v / 262144 := by simp; omega
  have lower : (if v / 262144 = 0 then 0x90 else 0x80 : UInt8).toNat ≤ v / 4096 % 64 + 0x80 := by
    split <;> simp
    omega
  have upper : v / 4096 % 64 + 0x80 ≤ (if v / 262144 = 4 then 0x8F else 0xBF : UInt8).toNat := by
    split <;> simp <;> omega
  rw [decode_leading index done _ _ 3 _ _ (by omega) (by omega) promised, bits,
    decode_continuing (index + 1) done _ index _ 3 _ _ _ (by omega) lower upper,
    if_neg (by decide),
    decode_continuing (index + 2) done _ index _ 2 _ 0x80 0xBF (by omega) (by simp) (by simp; omega),
    if_neg (by decide),
    decode_last (index + 3) done rest index _ _ 0x80 0xBF (by omega) (by simp) (by simp; omega),
    show 64 * (64 * (64 * (v / 262144) + v / 4096 % 64) + v / 64 % 64) + v % 64 = v by omega]

theorem decode_character (c : Char) :
    decodeFrom index none done (String.utf8EncodeChar c ++ rest) =
      decodeFrom (index + c.utf8Size) none (c :: done) rest := by
  rw [← String.length_utf8EncodeChar]
  have same : Char.ofNat c.val.toNat = c := Char.ofNat_toNat c
  have valid : c.val.toNat < 0xD800 ∨ 0xDFFF < c.val.toNat ∧ c.val.toNat < 0x110000 := c.valid
  simp only [String.utf8EncodeChar]
  generalize c.val.toNat = v at same valid ⊢
  rw [← same]
  by_cases one : v ≤ 127
  · simp only [if_pos one]
    exact decode_single index done rest v (by omega)
  by_cases two : v ≤ 2047
  · simp only [if_neg one, if_pos two]
    exact decode_two index done rest v (by omega) (by omega)
  by_cases three : v ≤ 65535
  · simp only [if_neg one, if_neg two, if_pos three]
    exact decode_three index done rest v (by omega) (by omega) (by omega)
  · simp only [if_neg one, if_neg two, if_neg three]
    exact decode_four index done rest v (by omega) (by omega)

theorem decode_from_encoded (text : List Char) :
    decodeFrom index none done (text.flatMap String.utf8EncodeChar) = .ok (done.reverse ++ text) := by
  induction text generalizing index done with
  | nil => simp [decodeFrom]
  | cons c text ih => rw [List.flatMap_cons, decode_character, ih]; simp

end

theorem decode_encoded (text : List Char) :
    decode (text.flatMap String.utf8EncodeChar) = .ok text :=
  decode_from_encoded 0 [] text

end TextGrammar.Utf8
