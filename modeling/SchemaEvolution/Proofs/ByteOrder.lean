/-!
# The order of bytes

Texts are ordered as their UTF-8 bytes are: a character with a greater code has
greater bytes, since the first byte tells how many follow and each of those
carries six bits, the highest first.
-/

namespace SchemaEvolution.Text

/-- The UTF-8 bytes of a text. -/
def bytes (text : String) : List UInt8 :=
  text.toByteArray.data.toList

theorem bytes_eq_flatMap (text : String) :
    bytes text = text.toList.flatMap String.utf8EncodeChar := by
  have encoded : text.toByteArray = text.toList.utf8Encode := by
    conv => lhs; rw [← @String.ofList_toList text]
    exact String.toByteArray_ofList
  rw [bytes, encoded, List.utf8Encode, List.toList_data_toByteArray]

theorem toList_loop (array : ByteArray) (place : Nat) (taken : List UInt8) :
    ByteArray.toList.loop array place taken =
      taken.reverse ++ array.data.toList.drop place := by
  fun_induction ByteArray.toList.loop array place taken with
  | case1 place taken inside ih =>
      have bound : place < array.data.toList.length := inside
      have here : array.get! place = array.data.toList[place] := by
        rw [ByteArray.get!, Array.getElem_toList]
        exact getElem!_pos array.data place inside
      rw [ih, List.drop_eq_getElem_cons bound, here]
      simp
  | case2 place taken outside =>
      have bound : array.data.toList.length ≤ place := Nat.le_of_not_lt outside
      rw [List.drop_eq_nil_of_le bound, List.append_nil]

theorem toList_toUTF8 (text : String) : text.toUTF8.toList = bytes text :=
  toList_loop text.toByteArray 0 []

theorem bytes_injective {first second : String} (same : bytes first = bytes second) :
    first = second :=
  String.toByteArray_inj.1 (ByteArray.ext (Array.toList_inj.1 same))

/-! ## Codes and their bytes -/

/-- Below the limit a greater code has greater bytes, whatever follows them. -/
def Ascends (limit : Nat) (encode : Nat → List UInt8) : Prop :=
  ∀ low high, low < high → high < limit →
    ∀ here there, encode low ++ here < encode high ++ there

theorem ofNat_lt_ofNat {low high : Nat} (before : low < high) (small : high < 256) :
    UInt8.ofNat low < UInt8.ofNat high := by
  rw [UInt8.lt_iff_toNat_lt, UInt8.toNat_ofNat', UInt8.toNat_ofNat']
  omega

/-- A first byte that carries the code beside a mark. -/
theorem ascends_lead {size mark : Nat} (fits : size + mark ≤ 256) :
    Ascends size fun code => [UInt8.ofNat (code % size + mark)] := by
  intro low high before small here there
  refine List.cons_lt_cons_iff.2 (.inl (ofNat_lt_ofNat ?_ ?_))
  · rw [Nat.mod_eq_of_lt small, Nat.mod_eq_of_lt (Nat.lt_trans before small)]
    omega
  · rw [Nat.mod_eq_of_lt small]
    omega

/-- A further byte carries the last six bits, which decide where the others are the same. -/
theorem Ascends.continued {limit : Nat} {encode : Nat → List UInt8} (h : Ascends limit encode) :
    Ascends (64 * limit) fun code =>
      encode (code / 64) ++ [UInt8.ofNat (code % 64 + 128)] := by
  intro low high before small here there
  rw [List.append_assoc, List.append_assoc]
  rcases Nat.lt_or_ge (low / 64) (high / 64) with smaller | notSmaller
  · exact h _ _ smaller (by omega) _ _
  · have same : low / 64 = high / 64 := by omega
    rw [same]
    refine List.append_left_lt (List.cons_lt_cons_iff.2 (.inl (ofNat_lt_ofNat ?_ ?_)))
    · omega
    · omega

/-- Codes of more bytes are greater, and so is their first byte. -/
theorem Ascends.joined {last limit : Nat} {few many : Nat → List UInt8}
    (below : Ascends (last + 1) few) (above : Ascends limit many)
    (apart : ∀ low high, low ≤ last → last < high → high < limit →
      ∀ here there, few low ++ here < many high ++ there) :
    Ascends limit fun code => if code ≤ last then few code else many code := by
  intro low high before small here there
  by_cases second : high ≤ last
  · have first : low ≤ last := by omega
    simp only [if_pos first, if_pos second]
    exact below _ _ before (by omega) _ _
  · by_cases first : low ≤ last
    · simp only [if_pos first, if_neg second]
      exact apart _ _ first (by omega) small _ _
    · simp only [if_neg first, if_neg second]
      exact above _ _ before small _ _

theorem ascends_one : Ascends 0x80 fun code => [UInt8.ofNat code] :=
  fun _ _ before small _ _ => List.cons_lt_cons_iff.2 (.inl (ofNat_lt_ofNat before (by omega)))

theorem ascends_two : Ascends 0x800 fun code =>
    [UInt8.ofNat (code / 64 % 32 + 192), UInt8.ofNat (code % 64 + 128)] :=
  (@ascends_lead 32 192 (by decide)).continued

theorem ascends_three : Ascends 0x10000 fun code =>
    [UInt8.ofNat (code / 4096 % 16 + 224), UInt8.ofNat (code / 64 % 64 + 128),
      UInt8.ofNat (code % 64 + 128)] := by
  have places := (@ascends_lead 16 224 (by decide)).continued.continued
  simpa only [Nat.div_div_eq_div_mul, Nat.reduceMul, List.cons_append, List.nil_append]
    using places

theorem ascends_four : Ascends 0x200000 fun code =>
    [UInt8.ofNat (code / 262144 % 8 + 240), UInt8.ofNat (code / 4096 % 64 + 128),
      UInt8.ofNat (code / 64 % 64 + 128), UInt8.ofNat (code % 64 + 128)] := by
  have places := (@ascends_lead 8 240 (by decide)).continued.continued.continued
  simpa only [Nat.div_div_eq_div_mul, Nat.reduceMul, List.cons_append, List.nil_append]
    using places

/-- A character with a greater code has greater bytes. -/
theorem utf8EncodeChar_append_lt {first second : Char} (before : first < second)
    (here there : List UInt8) :
    String.utf8EncodeChar first ++ here < String.utf8EncodeChar second ++ there := by
  have small : second.val.toNat < 0x200000 := by
    have valid := second.valid
    unfold UInt32.isValidChar Nat.isValidChar at valid
    omega
  refine ascends_one.joined (ascends_two.joined (ascends_three.joined ascends_four ?_) ?_) ?_
    _ _ before small here there
  all_goals
    intro low high few many within here there
    repeat' split
    all_goals exact List.cons_lt_cons_iff.2 (.inl (ofNat_lt_ofNat (by omega) (by omega)))

/-! ## Texts -/

theorem flatMap_utf8EncodeChar_lt {first second : List Char} (before : first < second) :
    first.flatMap String.utf8EncodeChar < second.flatMap String.utf8EncodeChar := by
  induction first generalizing second with
  | nil =>
      cases second with
      | nil => exact absurd before (List.lt_irrefl _)
      | cons symbol rest =>
          rw [List.flatMap_nil, List.flatMap_cons]
          cases encoded : String.utf8EncodeChar symbol with
          | nil => exact absurd encoded String.utf8EncodeChar_ne_nil
          | cons byte others => exact List.nil_lt_cons _ _
  | cons symbol rest ih =>
      cases second with
      | nil => exact absurd before (List.not_lt_nil _)
      | cons other others =>
          rw [List.flatMap_cons, List.flatMap_cons]
          rcases List.cons_lt_cons_iff.1 before with smaller | ⟨rfl, later⟩
          · exact utf8EncodeChar_append_lt smaller _ _
          · exact List.append_left_lt (ih later)

/-- Texts are ordered as their bytes. -/
theorem lt_iff_bytes_lt {first second : String} : first < second ↔ bytes first < bytes second := by
  have forward : ∀ {one other : String}, one < other → bytes one < bytes other := by
    intro one other before
    rw [bytes_eq_flatMap, bytes_eq_flatMap]
    exact flatMap_utf8EncodeChar_lt (String.lt_iff.1 before)
  refine ⟨forward, fun before => Decidable.byContradiction fun notBefore => ?_⟩
  by_cases after : second < first
  · exact List.lt_asymm before (forward after)
  · have same := String.le_antisymm (String.not_lt.1 after) (String.not_lt.1 notBefore)
    exact List.lt_irrefl _ (same ▸ before)

end SchemaEvolution.Text
