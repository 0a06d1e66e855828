import SchemaEvolution.Proofs.Outcomes
import SchemaEvolution.Proofs.SpelledTypes

/-!
# Checked reading of type names

The reading of a type name cuts its text at places counted in bytes, and counts the brackets at its
end in eight bits.  Here the same reading stops where a slice is out of range or a number leaves its
width.  No slice ever is, since the places are searched for in the text that is cut there, and only
the count of brackets ever overflows: the reading stops at more pairs than eight bits can count, and
is otherwise the unchecked one.
-/

namespace SchemaEvolution

namespace Text

/-! ## Slices -/

/-- As many bytes of the text as are counted, if a character ends there. -/
def takeBytes? (count : Nat) (symbols : List Char) : Option (List Char) :=
  (dropBytes? count symbols).map fun rest => symbols.take (symbols.length - rest.length)

/-- The text between two places counted in bytes, if they are in order and within the text, and no
character stands across one of them. -/
def slice? (start stop : Nat) (symbols : List Char) : Option (List Char) :=
  if start ≤ stop then (dropBytes? start symbols).bind (takeBytes? (stop - start)) else none

theorem takeBytes?_eq_some_iff {count : Nat} {symbols front : List Char} :
    takeBytes? count symbols = some front ↔
      byteLength front = count ∧ ∃ rest, symbols = front ++ rest := by
  constructor
  · intro taken
    obtain ⟨rest, dropped, same⟩ := Option.map_eq_some_iff.1 taken
    obtain ⟨whole, rfl, bytes⟩ := dropBytes?_append dropped
    have front : whole = front := by
      rw [List.length_append, Nat.add_sub_cancel, List.take_left] at same
      exact same
    exact front ▸ ⟨bytes, rest, rfl⟩
  · rintro ⟨rfl, rest, rfl⟩
    rw [takeBytes?, dropBytes?_byteLength]
    simp

/-- A slice is there exactly when the text can be cut at both places. -/
theorem slice?_eq_some_iff {start stop : Nat} {symbols part : List Char} :
    slice? start stop symbols = some part ↔
      ∃ before after, symbols = before ++ part ++ after ∧ byteLength before = start ∧
        byteLength before + byteLength part = stop := by
  unfold slice?
  constructor
  · intro sliced
    split at sliced
    · next ordered =>
        obtain ⟨behind, dropped, taken⟩ := Option.bind_eq_some_iff.1 sliced
        obtain ⟨before, rfl, bytes⟩ := dropBytes?_append dropped
        obtain ⟨width, after, rfl⟩ := takeBytes?_eq_some_iff.1 taken
        exact ⟨before, after, (List.append_assoc _ _ _).symm, bytes, by omega⟩
    · cases sliced
  · rintro ⟨before, after, rfl, rfl, rfl⟩
    rw [if_pos (Nat.le_add_right _ _), List.append_assoc, dropBytes?_byteLength,
      Nat.add_sub_cancel_left]
    exact takeBytes?_eq_some_iff.2 ⟨rfl, after, rfl⟩

/-! ## Places -/

/-- Where a symbol stands first, counted in bytes. -/
def place? (symbol : Char) (symbols : List Char) : Option Nat :=
  (cut? [symbol] symbols).map fun ends => byteLength ends.1

/-- Where a symbol stands last, counted in bytes. -/
def lastPlace? (symbol : Char) (symbols : List Char) : Option Nat :=
  (cutLast? [symbol] symbols).map fun ends => byteLength ends.1

/-- A symbol that is not behind a mark stands last before the mark. -/
theorem lastPlace?_lt {symbol mark : Char} {before after : List Char} {place : Nat}
    (absent : symbol ∉ mark :: after)
    (last : lastPlace? symbol (before ++ mark :: after) = some place) :
    place < byteLength before := by
  obtain ⟨⟨front, behind⟩, cut, rfl⟩ := Option.map_eq_some_iff.1 last
  have whole : (front ++ [symbol]) ++ behind = before ++ mark :: after := cutLast?_append cut
  have wide : byteLength front < byteLength (front ++ [symbol]) := by
    rw [byteLength_append]
    exact Nat.lt_add_of_pos_right symbol.utf8Size_pos
  rcases List.append_eq_append_iff.1 whole with ⟨others, same, _⟩ | ⟨others, same, rest⟩
  · rw [same, byteLength_append]
    exact Nat.lt_add_right _ wide
  · cases others using List.reverseRecOn with
    | nil =>
        rw [List.append_nil] at same
        exact same ▸ wide
    | append_singleton inner final _ =>
        rw [← List.append_assoc] at same
        obtain rfl := List.singleton_inj.1 (List.append_inj_right' same rfl)
        refine absurd ?_ absent
        rw [rest]
        simp

end Text

namespace NativeType

/-! ## Checks -/

/-- What stops a checked reading: a number that leaves its width, or a slice of a text at a place
where the text cannot be cut. -/
inductive Breach where
  | overflow
  | outOfRange
  deriving DecidableEq

def slice (start stop : Nat) (symbols : List Char) : Except Breach (List Char) :=
  match Text.slice? start stop symbols with
  | some part => .ok part
  | none => .error .outOfRange

def less (number count : Nat) : Except Breach Nat :=
  if count ≤ number then .ok (number - count) else .error .overflow

def increased (number : UInt8) : Except Breach UInt8 :=
  if number.toNat + 1 < UInt8.size then .ok (number + 1) else .error .overflow

theorem slice_eq_ok_iff {start stop : Nat} {symbols part : List Char} :
    slice start stop symbols = .ok part ↔
      ∃ before after, symbols = before ++ part ++ after ∧ Text.byteLength before = start ∧
        Text.byteLength before + Text.byteLength part = stop := by
  rw [← Text.slice?_eq_some_iff, slice]
  cases Text.slice? start stop symbols <;> simp

theorem slice_eq_ok {symbols : List Char} (before part after : List Char)
    (whole : symbols = before ++ part ++ after) :
    slice (Text.byteLength before) (Text.byteLength (before ++ part)) symbols = .ok part :=
  slice_eq_ok_iff.2 ⟨before, after, whole, rfl, (Text.byteLength_append _ _).symm⟩

theorem less_eq_ok_iff {number count rest : Nat} :
    less number count = .ok rest ↔ rest + count = number := by
  unfold less
  split
  · rw [Except.ok.injEq]
    omega
  · refine ⟨fun failed => ?_, fun whole => ?_⟩
    · cases failed
    · omega

/-! ## Parentheses -/

/-- The words around a parenthesis and the numbers in it, cut out of the text at the places where
its first opening and its last closing part stand. -/
def splitChecked (symbols : List Char) : Except Breach (List Char × List UInt32) :=
  match Text.place? '(' symbols, Text.lastPlace? ')' symbols with
  | some opening, some closing =>
      if opening < closing then do
        let inside ← slice (opening + 1) closing symbols
        let before ← slice 0 opening symbols
        let beyond ← slice (closing + 1) (Text.byteLength symbols) symbols
        let trailing := Text.trimmed beyond
        .ok (Text.trimmed before ++ (if trailing.isEmpty then [] else ' ' :: trailing),
          paramsOf inside)
      else .ok (symbols, [])
  | _, _ => .ok (symbols, [])

theorem splitChecked_of_parenthesis {before inside beyond symbols : List Char}
    (first : Text.cut? ['('] symbols = some (before, inside ++ ')' :: beyond))
    (last : Text.cutLast? [')'] (inside ++ ')' :: beyond) = some (inside, beyond)) :
    splitChecked symbols = .ok (split symbols) := by
  have whole : symbols = before ++ ['('] ++ (inside ++ ')' :: beyond) :=
    (Text.cut?_append first).symm
  have closing : Text.cutLast? [')'] symbols = some (before ++ ['('] ++ inside, beyond) := by
    rw [whole, Text.cutLast?_append_of_infix _ ⟨inside, beyond, by simp⟩, last]
    rfl
  have between : slice (Text.byteLength before + 1) (Text.byteLength (before ++ ['('] ++ inside))
      symbols = .ok inside := by
    have parts : symbols = before ++ ['('] ++ inside ++ (')' :: beyond) := by simp [whole]
    have cut := slice_eq_ok (before ++ ['(']) inside (')' :: beyond) parts
    rwa [Text.byteLength_append before ['(']] at cut
  have front : slice 0 (Text.byteLength before) symbols = .ok before :=
    slice_eq_ok [] before ('(' :: (inside ++ ')' :: beyond)) (by simp [whole])
  have behind : slice (Text.byteLength (before ++ ['('] ++ inside) + 1) (Text.byteLength symbols)
      symbols = .ok beyond := by
    have parts : symbols = (before ++ ['('] ++ inside ++ [')']) ++ beyond := by simp [whole]
    have cut := slice_eq_ok (before ++ ['('] ++ inside ++ [')']) beyond []
      (parts.trans (List.append_nil _).symm)
    rwa [← parts, Text.byteLength_append _ [')']] at cut
  have ordered : Text.byteLength before < Text.byteLength (before ++ ['('] ++ inside) := by
    rw [Text.byteLength_append, Text.byteLength_append]
    exact Nat.lt_add_right _ (Nat.lt_add_of_pos_right Nat.one_pos)
  unfold splitChecked split Text.place? Text.lastPlace?
  simp only [first, closing, last, Option.map_some, if_pos ordered, between, front, behind,
    Outcome.ok_bind]

/-- A closing part before the only opening ones is passed over. -/
theorem splitChecked_of_unclosed {before after symbols : List Char}
    (first : Text.cut? ['('] symbols = some (before, after))
    (none : Text.cutLast? [')'] after = none) : splitChecked symbols = .ok (split symbols) := by
  have whole : before ++ '(' :: after = symbols := by simpa using Text.cut?_append first
  have absent : ')' ∉ '(' :: after := by
    refine List.not_mem_cons_of_ne_of_not_mem (by decide) fun member => ?_
    obtain ⟨inside, beyond, rfl⟩ := List.append_of_mem member
    exact Text.cutLast?_eq_none_iff.1 none ⟨inside, beyond, by simp⟩
  have unsplit : split symbols = (symbols, []) := by
    unfold split
    simp only [first, none]
  rw [unsplit]
  unfold splitChecked
  rw [Text.place?, first, Option.map_some]
  cases place : Text.lastPlace? ')' symbols with
  | none => rfl
  | some closing => exact if_neg (Nat.lt_asymm (Text.lastPlace?_lt absent (whole ▸ place)))

/-- Cutting at places counted in bytes succeeds on every text, and is the same as cutting at the
symbols themselves. -/
theorem splitChecked_eq (symbols : List Char) : splitChecked symbols = .ok (split symbols) := by
  cases first : Text.cut? ['('] symbols with
  | none =>
      unfold splitChecked split Text.place?
      rw [first]
      rfl
  | some ends =>
      obtain ⟨before, after⟩ := ends
      cases last : Text.cutLast? [')'] after with
      | none => exact splitChecked_of_unclosed first last
      | some ends =>
          obtain ⟨inside, beyond⟩ := ends
          obtain rfl : inside ++ ')' :: beyond = after := by
            simpa using Text.cutLast?_append last
          exact splitChecked_of_parenthesis first last

/-! ## Brackets -/

/-- The text without its last two bytes. -/
def shortened (symbols : List Char) : Except Breach (List Char) := do
  let stop ← less (Text.byteLength symbols) 2
  slice 0 stop symbols

theorem shortened_append_pair (symbols : List Char) :
    shortened (symbols ++ ['[', ']']) = .ok symbols :=
  Outcome.bind_eq_ok.2 ⟨_, less_eq_ok_iff.2 (Text.byteLength_append symbols ['[', ']']).symm,
    slice_eq_ok [] symbols ['[', ']'] rfl⟩

theorem length_lt_of_shortened {symbols shorter : List Char}
    (cut : shortened symbols = .ok shorter) : shorter.length < symbols.length := by
  obtain ⟨stop, counted, sliced⟩ := Outcome.bind_eq_ok.1 cut
  obtain ⟨before, after, rfl, _, final⟩ := slice_eq_ok_iff.1 sliced
  rw [less_eq_ok_iff, Text.byteLength_append, Text.byteLength_append, final] at counted
  have some : after ≠ [] := by
    rintro rfl
    exact absurd (Nat.add_left_cancel counted) (by decide)
  have longer := List.length_pos_iff.2 some
  rw [List.length_append, List.length_append]
  omega

/-- Pairs of brackets at the end are taken off one after another and counted in eight bits. -/
def countPairs (count : UInt8) (symbols : List Char) : Except Breach (UInt8 × List Char) :=
  if ['[', ']'] <:+ symbols then
    match _cut : shortened symbols with
    | .error breach => .error breach
    | .ok shorter => (increased count).bind fun next => countPairs next shorter
  else .ok (count, symbols)
termination_by symbols.length
decreasing_by exact length_lt_of_shortened _cut

theorem countPairs_append_pair (count : UInt8) (symbols : List Char) :
    countPairs count (symbols ++ ['[', ']']) =
      (increased count).bind fun next => countPairs next symbols := by
  rw [countPairs, if_pos (List.suffix_append _ _)]
  have cut := shortened_append_pair symbols
  split
  · next failed =>
      rw [cut] at failed
      cases failed
  · next shorter same =>
      obtain rfl := Except.ok.inj (cut.symm.trans same)
      rfl

/-- All pairs at the end are taken off, unless there are more than eight bits can count. -/
theorem countPairs_brackets (count : UInt8) (pairs : Nat) {rest : List Char}
    (final : ¬ ['[', ']'] <:+ rest) :
    countPairs count (rest ++ brackets pairs) =
      if count.toNat + pairs < UInt8.size then .ok (count + UInt8.ofNat pairs, rest)
      else .error .overflow := by
  induction pairs generalizing count with
  | zero =>
      have none : rest ++ brackets 0 = rest := List.append_nil rest
      have fits : count.toNat + 0 < UInt8.size := count.toNat_lt
      rw [none, countPairs, if_neg final, if_pos fits]
      exact congrArg (fun counted => Except.ok (counted, rest)) (UInt8.add_zero count).symm
  | succ pairs ih =>
      rw [brackets_succ, ← List.append_assoc, countPairs_append_pair]
      unfold increased
      split
      · next fits =>
          have grown : (count + 1).toNat = count.toNat + 1 := by
            rw [UInt8.toNat_add]
            exact Nat.mod_eq_of_lt fits
          have same : count + 1 + UInt8.ofNat pairs = count + UInt8.ofNat (pairs + 1) := by
            rw [UInt8.add_assoc, Nat.add_comm pairs, UInt8.ofNat_add]
            rfl
          refine (ih (count + 1)).trans ?_
          rw [grown, same, Nat.add_assoc, Nat.add_comm 1]
      · next full =>
          rw [if_neg (by omega)]
          rfl

/-! ## Reading -/

/-- The text of which the brackets are taken off: no blanks at its ends, and no upper case. -/
def lowered (raw : String) : List Char :=
  (Text.trimmed raw.toList).map Char.toLower

/-- The reading of a type name that checks each slice and each number. -/
def parseChecked (raw : String) : Except Breach NativeType := do
  let (dims, name) ← countPairs 0 (lowered raw)
  let words := Text.words name
  let kept := words.filter fun word => !signWords.contains word
  let (base, params) ← splitChecked (List.intercalate [' '] kept)
  .ok { base := String.ofList base, params, unsigned := words.contains unsignedWord,
        arrayDims := dims }

/-- So many pairs of brackets stand at the end, and no more. -/
def EndsInPairs (raw : String) (pairs : Nat) : Prop :=
  ∃ rest, lowered raw = rest ++ brackets pairs ∧ ¬ ['[', ']'] <:+ rest

theorem not_prefix_dropPairs (symbols : List Char) : ¬ [']', '['] <+: (dropPairs symbols).2 := by
  fun_induction dropPairs symbols with
  | case1 rest ih => exact ih
  | case2 symbols other =>
      rintro ⟨rest, same⟩
      exact other rest same.symm

theorem endsInPairs_iff {raw : String} {pairs : Nat} :
    EndsInPairs raw pairs ↔ (dropPairs (lowered raw).reverse).1 = pairs := by
  constructor
  · rintro ⟨rest, whole, final⟩
    rw [whole, dropPairs_brackets pairs final]
  · rintro rfl
    refine ⟨(dropPairs (lowered raw).reverse).2.reverse, ?_, fun pair => ?_⟩
    · have whole := dropPairs_append (lowered raw).reverse
      rw [← reverse_brackets] at whole
      refine (List.reverse_eq_iff.1 whole.symm).trans ?_
      rw [List.reverse_append, List.reverse_reverse]
    · have first := List.reverse_prefix.2 pair
      rw [List.reverse_reverse] at first
      exact not_prefix_dropPairs _ first

theorem endsInPairs_of_same {raw : String} {body gap : List Char} {pairs : Nat}
    (closing : ']' ∉ body) (blank : Text.IsGap gap)
    (same : raw.toList.map Char.toLower = body ++ brackets pairs ++ gap) :
    EndsInPairs raw pairs := by
  obtain ⟨core, stripped, _⟩ := stripped_of_spelled closing blank same
  rw [endsInPairs_iff, lowered, stripped]

/-- The checked reading is the unchecked one, unless there are too many pairs to count. -/
theorem EndsInPairs.parseChecked_eq {raw : String} {pairs : Nat} (h : EndsInPairs raw pairs) :
    parseChecked raw =
      if pairs < UInt8.size then .ok (parse raw) else .error .overflow := by
  obtain ⟨rest, whole, final⟩ := h
  have dropped : dropPairs ((Text.trimmed raw.toList).map Char.toLower).reverse =
      (pairs, rest.reverse) := by
    rw [← dropPairs_brackets pairs final, ← whole, lowered]
  unfold parseChecked parse
  rw [whole, countPairs_brackets 0 pairs final, UInt8.toNat_zero, Nat.zero_add, UInt8.zero_add]
  split
  · simp only [Outcome.ok_bind, splitChecked_eq, dropped, List.reverse_reverse]
  · rfl

/-- The checked reading comes to an end, and keeps the number of pairs that it takes off. -/
def CountsPairs (raw : String) : Prop :=
  ∃ pairs native, EndsInPairs raw pairs ∧ parseChecked raw = .ok native ∧
    native.arrayDims.toNat = pairs

theorem toNat_arrayDims_parse {raw : String} {pairs : Nat} (h : EndsInPairs raw pairs) :
    (parse raw).arrayDims.toNat = pairs % UInt8.size := by
  rw [← endsInPairs_iff.1 h]
  exact UInt8.toNat_ofNat'

theorem EndsInPairs.countsPairs_iff {raw : String} {pairs : Nat} (h : EndsInPairs raw pairs) :
    CountsPairs raw ↔ pairs < UInt8.size := by
  constructor
  · rintro ⟨other, native, ends, read, same⟩
    have equal : other = pairs := (endsInPairs_iff.1 ends).symm.trans (endsInPairs_iff.1 h)
    exact equal ▸ same ▸ native.arrayDims.toNat_lt
  · intro fits
    refine ⟨pairs, parse raw, h, ?_, ?_⟩
    · rw [h.parseChecked_eq, if_pos fits]
    · rw [toNat_arrayDims_parse h, Nat.mod_eq_of_lt fits]

/-- An array type with one dimension more than eight bits can count. -/
def overlong : String :=
  String.ofList ("int".toList ++ brackets UInt8.size)

theorem endsInPairs_overlong : EndsInPairs overlong UInt8.size := by
  have same : overlong.toList.map Char.toLower =
      "int".toList ++ brackets UInt8.size ++ [] := by
    rw [overlong, String.toList_ofList, List.map_append, map_toLower_brackets, List.append_nil]
    rfl
  exact endsInPairs_of_same (by decide) Text.isGap_nil same

end NativeType

end SchemaEvolution
