import SchemaEvolution.Proofs.FreshNames

/-!
# Truncated names

PostgreSQL cuts a name that is longer than it allows, and counts bytes where an allocator and the
check of an identifier count characters.  The counter stands at the end of a name, so it is the
first to go: two names that are made one after the other, and differ in the last digit of their
counters, are cut to the same name as soon as they take up more bytes than are left to them.
-/

namespace SchemaEvolution

/-! ## Fronts of texts -/

namespace Text

/-- The longest front of whole characters that takes up no more than the given number of bytes. -/
def takeBytes : Nat → List Char → List Char
  | _, [] => []
  | room, first :: rest =>
      if first.utf8Size ≤ room then first :: takeBytes (room - first.utf8Size) rest else []

theorem takeBytes_of_byteLength_le {room : Nat} {symbols : List Char}
    (fits : byteLength symbols ≤ room) : takeBytes room symbols = symbols := by
  induction symbols generalizing room with
  | nil => rfl
  | cons first rest ih =>
      rw [byteLength_cons] at fits
      rw [takeBytes, if_pos (by omega), ih (by omega)]

/-- What stands behind a text that takes up all the room is cut off. -/
theorem takeBytes_append {room : Nat} {front : List Char} (full : room ≤ byteLength front)
    (rest : List Char) : takeBytes room (front ++ rest) = takeBytes room front := by
  induction front generalizing room with
  | nil =>
      obtain rfl := Nat.le_zero.1 full
      cases rest with
      | nil => rfl
      | cons first others =>
          have positive := first.utf8Size_pos
          exact if_neg (by omega)
  | cons first others ih =>
      rw [byteLength_cons] at full
      rw [List.cons_append, takeBytes, takeBytes, ih (by omega)]

theorem byteLength_of_isAscii {symbols : List Char} (ascii : Engine.IsAscii symbols) :
    byteLength symbols = symbols.length := by
  induction symbols with
  | nil => rfl
  | cons first rest ih =>
      have one : first.utf8Size = 1 := by
        have small := ascii first List.mem_cons_self
        exact Char.utf8Size_eq_one_iff.2 (UInt32.le_iff_toNat_le.2 (Nat.le_of_lt_succ small))
      rw [byteLength_cons, one, List.length_cons,
        ih fun symbol member => ascii symbol (List.mem_cons_of_mem _ member), Nat.add_comm]

theorem digitChar_of_lt {unit : Nat} (small : unit < 10) :
    Nat.digitChar unit ≠ '\x00' ∧ (Nat.digitChar unit).utf8Size = 1 := by
  have all : ∀ unit < 10, Nat.digitChar unit ≠ '\x00' ∧ (Nat.digitChar unit).utf8Size = 1 := by
    decide
  exact all unit small

/-- The numbers of a decade are written alike but for their last digit. -/
theorem exists_digits_decade (decade : Nat) :
    ∃ front, ∀ unit < 10, digits (10 * decade + unit) = front ++ [Nat.digitChar unit] := by
  rcases Nat.eq_zero_or_pos decade with rfl | positive
  · refine ⟨[], fun unit small => ?_⟩
    rw [digits, Nat.mul_zero, Nat.zero_add, Nat.toDigits_of_lt_base small]
    rfl
  · refine ⟨digits decade, fun unit small => ?_⟩
    rw [digits, ← Nat.toDigits_append_toDigits (by decide) positive small,
      Nat.toDigits_of_lt_base small]
    rfl

end Text

/-! ## Names as the database keeps them -/

namespace Postgres

/-- How many bytes of a name are kept. -/
def identifierBytes : Nat := 63

/-- The name that is kept in place of one that may be too long. -/
def truncated (name : String) : String :=
  String.ofList (Text.takeBytes identifierBytes name.toList)

/-- The name can be written in a statement. -/
def accepts (name : String) : Bool :=
  (Grammar.postgres.quote name).isOk

theorem truncated_of_byteLength_le {name : String}
    (fits : Text.byteLength name.toList ≤ identifierBytes) : truncated name = name := by
  rw [truncated, Text.takeBytes_of_byteLength_le fits, String.ofList_toList]

theorem accepts_iff {name : String} :
    accepts name = true ↔ Identifier.check Rules.postgres.identifierLimit name = .ok () := by
  unfold accepts
  cases quoted : Grammar.postgres.quote name with
  | ok text => exact iff_of_true rfl (Grammar.quote_eq_ok.1 quoted).1
  | error fault =>
      refine iff_of_false Bool.false_ne_true fun checked => ?_
      rw [Grammar.quote_eq_ok.2 ⟨checked, rfl⟩] at quoted
      cases quoted

theorem truncated_congr {first second : String} {front : List Char} {left right : Char}
    (here : first.toList = front ++ [left]) (there : second.toList = front ++ [right])
    (full : identifierBytes ≤ Text.byteLength front) : truncated first = truncated second := by
  rw [truncated, truncated, here, there, Text.takeBytes_append full, Text.takeBytes_append full]

end Postgres

/-! ## Names drawn one after another -/

namespace NameAllocator

/-- What a name is made for. -/
inductive Kind where
  | index
  | foreignKey
  deriving DecidableEq

def Kind.label : Kind → String
  | .index => indexLabel
  | .foreignKey => foreignKeyLabel

def nextCounter (allocator : NameAllocator) : Kind → Nat
  | .index => allocator.nextIndex
  | .foreignKey => allocator.nextForeignKey

def draw (allocator : NameAllocator) : Kind → String × NameAllocator
  | .index => allocator.indexName
  | .foreignKey => allocator.foreignKeyName

/-- What an allocator is asked for. -/
inductive Request where
  | draw (kind : Kind)
  | reserve (name : String)

/-- The names that are drawn in turn, and the allocator that is left. -/
def serve (allocator : NameAllocator) : List Request → List String × NameAllocator
  | [] => ([], allocator)
  | .reserve name :: rest => (allocator.reserve name).serve rest
  | .draw kind :: rest =>
      let drawn := allocator.draw kind
      let later := drawn.2.serve rest
      (drawn.1 :: later.1, later.2)

variable {allocator : NameAllocator} {kind : Kind}

theorem draw_fst (allocator : NameAllocator) (kind : Kind) :
    (allocator.draw kind).1 = allocator.candidate kind.label
      (allocator.freeCounter kind.label (allocator.nextCounter kind)) := by
  cases kind <;> rfl

theorem candidate_draw (allocator : NameAllocator) (kind : Kind) (label : String) (counter : Nat) :
    (allocator.draw kind).2.candidate label counter = allocator.candidate label counter := by
  cases kind <;> exact candidate_reserve _ _ _ _

theorem isUsed_draw (allocator : NameAllocator) (kind : Kind) (name : String) :
    (allocator.draw kind).2.isUsed name =
      (Name.same name (allocator.draw kind).1 || allocator.isUsed name) := by
  cases kind <;> exact isUsed_reserve _ _ _

theorem nextCounter_reserve (allocator : NameAllocator) (name : String) (kind : Kind) :
    (allocator.reserve name).nextCounter kind = allocator.nextCounter kind := by
  obtain ⟨used, _, same⟩ := reserve_frame allocator name
  rw [same]
  cases kind <;> rfl

theorem nextCounter_draw (allocator : NameAllocator) (kind other : Kind) :
    (allocator.draw kind).2.nextCounter other =
      if other = kind then allocator.freeCounter kind.label (allocator.nextCounter kind) + 1
      else allocator.nextCounter other := by
  cases kind <;> cases other
  · rfl
  · exact nextCounter_reserve allocator _ .foreignKey
  · exact nextCounter_reserve allocator _ .index
  · rfl

theorem le_freeCounter (allocator : NameAllocator) (label : String) (counter : Nat) :
    counter ≤ allocator.freeCounter label counter := by
  have searched : ∀ remaining counter, counter ≤ allocator.firstFree label remaining counter := by
    intro remaining
    induction remaining with
    | zero => exact fun counter => Nat.le_refl counter
    | succ remaining ih =>
        intro counter
        unfold firstFree
        split
        · exact Nat.le_of_succ_le (ih (counter + 1))
        · exact Nat.le_refl counter
  exact searched _ counter

theorem nextCounter_le_serve (requests : List Request) (allocator : NameAllocator) (kind : Kind) :
    allocator.nextCounter kind ≤ (allocator.serve requests).2.nextCounter kind := by
  induction requests generalizing allocator with
  | nil => exact Nat.le_refl _
  | cons request rest ih =>
      cases request with
      | reserve name => exact nextCounter_reserve allocator name kind ▸ ih (allocator.reserve name)
      | draw own =>
          refine Nat.le_trans ?_ (ih (allocator.draw own).2)
          have later := le_freeCounter allocator own.label (allocator.nextCounter own)
          rw [nextCounter_draw]
          split
          · next same =>
              subst same
              omega
          · exact Nat.le_refl _

/-- Every name is a candidate, whose counter has been passed in the end. -/
theorem candidate_of_mem_serve {requests : List Request} {name : String}
    (drawn : name ∈ (allocator.serve requests).1) : ∃ kind counter,
      counter < (allocator.serve requests).2.nextCounter kind ∧
        name = allocator.candidate kind.label counter := by
  induction requests generalizing allocator with
  | nil => cases drawn
  | cons request rest ih =>
      cases request with
      | reserve other =>
          obtain ⟨kind, counter, passed, rfl⟩ := ih drawn
          exact ⟨kind, counter, passed, candidate_reserve _ _ _ _⟩
      | draw own =>
          rcases List.mem_cons.1 drawn with rfl | later
          · refine ⟨own, _, ?_, draw_fst allocator own⟩
            refine Nat.lt_of_lt_of_le ?_ (nextCounter_le_serve rest (allocator.draw own).2 own)
            rw [nextCounter_draw, if_pos rfl]
            exact Nat.lt_succ_self _
          · obtain ⟨kind, counter, passed, rfl⟩ := ih later
            exact ⟨kind, counter, passed, candidate_draw _ _ _ _⟩

/-- Names that are drawn were free, and differ in more than case. -/
theorem free_and_apart_of_serve (requests : List Request) (allocator : NameAllocator) :
    (∀ name ∈ (allocator.serve requests).1, allocator.isUsed name = false) ∧
      (allocator.serve requests).1.Pairwise fun first second => Name.same first second = false := by
  induction requests generalizing allocator with
  | nil => exact ⟨List.forall_mem_nil _, .nil⟩
  | cons request rest ih =>
      cases request with
      | reserve other =>
          obtain ⟨free, apart⟩ := ih (allocator.reserve other)
          refine ⟨fun name drawn => ?_, apart⟩
          have spared := free name drawn
          rw [isUsed_reserve, Bool.or_eq_false_iff] at spared
          exact spared.2
      | draw kind =>
          obtain ⟨free, apart⟩ := ih (allocator.draw kind).2
          have spared : ∀ name ∈ ((allocator.draw kind).2.serve rest).1,
              Name.same name (allocator.draw kind).1 = false ∧ allocator.isUsed name = false := by
            intro name drawn
            have unused := free name drawn
            rwa [isUsed_draw, Bool.or_eq_false_iff] at unused
          refine ⟨List.forall_mem_cons.2 ⟨?_, fun name drawn => (spared name drawn).2⟩,
            List.pairwise_cons.2 ⟨fun name drawn => ?_, apart⟩⟩
          · rw [draw_fst]
            exact isUsed_freeCounter allocator kind.label _
          · rw [Name.same_symm]
            exact (spared name drawn).1

/-! ## Names of one kind -/

/-- No name of the kind has been made or reserved from the next counter on. -/
def IsOpen (allocator : NameAllocator) (kind : Kind) : Prop :=
  ∀ counter, allocator.nextCounter kind ≤ counter →
    allocator.isUsed (allocator.candidate kind.label counter) = false

theorem IsOpen.freeCounter_eq (h : allocator.IsOpen kind) :
    allocator.freeCounter kind.label (allocator.nextCounter kind) = allocator.nextCounter kind := by
  have free := h _ (Nat.le_refl _)
  rw [freeCounter, firstFree, if_neg (Bool.eq_false_iff.1 free)]

theorem IsOpen.draw (h : allocator.IsOpen kind) : (allocator.draw kind).2.IsOpen kind := by
  intro counter later
  rw [nextCounter_draw, if_pos rfl, h.freeCounter_eq] at later
  rw [candidate_draw, isUsed_draw, Bool.or_eq_false_iff, draw_fst, h.freeCounter_eq]
  refine ⟨?_, h counter (Nat.le_of_succ_le later)⟩
  rw [Bool.eq_false_iff]
  intro same
  have equal := counter_of_key_candidate (Name.same_iff.1 same)
  omega

/-- Names of one kind are numbered in a row, and the other kind waits. -/
theorem IsOpen.serve_replicate (h : allocator.IsOpen kind) (count : Nat) :
    (allocator.serve (List.replicate count (.draw kind))).1 =
        (List.range' (allocator.nextCounter kind) count).map (allocator.candidate kind.label) ∧
      ∀ other, (allocator.serve (List.replicate count (.draw kind))).2.nextCounter other =
        if other = kind then allocator.nextCounter kind + count
        else allocator.nextCounter other := by
  induction count generalizing allocator with
  | zero =>
      refine ⟨rfl, fun other => ?_⟩
      split
      · next same => exact same ▸ rfl
      · rfl
  | succ count ih =>
      obtain ⟨names, counters⟩ := ih h.draw
      have next : (allocator.draw kind).2.nextCounter kind = allocator.nextCounter kind + 1 := by
        rw [nextCounter_draw, if_pos rfl, h.freeCounter_eq]
      rw [List.replicate_succ, serve, List.range'_succ, List.map_cons]
      dsimp only
      refine ⟨?_, fun other => ?_⟩
      · rw [names, draw_fst, h.freeCounter_eq, next]
        exact congrArg _ (List.map_congr_left fun counter _ => candidate_draw _ _ _ _)
      · rw [counters, next, nextCounter_draw]
        split
        · omega
        · rfl

/-! ## Names of one decade -/

/-- The names of one decade differ in their last digits alone. -/
theorem exists_candidate_decade (allocator : NameAllocator) (label : String) (decade : Nat) :
    ∃ body, ∀ unit < 10, (allocator.candidate label (10 * decade + unit)).toList =
      body ++ [Nat.digitChar unit] := by
  obtain ⟨front, written⟩ := Text.exists_digits_decade decade
  refine ⟨label.toList ++ '_' :: (segment allocator.table
    (allocator.limit - (label.length + (front.length + 1) + 2))).toList ++ '_' :: front,
    fun unit small => ?_⟩
  rw [toList_candidate, written unit small, List.length_append]
  simp

/-! ## Names of ASCII characters -/

theorem isAscii_segment {table : String} (ascii : Engine.IsAscii table.toList) (room : Nat) :
    Engine.IsAscii (segment table room).toList := by
  unfold segment
  split
  · exact ascii
  · rw [String.toList_ofList]
    refine .append (fun symbol member => ascii symbol (List.mem_of_mem_take member)) ?_
    intro symbol member
    have digits : ∀ digit < 16, (Nat.digitChar digit).toNat < 0x80 := by decide
    obtain ⟨digit, small, rfl⟩ :=
      Digest.exists_digitChar_of_mem_fingerprint (List.mem_of_mem_take member)
    exact digits digit small

theorem isAscii_candidate (ascii : Engine.IsAscii allocator.table.toList) (kind : Kind)
    (counter : Nat) : Engine.IsAscii (allocator.candidate kind.label counter).toList := by
  have label : Engine.IsAscii kind.label.toList := by cases kind <;> decide
  have mark : Engine.IsAscii ['_'] := by decide
  have digits : Engine.IsAscii (Text.digits counter) := by
    intro symbol member
    have range := Text.range_of_isDigit (Text.isDigit_of_mem_digits member)
    omega
  rw [toList_candidate]
  exact (label.append (mark.append (isAscii_segment ascii _))).append (mark.append digits)

end NameAllocator

/-! ## Names that stay apart -/

namespace Postgres

open NameAllocator (Kind)

/-- What makes names for the objects of a table. -/
def allocator (table : String) : NameAllocator :=
  { table, limit := Rules.postgres.identifierLimit }

/-- However names are asked for, those that can be written differ in more than case also as the
database keeps them.  Counters are words of sixty-four bits. -/
def StaysApart (table : String) : Prop :=
  ∀ requests, (∀ kind, ((allocator table).serve requests).2.nextCounter kind < 2 ^ 64) →
    (((allocator table).serve requests).1.filter accepts).Pairwise fun first second =>
      Name.same (truncated first) (truncated second) = false

/-- Names that can be written are kept as they are. -/
def KeepsNames (table : String) : Prop :=
  ∀ (kind : Kind) (counter : Nat), counter + 1 < 2 ^ 64 →
    accepts ((allocator table).candidate kind.label counter) = true →
    Text.byteLength ((allocator table).candidate kind.label counter).toList ≤ identifierBytes

variable {table : String}

theorem isOpen_allocator (table : String) (kind : Kind) : (allocator table).IsOpen kind :=
  fun _ _ => rfl

theorem nextCounter_allocator (table : String) (kind : Kind) :
    (allocator table).nextCounter kind = 1 := by
  cases kind <;> rfl

/-- Names of one kind are numbered from one on. -/
theorem serve_allocator (table : String) (kind : Kind) (count : Nat) :
    ((allocator table).serve (List.replicate count (.draw kind))).1 =
        (List.range' 1 count).map ((allocator table).candidate kind.label) ∧
      ∀ other, ((allocator table).serve (List.replicate count (.draw kind))).2.nextCounter other ≤
        count + 1 := by
  obtain ⟨names, counters⟩ := (isOpen_allocator table kind).serve_replicate count
  rw [nextCounter_allocator] at names counters
  refine ⟨names, fun other => ?_⟩
  rw [counters, nextCounter_allocator]
  split <;> omega

theorem KeepsNames.staysApart (keeps : KeepsNames table) : StaysApart table := by
  intro requests bounded
  have same : ∀ name ∈ ((allocator table).serve requests).1, accepts name = true →
      truncated name = name := by
    intro name drawn accepted
    obtain ⟨kind, counter, passed, rfl⟩ := NameAllocator.candidate_of_mem_serve drawn
    exact truncated_of_byteLength_le
      (keeps kind counter (Nat.lt_of_le_of_lt passed (bounded kind)) accepted)
  have apart := (NameAllocator.free_and_apart_of_serve requests (allocator table)).2
  refine List.pairwise_filter.2 (apart.imp_of_mem ?_)
  intro first second here there different accepted also
  rwa [same first here accepted, same second there also]

/-- Whether a name can be written is no matter of its last digit. -/
theorem accepts_iff_of_body {name : String} {body : List Char} {unit : Nat} (small : unit < 10)
    (written : name.toList = body ++ [Nat.digitChar unit]) :
    accepts name = true ↔ '\x00' ∉ body ∧ body.length + 1 ≤ Rules.postgres.identifierLimit := by
  have full : name.isEmpty = false := by
    rw [Bool.eq_false_iff, ne_eq, String.isEmpty_iff, ← String.toList_inj, written]
    simp
  have digit := (Text.digitChar_of_lt small).1
  rw [accepts_iff, Identifier.check_ok_iff, ← String.length_toList, written, List.length_append]
  simp [full, digit.symm]

/-- A name that is cut shares its decade with two others in a row that can be written as well and
are cut to the same name. -/
theorem StaysApart.keepsNames (apart : StaysApart table) : KeepsNames table := by
  intro kind counter bounded accepted
  by_contra long
  obtain ⟨body, written⟩ :=
    (allocator table).exists_candidate_decade kind.label (counter / 10)
  have unit : counter % 10 < 10 := Nat.mod_lt counter (by decide)
  have own := written (counter % 10) unit
  rw [Nat.div_add_mod] at own
  have full : identifierBytes ≤ Text.byteLength body := by
    have none : Text.byteLength [] = 0 := rfl
    rw [own, Text.byteLength_append, Text.byteLength_cons, (Text.digitChar_of_lt unit).2] at long
    omega
  have writable := (accepts_iff_of_body unit own).1 accepted
  obtain ⟨names, counters⟩ := serve_allocator table kind (10 * (counter / 10) + 2)
  have drawn := apart (List.replicate (10 * (counter / 10) + 2) (.draw kind)) fun other => by
    have few := counters other
    omega
  rw [names, ← List.range'_append, List.map_append, List.pairwise_filter, Nat.one_mul,
    Nat.add_comm 1] at drawn
  have pair := (List.pairwise_append.1 drawn).2.1
  have one := written 1 (by decide)
  have two := written 2 (by decide)
  have different := List.rel_of_pairwise_cons pair (List.mem_singleton_self _)
    ((accepts_iff_of_body (by decide) one).2 writable)
    ((accepts_iff_of_body (by decide) two).2 writable)
  rw [truncated_congr one two full, Name.same_refl] at different
  cases different

/-- Names for a table with a name of ASCII characters take up as many bytes as characters. -/
theorem keepsNames_of_isAscii (ascii : Engine.IsAscii table.toList) : KeepsNames table := by
  intro kind counter _ accepted
  have short := (Identifier.check_ok_iff.1 (accepts_iff.1 accepted)).2.2
  rw [Text.byteLength_of_isAscii (NameAllocator.isAscii_candidate ascii kind counter),
    String.length_toList]
  exact short

/-- The names that are made for a table differ in more than case as the database keeps them
exactly when each that can be written is kept as it is.  They are for a table with a name of ASCII
characters. -/
theorem staysApart_iff (table : String) :
    (StaysApart table ↔ KeepsNames table) ∧
      (Engine.IsAscii table.toList → StaysApart table) :=
  ⟨⟨StaysApart.keepsNames, KeepsNames.staysApart⟩,
    fun ascii => (keepsNames_of_isAscii ascii).staysApart⟩

/-- Both names have thirty-eight characters, of which the first thirty-three take up all the
bytes there are. -/
theorem not_staysApart_orderHistory : ∃ first second,
    ((allocator "ЗаказыПокупателейИсторияИзменений").serve [.draw .index, .draw .index]).1 =
        [first, second] ∧
      accepts first = true ∧ accepts second = true ∧ Name.same first second = false ∧
      truncated first = truncated second ∧ ¬ StaysApart "ЗаказыПокупателейИсторияИзменений" := by
  have one : (allocator "ЗаказыПокупателейИсторияИзменений").candidate "IX" 1 =
      "IX_ЗаказыПокупателейИсторияИзменений_1" := by decide +kernel
  have two : (allocator "ЗаказыПокупателейИсторияИзменений").candidate "IX" 2 =
      "IX_ЗаказыПокупателейИсторияИзменений_2" := by decide +kernel
  obtain ⟨names, counters⟩ := serve_allocator "ЗаказыПокупателейИсторияИзменений" .index 2
  have drawn : ((allocator "ЗаказыПокупателейИсторияИзменений").serve
      [.draw .index, .draw .index]).1 =
      ["IX_ЗаказыПокупателейИсторияИзменений_1", "IX_ЗаказыПокупателейИсторияИзменений_2"] :=
    names.trans (congrArg₂ (fun first second => [first, second]) one two)
  have first : accepts "IX_ЗаказыПокупателейИсторияИзменений_1" = true := by decide +kernel
  have second : accepts "IX_ЗаказыПокупателейИсторияИзменений_2" = true := by decide +kernel
  have cut : truncated "IX_ЗаказыПокупателейИсторияИзменений_1" =
      truncated "IX_ЗаказыПокупателейИсторияИзменений_2" := by decide +kernel
  have apart := (NameAllocator.free_and_apart_of_serve [.draw .index, .draw .index]
    (allocator "ЗаказыПокупателейИсторияИзменений")).2
  rw [drawn] at apart
  refine ⟨_, _, drawn, first, second,
    List.rel_of_pairwise_cons apart (List.mem_singleton_self _), cut, fun stays => ?_⟩
  have pair := stays [.draw .index, .draw .index] fun kind =>
    Nat.lt_of_le_of_lt (counters kind) (by decide)
  rw [drawn, List.pairwise_filter] at pair
  have different := List.rel_of_pairwise_cons pair (List.mem_singleton_self _) first second
  rw [cut, Name.same_refl] at different
  cases different

end Postgres
end SchemaEvolution
