import SchemaEvolution.Config
import SchemaEvolution.Proofs.Texts

/-!
# Hidden passwords

An address is shown without what stands between the colon behind its user and the first at sign
behind that.  So a password is hidden up to its own first at sign, and what it holds from there on
is shown: two passwords are told apart by that, and by nothing else.
-/

namespace SchemaEvolution

/-! ## Quoted texts -/

namespace Text

theorem hexDigits_of_lt {code : Nat} (small : code < 16) : hexDigits code = [code.digitChar] :=
  Nat.toDigits_of_lt_base small

theorem hexDigits_of_le {code : Nat} (large : 16 ≤ code) :
    hexDigits code = hexDigits (code / 16) ++ [(code % 16).digitChar] :=
  Nat.toDigits_of_base_le (by decide) large

theorem exists_digitChar_of_mem_hexDigits {code : Nat} {symbol : Char}
    (member : symbol ∈ hexDigits code) : ∃ digit, digit < 16 ∧ symbol = digit.digitChar := by
  induction code using Nat.strongRecOn with
  | ind code ih =>
      rcases Nat.lt_or_ge code 16 with small | large
      · rw [hexDigits_of_lt small, List.mem_singleton] at member
        exact ⟨code, small, member⟩
      · rw [hexDigits_of_le large, List.mem_append, List.mem_singleton] at member
        rcases member with before | final
        · exact ih (code / 16) (by omega) before
        · exact ⟨code % 16, by omega, final⟩

theorem brace_notMem_hexDigits (code : Nat) : '\x7d' ∉ hexDigits code := by
  intro member
  obtain ⟨digit, small, same⟩ := exists_digitChar_of_mem_hexDigits member
  have other : ∀ digit < 16, '\x7d' ≠ Nat.digitChar digit := by decide
  exact other digit small same

def hexDigitValue (digit : Char) : Nat :=
  if digit.isDigit then digit.toNat - 48 else digit.toNat - 87

def hexValue (digits : List Char) : Nat :=
  digits.foldl (fun value digit => 16 * value + hexDigitValue digit) 0

theorem hexDigitValue_digitChar {digit : Nat} (small : digit < 16) :
    hexDigitValue digit.digitChar = digit := by
  revert digit
  decide

theorem hexValue_hexDigits (code : Nat) : hexValue (hexDigits code) = code := by
  induction code using Nat.strongRecOn with
  | ind code ih =>
      rcases Nat.lt_or_ge code 16 with small | large
      · rw [hexDigits_of_lt small]
        exact (Nat.zero_add _).trans (hexDigitValue_digitChar small)
      · have before := ih (code / 16) (by omega)
        unfold hexValue at before ⊢
        rw [hexDigits_of_le large, List.foldl_concat, before, hexDigitValue_digitChar (by omega)]
        exact Nat.div_add_mod code 16

/-- The character that a letter behind a backslash stands for. -/
def unescapedLetter : Char → Char
  | '0' => '\x00'
  | 't' => '\t'
  | 'r' => '\r'
  | 'n' => '\n'
  | letter => letter

/-- A character is written as a letter behind a backslash, by its code, or as it is. -/
theorem escapedSymbol_cases (symbol : Char) :
    (∃ letter, letter ≠ 'u' ∧ symbol = unescapedLetter letter ∧
      escapedSymbol symbol = ['\\', letter]) ∨
    escapedSymbol symbol = '\\' :: 'u' :: '\x7b' :: (hexDigits symbol.toNat ++ ['\x7d']) ∨
    (symbol ≠ '\\' ∧ escapedSymbol symbol = [symbol]) := by
  unfold escapedSymbol
  split
  · next same => exact .inl ⟨'0', by decide, same, rfl⟩
  split
  · next same => exact .inl ⟨'t', by decide, same, rfl⟩
  split
  · next same => exact .inl ⟨'r', by decide, same, rfl⟩
  split
  · next same => exact .inl ⟨'n', by decide, same, rfl⟩
  split
  · next same => exact .inl ⟨'"', by decide, same, rfl⟩
  split
  · next same => exact .inl ⟨'\\', by decide, same, rfl⟩
  split
  · exact .inr (.inl rfl)
  · next other _ => exact .inr (.inr ⟨other, rfl⟩)

/-- The first character of an escaped text, and the text behind it. -/
def readSymbol? : List Char → Option (Char × List Char)
  | [] => none
  | '\\' :: 'u' :: '\x7b' :: rest =>
      (cut? ['\x7d'] rest).map fun ends => (Char.ofNat (hexValue ends.1), ends.2)
  | '\\' :: letter :: rest => some (unescapedLetter letter, rest)
  | symbol :: rest => some (symbol, rest)

theorem readSymbol?_escapedSymbol (symbol : Char) (rest : List Char) :
    readSymbol? (escapedSymbol symbol ++ rest) = some (symbol, rest) := by
  rcases escapedSymbol_cases symbol with
    ⟨letter, plain, meant, written⟩ | written | ⟨plain, written⟩
  · rw [written, meant]
    simp [readSymbol?, plain]
  · have closed := @cut?_of_first '\x7d' (hexDigits symbol.toNat) rest (brace_notMem_hexDigits _)
    rw [written, List.cons_append, List.cons_append, List.cons_append, List.append_assoc,
      List.singleton_append, readSymbol?, closed, Option.map_some, hexValue_hexDigits,
      Char.ofNat_toNat]
  · rw [written]
    simp [readSymbol?, plain]

theorem flatMap_escapedSymbol_injective {first second : List Char}
    (same : first.flatMap escapedSymbol = second.flatMap escapedSymbol) : first = second := by
  have full : ∀ symbol rest, escapedSymbol symbol ++ rest ≠ [] := by
    intro symbol rest none
    have read := readSymbol?_escapedSymbol symbol rest
    rw [none] at read
    cases read
  induction first generalizing second with
  | nil =>
      cases second with
      | nil => rfl
      | cons other more => exact absurd same.symm (full _ _)
  | cons symbol rest ih =>
      cases second with
      | nil => exact absurd same (full _ _)
      | cons other more =>
          have read := readSymbol?_escapedSymbol symbol (rest.flatMap escapedSymbol)
          rw [List.flatMap_cons, List.flatMap_cons] at same
          rw [same, readSymbol?_escapedSymbol] at read
          obtain ⟨here, there⟩ := Prod.mk.inj (Option.some.inj read)
          rw [here, ih there.symm]

/-- Different texts are different in quotes. -/
theorem quoted_injective {first second : String} (same : quoted first = quoted second) :
    first = second := by
  have symbols := (List.cons.inj (String.ofList_injective same)).2
  exact String.toList_injective (flatMap_escapedSymbol_injective (List.append_cancel_right symbols))

/-! ## Patterns that are not within a text -/

/-- A pattern whose first symbol does not come again cannot begin in a text and end behind it. -/
theorem endsFirst_of_absent {first : Char} {pattern symbols : List Char}
    (single : first ∉ pattern) (absent : ¬ first :: pattern <:+: symbols) :
    EndsFirst (first :: pattern) symbols := by
  intro before after whole
  rw [List.append_assoc] at whole
  rcases List.append_eq_append_iff.1 whole with ⟨extra, rfl, same⟩ | ⟨extra, rfl, same⟩
  · have lengths := congrArg List.length same
    simp only [List.length_append, List.length_cons] at lengths
    exact List.eq_nil_of_length_eq_zero (by omega)
  · cases extra with
    | nil => exact List.append_right_eq_self.1 same
    | cons symbol inside =>
        obtain ⟨rfl, rest⟩ := List.cons.inj same
        rcases List.append_eq_append_iff.1 rest with ⟨others, rfl, -⟩ | ⟨others, split, begins⟩
        · exact absurd ⟨before, others, by simp⟩ absent
        · cases others with
          | nil =>
              rw [List.append_nil] at split
              subst split
              exact absurd ⟨before, [], by simp⟩ absent
          | cons other more =>
              obtain ⟨rfl, -⟩ := List.cons.inj begins
              exact absurd (split ▸ List.mem_append_right _ List.mem_cons_self) single

end Text

/-! ## Addresses -/

namespace Config

/-- The address of a host, with the user and the password before it. -/
def address (scheme user password host : String) : String :=
  scheme ++ "://" ++ user ++ ":" ++ password ++ "@" ++ host

/-- What a password holds from its first at sign on. -/
def exposed (password : String) : List Char :=
  password.toList.dropWhile (· != '@')

/-- The first at sign behind the user parts what is hidden from what is shown, whether it belongs
to the password or stands before the host. -/
theorem exists_hidden (password host : String) : ∃ hidden after, '@' ∉ hidden ∧
    password.toList ++ '@' :: host.toList = hidden ++ '@' :: after ∧
      exposed password ++ '@' :: host.toList = '@' :: after := by
  let hidden := password.toList.takeWhile (· != '@')
  have absent : '@' ∉ hidden := fun member => by simpa using List.mem_takeWhile_imp member
  have whole : hidden ++ exposed password = password.toList := List.takeWhile_append_dropWhile
  cases shown : exposed password with
  | nil =>
      rw [shown, List.append_nil] at whole
      exact ⟨hidden, host.toList, absent, by rw [whole], rfl⟩
  | cons first rest =>
      have sign : first = '@' := by
        have stops := List.head?_dropWhile_not (· != '@') password.toList
        rw [← exposed, shown] at stops
        simpa using stops
      subst sign
      exact ⟨hidden, rest ++ '@' :: host.toList, absent, by rw [← whole, shown]; simp, rfl⟩

section Address

variable {scheme user : String} (schemed : ¬ "://".toList <:+: scheme.toList)
  (named : ∀ symbol ∈ user.toList, symbol ≠ ':' ∧ symbol ≠ '@')

include named in
theorem withoutPassword_eq (password host : String) :
    withoutPassword (user.toList ++ ':' :: (password.toList ++ '@' :: host.toList)) =
      some (user.toList ++ hiddenPassword ++ (exposed password ++ '@' :: host.toList)) := by
  obtain ⟨hidden, after, absent, parted, shown⟩ := exists_hidden password host
  have unnamed : '@' ∉ user.toList ++ ':' :: hidden := by
    rw [List.mem_append, List.mem_cons]
    rintro (inUser | colon | inHidden)
    · exact (named '@' inUser).2 rfl
    · cases colon
    · exact absent inHidden
  have uncolon : ':' ∉ user.toList := fun member => (named ':' member).1 rfl
  have whole : user.toList ++ ':' :: (password.toList ++ '@' :: host.toList) =
      (user.toList ++ ':' :: hidden) ++ '@' :: after := by
    rw [parted, List.append_assoc, List.cons_append]
  rw [whole, withoutPassword, Text.cut?_of_first unnamed, shown]
  simp only [Text.cut?_of_first uncolon]

include schemed named in
theorem redacted_address (password host : String) :
    redacted (address scheme user password host) =
      String.ofList (scheme.toList ++ "://".toList ++
        (user.toList ++ hiddenPassword ++ (exposed password ++ '@' :: host.toList))) := by
  have mark : "://".toList = [':', '/', '/'] := rfl
  have ends := @Text.endsFirst_of_absent ':' ['/', '/'] _ (by simp) schemed
  have cut := ends.cut? (List.cons_ne_nil _ _)
    (user.toList ++ ':' :: (password.toList ++ '@' :: host.toList))
  have symbols : (address scheme user password host).toList = scheme.toList ++ ([':', '/', '/'] ++
      (user.toList ++ ':' :: (password.toList ++ '@' :: host.toList))) := by
    simp [address]
  rw [redacted, symbols, mark, cut]
  simp only [withoutPassword_eq named]

end Address

/-! ## Shown configurations -/

/-- The configuration with another address. -/
def connectedTo (config : Config) (connection : String) : Config :=
  { config with target := { config.target with connection } }

/-- A configuration shows of its address what is shown of the address alone. -/
theorem describe_connectedTo_eq_iff (config : Config) (first second : String) :
    describe (config.connectedTo first) = describe (config.connectedTo second) ↔
      redacted first = redacted second := by
  constructor
  · intro same
    refine Text.quoted_injective ?_
    simpa [describe, targetText, recordText, connectedTo, String.intercalate_cons_cons,
      String.append_assoc, String.append_right_inj, String.append_left_inj] using same
  · intro same
    simp only [describe, targetText, connectedTo, same]

/-- Two passwords are shown alike exactly when they are the same from their first at signs on. -/
theorem redacted_address_eq_iff {scheme user : String}
    (schemed : ¬ "://".toList <:+: scheme.toList)
    (named : ∀ symbol ∈ user.toList, symbol ≠ ':' ∧ symbol ≠ '@')
    (host password other : String) :
    (redacted (address scheme user password host) = redacted (address scheme user other host) ↔
        exposed password = exposed other) ∧
      ∀ config : Config,
        describe (config.connectedTo (address scheme user password host)) =
            describe (config.connectedTo (address scheme user other host)) ↔
          exposed password = exposed other := by
  have shown : redacted (address scheme user password host) =
      redacted (address scheme user other host) ↔ exposed password = exposed other := by
    rw [redacted_address schemed named, redacted_address schemed named]
    constructor
    · intro same
      have parts := List.append_cancel_left (String.ofList_injective same)
      exact List.append_cancel_right (List.append_cancel_left parts)
    · intro same
      rw [same]
  exact ⟨shown, fun config => (describe_connectedTo_eq_iff config _ _).trans shown⟩

/-- Colons are hidden like all that stands before an at sign, and at signs are not. -/
theorem redacted_address_eq_iff_signed :
    ¬ "://".toList <:+: "postgres".toList ∧
      (∀ symbol ∈ "app".toList, symbol ≠ ':' ∧ symbol ≠ '@') ∧
      redacted (address "postgres" "app" "blue:1@sea" "db:5432/main") =
        redacted (address "postgres" "app" "red@sea" "db:5432/main") ∧
      redacted (address "postgres" "app" "blue:1@sea" "db:5432/main") ≠
        redacted (address "postgres" "app" "blue:1" "db:5432/main") := by
  have schemed : ¬ "://".toList <:+: "postgres".toList := by decide
  have named : ∀ symbol ∈ "app".toList, symbol ≠ ':' ∧ symbol ≠ '@' := by simp
  have shown := redacted_address_eq_iff schemed named "db:5432/main" "blue:1@sea"
  exact ⟨schemed, named, (shown "red@sea").1.2 (by decide), fun same =>
    absurd ((shown "blue:1").1.1 same) (by decide)⟩

/-- The end of a password with an at sign is shown. -/
theorem not_redacted_address_signed :
    redacted (address "postgres" "app" "pa@ss" "db/main") =
        "postgres://app:[REDACTED]@ss@db/main" ∧
      redacted (address "postgres" "app" "pa@ss" "db/main") ≠
        redacted (address "postgres" "app" "secret" "db/main") := by
  decide +kernel

end Config
end SchemaEvolution
