import Mathlib.Data.Set.Function
import SchemaEvolution.Fault
import SchemaEvolution.Manifest
import SchemaEvolution.Proofs.ByteOrder
import SchemaEvolution.Proofs.Engine.AsciiNames
import SchemaEvolution.Proofs.Texts

/-!
# Hashes of files

A hash of files is a digest of their digests, which are sorted and joined by colons.  Sorting
forgets the order in which the files came and nothing else, and joining forgets nothing, as
digests hold no colon.  So files with the same hash have the same contents, unless two different
texts that are given to the digest come out the same.
-/

namespace SchemaEvolution

/-! ## Digests -/

namespace Digest

/-- Forty lower-case hexadecimal digits. -/
def IsHexadecimal (text : String) : Prop :=
  text.length = 40 ∧ ∀ symbol ∈ text.toList, symbol ∈ "0123456789abcdef".toList

theorem isHexadecimal_fingerprint (message : List UInt8) : IsHexadecimal (fingerprint message) := by
  refine ⟨length_fingerprint message, fun symbol member => ?_⟩
  have listed : ∀ digit < 16, Nat.digitChar digit ∈ "0123456789abcdef".toList := by decide
  obtain ⟨digit, small, rfl⟩ := exists_digitChar_of_mem_fingerprint member
  exact listed digit small

variable {text : String}

theorem IsHexadecimal.toList_ne_nil (h : IsHexadecimal text) : text.toList ≠ [] := by
  intro none
  have length := h.1
  rw [← String.length_toList, none] at length
  cases length

theorem IsHexadecimal.ne_colon (h : IsHexadecimal text) {symbol : Char}
    (member : symbol ∈ text.toList) : symbol ≠ ':' := by
  have other : ("0123456789abcdef".toList.all fun symbol => symbol != ':') = true := by decide
  simpa using List.all_eq_true.1 other symbol (h.2 symbol member)

theorem IsHexadecimal.lower_eq (h : IsHexadecimal text) : Text.lower text = text := by
  have digits : ("0123456789abcdef".toList.all fun symbol =>
      symbol.toNat < 0x80 && symbol.toLower == symbol) = true := by decide
  have plain : ∀ symbol ∈ text.toList, symbol.toNat < 0x80 ∧ symbol.toLower = symbol := by
    intro symbol member
    simpa using List.all_eq_true.1 digits symbol (h.2 symbol member)
  have ascii : Engine.IsAscii text.toList := fun symbol member => (plain symbol member).1
  have same : text.toList.map Char.toLower = text.toList :=
    (List.map_congr_left fun symbol member => (plain symbol member).2).trans (List.map_id _)
  rw [Text.lower, Engine.lowerAfter_of_ascii [] ascii, same, String.ofList_toList]

/-- Two different messages among the given ones have the same digest. -/
def Collides (digest : List UInt8 → String) (messages : List (List UInt8)) : Prop :=
  ∃ message ∈ messages, ∃ other ∈ messages, message ≠ other ∧ digest message = digest other

theorem Collides.mono {digest : List UInt8 → String} {few many : List (List UInt8)}
    (h : Collides digest few) (subset : few ⊆ many) : Collides digest many := by
  obtain ⟨message, here, other, there, apart⟩ := h
  exact ⟨message, subset here, other, subset there, apart⟩

/-- Messages whose digests are the same up to order are the same up to order, if no two of them
collide: each can be told from its digest. -/
theorem perm_or_collides {digest : List UInt8 → String} {first second : List (List UInt8)}
    (same : (first.map digest).Perm (second.map digest)) :
    first.Perm second ∨ Collides digest (first ++ second) := by
  by_cases apart : Set.InjOn digest {message | message ∈ first ++ second}
  · let message := Function.invFunOn digest {message | message ∈ first ++ second}
    have told : ∀ part, part ⊆ first ++ second → (part.map digest).map message = part := by
      intro part subset
      rw [List.map_map]
      refine (List.map_congr_left fun own member => ?_).trans (List.map_id part)
      exact apart.leftInvOn_invFunOn (subset member)
    have back := same.map message
    rw [told first (List.subset_append_left _ _),
      told second (List.subset_append_right _ _)] at back
    exact .inl back
  · simp only [Set.InjOn, not_forall] at apart
    obtain ⟨own, here, other, there, equal, different⟩ := apart
    exact .inr ⟨own, here, other, there, different, equal⟩

end Digest

namespace SchemaHash

/-! ## Joined digests -/

/-- Digests that are the same up to order are the same when they are sorted. -/
theorem sorted_eq_of_perm {first second : List String} (same : first.Perm second) :
    sorted first = sorted second := by
  have order : ∀ digests, (sorted digests).Pairwise fun lower upper => lower ≤ upper := by
    intro digests
    refine (List.pairwise_mergeSort (fun one two three here there => ?_) (fun one two => ?_)
      digests).imp fun before => of_decide_eq_true before
    · exact decide_eq_true (String.le_trans (of_decide_eq_true here) (of_decide_eq_true there))
    · simpa using String.le_total one two
  refine List.Perm.eq_of_pairwise (fun one two _ _ => String.le_antisymm) (order first)
    (order second) ?_
  exact (List.mergeSort_perm first _).trans (same.trans (List.mergeSort_perm second _).symm)

/-- Joined digests can be parted again, also where there is one or none. -/
theorem eq_of_intercalate {first second : List String}
    (here : ∀ digest ∈ first, Digest.IsHexadecimal digest)
    (there : ∀ digest ∈ second, Digest.IsHexadecimal digest)
    (same : String.intercalate ":" first = String.intercalate ":" second) : first = second := by
  have parted : ∀ digests : List String, (∀ digest ∈ digests, Digest.IsHexadecimal digest) →
      Text.stretches (· == ':') (String.intercalate ":" digests).toList =
        digests.map String.toList := by
    intro digests hexadecimal
    rw [String.toList_intercalate]
    refine Text.stretches_intercalate ?_ ?_ rfl
    · rintro _ member
      obtain ⟨digest, held, rfl⟩ := List.mem_map.1 member
      exact (hexadecimal digest held).toList_ne_nil
    · rintro _ member symbol inside
      obtain ⟨digest, held, rfl⟩ := List.mem_map.1 member
      exact beq_eq_false_iff_ne.2 ((hexadecimal digest held).ne_colon inside)
  have letters := parted first here
  rw [same, parted second there] at letters
  exact (List.map_injective_iff.2 (fun _ _ => String.toList_injective) letters).symm

/-- Hashes with the same joined digests have the same digests up to order. -/
theorem perm_of_joined {first second : SchemaHash}
    (here : ∀ digest ∈ first.digests, Digest.IsHexadecimal digest)
    (there : ∀ digest ∈ second.digests, Digest.IsHexadecimal digest)
    (same : first.joined = second.joined) : first.digests.Perm second.digests := by
  have sort : ∀ hash : SchemaHash, (sorted hash.digests).Perm hash.digests := fun hash =>
    List.mergeSort_perm hash.digests _
  have equal := eq_of_intercalate (fun digest member => here digest ((sort first).mem_iff.1 member))
    (fun digest member => there digest ((sort second).mem_iff.1 member)) same
  exact ((sort first).symm.trans (.of_eq equal)).trans (sort second)

/-! ## Additions -/

/-- What a hash is fed with: contents, what the reading of a file gives, or a digest that was
made elsewhere. -/
inductive Addition where
  | contents (bytes : List UInt8)
  | file (read : Except Fault (List UInt8))
  | digest (text : String)

namespace Addition

/-- The contents that come from a file. -/
def contents? : Addition → Option (List UInt8)
  | .contents bytes | .file (.ok bytes) => some bytes
  | .file (.error _) | .digest _ => none

/-- The digest that is collected, in lower case. -/
def collected? (digest : List UInt8 → String) : Addition → Option String
  | .contents bytes | .file (.ok bytes) => some (Text.lower (digest bytes))
  | .file (.error _) => none
  | .digest text => some (Text.lower text)

def IsOfFile : Addition → Prop
  | .contents _ | .file _ => True
  | .digest _ => False

end Addition

def add (digest : List UInt8 → String) (hash : SchemaHash) : Addition → SchemaHash
  | .contents bytes => hash.addContentsBy digest bytes
  | .file read =>
      match hash.addFileBy digest read with
      | .ok next => next
      | .error _ => hash
  | .digest text => hash.addDigest text

def ofAdditions (digest : List UInt8 → String) (additions : List Addition) : SchemaHash :=
  additions.foldl (add digest) empty

/-- The digests that are collected from the additions. -/
def collected (digest : List UInt8 → String) (additions : List Addition) : List String :=
  additions.filterMap (Addition.collected? digest)

/-- The contents of the files among the additions. -/
def contents (additions : List Addition) : List (List UInt8) :=
  additions.filterMap Addition.contents?

variable {digest : List UInt8 → String}
  (hexadecimal : ∀ message, Digest.IsHexadecimal (digest message))

include hexadecimal

theorem digests_add (hash : SchemaHash) (addition : Addition) :
    (hash.add digest addition).digests =
      hash.digests ++ (addition.collected? digest).toList := by
  cases addition with
  | contents bytes => exact congrArg (hash.digests ++ [·]) (hexadecimal bytes).lower_eq.symm
  | file read =>
      cases read with
      | error fault => exact (List.append_nil _).symm
      | ok bytes => exact congrArg (hash.digests ++ [·]) (hexadecimal bytes).lower_eq.symm
  | digest text => rfl

theorem digests_ofAdditions (additions : List Addition) :
    (ofAdditions digest additions).digests = collected digest additions := by
  have from_hash : ∀ hash : SchemaHash, (additions.foldl (add digest) hash).digests =
      hash.digests ++ collected digest additions := by
    induction additions with
    | nil => exact fun hash => (List.append_nil _).symm
    | cons first rest ih =>
        intro hash
        rw [List.foldl_cons, ih, digests_add hexadecimal, List.append_assoc, collected, collected,
          List.filterMap_cons]
        cases first.collected? digest <;> rfl
  exact from_hash empty

theorem collected?_of_isOfFile {addition : Addition} (file : addition.IsOfFile) :
    addition.collected? digest = addition.contents?.map digest := by
  cases addition with
  | contents bytes => exact congrArg some (hexadecimal bytes).lower_eq
  | file read =>
      cases read with
      | error fault => rfl
      | ok bytes => exact congrArg some (hexadecimal bytes).lower_eq
  | digest text => exact file.elim

theorem collected_of_files {additions : List Addition}
    (files : ∀ addition ∈ additions, addition.IsOfFile) :
    collected digest additions = (contents additions).map digest := by
  rw [collected, contents, List.map_filterMap]
  exact List.filterMap_congr fun addition member =>
    collected?_of_isOfFile hexadecimal (files addition member)

theorem digests_of_files {additions : List Addition}
    (files : ∀ addition ∈ additions, addition.IsOfFile) :
    (ofAdditions digest additions).digests = (contents additions).map digest :=
  (digests_ofAdditions hexadecimal additions).trans (collected_of_files hexadecimal files)

/-- The order in which digests are collected makes no difference, and the hash of files tells
their contents: hashes that are the same are those of the same contents, or two different ones
among the contents and the joined digests have the same digest. -/
theorem finishBy_identifies_files (first second : List Addition) :
    ((collected digest first).Perm (collected digest second) →
      (ofAdditions digest first).finishBy digest = (ofAdditions digest second).finishBy digest) ∧
    ((∀ addition ∈ first ++ second, addition.IsOfFile) →
      (ofAdditions digest first).finishBy digest = (ofAdditions digest second).finishBy digest →
      (contents first).Perm (contents second) ∨
        Digest.Collides digest (contents first ++ contents second ++
          [(ofAdditions digest first).joined.toUTF8.toList,
            (ofAdditions digest second).joined.toUTF8.toList])) := by
  constructor
  · intro same
    rw [← digests_ofAdditions hexadecimal, ← digests_ofAdditions hexadecimal] at same
    rw [finishBy, finishBy, joined, joined, sorted_eq_of_perm same]
  · intro files equal
    obtain ⟨here, there⟩ := List.forall_mem_append.1 files
    by_cases joint : (ofAdditions digest first).joined.toUTF8.toList =
        (ofAdditions digest second).joined.toUTF8.toList
    · rw [Text.toList_toUTF8, Text.toList_toUTF8] at joint
      have made : ∀ additions, (∀ addition ∈ additions, addition.IsOfFile) →
          ∀ own ∈ (ofAdditions digest additions).digests, Digest.IsHexadecimal own := by
        intro additions ofFile own member
        rw [digests_of_files hexadecimal ofFile] at member
        obtain ⟨message, _, rfl⟩ := List.mem_map.1 member
        exact hexadecimal message
      have same := perm_of_joined (made first here) (made second there)
        (Text.bytes_injective joint)
      rw [digests_of_files hexadecimal here, digests_of_files hexadecimal there] at same
      exact (Digest.perm_or_collides same).imp_right fun collides =>
        collides.mono (List.subset_append_left _ _)
    · exact .inr ⟨_, by simp, _, by simp, joint, equal⟩

omit hexadecimal in
/-- The case of a digest that is added is of no account, nor is a file that cannot be read.  A
file that is read twice counts twice. -/
theorem finish_identifies_sources :
    (∀ message, Digest.IsHexadecimal (Digest.fingerprint message)) ∧
      ((empty.addContents [0x61]).addDigest "0A").finish =
        ((empty.addDigest "0a").addContents [0x61]).finish ∧
      ((empty.addContents [0x61]).finish = ((empty.addContents [0x61]).addContents [0x61]).finish →
        Digest.Collides Digest.fingerprint [[0x61], [0x61], [0x61],
          (empty.addContents [0x61]).joined.toUTF8.toList,
          ((empty.addContents [0x61]).addContents [0x61]).joined.toUTF8.toList]) := by
  have hexadecimal := Digest.isHexadecimal_fingerprint
  have ordered := (finishBy_identifies_files hexadecimal
    [.contents [0x61], .file (.error .io), .digest "0A"]
    [.digest "0a", .file (.ok [0x61])]).1
  have repeated := (finishBy_identifies_files hexadecimal [.contents [0x61]]
    [.contents [0x61], .contents [0x61]]).2
  have lower : Text.lower "0A" = Text.lower "0a" := by decide +kernel
  refine ⟨hexadecimal, ordered ?_, fun equal => (repeated ?_ equal).resolve_left fun same => ?_⟩
  · simp only [collected, Addition.collected?, List.filterMap_cons, List.filterMap_nil, lower]
    exact .swap _ _ []
  · simp [Addition.IsOfFile]
  · exact absurd same.length_eq (by decide)

end SchemaHash
end SchemaEvolution
