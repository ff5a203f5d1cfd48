import Mathlib.Data.List.DropRight
import Mathlib.Data.List.Infix
import VcStack.TextEncodings

/-!
Names and slugs of pkg/naming/naming.go, on the bytes of Go strings. Lower case,
the decoding of runes and the pattern of general names are a library of which
only the documented behaviour on ASCII is used.
-/

namespace VcStack.Slugs

open TextEncodings

def hyphen : UInt8 := 45

def isLower (byte : UInt8) : Bool := 97 ≤ byte && byte ≤ 122
def isUpper (byte : UInt8) : Bool := 65 ≤ byte && byte ≤ 90
def isDigit (byte : UInt8) : Bool := 48 ≤ byte && byte ≤ 57

def isAlnum (byte : UInt8) : Bool := isLower byte || isDigit byte

def isSlugByte (byte : UInt8) : Bool := isAlnum byte || byte == hyphen

def ascii (text : String) : List UInt8 := text.toUTF8.data.toList

structure NameLibrary where
  /-- `strings.ToLower` -/
  toLower : List UInt8 → List UInt8
  runes : List UInt8 → List Nat
  /-- `reGeneral.MatchString` -/
  matchGeneral : List UInt8 → Bool
  toLower_lower : ∀ text, (∀ byte ∈ text, isSlugByte byte = true) → toLower text = text
  runes_ascii : ∀ text, (∀ byte ∈ text, byte < 128) → runes text = text.map UInt8.toNat

/-- `drawn` is what the random source gives, `none` when it fails. -/
def generateID (lead : List UInt8) (drawn : Option (Vector UInt8 6)) : List UInt8 :=
  lead ++ hyphen :: match drawn with
    | some bytes => (hexChars bytes.toList).map fun char => char.toNat.toUInt8
    | none => List.replicate 12 48

inductive NameMode where
  | general
  | dnsSafe
  | identifier

def maxNameLength : Nat := 255
def maxDNSNameLength : Nat := 63

/-- `unicode.IsControl` -/
def isControl (rune : Nat) : Bool := rune < 0x20 || (0x7f ≤ rune && rune < 0xa0)

def upperHex (value : Nat) : String :=
  let digits := (Nat.toDigits 16 value).map Char.toUpper
  String.ofList (List.replicate (4 - digits.length) '0' ++ digits)

/-- `^[a-z0-9][a-z0-9\-]{0,61}[a-z0-9]$` -/
def matchDNSSafe : List UInt8 → Bool
  | first :: second :: rest =>
    isAlnum first && ((second :: rest).dropLast.all isSlugByte) &&
      (second :: rest).dropLast.length ≤ 61 && ((second :: rest).getLast?.any isAlnum)
  | _ => false

/-- `^[a-zA-Z][a-zA-Z0-9_.\-]{0,62}$` -/
def matchIdentifier : List UInt8 → Bool
  | first :: rest =>
    (isLower first || isUpper first) && rest.length ≤ 62 &&
      rest.all fun byte => isSlugByte byte || isUpper byte || byte == 95 || byte == 46
  | [] => false

variable {slug part whole : List UInt8} {drawn : Option (Vector UInt8 6)}

section Names

variable (lib : NameLibrary)

def validateName (name : List UInt8) (mode : NameMode) : Except String Unit :=
  if (lib.runes name).length < 1 then .error "name must be at least 1 character"
  else match (lib.runes name).find? isControl with
  | some rune => .error ("name contains control character U+" ++ upperHex rune)
  | none =>
  if ascii "<script" <:+: lib.toLower name ∨ ascii "javascript:" <:+: lib.toLower name then
    .error "name contains potentially unsafe content"
  else match mode with
  | .general =>
    if (lib.runes name).length > maxNameLength then
      .error "name exceeds maximum length of 255 characters"
    else if lib.matchGeneral name then .ok ()
    else .error
      "name must start with a letter or digit and contain only letters, digits, spaces, and _.@#&()-"
  | .dnsSafe =>
    if name.length > maxDNSNameLength then
      .error "DNS name exceeds maximum length of 63 characters"
    else if name.length = 1 then
      if name.all isAlnum then .ok () else .error "DNS name must be lowercase alphanumeric"
    else if matchDNSSafe name then .ok ()
    else .error
      "DNS name must be lowercase alphanumeric with hyphens, cannot start or end with hyphen"
  | .identifier =>
    if name.length > maxDNSNameLength then
      .error "identifier exceeds maximum length of 63 characters"
    else if matchIdentifier name then .ok ()
    else .error
      "identifier must start with a letter and contain only letters, digits, underscores, hyphens, and dots"

/-- The replacer: every separator is one byte and becomes a hyphen. -/
def separated (byte : UInt8) : UInt8 := if byte ∈ ascii " _./\\" then hyphen else byte

/-- Only runes of one byte are kept, so writing them back is a cast. -/
def keepSlugRunes (runes : List Nat) : List UInt8 :=
  (runes.filter fun rune => rune < 128 && isSlugByte rune.toUInt8).map Nat.toUInt8

def hasPair : List UInt8 → Bool
  | [] => false
  | [_] => false
  | first :: second :: rest => (first == hyphen && second == hyphen) || hasPair (second :: rest)

/-- `strings.ReplaceAll(slug, "--", "-")`: pairs are taken from the left. -/
def replacePairs : List UInt8 → List UInt8
  | [] => []
  | [byte] => [byte]
  | first :: second :: rest =>
    if first = hyphen ∧ second = hyphen then hyphen :: replacePairs rest
    else first :: replacePairs (second :: rest)

theorem replace_pairs_length (slug : List UInt8) : (replacePairs slug).length ≤ slug.length := by
  fun_induction replacePairs slug with
  | case1 => exact Nat.le_refl _
  | case2 byte => exact Nat.le_refl _
  | case3 first second rest pair ih =>
    simp only [List.length_cons]
    omega
  | case4 first second rest apart ih =>
    simp only [List.length_cons] at ih ⊢
    omega

theorem replace_pairs_shortens (paired : hasPair slug = true) :
    (replacePairs slug).length < slug.length := by
  fun_induction replacePairs slug with
  | case1 => contradiction
  | case2 byte => contradiction
  | case3 first second rest pair ih =>
    have shorter := replace_pairs_length rest
    simp only [List.length_cons]
    omega
  | case4 first second rest apart ih =>
    have later : hasPair (second :: rest) = true := by
      simp only [hasPair, Bool.or_eq_true, Bool.and_eq_true, beq_iff_eq] at paired
      exact paired.resolve_left apart
    have shorter := ih later
    simp only [List.length_cons] at shorter ⊢
    omega

/-- The loop ends because every round shortens the slug. -/
def collapse (slug : List UInt8) : List UInt8 :=
  if hasPair slug = true then collapse (replacePairs slug) else slug
termination_by slug.length
decreasing_by exact replace_pairs_shortens (by assumption)

def trimRight (slug : List UInt8) : List UInt8 := slug.rdropWhile (· == hyphen)

def trimHyphens (slug : List UInt8) : List UInt8 := trimRight (slug.dropWhile (· == hyphen))

def cutSlug (slug : List UInt8) : List UInt8 :=
  if slug.length > maxDNSNameLength then trimRight (slug.take maxDNSNameLength) else slug

def generateSlug (name : List UInt8) (drawn : Option (Vector UInt8 6)) : List UInt8 :=
  let kept := keepSlugRunes (lib.runes ((lib.toLower name).map separated))
  let slug := cutSlug (trimHyphens (collapse kept))
  if slug = [] then ascii "res-" ++ (generateID [] drawn).drop 1 else slug

end Names

structure Tidy (text : List UInt8) : Prop where
  bytes : ∀ byte ∈ text, isSlugByte byte = true
  apart : hasPair text = false
  first : text.head? ≠ some hyphen
  last : text.getLast? ≠ some hyphen

structure Slug (text : List UInt8) : Prop extends Tidy text where
  some_byte : text ≠ []
  short : text.length ≤ maxDNSNameLength

theorem keep_bytes {runes : List Nat} :
    ∀ byte ∈ keepSlugRunes runes, isSlugByte byte = true := by
  intro byte member
  obtain ⟨rune, listed, same⟩ := List.mem_map.mp member
  have kept := (List.mem_filter.mp listed).2
  rw [Bool.and_eq_true] at kept
  rw [← same]
  exact kept.2

theorem replace_pairs_subset : replacePairs slug ⊆ slug := by
  fun_induction replacePairs slug with
  | case1 => exact List.Subset.refl _
  | case2 byte => exact List.Subset.refl _
  | case3 first second rest pair ih =>
    rw [pair.1]
    apply List.cons_subset_cons
    exact List.Subset.trans ih (List.subset_cons_self _ _)
  | case4 first second rest apart ih => exact List.cons_subset_cons _ ih

theorem collapse_subset : collapse slug ⊆ slug := by
  fun_induction collapse slug with
  | case1 slug paired ih => exact List.Subset.trans ih replace_pairs_subset
  | case2 slug apart => exact List.Subset.refl _

theorem collapse_apart : hasPair (collapse slug) = false := by
  fun_induction collapse slug with
  | case1 slug paired ih => exact ih
  | case2 slug apart => simpa using apart

variable (text : List UInt8)

theorem has_pair_iff :
    hasPair text = true ↔ [hyphen, hyphen] <:+: text := by
  fun_induction hasPair text with
  | case1 => simp
  | case2 byte => simp [List.infix_cons_iff]
  | case3 first second rest ih =>
    rw [Bool.or_eq_true, ih, Bool.and_eq_true, beq_iff_eq, beq_iff_eq, List.infix_cons_iff (a := first)]
    apply or_congr_left
    rw [List.cons_prefix_cons, List.cons_prefix_cons]
    simp [eq_comm]

theorem apart_infix (inside : part <:+: whole)
    (apart : hasPair whole = false) : hasPair part = false := by
  rw [Bool.eq_false_iff] at apart ⊢
  intro paired
  exact apart ((has_pair_iff whole).mpr (((has_pair_iff part).mp paired).trans inside))

theorem trim_right_early : trimRight text <+: text := List.rdropWhile_prefix _ _

theorem trim_right_last : (trimRight text).getLast? ≠ some hyphen := by
  intro last
  have some_byte : trimRight text ≠ [] := by
    intro empty
    simp [empty] at last
  have other := List.rdropWhile_last_not (· == hyphen) text some_byte
  rw [List.getLast?_eq_some_getLast some_byte, Option.some.injEq] at last
  exact other (by simpa [trimRight] using last)

theorem head_early (inside : part <+: whole)
    (first : whole.head? ≠ some hyphen) : part.head? ≠ some hyphen := by
  obtain ⟨rest, shape⟩ := inside
  cases part with
  | nil => simp
  | cons byte part =>
    rw [← shape] at first
    exact first

theorem tidy_early (tidy : Tidy whole) (inside : part <+: whole)
    (last : part.getLast? ≠ some hyphen) : Tidy part where
  bytes byte member := tidy.bytes byte (inside.subset member)
  apart := apart_infix inside.isInfix tidy.apart
  first := head_early inside tidy.first
  last := last

theorem trim_tidy (bytes : ∀ byte ∈ text, isSlugByte byte = true) (apart : hasPair text = false) :
    Tidy (trimHyphens text) := by
  have suffix : text.dropWhile (· == hyphen) <:+ text := List.dropWhile_suffix _
  have inside : trimHyphens text <+: text.dropWhile (· == hyphen) := trim_right_early _
  constructor
  · intro byte member
    exact bytes byte (suffix.subset (inside.subset member))
  · exact apart_infix (inside.isInfix.trans suffix.isInfix) apart
  · apply head_early inside
    intro first
    have other := List.head?_dropWhile_not (· == hyphen) text
    rw [first] at other
    simp at other
  · exact trim_right_last _

theorem cut_tidy (tidy : Tidy text) : Tidy (cutSlug text) := by
  unfold cutSlug
  split
  · have taken : text.take maxDNSNameLength <+: text := List.take_prefix _ _
    exact tidy_early tidy ((trim_right_early _).trans taken) (trim_right_last _)
  · exact tidy

theorem cut_short : (cutSlug text).length ≤ maxDNSNameLength := by
  unfold cutSlug
  split
  · have shorter := (trim_right_early (text.take maxDNSNameLength)).length_le
    have taken := List.length_take_le maxDNSNameLength text
    exact Nat.le_trans shorter taken
  · omega

theorem hex_part :
    ((generateID [] drawn).drop 1).length = 12 ∧
      ∀ byte ∈ (generateID [] drawn).drop 1, isAlnum byte = true := by
  cases drawn with
  | none => exact ⟨by decide, List.all_eq_true.mp (by decide)⟩
  | some bytes =>
    have alphabet : ∀ char ∈ hexAlphabet, isAlnum char.toNat.toUInt8 = true :=
      List.all_eq_true.mp (by decide)
    constructor
    · simp [generateID, hex_chars_length]
    · intro byte member
      obtain ⟨char, listed, same⟩ := List.mem_map.mp member
      rw [← same]
      exact alphabet char (hex_chars_listed bytes.toList char listed)

theorem alnum_no_hyphen {byte : UInt8} (alnum : isAlnum byte = true) : byte ≠ hyphen := by
  intro same
  rw [same] at alnum
  contradiction

theorem hyphen_free_apart (free : ∀ byte ∈ text, byte ≠ hyphen) :
    hasPair text = false := by
  rw [Bool.eq_false_iff]
  intro paired
  have inside := ((has_pair_iff text).mp paired).subset List.mem_cons_self
  exact free hyphen inside rfl

theorem random_slug :
    Slug (ascii "res-" ++ (generateID [] drawn).drop 1) := by
  obtain ⟨length, digits⟩ := hex_part
  generalize (generateID [] drawn).drop 1 = part at length digits
  have shape : ascii "res-" = [114, 101, 115, hyphen] := by decide
  have free : ∀ byte ∈ part, byte ≠ hyphen := fun byte member =>
    alnum_no_hyphen (digits byte member)
  have some_digit : part ≠ [] := by
    intro empty
    simp [empty] at length
  obtain ⟨digit, more, parted⟩ := List.exists_cons_of_ne_nil some_digit
  rw [shape]
  refine ⟨⟨?_, ?_, by simp [hyphen], ?_⟩, by simp, ?_⟩
  · intro byte member
    rcases List.mem_append.mp member with lead | digit
    · have letters : [114, 101, 115, hyphen].all isSlugByte = true := by decide
      exact List.all_eq_true.mp letters byte lead
    · simp [isSlugByte, digits byte digit]
  · -- The one hyphen has a letter before it and a digit behind it.
    have behind : hasPair part = false := hyphen_free_apart part free
    have other : digit ≠ hyphen := free digit (by rw [parted]; exact List.mem_cons_self)
    rw [parted] at behind ⊢
    simp only [List.cons_append, List.nil_append, hasPair, behind, beq_false_of_ne other,
      Bool.and_false, Bool.or_false]
    decide
  · rw [List.getLast?_append_of_ne_nil _ some_digit]
    intro last
    exact free hyphen (List.mem_of_getLast? last) rfl
  · simp [length, maxDNSNameLength]

theorem slug_byte_bounds {byte : UInt8} (slug : isSlugByte byte = true) :
    byte.toNat = 45 ∨ (48 ≤ byte.toNat ∧ byte.toNat ≤ 57) ∨
      (97 ≤ byte.toNat ∧ byte.toNat ≤ 122) := by
  simp only [isSlugByte, isAlnum, isLower, isDigit, hyphen, Bool.or_eq_true, Bool.and_eq_true,
    decide_eq_true_eq, beq_iff_eq, UInt8.le_iff_toNat_le, ← UInt8.toNat_inj] at slug
  have numbers : (97 : UInt8).toNat = 97 ∧ (122 : UInt8).toNat = 122 ∧ (48 : UInt8).toNat = 48 ∧
      (57 : UInt8).toNat = 57 ∧ (45 : UInt8).toNat = 45 := by decide
  omega

section Valid

variable (lib : NameLibrary) {text : List UInt8}

theorem slug_runes (bytes : ∀ byte ∈ text, isSlugByte byte = true) :
    lib.runes text = text.map UInt8.toNat := by
  apply lib.runes_ascii
  intro byte member
  have bounds := slug_byte_bounds (bytes byte member)
  rw [UInt8.lt_iff_toNat_lt]
  have limit : (128 : UInt8).toNat = 128 := by decide
  omega

theorem not_inside (byte : UInt8) (member : byte ∈ part)
    (foreign : isSlugByte byte = false) (bytes : ∀ byte ∈ text, isSlugByte byte = true) :
    ¬ part <:+: text := by
  intro inside
  have kept := bytes byte (inside.subset member)
  rw [foreign] at kept
  contradiction

theorem slug_alnum {tidyByte : UInt8} (slug : isSlugByte tidyByte = true)
    (other : tidyByte ≠ hyphen) : isAlnum tidyByte = true := by
  simpa [isSlugByte, other] using slug

theorem slug_matches (slug : Slug text) (several : text.length ≠ 1) :
    matchDNSSafe text = true := by
  have short := slug.short
  match text, slug with
  | [], slug => exact absurd rfl slug.some_byte
  | [_], _ => exact absurd rfl several
  | first :: second :: rest, slug =>
    have begins : isAlnum first = true :=
      slug_alnum (slug.bytes first List.mem_cons_self) (by
        intro same
        exact slug.first (by rw [same]; rfl))
    have middle : (second :: rest).dropLast.all isSlugByte = true := by
      rw [List.all_eq_true]
      intro byte member
      exact slug.bytes byte (List.mem_cons_of_mem _ (List.mem_of_mem_dropLast member))
    have ends : (second :: rest).getLast?.any isAlnum = true := by
      have last := List.getLast?_eq_some_getLast (List.cons_ne_nil second rest)
      rw [last, Option.any_some]
      apply slug_alnum
      · exact slug.bytes _ (List.mem_cons_of_mem _ (List.getLast_mem _))
      · intro same
        apply slug.last
        rw [List.getLast?_cons_cons, last, same]
    have size : (second :: rest).dropLast.length ≤ 61 := by
      simp only [maxDNSNameLength, List.length_cons, List.length_dropLast] at short ⊢
      omega
    rw [matchDNSSafe, begins, middle, ends, decide_eq_true size]
    rfl

theorem slug_valid (slug : Slug text) : validateName lib text .dnsSafe = .ok () := by
  have runes := slug_runes lib slug.bytes
  have lower := lib.toLower_lower text slug.bytes
  have letters : ¬ (lib.runes text).length < 1 := by
    rw [runes, List.length_map]
    exact Nat.not_lt.mpr (List.length_pos_of_ne_nil slug.some_byte)
  have controls : (lib.runes text).find? isControl = none := by
    rw [runes, List.find?_eq_none]
    intro rune member
    obtain ⟨byte, listed, same⟩ := List.mem_map.mp member
    have bounds := slug_byte_bounds (slug.bytes byte listed)
    subst same
    simp only [isControl, Bool.or_eq_true, Bool.and_eq_true, decide_eq_true_eq]
    omega
  have harmless : ¬ (ascii "<script" <:+: lib.toLower text ∨
      ascii "javascript:" <:+: lib.toLower text) := by
    rw [lower]
    rintro (script | address)
    · exact not_inside 60 (by decide) (by decide) slug.bytes script
    · exact not_inside 58 (by decide) (by decide) slug.bytes address
  unfold validateName
  rw [if_neg letters, controls]
  dsimp only
  rw [if_neg harmless, if_neg (Nat.not_lt.mpr slug.short)]
  split
  · rename_i single
    obtain ⟨byte, shape⟩ := List.length_eq_one_iff.mp single
    subst shape
    have other : byte ≠ hyphen := by
      intro same
      exact slug.first (by rw [same]; rfl)
    rw [if_pos (by simpa using slug_alnum (slug.bytes byte List.mem_cons_self) other)]
  · rename_i several
    rw [if_pos (slug_matches slug several)]

theorem slug_separated (byte : UInt8) (slug : isSlugByte byte = true) : separated byte = byte := by
  have bounds := slug_byte_bounds slug
  have separators : ascii " _./\\" = [32, 95, 46, 47, 92] := by decide
  have other : byte ∉ ascii " _./\\" := by
    rw [separators]
    intro member
    simp only [List.mem_cons, List.not_mem_nil, or_false] at member
    rcases member with same | same | same | same | same <;> subst same <;> simp at bounds
  rw [separated, if_neg other]

theorem slug_kept (bytes : ∀ byte ∈ text, isSlugByte byte = true) :
    keepSlugRunes (text.map UInt8.toNat) = text := by
  induction text with
  | nil => rfl
  | cons byte rest ih =>
    have first := bytes byte List.mem_cons_self
    have bounds := slug_byte_bounds first
    have back : byte.toNat.toUInt8 = byte := by simp
    have small : byte.toNat < 128 := by omega
    have onward := ih fun other member => bytes other (List.mem_cons_of_mem _ member)
    unfold keepSlugRunes at onward ⊢
    simp [back, first, small, onward]

theorem slug_fixed (slug : Slug text) :
    generateSlug lib text drawn = text := by
  have plain : text.map separated = text := by
    rw [List.map_congr_left (g := id) (fun byte member => slug_separated byte
      (slug.bytes byte member)), List.map_id]
  have kept : keepSlugRunes (text.map UInt8.toNat) = text := slug_kept slug.bytes
  have collapsed : collapse text = text := by
    rw [collapse, if_neg (by simp [slug.apart])]
  have trimmed : trimHyphens text = text := by
    have front : text.dropWhile (· == hyphen) = text := by
      rw [List.dropWhile_eq_self_iff]
      intro some_byte first
      apply slug.first
      rw [List.head?_eq_getElem?, List.getElem?_eq_getElem some_byte]
      simpa using first
    rw [trimHyphens, front, trimRight, List.rdropWhile_eq_self_iff]
    intro some_byte last
    apply slug.last
    rw [List.getLast?_eq_some_getLast some_byte]
    simpa using last
  have whole : cutSlug text = text := by
    rw [cutSlug, if_neg (Nat.not_lt.mpr slug.short)]
  unfold generateSlug
  dsimp only
  rw [lib.toLower_lower text slug.bytes, plain, slug_runes lib slug.bytes, kept, collapsed, trimmed,
    whole, if_neg slug.some_byte]

end Valid

theorem generated_slug (lib : NameLibrary) (name : List UInt8) (drawn : Option (Vector UInt8 6)) :
    Slug (generateSlug lib name drawn) := by
  unfold generateSlug
  generalize lib.runes ((lib.toLower name).map separated) = runes
  dsimp only
  split
  · exact random_slug
  · rename_i some_byte
    have bytes : ∀ byte ∈ collapse (keepSlugRunes runes), isSlugByte byte = true :=
      fun byte member => keep_bytes byte (collapse_subset member)
    exact ⟨cut_tidy _ (trim_tidy _ bytes collapse_apart), some_byte, cut_short _⟩

/-- Whatever the name and the random bytes: the slug is a valid DNS label, and it
is the slug of itself. -/
theorem slugs_are_labels (lib : NameLibrary) (name : List UInt8)
    (drawn again : Option (Vector UInt8 6)) :
    validateName lib (generateSlug lib name drawn) .dnsSafe = .ok () ∧
      generateSlug lib (generateSlug lib name drawn) again = generateSlug lib name drawn := by
  have slug := generated_slug lib name drawn
  exact ⟨slug_valid lib slug, slug_fixed lib slug⟩

/-- The library on ASCII; every other byte is a rune that no slug has. -/
def asciiNames : NameLibrary where
  toLower text := text.map fun byte => if isUpper byte then byte + 32 else byte
  runes text := text.map fun byte => if byte < 128 then byte.toNat else 0xfffd
  matchGeneral text := text.all fun byte => isAlnum byte || isUpper byte || byte == 32
  toLower_lower text bytes := by
    apply (List.map_congr_left fun byte member => ?_).trans (List.map_id text)
    have bounds := slug_byte_bounds (bytes byte member)
    have lower : isUpper byte = false := by
      have numbers : (65 : UInt8).toNat = 65 ∧ (90 : UInt8).toNat = 90 := by decide
      simp only [isUpper, Bool.and_eq_false_iff, decide_eq_false_iff_not, UInt8.le_iff_toNat_le]
      omega
    rw [lower]
    rfl
  runes_ascii text bytes := by
    apply List.map_congr_left
    intro byte member
    rw [if_pos (bytes byte member)]

example : generateSlug asciiNames (ascii "Web  Server_01") none = ascii "web-server-01" := by
  decide +kernel

end VcStack.Slugs
