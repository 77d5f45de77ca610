import LiveWorld.Spec.Actions

/-!
# Responses are read by their grammar

A number is cut where its digits end, and a text at its first comma; white space occurs in neither. So there is only
one way to read a text that says anything.
-/

namespace LiveWorld.Proof.Actions
open Spec Padding
variable {text digits rest : List Char} {sign : Sign} {v : Binary32}

/-! ## Numbers -/

def Opens (P : Char → Prop) (text : List Char) : Prop := ∀ c ∈ text.head?, P c

theorem takeWhile_digits (all : Digits digits) {rest : List Char} (ended : Opens (fun c => c.isDigit = false) rest) :
    (digits ++ rest).takeWhile Char.isDigit = digits ∧ (digits ++ rest).dropWhile Char.isDigit = rest := by
  have stops : rest.takeWhile Char.isDigit = [] ∧ rest.dropWhile Char.isDigit = rest := by
    cases rest with
    | nil => exact ⟨rfl, rfl⟩
    | cons c more => simp [ended c rfl]
  rw [List.takeWhile_append_of_pos all, List.dropWhile_append_of_pos all, stops.1, stops.2, List.append_nil]
  exact ⟨rfl, rfl⟩

theorem splitSign_unsigned (unsigned : Opens (fun c => c ≠ '-' ∧ c ≠ '+') text) : splitSign text = (false, text) := by
  unfold splitSign
  split
  · exact absurd rfl (unsigned '-' rfl).1
  · exact absurd rfl (unsigned '+' rfl).2
  · rfl

theorem splitSign_text (sign : Sign) (unsigned : Opens (fun c => c ≠ '-' ∧ c ≠ '+') text) :
    splitSign (sign.text ++ text) = (sign.negative, text) := by
  cases sign with
  | absent => exact splitSign_unsigned unsigned
  | plus => rfl
  | minus => rfl

theorem exists_sign (text : List Char) : ∃ sign : Sign, text = sign.text ++ (splitSign text).2 ∧
    (splitSign text).1 = sign.negative := by
  unfold splitSign
  split
  · exact ⟨.minus, rfl, rfl⟩
  · exact ⟨.plus, rfl, rfl⟩
  · exact ⟨.absent, rfl, rfl⟩

theorem isDigits_iff : isDigits digits = true ↔ digits ≠ [] ∧ Digits digits := by
  simp [isDigits, Digits]

theorem unsigned_digits (all : Digits digits) : Opens (fun c => c ≠ '-' ∧ c ≠ '+') digits := by
  intro c given
  have digit := all c (List.mem_of_mem_head? given)
  constructor
  · rintro rfl
    cases digit
  · rintro rfl
    cases digit

/-! ## Exponents -/

def exponentText (exponent : Option Exponent) : List Char := (exponent.map Exponent.text).getD []

theorem parseExponent_text {exponent : Option Exponent} (valid : ∀ e ∈ exponent, e.Valid) :
    parseExponent (exponentText exponent) = some ((exponent.map Exponent.value).getD 0) := by
  cases exponent with
  | none => rfl
  | some e =>
      have good := valid e rfl
      change parseExponent (e.letter :: (e.sign.text ++ e.digits)) = some e.value
      have shaped : (e.letter = 'e' ∨ e.letter = 'E') ∧ isDigits e.digits = true :=
        ⟨good.letter, isDigits_iff.mpr ⟨good.some, good.digits⟩⟩
      simp only [parseExponent, splitSign_text e.sign (unsigned_digits good.digits), if_pos shaped]
      rfl

theorem exists_exponent {value : Int} (parsed : parseExponent text = some value) :
    ∃ exponent : Option Exponent, (∀ e ∈ exponent, e.Valid) ∧ text = exponentText exponent ∧
      value = (exponent.map Exponent.value).getD 0 := by
  cases text with
  | nil =>
      cases parsed
      exact ⟨none, fun e given => (Option.not_mem_none e given).elim, rfl, rfl⟩
  | cons c rest =>
      obtain ⟨sign, same, negative⟩ := exists_sign rest
      simp only [parseExponent, negative] at parsed
      by_cases shaped : (c = 'e' ∨ c = 'E') ∧ isDigits (splitSign rest).2 = true
      · obtain ⟨nonempty, all⟩ := isDigits_iff.mp shaped.2
        rw [if_pos shaped] at parsed
        refine ⟨some ⟨c, sign, (splitSign rest).2⟩, fun e given => ?_, ?_, ?_⟩
        · cases given
          exact ⟨shaped.1, all, nonempty⟩
        · exact congrArg (c :: ·) same
        · exact (Option.some.inj parsed).symm
      · rw [if_neg shaped] at parsed
        cases parsed

/-! ## Whole numbers and fractions -/

variable {numeral : Numeral}

theorem exponent_opens {exponent : Option Exponent} (valid : ∀ e ∈ exponent, e.Valid) :
    Opens (fun c => c.isDigit = false ∧ c ≠ '.') (exponentText exponent) := by
  cases exponent with
  | none => exact fun c given => (Option.not_mem_none c given).elim
  | some e =>
      intro c given
      obtain rfl : e.letter = c := Option.some.inj given
      rcases (valid e rfl).letter with small | large
      · rw [small]
        decide
      · rw [large]
        decide

theorem nonempty_of_append {one other : List Char} (some : one ++ other ≠ []) : (one.isEmpty && other.isEmpty) = false := by
  cases one with
  | nil =>
      cases other with
      | nil => exact absurd rfl some
      | cons => rfl
  | cons => rfl

/-- The digits after a point, and what comes after them. -/
def splitPoint : List Char → List Char × List Char
  | '.' :: rest => (rest.takeWhile Char.isDigit, rest.dropWhile Char.isDigit)
  | rest => ([], rest)

theorem parseNumber_eq (text : List Char) :
    parseNumber text =
      let whole := text.takeWhile Char.isDigit
      let (fraction, rest) := splitPoint (text.dropWhile Char.isDigit)
      if whole.isEmpty && fraction.isEmpty then none
      else (parseExponent rest).map fun exponent =>
        (digitsValue (whole ++ fraction) : Rat) * (10 : Rat) ^ (exponent - (fraction.length : Int)) := rfl

def fractionText (fraction : Option (List Char)) : List Char := (fraction.map ('.' :: ·)).getD []

theorem splitPoint_text {fraction : Option (List Char)} (all : Digits (fraction.getD []))
    (ended : Opens (fun c => c.isDigit = false ∧ c ≠ '.') rest) :
    splitPoint (fractionText fraction ++ rest) = (fraction.getD [], rest) := by
  cases fraction with
  | some digits =>
      obtain ⟨first, second⟩ := takeWhile_digits all fun c given => (ended c given).1
      exact Prod.ext first second
  | none =>
      change splitPoint rest = ([], rest)
      unfold splitPoint
      split
      · exact absurd rfl (ended '.' rfl).2
      · rfl

theorem exists_fraction (text : List Char) : ∃ fraction : Option (List Char), Digits (fraction.getD []) ∧
    fraction.getD [] = (splitPoint text).1 ∧ text = fractionText fraction ++ (splitPoint text).2 := by
  unfold splitPoint
  split
  · rename_i rest
    refine ⟨some (rest.takeWhile Char.isDigit), blank_takeWhile Char.isDigit rest, rfl, ?_⟩
    exact congrArg ('.' :: ·) List.takeWhile_append_dropWhile.symm
  · exact ⟨none, fun c given => (List.not_mem_nil given).elim, rfl, rfl⟩

theorem fraction_opens (fraction : Option (List Char)) (ended : Opens (fun c => c.isDigit = false ∧ c ≠ '.') rest) :
    Opens (fun c => c.isDigit = false) (fractionText fraction ++ rest) := by
  cases fraction with
  | none => exact fun c given => (ended c given).1
  | some digits =>
      intro c given
      cases given
      rfl

theorem parseNumber_text (valid : numeral.Valid) : parseNumber numeral.text = some numeral.value := by
  have opens := exponent_opens valid.exponent
  obtain ⟨first, second⟩ := takeWhile_digits valid.whole (fraction_opens numeral.fraction opens)
  have text : numeral.text = numeral.whole ++ (fractionText numeral.fraction ++ exponentText numeral.exponent) := rfl
  simp only [parseNumber_eq, text, first, second, splitPoint_text valid.decimals opens, parseExponent_text valid.exponent]
  rw [if_neg]
  · rfl
  · rw [Bool.not_eq_true]
    exact nonempty_of_append valid.some

theorem exists_numeral {value : Rat} (parsed : parseNumber text = some value) :
    ∃ numeral : Numeral, numeral.Valid ∧ text = numeral.text ∧ value = numeral.value := by
  obtain ⟨fraction, all, decimals, cut⟩ := exists_fraction (text.dropWhile Char.isDigit)
  simp only [parseNumber_eq] at parsed
  split_ifs at parsed with empty
  obtain ⟨power, exponential, same⟩ := Option.map_eq_some_iff.mp parsed
  obtain ⟨exponent, valid, written, read⟩ := exists_exponent exponential
  refine ⟨⟨text.takeWhile Char.isDigit, fraction, exponent⟩, ⟨blank_takeWhile Char.isDigit text, all, ?_, valid⟩, ?_, ?_⟩
  · intro nothing
    obtain ⟨one, two⟩ := List.append_eq_nil_iff.mp nothing
    apply empty
    change text.takeWhile Char.isDigit = [] at one
    change fraction.getD [] = [] at two
    rw [one, ← decimals, two]
    rfl
  · change text = text.takeWhile Char.isDigit ++ (fractionText fraction ++ exponentText exponent)
    rw [← written, ← cut, List.takeWhile_append_dropWhile]
  · rw [← same, read, ← decimals]
    rfl

/-! ## Signs and words -/

theorem numeral_opens (valid : numeral.Valid) : ∃ c rest, numeral.text = c :: rest ∧ (c.isDigit = true ∨ c = '.') := by
  obtain ⟨whole, fraction, exponent⟩ := numeral
  cases whole with
  | cons c rest => exact ⟨c, _, rfl, .inl (valid.whole c List.mem_cons_self)⟩
  | nil =>
      cases fraction with
      | some digits => exact ⟨'.', _, rfl, .inr rfl⟩
      | none => exact absurd rfl valid.some

theorem unsigned_numeral (valid : numeral.Valid) : Opens (fun c => c ≠ '-' ∧ c ≠ '+') numeral.text := by
  obtain ⟨c, rest, text, shape⟩ := numeral_opens valid
  rw [text]
  intro d given
  obtain rfl : c = d := Option.some.inj given
  constructor
  · rintro rfl
    rcases shape with digit | point
    · cases digit
    · cases point
  · rintro rfl
    rcases shape with digit | point
    · cases digit
    · cases point

theorem toLower_eq {c : Char} (other : c.toNat < 65 ∨ 90 < c.toNat) : c.toLower = c := by
  have first : ('A' : Char).toNat = 65 := rfl
  have last : ('Z' : Char).toNat = 90 := rfl
  unfold Char.toLower
  rw [dif_neg]
  simp only [ge_iff_le, UInt32.le_iff_toNat_le, Char.toNat_val]
  omega

theorem toNat_digit {c : Char} (digit : c.isDigit = true) : 48 ≤ c.toNat ∧ c.toNat ≤ 57 := by
  simp only [Char.isDigit, Bool.and_eq_true, decide_eq_true_eq, ge_iff_le, UInt32.le_iff_toNat_le, Char.toNat_val] at digit
  exact digit

theorem toNat_space {c : Char} (space : isWhiteSpace c = true) : c.toNat ≤ 32 ∨ 133 ≤ c.toNat := by
  simp only [isWhiteSpace, Bool.or_eq_true, Bool.and_eq_true, decide_eq_true_eq, beq_iff_eq] at space
  omega

/-- All letters of the words for what is no number. -/
def Lettered (name : String) : Prop := name ≠ "" ∧ ∀ c ∈ name.toList, 97 ≤ c.toNat ∧ c.toNat ≤ 122

theorem toNat_lettered {name : String} (lettered : Lettered name) (named : lower text = name) {c : Char} (member : c ∈ text) :
    65 ≤ c.toNat ∧ c.toNat ≤ 122 := by
  have low : c.toLower ∈ name.toList := by
    rw [← named, lower, String.toList_ofList]
    exact List.mem_map_of_mem member
  have range := lettered.2 _ low
  by_cases capital : c.toNat < 65 ∨ 90 < c.toNat
  · rw [toLower_eq capital] at range
    omega
  · omega

theorem unsigned_word {name : String} (lettered : Lettered name) (named : lower text = name) :
    Opens (fun c => c ≠ '-' ∧ c ≠ '+') text := by
  intro c given
  have range := toNat_lettered lettered named (List.mem_of_mem_head? given)
  constructor
  · rintro rfl
    exact absurd range.1 (by decide)
  · rintro rfl
    exact absurd range.1 (by decide)

theorem lower_ne_of_numeral (valid : numeral.Valid) {name : String} (lettered : Lettered name) : lower numeral.text ≠ name := by
  intro named
  obtain ⟨c, rest, text, shape⟩ := numeral_opens valid
  have range := toNat_lettered lettered named (text ▸ List.mem_cons_self : c ∈ numeral.text)
  rcases shape with digit | rfl
  · have small := toNat_digit digit
    omega
  · exact absurd range.1 (by decide)

theorem lettered_inf : Lettered "inf" := by simp [Lettered]

theorem lettered_infinity : Lettered "infinity" := by simp [Lettered]

theorem lettered_nan : Lettered "nan" := by simp [Lettered]

theorem parseF32_eq (text : List Char) :
    parseF32 (String.ofList text) =
      if lower (splitSign text).2 = "inf" ∨ lower (splitSign text).2 = "infinity" then some (.infinite (splitSign text).1)
      else if lower (splitSign text).2 = "nan" then some .nan
      else (parseNumber (splitSign text).2).map fun value => .round (if (splitSign text).1 then -value else value) := by
  simp only [parseF32, String.toList_ofList]
  rfl

theorem parseF32_iff : parseF32 (String.ofList text) = some v ↔ ReadsAs text v := by
  rw [parseF32_eq]
  constructor
  · intro parsed
    obtain ⟨sign, same, negative⟩ := exists_sign text
    rw [negative] at parsed
    rw [same]
    by_cases infinite : lower (splitSign text).2 = "inf" ∨ lower (splitSign text).2 = "infinity"
    · rw [if_pos infinite] at parsed
      cases parsed
      exact .infinite sign _ infinite
    · rw [if_neg infinite] at parsed
      by_cases nan : lower (splitSign text).2 = "nan"
      · rw [if_pos nan] at parsed
        cases parsed
        exact .nan sign _ nan
      · rw [if_neg nan] at parsed
        obtain ⟨value, number, rfl⟩ := Option.map_eq_some_iff.mp parsed
        obtain ⟨numeral, valid, text, rfl⟩ := exists_numeral number
        rw [text]
        exact .number sign numeral valid
  · intro reads
    cases reads with
    | number sign numeral valid =>
        have read := splitSign_text sign (unsigned_numeral valid)
        have infinite := not_or.mpr ⟨lower_ne_of_numeral valid lettered_inf, lower_ne_of_numeral valid lettered_infinity⟩
        have nan := lower_ne_of_numeral valid lettered_nan
        rw [read, if_neg infinite, if_neg nan, parseNumber_text valid]
        rfl
    | infinite sign word named =>
        have unsigned : Opens (fun c => c ≠ '-' ∧ c ≠ '+') word := by
          rcases named with short | long
          · exact unsigned_word lettered_inf short
          · exact unsigned_word lettered_infinity long
        rw [splitSign_text sign unsigned, if_pos named]
    | nan sign word named =>
        have other : ¬(lower word = "inf" ∨ lower word = "infinity") := by
          rw [named]
          decide
        rw [splitSign_text sign (unsigned_word lettered_nan named), if_neg other, if_pos named]

/-! ## Numbers hold together -/

def Solid (c : Char) : Prop := isWhiteSpace c = false ∧ c ≠ ','

theorem solid_of_toNat {c : Char} (range : 33 ≤ c.toNat ∧ c.toNat ≤ 132) (other : c ≠ ',') : Solid c := by
  refine ⟨?_, other⟩
  rw [Bool.eq_false_iff]
  intro space
  have codes := toNat_space space
  omega

theorem solid_digit {c : Char} (digit : c.isDigit = true) : Solid c := by
  have range := toNat_digit digit
  refine solid_of_toNat (by omega) ?_
  rintro rfl
  cases digit

theorem solid_sign (sign : Sign) : ∀ c ∈ sign.text, Solid c := by
  cases sign with
  | absent => exact fun c given => (List.not_mem_nil given).elim
  | plus => simp [Sign.text, Solid, isWhiteSpace]
  | minus => simp [Sign.text, Solid, isWhiteSpace]

theorem solid_word {name : String} (lettered : Lettered name) (named : lower text = name) : ∀ c ∈ text, Solid c := by
  intro c member
  have range := toNat_lettered lettered named member
  refine solid_of_toNat (by omega) ?_
  rintro rfl
  exact absurd range.1 (by decide)

theorem solid_exponent {e : Exponent} (valid : e.Valid) : ∀ c ∈ e.text, Solid c := by
  rw [Exponent.text, List.forall_mem_cons, List.forall_mem_append]
  refine ⟨?_, solid_sign e.sign, fun c member => solid_digit (valid.digits c member)⟩
  rcases valid.letter with small | large
  · rw [small]
    simp [Solid, isWhiteSpace]
  · rw [large]
    simp [Solid, isWhiteSpace]

theorem solid_numeral (valid : numeral.Valid) : ∀ c ∈ numeral.text, Solid c := by
  have digits {digits : List Char} (all : Digits digits) : ∀ c ∈ digits, Solid c := fun c member => solid_digit (all c member)
  obtain ⟨whole, fraction, exponent⟩ := numeral
  refine List.forall_mem_append.mpr ⟨digits valid.whole, List.forall_mem_append.mpr ⟨?_, ?_⟩⟩
  · cases fraction with
    | none => exact fun c given => (List.not_mem_nil given).elim
    | some after =>
        refine List.forall_mem_cons.mpr ⟨?_, digits valid.decimals⟩
        simp [Solid, isWhiteSpace]
  · cases exponent with
    | none => exact fun c given => (List.not_mem_nil given).elim
    | some e => exact solid_exponent (valid.exponent e rfl)

theorem solid_reads (reads : ReadsAs text v) : text ≠ [] ∧ ∀ c ∈ text, Solid c := by
  have word {word : List Char} {name : String} (sign : Sign) (lettered : Lettered name) (named : lower word = name) :
      sign.text ++ word ≠ [] ∧ ∀ c ∈ sign.text ++ word, Solid c := by
    refine ⟨fun empty => lettered.1 ?_, List.forall_mem_append.mpr ⟨solid_sign sign, solid_word lettered named⟩⟩
    rw [← named, (List.append_eq_nil_iff.mp empty).2]
    rfl
  cases reads with
  | number sign numeral valid =>
      refine ⟨fun empty => ?_, List.forall_mem_append.mpr ⟨solid_sign sign, solid_numeral valid⟩⟩
      obtain ⟨c, rest, text, -⟩ := numeral_opens valid
      rw [(List.append_eq_nil_iff.mp empty).2] at text
      cases text
  | infinite sign text named =>
      rcases named with short | long
      · exact word sign lettered_inf short
      · exact word sign lettered_infinity long
  | nan sign text named => exact word sign lettered_nan named

/-! ## Coordinates -/

theorem splitn_comma {front : List Char} (absent : ',' ∉ front) (rest : List Char) :
    splitn 2 ',' (front ++ ',' :: rest) = [front, rest] := by
  have passes : ∀ c ∈ front, decide (c ≠ ',') = true := fun c member => decide_eq_true fun same => absent (same ▸ member)
  rw [splitn, List.dropWhile_append_of_pos passes, List.takeWhile_append_of_pos passes]
  simp [splitn]

theorem exists_comma {front rest : List Char} (split : splitn 2 ',' text = [front, rest]) : text = front ++ ',' :: rest := by
  have cut : text.takeWhile (· ≠ ',') ++ text.dropWhile (· ≠ ',') = text := List.takeWhile_append_dropWhile
  have solid := solid_dropWhile (fun c : Char => decide (c ≠ ',')) text
  rw [splitn] at split
  split at split
  · cases split
  · rename_i c more here
    rw [here] at cut solid
    have comma : c = ',' := by simpa using solid c rfl
    simp only [splitn, List.cons.injEq, and_true] at split
    rw [← cut, split.1, split.2, comma]

theorem trim_ofList (text : List Char) : trim (String.ofList text) = String.ofList (strip isWhiteSpace text) := by
  rw [trim, String.toList_ofList]
  rfl

theorem tight_reads (reads : ReadsAs text v) : Tight isWhiteSpace text :=
  Tight.of_forall fun c member => ((solid_reads reads).2 c member).1

theorem parse_trim_iff : parseF32 (trim (String.ofList text)) = some v ↔
    ∃ front number back, (Space front ∧ Space back) ∧ ReadsAs number v ∧ text = front ++ number ++ back := by
  rw [trim_ofList, parseF32_iff]
  constructor
  · intro reads
    obtain ⟨front, back, same, before, after, -⟩ := exists_padding isWhiteSpace text
    exact ⟨front, _, back, ⟨before, after⟩, reads, same⟩
  · rintro ⟨front, number, back, ⟨before, after⟩, reads, rfl⟩
    rw [strip_padded before (tight_reads reads) after]
    exact reads

theorem parseCoordinates_eq_some {x y : Binary32} : parseCoordinates (String.ofList text) = some (x, y) ↔
    ∃ front rest, splitn 2 ',' text = [front, rest] ∧ parseF32 (trim (String.ofList front)) = some x ∧
      parseF32 (trim (String.ofList rest)) = some y := by
  rw [parseCoordinates, String.toList_ofList]
  constructor
  · intro parsed
    split at parsed
    · rename_i front rest pieces
      split at parsed
      · rename_i one two
        cases parsed
        exact ⟨front, rest, pieces, one, two⟩
      · cases parsed
    · cases parsed
  · rintro ⟨front, rest, pieces, one, two⟩
    simp only [pieces, one, two]

theorem no_comma {front number back : List Char} (before : Space front) (after : Space back) (reads : ReadsAs number v) :
    ',' ∉ front ++ number ++ back := by
  have visible : isWhiteSpace ',' = false := by simp [isWhiteSpace]
  have apart {padding : List Char} (blank : Space padding) : ',' ∉ padding := by
    intro member
    rw [blank _ member] at visible
    cases visible
  rw [List.mem_append, List.mem_append, not_or, not_or]
  exact ⟨⟨apart before, fun member => ((solid_reads reads).2 _ member).2 rfl⟩, apart after⟩

theorem parseCoordinates_iff {x y : Binary32} : parseCoordinates (String.ofList text) = some (x, y) ↔
    ∃ first xs second third ys fourth, (Space first ∧ Space second) ∧ (Space third ∧ Space fourth) ∧
      ReadsAs xs x ∧ ReadsAs ys y ∧ text = (first ++ xs ++ second) ++ ',' :: (third ++ ys ++ fourth) := by
  rw [parseCoordinates_eq_some]
  constructor
  · rintro ⟨front, rest, pieces, one, two⟩
    obtain ⟨first, xs, second, spaces, reads, rfl⟩ := parse_trim_iff.mp one
    obtain ⟨third, ys, fourth, spaces', reads', rfl⟩ := parse_trim_iff.mp two
    exact ⟨first, xs, second, third, ys, fourth, spaces, spaces', reads, reads', exists_comma pieces⟩
  · rintro ⟨first, xs, second, third, ys, fourth, spaces, spaces', reads, reads', rfl⟩
    exact ⟨_, _, splitn_comma (no_comma spaces.1 spaces.2 reads) _,
      parse_trim_iff.mpr ⟨first, xs, second, spaces, reads, rfl⟩, parse_trim_iff.mpr ⟨third, ys, fourth, spaces', reads', rfl⟩⟩

/-! ## Actions -/

theorem stripPrefix_iff {front : String} {rest : List Char} :
    stripPrefix front (String.ofList text) = some (String.ofList rest) ↔ text = front.toList ++ rest := by
  simp only [stripPrefix, String.toList_ofList]
  constructor
  · intro stripped
    split_ifs at stripped with starts
    obtain ⟨more, rfl⟩ := List.isPrefixOf_iff_prefix.mp starts
    rw [List.drop_left, Option.some.injEq, String.ofList_inj] at stripped
    rw [stripped]
  · rintro rfl
    rw [if_pos (List.isPrefixOf_iff_prefix.mpr ⟨rest, rfl⟩), List.drop_left]

theorem stripPrefix_append (front : String) (rest : List Char) :
    stripPrefix front (String.ofList (front.toList ++ rest)) = some (String.ofList rest) := stripPrefix_iff.mpr rfl

/-- The response without the white space around it. -/
def said (text : List Char) : List Char := strip isWhiteSpace text

theorem parseAction_move {x y : Binary32} (words : said text = "MOVE ".toList ++ rest)
    (parsed : parseCoordinates (String.ofList rest) = some (x, y)) : parseAction (String.ofList text) = .Move x y := by
  simp only [parseAction, trim_ofList, show strip isWhiteSpace text = _ from words, stripPrefix_append,
    Option.bind_some, parsed]

theorem parseAction_speak (words : said text = "SPEAK ".toList ++ rest) :
    parseAction (String.ofList text) = .Speak (String.ofList rest) := by
  have other : stripPrefix "MOVE " (String.ofList ("SPEAK ".toList ++ rest)) = none := by simp [stripPrefix]
  simp only [parseAction, trim_ofList, show strip isWhiteSpace text = _ from words, stripPrefix_append, other,
    Option.bind_none]

theorem parseAction_attack (words : said text = "ATTACK ".toList ++ rest) :
    parseAction (String.ofList text) = .Attack (String.ofList (strip isWhiteSpace rest)) := by
  have other : stripPrefix "MOVE " (String.ofList ("ATTACK ".toList ++ rest)) = none := by simp [stripPrefix]
  have other' : stripPrefix "SPEAK " (String.ofList ("ATTACK ".toList ++ rest)) = none := by simp [stripPrefix]
  simp only [parseAction, trim_ofList, show strip isWhiteSpace text = _ from words, stripPrefix_append, other,
    other', Option.bind_none]

theorem parseAction_cases (text : List Char) : parseAction (String.ofList text) = .Idle ∨
    (∃ rest x y, said text = "MOVE ".toList ++ rest ∧ parseCoordinates (String.ofList rest) = some (x, y)) ∨
    (∃ rest, said text = "SPEAK ".toList ++ rest) ∨ ∃ rest, said text = "ATTACK ".toList ++ rest := by
  have read {front rest : String} (stripped : stripPrefix front (String.ofList (strip isWhiteSpace text)) = some rest) :
      said text = front.toList ++ rest.toList := by
    rw [← String.ofList_toList (s := rest)] at stripped
    exact stripPrefix_iff.mp stripped
  unfold parseAction
  rw [trim_ofList]
  simp only
  split
  · rename_i x y moved
    obtain ⟨rest, stripped, parsed⟩ := Option.bind_eq_some_iff.mp moved
    refine .inr (.inl ⟨rest.toList, x, y, read stripped, ?_⟩)
    rw [String.ofList_toList]
    exact parsed
  · split
    · rename_i rest stripped
      exact .inr (.inr (.inl ⟨_, read stripped⟩))
    · split
      · rename_i rest stripped
        exact .inr (.inr (.inr ⟨_, read stripped⟩))
      · exact .inl rfl

theorem last_append {front rest : List Char} (last : ∀ c ∈ (front ++ rest).getLast?, isWhiteSpace c = false)
    (spaced : ∃ c ∈ front.getLast?, isWhiteSpace c = true) :
    rest ≠ [] ∧ ∀ c ∈ rest.getLast?, isWhiteSpace c = false := by
  have nonempty : rest ≠ [] := by
    rintro rfl
    obtain ⟨c, final, space⟩ := spaced
    rw [List.append_nil] at last
    rw [last c final] at space
    cases space
  rw [List.getLast?_append_of_ne_nil _ nonempty] at last
  exact ⟨nonempty, last⟩

theorem spoken_of_parse {action : AgentAction} (busy : action ≠ .Idle) (parsed : parseAction (String.ofList text) = action) :
    Says text action := by
  obtain ⟨before, after, same, space, space', tight⟩ := exists_padding isWhiteSpace text
  change text = before ++ said text ++ after at same
  change Tight isWhiteSpace (said text) at tight
  rcases parseAction_cases text with idle | ⟨rest, x, y, words, coordinates⟩ | ⟨rest, words⟩ | ⟨rest, words⟩
  · exact absurd (parsed.symm.trans idle) busy
  · obtain ⟨first, xs, second, third, ys, fourth, spaces, spaces', reads, reads', rfl⟩ := parseCoordinates_iff.mp coordinates
    rw [← parsed, parseAction_move words coordinates, same, words]
    have shape := Says.move ⟨space, spaces.1, spaces.2, spaces'.1, spaces'.2.append space'⟩ reads reads'
    simp only [List.append_assoc, List.cons_append] at shape ⊢
    exact shape
  · have spaced : ∃ c ∈ "SPEAK ".toList.getLast?, isWhiteSpace c = true := ⟨' ', rfl, by simp [isWhiteSpace]⟩
    obtain ⟨some, ended⟩ := last_append (words ▸ tight.last) spaced
    rw [← parsed, parseAction_speak words, same, words]
    exact .speak space space' some ended
  · have spaced : ∃ c ∈ "ATTACK ".toList.getLast?, isWhiteSpace c = true := ⟨' ', rfl, by simp [isWhiteSpace]⟩
    obtain ⟨some, ended⟩ := last_append (words ▸ tight.last) spaced
    obtain ⟨between, fourth, cut, blank, blank', trimmed⟩ := exists_padding isWhiteSpace rest
    rw [← parsed, parseAction_attack words, same, words]
    generalize strip isWhiteSpace rest = name at cut trimmed
    subst cut
    have named : name ≠ [] := by
      rintro rfl
      rw [List.append_nil] at some ended
      have final := List.getLast?_eq_some_getLast some
      have shown := ended _ final
      rw [blank.append blank' _ (List.getLast_mem some)] at shown
      cases shown
    have shape := Says.attack space blank (blank'.append space') named trimmed
    simp only [List.append_assoc] at shape ⊢
    exact shape

theorem said_padded {word : String} (visible : ∀ c ∈ word.toList.head?, isWhiteSpace c = false) (nonempty : word.toList ≠ [])
    {before back after : List Char} (middle : List Char) (blank : Space before) (blank' : Space after)
    (ended : ∀ c ∈ back.getLast?, isWhiteSpace c = false) (some : back ≠ []) :
    said (before ++ (word.toList ++ (middle ++ back)) ++ after) = word.toList ++ (middle ++ back) := by
  rw [← List.append_assoc word.toList]
  exact strip_padded blank (Tight.of_ends visible nonempty ended some) blank'

theorem parse_spoken {action : AgentAction} (spoken : Says text action) : parseAction (String.ofList text) = action := by
  cases spoken with
  | @move before first second third after xs ys x y blanks reads reads' =>
      obtain ⟨one, two, three, four, five⟩ := blanks
      have visible : ∀ c ∈ "MOVE ".toList.head?, isWhiteSpace c = false := by simp [isWhiteSpace]
      have words := said_padded visible (by simp) (first ++ (xs ++ (second ++ ',' :: third))) one five (tight_reads reads').last
        (solid_reads reads').1
      simp only [List.append_assoc, List.cons_append] at words ⊢
      apply parseAction_move words
      refine parseCoordinates_iff.mpr ⟨first, xs, second, third, ys, [], ⟨two, three⟩, ⟨four, ?_⟩, reads, reads', ?_⟩
      · exact fun c given => (List.not_mem_nil given).elim
      · simp only [List.append_assoc, List.append_nil]
  | @speak before words after blank blank' some ended =>
      have visible : ∀ c ∈ "SPEAK ".toList.head?, isWhiteSpace c = false := by simp [isWhiteSpace]
      exact parseAction_speak (said_padded visible (by simp) [] blank blank' ended some)
  | @attack before between name after blank blank' blank'' some tight =>
      have visible : ∀ c ∈ "ATTACK ".toList.head?, isWhiteSpace c = false := by simp [isWhiteSpace]
      rw [parseAction_attack (said_padded visible (by simp) between blank blank'' tight.last some)]
      have trimmed := strip_padded blank' tight fun c given => (List.not_mem_nil given).elim
      rw [List.append_nil] at trimmed
      rw [trimmed]

theorem parses_what_is_said (text : List Char) (action : AgentAction) :
    Says text action ↔ action ≠ .Idle ∧ parseAction (String.ofList text) = action := by
  constructor
  · intro spoken
    refine ⟨?_, parse_spoken spoken⟩
    rintro rfl
    cases spoken
  · exact fun parsed => spoken_of_parse parsed.1 parsed.2

end LiveWorld.Proof.Actions
