import SwapMonitor.Domain.EvidencePayload
import SwapMonitor.Numerals.Digits

namespace SwapMonitor
open Numerals

-- str.strip on a list of characters, of those that satisfy a test.
def trim (drops : Char → Bool) (cs : List Char) : List Char :=
  ((cs.dropWhile drops).reverse.dropWhile drops).reverse

def takeSign : List Char → Bool × List Char
  | '-' :: rest => (true,rest)
  | '+' :: rest => (false,rest)
  | cs => (false,cs)

-- An infinity, or a NaN with or without a payload.
def notFinite (cs : List Char) : Bool :=
  let lower := cs.map Char.toLower
  lower = "inf".toList || lower = "infinity".toList ||
    ["nan","snan"].any fun name =>
      name.toList.isPrefixOf lower && (lower.drop name.length).all fun c => '0' ≤ c && c ≤ '9'

-- What follows the indicator of an exponent.
def readExponent : List Char → Option Int
  | [] => some 0
  | _ :: cs =>
    let (negative,digits) := takeSign cs
    if digits = [] then none
    else (readNumeral 10 digits 0).map fun (n : Nat) => if negative then -(n : Int) else (n : Int)

def finiteDecimal (negative : Bool) (cs : List Char) : Option Decimal := do
  let mantissa := cs.takeWhile fun c => c ≠ 'e' && c ≠ 'E'
  let exponent ← readExponent (cs.dropWhile fun c => c ≠ 'e' && c ≠ 'E')
  let whole := mantissa.takeWhile (· ≠ '.')
  let fraction := (mantissa.dropWhile (· ≠ '.')).drop 1
  if whole ++ fraction = [] then none
  else
    let coefficient ← readNumeral 10 (whole ++ fraction) 0
    pure ⟨negative,coefficient,exponent - fraction.length⟩

-- Decimal(text): nothing for a text that is no number, and no value for a number that is not finite.
def parseDecimal (text : String) : Option (Option Decimal) :=
  let (negative,cs) := takeSign ((trim isSpace text.toList).filter (· ≠ '_'))
  if notFinite cs then some none else (finiteDecimal negative cs).map some

-- str.replace(text, "") where the text is not empty.
def removeText (text : List Char) : Nat → List Char → List Char
  | _,[] => []
  | skip + 1,_ :: rest => removeText text skip rest
  | 0,c :: rest => if text.isPrefixOf (c :: rest) then removeText text (text.length - 1) rest
    else c :: removeText text 0 rest

-- UUID(text)
def parseUUID (text : String) : Option UUID :=
  let bare := removeText "uuid:".toList 0 (removeText "urn:".toList 0 text.toList)
  let hex := (trim (fun c => c = '\x7b' || c = '\x7d') bare).filter (· ≠ '-')
  if hex.length = 32 then readNumeral 16 hex 0 else none

theorem trim_kept {drops : Char → Bool} {cs : List Char} (kept : ∀ c ∈ cs, drops c = false) : trim drops cs = cs := by
  have front : ∀ l : List Char, (∀ c ∈ l, drops c = false) → l.dropWhile drops = l := by
    intro l kept
    cases l with
    | nil => rfl
    | cons c rest => exact List.dropWhile_cons_of_neg (by simp [kept c (List.mem_cons_self ..)])
  rw [trim,front cs kept,front cs.reverse fun c member => kept c (List.mem_reverse.mp member),List.reverse_reverse]

section Decimals
variable {negative : Bool} {whole fraction shown : List Char} {coefficient : Nat} {exponent : Int}

-- The characters of a number that mean nothing but themselves.
def PlainChar (c : Char) : Prop := isSpace c = false ∧ c ≠ '_'

def DecimalDigit (c : Char) : Prop := ∃ d < 10, c = Nat.digitChar d

theorem digit_plain : ∀ d < 10, isSpace (Nat.digitChar d) = false ∧ Nat.digitChar d ≠ '_' ∧ Nat.digitChar d ≠ '.' ∧
    Nat.digitChar d ≠ 'e' ∧ Nat.digitChar d ≠ 'E' ∧ Nat.digitChar d ≠ '-' ∧ Nat.digitChar d ≠ '+' ∧
    (Nat.digitChar d).toLower = Nat.digitChar d ∧ Nat.digitChar d ≠ 'i' ∧ Nat.digitChar d ≠ 'n' ∧ Nat.digitChar d ≠ 's' := by
  decide

-- A fraction with the point before it.
def dotted (fraction : List Char) : List Char := if fraction = [] then [] else '.' :: fraction

-- An exponent is left out or written after its indicator.
def Indicated (shown : List Char) : Prop := shown = [] ∨ ∃ rest, shown = 'E' :: rest

theorem mantissa_split (digits : ∀ c ∈ whole ++ fraction, DecimalDigit c) (indicated : Indicated shown) :
    (whole ++ dotted fraction ++ shown).takeWhile (fun c => c ≠ 'e' && c ≠ 'E') = whole ++ dotted fraction ∧
    (whole ++ dotted fraction ++ shown).dropWhile (fun c => c ≠ 'e' && c ≠ 'E') = shown := by
  have inside : ∀ c ∈ whole ++ dotted fraction, (c ≠ 'e' && c ≠ 'E') = true := by
    intro c member
    have digit : ∀ c, DecimalDigit c → (c ≠ 'e' && c ≠ 'E') = true := by
      rintro _ ⟨d,small,rfl⟩
      obtain ⟨_,_,_,lower,upper,_⟩ := digit_plain d small
      simp [lower,upper]
    rcases List.mem_append.mp member with first | later
    · exact digit c (digits c (List.mem_append_left _ first))
    · unfold dotted at later
      split at later
      · cases later
      · rcases List.mem_cons.mp later with rfl | last
        · rfl
        · exact digit c (digits c (List.mem_append_right _ last))
  rw [List.takeWhile_append_of_pos inside,List.dropWhile_append_of_pos inside]
  rcases indicated with rfl | ⟨rest,rfl⟩
  · simp
  · simp

theorem point_split (fraction : List Char) (digits : ∀ c ∈ whole, DecimalDigit c) :
    (whole ++ dotted fraction).takeWhile (· ≠ '.') = whole ∧
    ((whole ++ dotted fraction).dropWhile (· ≠ '.')).drop 1 = fraction := by
  have before : ∀ c ∈ whole, decide (c ≠ '.') = true := by
    intro c member
    obtain ⟨d,small,rfl⟩ := digits c member
    obtain ⟨_,_,point,_⟩ := digit_plain d small
    exact decide_eq_true point
  rw [List.takeWhile_append_of_pos before,List.dropWhile_append_of_pos before]
  unfold dotted
  split
  · rename_i empty
    simp [empty]
  · simp

theorem finite_read (digits : ∀ c ∈ whole ++ fraction, DecimalDigit c) (nonempty : whole ≠ [])
    (value : readNumeral 10 (whole ++ fraction) 0 = some coefficient) (indicated : Indicated shown)
    (power : readExponent shown = some exponent) :
    finiteDecimal negative (whole ++ dotted fraction ++ shown) = some ⟨negative,coefficient,exponent - fraction.length⟩ := by
  obtain ⟨mantissa,rest⟩ := mantissa_split digits indicated
  obtain ⟨left,right⟩ := point_split fraction fun c member => digits c (List.mem_append_left _ member)
  simp only [finiteDecimal,mantissa,rest,left,right,power,value,Option.bind_eq_bind,Option.bind_some,
    List.append_eq_nil_iff,nonempty,false_and,if_false]
  rfl

-- How str spells a decimal: digits, a fraction, and an exponent where there is one.
structure Spelling (d : Decimal) (whole fraction shown : List Char) : Prop where
  spelled : d.str.toList = (if d.negative then ['-'] else []) ++ (whole ++ dotted fraction ++ shown)
  digits : ∀ c ∈ whole ++ fraction, DecimalDigit c
  nonempty : whole ≠ []
  value : readNumeral 10 (whole ++ fraction) 0 = some d.coefficient
  indicated : Indicated shown
  power : ∃ exponent, readExponent shown = some exponent ∧ exponent - fraction.length = d.exponent
  plain : ∀ c ∈ shown, PlainChar c

theorem sign_chars (negative : Bool) : (if negative then "-" else "").toList = if negative then ['-'] else [] := by
  cases negative <;> rfl

theorem coefficient_read (n : Nat) : readNumeral 10 (Nat.toDigits 10 n) 0 = some n := by
  rw [read_digits (by decide) (by decide)]
  simp

theorem some_dotted {fraction : List Char} (nonempty : fraction ≠ []) : dotted fraction = '.' :: fraction := if_neg nonempty

theorem exponent_read (adjusted : Int) :
    readExponent ('E' :: (if 0 ≤ adjusted then '+' else '-') :: Nat.toDigits 10 adjusted.natAbs) = some adjusted := by
  by_cases nonneg : 0 ≤ adjusted
  · have same : (adjusted.natAbs : Int) = adjusted := by omega
    simp only [nonneg,if_true,readExponent,takeSign,Nat.toDigits_ne_nil,if_false,coefficient_read,Option.map_some,
      Bool.false_eq_true,same]
  · have same : -(adjusted.natAbs : Int) = adjusted := by omega
    simp only [nonneg,if_false,readExponent,takeSign,Nat.toDigits_ne_nil,coefficient_read,Option.map_some,if_true,same]

def signChars (d : Decimal) : List Char := if d.negative then ['-'] else []

abbrev Decimal.numeral (d : Decimal) : List Char := Nat.toDigits 10 d.coefficient

theorem toString_chars (n : Nat) : (toString n).toList = Nat.toDigits 10 n := by
  rw [Nat.toString_eq_ofList_toDigits,String.toList_ofList]

section Forms
variable {d : Decimal}

theorem whole_chars (plain : d.exponent ≤ 0 ∧ -6 ≤ d.exponent + d.numeral.length - 1) (whole : d.exponent = 0) :
    d.str.toList = signChars d ++ d.numeral := by
  simp only [Decimal.str,plain,and_self,if_true]
  simp only [whole,if_true,String.toList_append,sign_chars,String.toList_ofList]
  rfl

theorem pointed_chars (plain : d.exponent ≤ 0 ∧ -6 ≤ d.exponent + d.numeral.length - 1) (fractional : d.exponent ≠ 0)
    (inside : 0 < d.numeral.length + d.exponent) :
    d.str.toList = signChars d ++ (d.numeral.take (d.numeral.length + d.exponent).toNat ++
      '.' :: d.numeral.drop (d.numeral.length + d.exponent).toNat) := by
  simp only [Decimal.str,plain,and_self,if_true,fractional,if_false,inside,String.toList_append,sign_chars,
    String.toList_ofList,List.append_assoc]
  rfl

theorem zero_chars (plain : d.exponent ≤ 0 ∧ -6 ≤ d.exponent + d.numeral.length - 1) (fractional : d.exponent ≠ 0)
    (outside : ¬0 < d.numeral.length + d.exponent) :
    d.str.toList = signChars d ++
      ('0' :: '.' :: (List.replicate (-(d.numeral.length + d.exponent)).toNat '0' ++ d.numeral)) := by
  simp only [Decimal.str,plain,and_self,if_true,fractional,if_false,outside,String.toList_append,sign_chars,
    String.toList_ofList,List.append_assoc]
  rfl

theorem scientific_chars (scientific : ¬(d.exponent ≤ 0 ∧ -6 ≤ d.exponent + d.numeral.length - 1)) :
    d.str.toList = signChars d ++ (d.numeral.take 1 ++ dotted (d.numeral.drop 1) ++
      'E' :: (if 0 ≤ d.exponent + d.numeral.length - 1 then '+' else '-') ::
        Nat.toDigits 10 (d.exponent + d.numeral.length - 1).natAbs) := by
  have dot : (if d.numeral.length = 1 then "" else "." ++ String.ofList (d.numeral.drop 1)).toList =
      dotted (d.numeral.drop 1) := by
    have long : 0 < d.numeral.length := Nat.length_toDigits_pos
    unfold dotted
    by_cases single : d.numeral.length = 1
    · rw [if_pos single,if_pos (List.drop_eq_nil_of_le single.le)]
      rfl
    · have more : ¬d.numeral.drop 1 = [] := by
        rw [List.drop_eq_nil_iff]
        omega
      rw [if_neg single,if_neg more]
      simp
  simp only [Decimal.str,scientific,if_false,String.toList_append,sign_chars,dot,String.toList_ofList,List.append_assoc,
    toString_chars]
  by_cases nonneg : 0 ≤ d.exponent + d.numeral.length - 1
  · simp only [nonneg,if_true]
    rfl
  · simp only [nonneg,if_false]
    rfl

end Forms

theorem str_spelling (d : Decimal) : ∃ whole fraction shown, Spelling d whole fraction shown := by
  have every : ∀ c ∈ d.numeral, DecimalDigit c := digits_chars (by decide) d.coefficient
  have value := coefficient_read d.coefficient
  have long : 0 < d.numeral.length := Nat.length_toDigits_pos
  by_cases plain : d.exponent ≤ 0 ∧ -6 ≤ d.exponent + d.numeral.length - 1
  · by_cases whole : d.exponent = 0
    · refine ⟨d.numeral,[],[],?_,?_,Nat.toDigits_ne_nil,?_,.inl rfl,⟨0,rfl,by simp [whole]⟩,by simp⟩
      · rw [whole_chars plain whole]
        simp [dotted,signChars]
      · rw [List.append_nil]
        exact every
      · rw [List.append_nil]
        exact value
    · by_cases inside : 0 < d.numeral.length + d.exponent
      · have fraction : d.numeral.drop (d.numeral.length + d.exponent).toNat ≠ [] := by
          rw [ne_eq,List.drop_eq_nil_iff]
          omega
        refine ⟨d.numeral.take (d.numeral.length + d.exponent).toNat,d.numeral.drop (d.numeral.length + d.exponent).toNat,[],
          ?_,?_,?_,?_,.inl rfl,⟨0,rfl,?_⟩,by simp⟩
        · rw [pointed_chars plain whole inside,List.append_nil,← some_dotted fraction]
          rfl
        · rw [List.take_append_drop]
          exact every
        · apply List.ne_nil_of_length_pos
          rw [List.length_take]
          omega
        · rw [List.take_append_drop]
          exact value
        · rw [List.length_drop]
          omega
      · refine ⟨['0'],List.replicate (-(d.numeral.length + d.exponent)).toNat '0' ++ d.numeral,[],
          ?_,?_,by simp,?_,.inl rfl,⟨0,rfl,?_⟩,by simp⟩
        · rw [zero_chars plain whole inside,List.append_nil,
            ← some_dotted (by simp : List.replicate _ '0' ++ d.numeral ≠ [])]
          rfl
        · intro c member
          simp only [List.singleton_append,List.mem_cons,List.mem_append,List.mem_replicate] at member
          rcases member with rfl | ⟨_,rfl⟩ | digit
          · exact ⟨0,by decide,rfl⟩
          · exact ⟨0,by decide,rfl⟩
          · exact every c digit
        · rw [List.singleton_append,← List.cons_append,← List.replicate_succ,read_append,read_zeros (by decide),
            Nat.mul_zero,Option.bind_some]
          exact value
        · rw [List.length_append,List.length_replicate]
          omega
  · refine ⟨_,_,_,scientific_chars plain,?_,?_,?_,.inr ⟨_,rfl⟩,⟨_,exponent_read _,?_⟩,?_⟩
    · rw [List.take_append_drop]
      exact every
    · apply List.ne_nil_of_length_pos
      rw [List.length_take]
      omega
    · rw [List.take_append_drop]
      exact value
    · rw [List.length_drop]
      omega
    · intro c member
      rcases List.mem_cons.mp member with rfl | member
      · exact ⟨rfl,by decide⟩
      · rcases List.mem_cons.mp member with rfl | digit
        · split <;> exact ⟨rfl,by decide⟩
        · obtain ⟨d,small,rfl⟩ := digits_chars (by decide) _ c digit
          exact ⟨(digit_plain d small).1,(digit_plain d small).2.1⟩

theorem finite_kept {c : Char} {cs : List Char} (digit : DecimalDigit c) : notFinite (c :: cs) = false := by
  obtain ⟨d,small,rfl⟩ := digit
  obtain ⟨_,_,_,_,_,_,_,lower,i,n,s⟩ := digit_plain d small
  simp [notFinite,lower,i,Ne.symm n,Ne.symm s]

-- Decimal(text) undoes str(Decimal), down to the sign of a zero and to trailing zeros.
theorem decimal_restored (d : Decimal) : parseDecimal d.str = some (some d) := by
  obtain ⟨whole,fraction,shown,spelling⟩ := str_spelling d
  obtain ⟨exponent,power,same⟩ := spelling.power
  have numeral : ∀ c, DecimalDigit c → PlainChar c := by
    intro c ⟨d,small,spelled⟩
    rw [spelled]
    exact ⟨(digit_plain d small).1,(digit_plain d small).2.1⟩
  have plain : ∀ c ∈ d.str.toList, PlainChar c := by
    intro c member
    rw [spelling.spelled] at member
    simp only [List.mem_append] at member
    rcases member with sign | (first | point) | last
    · split at sign
      · rw [List.mem_singleton.mp sign]
        exact ⟨rfl,by decide⟩
      · cases sign
    · exact numeral c (spelling.digits c (List.mem_append_left _ first))
    · unfold dotted at point
      split at point
      · cases point
      · rcases List.mem_cons.mp point with rfl | later
        · exact ⟨rfl,by decide⟩
        · exact numeral c (spelling.digits c (List.mem_append_right _ later))
    · exact spelling.plain c last
  have kept : (trim isSpace d.str.toList).filter (· ≠ '_') = d.str.toList := by
    rw [trim_kept fun c member => (plain c member).1]
    exact List.filter_eq_self.mpr fun c member => decide_eq_true (plain c member).2
  obtain ⟨c,rest,start⟩ := List.exists_cons_of_ne_nil spelling.nonempty
  have digit : DecimalDigit c := spelling.digits c (by rw [start]; simp)
  have signed : takeSign d.str.toList = (d.negative,whole ++ dotted fraction ++ shown) := by
    rw [spelling.spelled,start]
    obtain ⟨k,small,spelled⟩ := digit
    obtain ⟨_,_,_,_,_,minus,plus,_⟩ := digit_plain k small
    rw [← spelled] at minus plus
    cases d.negative with
    | true => rfl
    | false => simp [takeSign,minus,plus]
  simp only [parseDecimal,kept,signed]
  rw [start,List.cons_append,List.cons_append,finite_kept digit,if_neg (by decide),← List.cons_append,← List.cons_append,
    ← start,finite_read spelling.digits spelling.nonempty spelling.value spelling.indicated power,same]
  rfl

end Decimals

section Identifiers

theorem hex_char : ∀ d < 16, Nat.digitChar d ≠ '-' ∧ Nat.digitChar d ≠ ':' ∧ Nat.digitChar d ≠ '\x7b' ∧
    Nat.digitChar d ≠ '\x7d' := by decide

theorem text_kept {text cs : List Char} {c : Char} (part : c ∈ text) (absent : c ∉ cs) : removeText text 0 cs = cs := by
  induction cs with
  | nil => rfl
  | cons first rest ih =>
    have other : text.isPrefixOf (first :: rest) = false := by
      cases found : text.isPrefixOf (first :: rest) with
      | false => rfl
      | true => exact absurd ((List.isPrefixOf_iff_prefix.mp found).subset part) absent
    rw [removeText,if_neg (by simp [other]),ih fun member => absent (List.mem_cons_of_mem _ member)]

theorem padded_chars (width n base : Nat) : (padded width n base).toList = fixed base width n := by
  rw [padded,String.toList_ofList]
  rfl

theorem hex_kept (width n : Nat) : (fixed 16 width n).filter (· ≠ '-') = fixed 16 width n := by
  apply List.filter_eq_self.mpr
  intro c member
  obtain ⟨d,small,rfl⟩ := fixed_chars (by decide) width n c member
  exact decide_eq_true (hex_char d small).1

theorem fields_joined (n : Nat) (room : n < 2 ^ 128) :
    16 ^ 12 * (16 ^ 4 * (16 ^ 4 * (16 ^ 4 * (16 ^ 8 * 0 + n / 2 ^ 96 % 2 ^ 32) + n / 2 ^ 80 % 2 ^ 16) +
      n / 2 ^ 64 % 2 ^ 16) + n / 2 ^ 48 % 2 ^ 16) + n % 2 ^ 48 = n := by omega

-- UUID(text) undoes str(UUID).
theorem uuid_restored {u : UUID} (room : u < 2 ^ 128) : parseUUID (uuidText u) = some u := by
  have chars : (uuidText u).toList = fixed 16 8 (u / 2 ^ 96 % 2 ^ 32) ++ '-' :: (fixed 16 4 (u / 2 ^ 80 % 2 ^ 16) ++
      '-' :: (fixed 16 4 (u / 2 ^ 64 % 2 ^ 16) ++ '-' :: (fixed 16 4 (u / 2 ^ 48 % 2 ^ 16) ++
        '-' :: fixed 16 12 (u % 2 ^ 48)))) := by
    simp [uuidText,padded_chars,String.toList_append]
  have inside : ∀ c ∈ (uuidText u).toList, c ≠ ':' ∧ c ≠ '\x7b' ∧ c ≠ '\x7d' := by
    intro c member
    have digits : ∀ width n, c ∈ fixed 16 width n → c ≠ ':' ∧ c ≠ '\x7b' ∧ c ≠ '\x7d' := by
      intro width n digit
      obtain ⟨d,small,rfl⟩ := fixed_chars (by decide) width n c digit
      exact (hex_char d small).2
    rw [chars] at member
    simp only [List.mem_append,List.mem_cons] at member
    rcases member with part | rfl | part | rfl | part | rfl | part | rfl | part
    · exact digits _ _ part
    · decide
    · exact digits _ _ part
    · decide
    · exact digits _ _ part
    · decide
    · exact digits _ _ part
    · decide
    · exact digits _ _ part
  have colon : ':' ∉ (uuidText u).toList := fun member => (inside ':' member).1 rfl
  have bare : trim (fun c => c = '\x7b' || c = '\x7d') (uuidText u).toList = (uuidText u).toList := by
    apply trim_kept
    intro c member
    simp [(inside c member).2.1,(inside c member).2.2]
  have hex : (uuidText u).toList.filter (· ≠ '-') = fixed 16 8 (u / 2 ^ 96 % 2 ^ 32) ++ (fixed 16 4 (u / 2 ^ 80 % 2 ^ 16) ++
      (fixed 16 4 (u / 2 ^ 64 % 2 ^ 16) ++ (fixed 16 4 (u / 2 ^ 48 % 2 ^ 16) ++ fixed 16 12 (u % 2 ^ 48)))) := by
    rw [chars]
    simp only [List.filter_append,List.filter_cons,hex_kept,ne_eq,not_true_eq_false,decide_false,Bool.false_eq_true,if_false]
  have lengths : ∀ width n, 0 < width → n < 16 ^ width → (fixed 16 width n).length = width :=
    fun width n positive small => fixed_length (by decide) small positive
  simp only [parseUUID,text_kept (by decide : ':' ∈ "urn:".toList) colon,text_kept (by decide : ':' ∈ "uuid:".toList) colon,
    bare,hex]
  rw [if_pos (by
    simp only [List.length_append]
    rw [lengths 8 _ (by decide) (by omega),lengths 4 _ (by decide) (by omega),lengths 4 _ (by decide) (by omega),
      lengths 4 _ (by decide) (by omega),lengths 12 _ (by decide) (by omega)])]
  have step : ∀ width n k rest, 0 < width → n < 16 ^ width →
      readNumeral 16 (fixed 16 width n ++ rest) k = readNumeral 16 rest (16 ^ width * k + n) := by
    intro width n k rest positive small
    rw [read_append,read_fixed (by decide) (by decide) small positive,Option.bind_some]
  rw [step 8 _ _ _ (by decide) (by omega),step 4 _ _ _ (by decide) (by omega),step 4 _ _ _ (by decide) (by omega),
    step 4 _ _ _ (by decide) (by omega),read_fixed (by decide) (by decide) (by omega) (by decide)]
  exact congrArg some (fields_joined u room)

end Identifiers

end SwapMonitor
