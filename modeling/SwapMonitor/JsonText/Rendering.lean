import Mathlib.Tactic.Common

namespace JsonText

-- A character inside a JSON string that is not forced to ASCII.
def escapeChar (c : Char) : List Char :=
  if c = '"' then ['\\','"']
  else if c = '\\' then ['\\','\\']
  else if c = '\n' then ['\\','n']
  else if c = '\r' then ['\\','r']
  else if c = '\t' then ['\\','t']
  else if c = '\x0c' then ['\\','f']
  else if c = '\x08' then ['\\','b']
  else if c.toNat < 0x20 then ['\\','u','0','0',Nat.digitChar (c.toNat / 16),Nat.digitChar (c.toNat % 16)]
  else [c]

def body (value : List Char) : List Char := value.flatMap escapeChar

def quoted (value : String) : List Char := '"' :: (body value.toList ++ ['"'])

-- Texts with commas between them.
def separated : List (List Char) → List Char
  | [] => []
  | [text] => text
  | text :: next :: rest => text ++ ',' :: separated (next :: rest)

-- Values with their numbers as they are written and their members in the order they are written in.
inductive Tree where
  | null
  | bool (value : Bool)
  | number (token : List Char)
  | str (value : String)
  | arr (items : List Tree)
  | obj (members : List (String × Tree))

mutual
def Tree.chars : Tree → List Char
  | .null => ['n','u','l','l']
  | .bool value => if value then ['t','r','u','e'] else ['f','a','l','s','e']
  | .number token => token
  | .str value => quoted value
  | .arr items => '[' :: (separated (itemTexts items) ++ [']'])
  | .obj members => '\x7b' :: (separated (memberTexts members) ++ ['\x7d'])

def itemTexts : List Tree → List (List Char)
  | [] => []
  | item :: rest => item.chars :: itemTexts rest

def memberTexts : List (String × Tree) → List (List Char)
  | [] => []
  | (key,value) :: rest => (quoted key ++ ':' :: value.chars) :: memberTexts rest
end

def isNumeral (c : Char) : Bool := c == '-' || c == '.' || c.isDigit

mutual
-- Every number is written with a sign, digits and a point, and with one of them at least.
def Tree.Numbered : Tree → Prop
  | .number token => token ≠ [] ∧ ∀ c ∈ token, isNumeral c = true
  | .arr items => NumberedItems items
  | .obj members => NumberedMembers members
  | _ => True

def NumberedItems : List Tree → Prop
  | [] => True
  | item :: rest => item.Numbered ∧ NumberedItems rest

def NumberedMembers : List (String × Tree) → Prop
  | [] => True
  | (_,value) :: rest => value.Numbered ∧ NumberedMembers rest
end

theorem numberedMembers_each {members : List (String × Tree)} :
    NumberedMembers members ↔ ∀ member ∈ members, member.2.Numbered := by
  induction members with
  | nil => simp [NumberedMembers]
  | cons member rest ih => simp [NumberedMembers,ih]

def hexValue (c : Char) : Nat := if c.isDigit then c.toNat - 48 else c.toNat - 87

def unescaped (mark : Char) : Char :=
  if mark = 'n' then '\n' else if mark = 'r' then '\r' else if mark = 't' then '\t' else if mark = 'f' then '\x0c'
  else if mark = 'b' then '\x08' else mark

-- The first character of a body, and what follows it.
def readChar : List Char → Option (Char × List Char)
  | '\\' :: 'u' :: _ :: _ :: high :: low :: rest => some (Char.ofNat (16 * hexValue high + hexValue low),rest)
  | '\\' :: mark :: rest => some (unescaped mark,rest)
  | c :: rest => some (c,rest)
  | [] => none

theorem control_hex : ∀ n < 0x20, 16 * hexValue (Nat.digitChar (n / 16)) + hexValue (Nat.digitChar (n % 16)) = n := by decide

theorem char_read (c : Char) (rest : List Char) : readChar (escapeChar c ++ rest) = some (c,rest) := by
  unfold escapeChar
  split
  · rename_i same
    rw [same]
    rfl
  split
  · rename_i same
    rw [same]
    rfl
  split
  · rename_i same
    rw [same]
    rfl
  split
  · rename_i same
    rw [same]
    rfl
  split
  · rename_i same
    rw [same]
    rfl
  split
  · rename_i same
    rw [same]
    rfl
  split
  · rename_i same
    rw [same]
    rfl
  split
  · rename_i control
    simp only [List.cons_append,List.nil_append,readChar,control_hex _ control,Char.ofNat_toNat]
  · rename_i _ plain _ _ _ _ _ _
    simp [readChar,plain]

theorem escape_start (c : Char) : ∃ first rest, escapeChar c = first :: rest ∧ first ≠ '"' := by
  unfold escapeChar
  repeat' split
  all_goals first
    | exact ⟨_,_,rfl,by decide⟩
    | exact ⟨_,_,rfl,by assumption⟩

theorem body_injective {value other r r' : List Char} (same : body value ++ '"' :: r = body other ++ '"' :: r') :
    value = other ∧ r = r' := by
  induction value generalizing other with
  | nil =>
    cases other with
    | nil => exact ⟨rfl,List.tail_eq_of_cons_eq same⟩
    | cons c rest =>
      obtain ⟨first,later,start,apart⟩ := escape_start c
      rw [body,body,List.flatMap_nil,List.flatMap_cons,start] at same
      exact absurd (List.head_eq_of_cons_eq same).symm apart
  | cons c rest ih =>
    cases other with
    | nil =>
      obtain ⟨first,later,start,apart⟩ := escape_start c
      rw [body,body,List.flatMap_nil,List.flatMap_cons,start] at same
      exact absurd (List.head_eq_of_cons_eq same) apart
    | cons c' rest' =>
      rw [body,body,List.flatMap_cons,List.flatMap_cons,List.append_assoc,List.append_assoc] at same
      have read := congrArg readChar same
      rw [char_read,char_read] at read
      obtain ⟨rfl,next⟩ := Prod.mk.inj (Option.some.inj read)
      obtain ⟨rfl,rest⟩ := ih next
      exact ⟨rfl,rest⟩

theorem quoted_injective {value other : String} {r r' : List Char} (same : quoted value ++ r = quoted other ++ r') :
    value = other ∧ r = r' := by
  simp only [quoted,List.cons_append,List.append_assoc,List.nil_append,List.cons.injEq,true_and] at same
  obtain ⟨chars,rest⟩ := body_injective same
  exact ⟨String.toList_inj.mp chars,rest⟩

-- What may follow a value: nothing, or a character that no value goes on with.
def Ends (rest : List Char) : Prop := ∀ c later, rest = c :: later → isNumeral c = false

theorem ends_of {c : Char} (stops : isNumeral c = false) (rest : List Char) : Ends (c :: rest) := by
  intro _ _ same
  rw [← List.head_eq_of_cons_eq same]
  exact stops

theorem token_ends {token other r r' : List Char} (numerals : ∀ c ∈ token, isNumeral c = true)
    (others : ∀ c ∈ other, isNumeral c = true) (ends : Ends r) (ends' : Ends r') (same : token ++ r = other ++ r') :
    token = other ∧ r = r' := by
  have taken : ∀ {token r : List Char}, (∀ c ∈ token, isNumeral c = true) → Ends r →
      (token ++ r).takeWhile isNumeral = token := by
    intro token r numerals ends
    rw [List.takeWhile_append_of_pos numerals]
    cases r with
    | nil => simp
    | cons c rest => simp [ends c rest rfl]
  have front := congrArg (List.takeWhile isNumeral) same
  rw [taken numerals ends,taken others ends'] at front
  exact ⟨front,by rw [front] at same; exact List.append_cancel_left same⟩

-- Which sort of value a character begins.
def sort (c : Char) : Nat :=
  if c = 'n' then 0 else if c = 't' then 1 else if c = 'f' then 2 else if c = '"' then 3 else if c = '[' then 4
  else if c = '\x7b' then 5 else if isNumeral c then 6 else 7

def Tree.sort : Tree → Nat
  | .null => 0
  | .bool value => if value then 1 else 2
  | .str _ => 3
  | .arr _ => 4
  | .obj _ => 5
  | .number _ => 6

theorem numeral_sort {c : Char} (numeral : isNumeral c = true) : JsonText.sort c = 6 := by
  unfold JsonText.sort
  repeat' split
  all_goals first
    | rfl
    | (rename_i same; rw [same] at numeral; exact absurd numeral (by decide))

theorem chars_start {tree : Tree} (numbered : tree.Numbered) :
    ∃ first later, tree.chars = first :: later ∧ JsonText.sort first = tree.sort := by
  cases tree with
  | number token =>
    obtain ⟨nonempty,numerals⟩ := numbered
    cases token with
    | nil => exact absurd rfl nonempty
    | cons first later => exact ⟨first,later,rfl,numeral_sort (numerals first (List.mem_cons_self ..))⟩
  | bool value => cases value <;> exact ⟨_,_,rfl,rfl⟩
  | _ => exact ⟨_,_,rfl,rfl⟩

theorem same_sort {a b : Tree} {r r' : List Char} (numbered : a.Numbered) (numbered' : b.Numbered)
    (same : a.chars ++ r = b.chars ++ r') : a.sort = b.sort := by
  obtain ⟨first,later,start,sorted⟩ := chars_start numbered
  obtain ⟨first',later',start',sorted'⟩ := chars_start numbered'
  rw [start,start'] at same
  rw [← sorted,← sorted',List.head_eq_of_cons_eq same]

-- The texts after the first of a list, each after its comma.
def following (texts : List (List Char)) : List Char := texts.flatMap fun text => ',' :: text

theorem separated_cons (text : List Char) (rest : List (List Char)) :
    separated (text :: rest) = text ++ following rest := by
  induction rest generalizing text with
  | nil => simp [separated,following]
  | cons next rest ih =>
    rw [separated,ih]
    simp [following]

theorem separated_intercalate (texts : List (List Char)) : separated texts = [','].intercalate texts := by
  induction texts with
  | nil => rfl
  | cons text rest ih =>
    cases rest with
    | nil => simp [separated]
    | cons next rest => rw [separated,ih,List.intercalate_cons_cons,List.append_assoc,List.singleton_append]

theorem item_sort {items : List Tree} (numbered : NumberedItems items) {text : List Char} (member : text ∈ itemTexts items) :
    ∃ first later, text = first :: later ∧ JsonText.sort first ≠ 7 := by
  induction items with
  | nil => cases member
  | cons item rest ih =>
    rcases List.mem_cons.mp member with rfl | later
    · obtain ⟨first,later,start,sorted⟩ := chars_start numbered.1
      refine ⟨first,later,start,?_⟩
      rw [sorted]
      unfold Tree.sort
      repeat' split
      all_goals decide
    · exact ih numbered.2 later

theorem member_sort {members : List (String × Tree)} {text : List Char} (member : text ∈ memberTexts members) :
    ∃ first later, text = first :: later ∧ JsonText.sort first ≠ 7 := by
  induction members with
  | nil => cases member
  | cons entry rest ih =>
    rcases List.mem_cons.mp member with rfl | later
    · exact ⟨_,_,rfl,by decide⟩
    · exact ih later

-- With a comma before it, what a container holds is read the same way from its first value on.
theorem opened {texts others : List (List Char)} {close : Char} {r r' : List Char} (closing : JsonText.sort close = 7)
    (starts : ∀ text ∈ texts, ∃ first later, text = first :: later ∧ JsonText.sort first ≠ 7)
    (starts' : ∀ text ∈ others, ∃ first later, text = first :: later ∧ JsonText.sort first ≠ 7)
    (same : separated texts ++ close :: r = separated others ++ close :: r') :
    following texts ++ close :: r = following others ++ close :: r' := by
  have clash : ∀ {text : List Char} {rest : List (List Char)} {r r' : List Char},
      (∃ first later, text = first :: later ∧ JsonText.sort first ≠ 7) →
      separated (text :: rest) ++ r' ≠ close :: r := by
    intro text rest r r' ⟨first,later,start,apart⟩ same
    rw [separated_cons,start] at same
    rw [← List.head_eq_of_cons_eq same] at closing
    exact apart closing
  cases texts with
  | nil =>
    cases others with
    | nil => exact same
    | cons text rest => exact absurd same.symm (clash (starts' text (List.mem_cons_self ..)))
  | cons text rest =>
    cases others with
    | nil => exact absurd same (clash (starts text (List.mem_cons_self ..)))
    | cons text' rest' =>
      rw [separated_cons,separated_cons] at same
      exact congrArg (',' :: ·) same

mutual
-- A value is read off the front of a text in one way.
theorem tree_injective (a b : Tree) (numbered : a.Numbered) (numbered' : b.Numbered) {r r' : List Char} (ends : Ends r)
    (ends' : Ends r') (same : a.chars ++ r = b.chars ++ r') : a = b ∧ r = r' := by
  have sorts := same_sort numbered numbered' same
  cases a with
  | null =>
    cases b with
    | null => exact ⟨rfl,List.append_cancel_left same⟩
    | bool value => cases value <;> cases sorts
    | _ => cases sorts
  | bool value =>
    cases b with
    | bool value' =>
      cases value <;> cases value'
      · exact ⟨rfl,List.append_cancel_left same⟩
      · cases sorts
      · cases sorts
      · exact ⟨rfl,List.append_cancel_left same⟩
    | _ => cases value <;> cases sorts
  | number token =>
    cases b with
    | number other =>
      obtain ⟨rfl,rest⟩ := token_ends numbered.2 numbered'.2 ends ends' same
      exact ⟨rfl,rest⟩
    | bool value => cases value <;> cases sorts
    | _ => cases sorts
  | str value =>
    cases b with
    | str other =>
      obtain ⟨rfl,rest⟩ := quoted_injective same
      exact ⟨rfl,rest⟩
    | bool value => cases value <;> cases sorts
    | _ => cases sorts
  | arr items =>
    cases b with
    | arr others =>
      simp only [Tree.chars,List.cons_append,List.append_assoc,List.nil_append,List.cons.injEq,true_and] at same
      have inside := opened (by decide) (fun _ => item_sort numbered) (fun _ => item_sort numbered') same
      obtain ⟨rfl,rest⟩ := items_injective items others numbered numbered' inside
      exact ⟨rfl,rest⟩
    | bool value => cases value <;> cases sorts
    | _ => cases sorts
  | obj members =>
    cases b with
    | obj others =>
      simp only [Tree.chars,List.cons_append,List.append_assoc,List.nil_append,List.cons.injEq,true_and] at same
      have inside := opened (by decide) (fun _ => member_sort) (fun _ => member_sort) same
      obtain ⟨rfl,rest⟩ := members_injective members others numbered numbered' inside
      exact ⟨rfl,rest⟩
    | bool value => cases value <;> cases sorts
    | _ => cases sorts

theorem items_injective (items others : List Tree) (numbered : NumberedItems items) (numbered' : NumberedItems others)
    {r r' : List Char} (same : following (itemTexts items) ++ ']' :: r = following (itemTexts others) ++ ']' :: r') :
    items = others ∧ r = r' := by
  cases items with
  | nil =>
    cases others with
    | nil => exact ⟨rfl,List.tail_eq_of_cons_eq same⟩
    | cons other rest' => exact absurd (List.head_eq_of_cons_eq same) (by decide)
  | cons item rest =>
    cases others with
    | nil => exact absurd (List.head_eq_of_cons_eq same) (by decide)
    | cons other rest' =>
      simp only [itemTexts,following,List.flatMap_cons,List.cons_append,List.append_assoc,List.cons.injEq,true_and] at same
      have stops : ∀ (texts : List (List Char)) r, Ends (following texts ++ ']' :: r) := by
        intro texts r
        cases texts with
        | nil => exact ends_of (by decide) r
        | cons text texts => exact ends_of (by decide) _
      obtain ⟨rfl,later⟩ := tree_injective item other numbered.1 numbered'.1 (stops _ r) (stops _ r') same
      obtain ⟨rfl,last⟩ := items_injective rest rest' numbered.2 numbered'.2 later
      exact ⟨rfl,last⟩

theorem members_injective (members others : List (String × Tree)) (numbered : NumberedMembers members)
    (numbered' : NumberedMembers others) {r r' : List Char}
    (same : following (memberTexts members) ++ '\x7d' :: r = following (memberTexts others) ++ '\x7d' :: r') :
    members = others ∧ r = r' := by
  cases members with
  | nil =>
    cases others with
    | nil => exact ⟨rfl,List.tail_eq_of_cons_eq same⟩
    | cons other rest' => exact absurd (List.head_eq_of_cons_eq same) (by decide)
  | cons member rest =>
    obtain ⟨key,value⟩ := member
    cases others with
    | nil => exact absurd (List.head_eq_of_cons_eq same) (by decide)
    | cons other rest' =>
      obtain ⟨key',value'⟩ := other
      simp only [memberTexts,following,List.flatMap_cons,List.cons_append,List.append_assoc,List.cons.injEq,true_and] at same
      have stops : ∀ (texts : List (List Char)) r, Ends (following texts ++ '\x7d' :: r) := by
        intro texts r
        cases texts with
        | nil => exact ends_of (by decide) r
        | cons text texts => exact ends_of (by decide) _
      obtain ⟨rfl,after⟩ := quoted_injective same
      obtain ⟨rfl,later⟩ := tree_injective value value' numbered.1 numbered'.1 (stops _ r) (stops _ r')
        (List.tail_eq_of_cons_eq after)
      obtain ⟨rfl,last⟩ := members_injective rest rest' numbered.2 numbered'.2 later
      exact ⟨rfl,last⟩
end

def Tree.text (tree : Tree) : String := String.ofList tree.chars

theorem text_injective {a b : Tree} (numbered : a.Numbered) (numbered' : b.Numbered) : a.text = b.text ↔ a = b := by
  constructor
  · intro same
    have chars : a.chars ++ [] = b.chars ++ [] := by simpa [Tree.text] using congrArg String.toList same
    have ends : Ends [] := fun _ _ same => by cases same
    exact (tree_injective a b numbered numbered' ends ends chars).1
  · exact congrArg Tree.text

end JsonText
