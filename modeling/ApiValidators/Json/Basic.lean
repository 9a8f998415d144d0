import ApiValidators.Entries
import ApiValidators.Json.Number
import ApiValidators.Text.Quoted

/-!
# JSON values

The values that `default` and `enum` hold. The members of an object keep their order; a value as it is read has no key
twice at any depth (`Json.DistinctKeys`). `Json.text` is the compact text of a value: no blanks, members in order.
-/

namespace ApiValidators

inductive Json where
  | null
  | bool (b : Bool)
  | number (n : Number)
  | string (s : String)
  | array (items : List Json)
  | object (members : List (String × Json))
  deriving Repr, Inhabited

namespace Json

mutual

def decEq : (a b : Json) → Decidable (a = b)
  | null, null => isTrue rfl
  | bool a, bool b => decidable_of_iff (a = b) (by simp)
  | number a, number b => decidable_of_iff (a = b) (by simp)
  | string a, string b => decidable_of_iff (a = b) (by simp)
  | array a, array b => have := decEqItems a b; decidable_of_iff (a = b) (by simp)
  | object a, object b => have := decEqMembers a b; decidable_of_iff (a = b) (by simp)
  | null, bool _ | null, number _ | null, string _ | null, array _ | null, object _ => isFalse (by simp)
  | bool _, null | bool _, number _ | bool _, string _ | bool _, array _ | bool _, object _ => isFalse (by simp)
  | number _, null | number _, bool _ | number _, string _ | number _, array _ | number _, object _ =>
    isFalse (by simp)
  | string _, null | string _, bool _ | string _, number _ | string _, array _ | string _, object _ =>
    isFalse (by simp)
  | array _, null | array _, bool _ | array _, number _ | array _, string _ | array _, object _ => isFalse (by simp)
  | object _, null | object _, bool _ | object _, number _ | object _, string _ | object _, array _ =>
    isFalse (by simp)
  termination_by structural v => v

def decEqItems : (a b : List Json) → Decidable (a = b)
  | [], [] => isTrue rfl
  | a :: as, b :: bs => have := decEq a b; have := decEqItems as bs; decidable_of_iff (a = b ∧ as = bs) (by simp)
  | [], _ :: _ | _ :: _, [] => isFalse (by simp)
  termination_by structural vs => vs

def decEqMembers : (a b : List (String × Json)) → Decidable (a = b)
  | [], [] => isTrue rfl
  | (k, a) :: as, (l, b) :: bs =>
    have := decEq a b
    have := decEqMembers as bs
    decidable_of_iff ((k = l ∧ a = b) ∧ as = bs) (by simp)
  | [], _ :: _ | _ :: _, [] => isFalse (by simp)
  termination_by structural vs => vs

end

instance : DecidableEq Json := decEq

mutual

/-- No object of the value, at any depth, has a key twice. -/
def DistinctKeys : Json → Prop
  | array items => DistinctKeysEach items
  | object members => (members.map Prod.fst).Nodup ∧ DistinctKeysMembers members
  | _ => True

def DistinctKeysEach : List Json → Prop
  | [] => True
  | v :: vs => DistinctKeys v ∧ DistinctKeysEach vs

def DistinctKeysMembers : List (String × Json) → Prop
  | [] => True
  | (_, v) :: ms => DistinctKeys v ∧ DistinctKeysMembers ms

end

open Text

mutual

/-- The compact text of a value. -/
def text : Json → List Char
  | null => "null".toList
  | bool true => "true".toList
  | bool false => "false".toList
  | number n => n.text
  | string s => quoted s.toList
  | array items => '[' :: (itemsText items ++ [']'])
  | object members => '\x7b' :: (membersText members ++ ['\x7d'])

def itemsText : List Json → List Char
  | [] => []
  | [v] => text v
  | v :: vs => text v ++ ',' :: itemsText vs

def membersText : List (String × Json) → List Char
  | [] => []
  | [(k, v)] => quoted k.toList ++ ':' :: text v
  | (k, v) :: ms => quoted k.toList ++ ':' :: (text v ++ ',' :: membersText ms)

end

end Json

end ApiValidators
