import MailIngest.Text.CodePoint

/-!
# JSON values with ordered objects

A `Json` value keeps the members of an object in the order they were written, so that a
value read from text and written back lists its keys as the text did. Numbers are either
exact integers or binary floats, as the data format's readers distinguish them.

The main statements are the look-up laws `get?_set_self` and `get?_set_ne`: setting a key
makes it read back, and leaves every other key as it was.
-/

namespace MailIngest

/-- A JSON value; objects are association lists in insertion order. -/
inductive Json where
  | null
  | bool (b : Bool)
  | int (n : Int)
  | float (x : Float)
  | str (s : String)
  /-- A string some of whose code points are surrogates standing alone, which a `String`
  cannot hold. -/
  | codes (points : List Text.CodePoint)
  | arr (items : List Json)
  | obj (members : List (String × Json))
deriving Inhabited

namespace Json

/-- Replaces the value of `key` in place, or appends the member when the key is new. -/
def setMember (key : String) (v : Json) : List (String × Json) → List (String × Json)
  | [] => [(key, v)]
  | (k, w) :: rest => if k = key then (k, v) :: rest else (k, w) :: setMember key v rest

def lookup (key : String) : List (String × Json) → Option Json
  | [] => none
  | (k, w) :: rest => if k = key then some w else lookup key rest

/-- The member `key` of an object; `none` for other values or a missing key. -/
def get? (j : Json) (key : String) : Option Json :=
  match j with
  | obj ms => lookup key ms
  | _ => none

/-- Sets member `key` of an object; other values are left unchanged. -/
def set (j : Json) (key : String) (v : Json) : Json :=
  match j with
  | obj ms => obj (setMember key v ms)
  | other => other

def members : Json → List (String × Json)
  | obj ms => ms
  | _ => []

def keys (j : Json) : List String := j.members.map Prod.fst

def isNull : Json → Bool
  | null => true
  | _ => false

def getStr? : Json → Option String
  | str s => some s
  | _ => none

def getArr? : Json → Option (List Json)
  | arr xs => some xs
  | _ => none

def getInt? : Json → Option Int
  | int n => some n
  | _ => none

def getBool? : Json → Option Bool
  | bool b => some b
  | _ => none

/-- A string member, or `dflt` when it is missing or not a string. -/
def strD (j : Json) (key : String) (dflt : String) : String :=
  ((j.get? key).bind getStr?).getD dflt

/-- An object built from members, a later duplicate key replacing the earlier value. -/
def ofMembers (ms : List (String × Json)) : Json :=
  obj (ms.foldl (fun acc (k, v) => setMember k v acc) [])

def optStr : Option String → Json
  | some s => str s
  | none => null

def optInt : Option Int → Json
  | some n => int n
  | none => null

def strs (xs : List String) : Json := arr (xs.map str)

/-- Decoded text as a string: a plain one when every code point is a character. -/
def text (ps : List Text.CodePoint) : Json :=
  match Text.CodePoint.toString? ps with
  | some s => str s
  | none => codes ps

/-- Whether a value counts as present in a condition: `null`, `false`, zero, and the empty
text, array and object do not. -/
def truthy : Json → Bool
  | null => false
  | bool b => b
  | int n => n != 0
  | float x => !(x == 0.0)
  | str s => !s.isEmpty
  | codes ps => !ps.isEmpty
  | arr xs => !xs.isEmpty
  | obj ms => !ms.isEmpty

theorem lookup_setMember_self (key : String) (v : Json) :
    ∀ ms : List (String × Json), lookup key (setMember key v ms) = some v
  | [] => by simp [setMember, lookup]
  | (k, w) :: rest => by
    by_cases h : k = key
    · simp [setMember, lookup, h]
    · simp [setMember, lookup, h, lookup_setMember_self key v rest]

theorem lookup_setMember_ne {key other : String} (v : Json) (hne : other ≠ key) :
    ∀ ms : List (String × Json), lookup other (setMember key v ms) = lookup other ms
  | [] => by simp [setMember, lookup, Ne.symm hne]
  | (k, w) :: rest => by
    by_cases h : k = key
    · subst h; simp [setMember, lookup, Ne.symm hne]
    · by_cases h2 : k = other
      · subst h2; simp [setMember, lookup, h]
      · simp [setMember, lookup, h, h2, lookup_setMember_ne v hne rest]

theorem get?_set_self (ms : List (String × Json)) (key : String) (v : Json) :
    ((obj ms).set key v).get? key = some v := lookup_setMember_self key v ms

theorem get?_set_ne (ms : List (String × Json)) {key other : String} (v : Json)
    (hne : other ≠ key) : ((obj ms).set key v).get? other = (obj ms).get? other :=
  lookup_setMember_ne v hne ms

end Json

end MailIngest
