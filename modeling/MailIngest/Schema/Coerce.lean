import MailIngest.Schema.Validated
import MailIngest.Json.Value
import MailIngest.Number
import MailIngest.Decimal.Read
import MailIngest.Text.Blank
import MailIngest.Text.Path

/-!
# Reading typed fields from JSON

A `Check` turns a JSON value into a typed value or issues. The checks are lenient in the usual
way of configuration readers:

* a text field takes only texts;
* an integer field takes integers, truth values, floats without a fraction below 2^63 in size
  and texts of an integer (blanks around it, underscores between digits and a fraction of zeros
  allowed);
* a float field takes numbers, truth values and texts of a number, `nan` and `inf` included,
  underscores between digits allowed;
* a truth-value field takes truth values, the integers and whole floats 0 and 1, and the usual
  words (`yes`, `off`, …) in any case; a whole number of 2^63 or more in size is refused as a
  number of the wrong type;
* bounds are checked in the order upper inclusive, upper exclusive, lower inclusive, lower
  exclusive, so NaN fails the first bound it meets.

Fields of an object are read by `opt` (with a default) and `req` (missing is an issue), their
issues filed under the field name.

- `integer_int` : an integer reads as itself;
- `text_str` : a text reads as itself.
-/

namespace MailIngest.Schema

abbrev Check (α : Type) := Json → Validated α

def text : Check String
  | .str s => .ok s
  | _ => .fail "string_type"

def textAtLeast (n : Nat) : Check String := fun v =>
  (text v).andThen fun s => if s.length < n then .fail "string_too_short" else .ok s

def optional {α : Type} (c : Check α) : Check (Option α)
  | .null => .ok none
  | v => (c v).map some

/-- The integer of a whole float; one of 2^63 or more in size is too large to read. -/
def intOfFloat (x : Float) : Validated Int :=
  match Number.wholePart? x with
  | none => .fail "finite_number"
  | some (n, true) => if n.natAbs ≥ Nat.pow 2 63 then .fail "int_parsing_size" else .ok n
  | some (_, false) => .fail "int_from_float"

def beforeZeroFraction (s : String) : Option String :=
  match s.splitOn "." with
  | [whole, frac] => if frac.toList.all (· = '0') then some whole else none
  | _ => none

/-- A text without its underscores, unless one starts or ends it or two stand together. -/
def withoutUnderscores? (s : String) : Option String :=
  let cs := s.toList
  if cs.head? = some '_' || cs.getLast? = some '_' || (cs.zip cs.tail).any (· = ('_', '_')) then none
  else some (String.ofList (cs.filter (· ≠ '_')))

/-- The integer a text spells: an optional sign and digits, possibly followed by a point and
zeros. -/
def readWholeNumber? (t : String) : Option Int :=
  (Decimal.readInt? t).orElse fun _ => (beforeZeroFraction t).bind Decimal.readInt?

/-- The integer of a text: blanks around it are dropped, and underscores between its digits;
more than 4300 characters after the sign are too many to read. -/
def intOfText (s : String) : Validated Int :=
  let t := Text.trimWhiteSpace s
  let unsigned := match t.toList with
    | c :: rest => if c = '+' || c = '-' then rest.length else t.length
    | [] => 0
  if unsigned > 4300 then .fail "int_parsing_size"
  else match (readWholeNumber? t).orElse fun _ => (withoutUnderscores? t).bind readWholeNumber? with
    | some n => .ok n
    | none => .fail "int_parsing"

def integer : Check Int
  | .int n => .ok n
  | .bool b => .ok (if b then 1 else 0)
  | .float x => intOfFloat x
  | .str s => intOfText s
  | _ => .fail "int_type"

def real : Check Float
  | .float x => .ok x
  | .int n => match Number.intToFloat n with
    | .ok x => .ok x
    | .error _ => .fail "float_type"
  | .bool b => .ok (if b then 1.0 else 0.0)
  | .str s =>
    let t := Text.trimWhiteSpace s
    match (Decimal.readFloat? t).orElse fun _ => (withoutUnderscores? t).bind Decimal.readFloat? with
    | some x => .ok x
    | none => .fail "float_parsing"
  | _ => .fail "float_type"

def boolOfText (s : String) : Validated Bool :=
  let w := String.ofList (s.toList.map Char.toLower)
  if ["0", "off", "f", "false", "n", "no"].contains w then .ok false
  else if ["1", "on", "t", "true", "y", "yes"].contains w then .ok true
  else .fail "bool_parsing"

/-- The truth value of a whole number: 0 and 1 are truth values, another number below 2^63 in
size is no truth value, and a larger one is not read as a number at all. -/
def boolOfWhole (n : Int) : Validated Bool :=
  if n = 0 then .ok false else if n = 1 then .ok true
  else if n.natAbs < Nat.pow 2 63 || n = -(Nat.pow 2 63 : Int) then .fail "bool_parsing"
  else .fail "bool_type"

def flag : Check Bool
  | .bool b => .ok b
  | .str s => boolOfText s
  | .int n => boolOfWhole n
  | .float x => match Number.wholePart? x with
    | some (n, true) => if n.natAbs ≥ Nat.pow 2 63 then .fail "bool_type" else boolOfWhole n
    | _ => .fail "bool_type"
  | _ => .fail "bool_type"

def literal (choices : List String) : Check String
  | .str s => if choices.contains s then .ok s else .fail "literal_error"
  | _ => .fail "literal_error"

def path : Check String
  | .str s => .ok (Text.normalizePath s)
  | _ => .fail "path_type"

def object : Check (List (String × Json))
  | .obj ms => .ok ms
  | _ => .fail "model_type"

def mapping : Check (List (String × Json))
  | .obj ms => .ok ms
  | _ => .fail "dict_type"

/-- Bounds of a number; each is optional. -/
structure Bounds (α : Type) where
  le : Option α := none
  lt : Option α := none
  ge : Option α := none
  gt : Option α := none

/-- Checks the bounds in the order upper inclusive, upper exclusive, lower inclusive, lower
exclusive. -/
def within {α : Type} (below belowEq : α → α → Bool) (b : Bounds α) (x : α) : Validated α :=
  if b.le.any (fun m => !belowEq x m) then .fail "less_than_equal"
  else if b.lt.any (fun m => !below x m) then .fail "less_than"
  else if b.ge.any (fun m => !belowEq m x) then .fail "greater_than_equal"
  else if b.gt.any (fun m => !below m x) then .fail "greater_than"
  else .ok x

def integerIn (b : Bounds Int) : Check Int := fun v =>
  (integer v).andThen (within (fun x y => decide (x < y)) (fun x y => decide (x ≤ y)) b)

def realIn (b : Bounds Float) : Check Float := fun v =>
  (real v).andThen (within (fun x y => x < y) (fun x y => x ≤ y) b)

def opt {α : Type} (ms : List (String × Json)) (name : String) (dflt : α) (c : Check α) :
    Validated α :=
  match Json.lookup name ms with
  | none => .ok dflt
  | some v => (c v).under name

def req {α : Type} (ms : List (String × Json)) (name : String) (c : Check α) : Validated α :=
  match Json.lookup name ms with
  | none => (Validated.fail "missing").under name
  | some v => (c v).under name

/-- A field that is there is read by its check, its issues filed under its name. -/
theorem opt_present {α : Type} {ms : List (String × Json)} {name : String} {v : Json} (d : α) (c : Check α)
    (h : Json.lookup name ms = some v) : opt ms name d c = (c v).under name := by
  simp only [opt, h]

theorem integer_int (n : Int) : integer (.int n) = .ok n := rfl

theorem text_str (s : String) : text (.str s) = .ok s := rfl

end MailIngest.Schema
