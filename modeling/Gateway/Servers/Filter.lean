import Mathlib.Data.List.Basic

/-!
# Subscription filters

`ParseFilter` accepts two dialects of subscription filter.  A filter with a
brace is in the braced dialect of the conditions parser already.  A bare
filter such as `gas > 100 and to = 0xab` is rewritten into the braced one: it
is spaced out around its punctuation, lower-cased and split into elements,
and each element is rewritten.  A field name opens a comparison `({field}`, an
operator is spaced (`=` doubled), `and` and `or` close the comparison before
them, and a value is quoted as a hex string unless `strconv.Atoi` reads it as
a number or it is shorter than two characters.

The filter text is a list of characters while it is spaced out.  The
conditions parser and the empty-value check on its result are collaborators.
-/

namespace Gateway.Servers

/-! ## Library functions -/

/-- `strconv.Atoi`: an optional sign and decimal digits, within the range of
a 64-bit `int`. -/
def atoi (s : List Char) : Option Int :=
  let signed := s.head? = some '-' ∨ s.head? = some '+'
  let digits := if signed then s.tail else s
  if digits ≠ [] ∧ digits.all Char.isDigit then
    let n : Int := digits.foldl (fun acc c => acc * 10 + (c.toNat - '0'.toNat : Nat)) 0
    let v := if s.head? = some '-' then -n else n
    if -9223372036854775808 ≤ v ∧ v < 9223372036854775808 then some v else none
  else none

theorem atoi_range {s : List Char} {v : Int} (h : atoi s = some v) :
    -9223372036854775808 ≤ v ∧ v < 9223372036854775808 := by
  unfold atoi at h
  dsimp only at h
  split_ifs at h <;> cases h <;> assumption

/-- `strings.ReplaceAll` for a non-empty `old`: its occurrences from left to
right, without overlaps.  Every step consumes a character, so `fuel` is the
length of the text. -/
def replaceAllAux (old new : List Char) : Nat → List Char → List Char
  | 0, s => s
  | _ + 1, [] => []
  | fuel + 1, c :: cs =>
    if old.isPrefixOf (c :: cs) then new ++ replaceAllAux old new fuel ((c :: cs).drop old.length)
    else c :: replaceAllAux old new fuel cs

def replaceAll (s : List Char) (old new : String) : List Char :=
  replaceAllAux old.toList new.toList s.length s

/-- `strings.Trim(s, " ")`. -/
def trimSpaces (s : List Char) : List Char :=
  ((s.dropWhile (· = ' ')).reverse.dropWhile (· = ' ')).reverse

/-- `strings.ToLower`, on ASCII letters. -/
def toLower (s : List Char) : List Char := s.map Char.toLower

/-! ## The bare dialect -/

def operators : List String := ["=", ">", "<", "!=", ">=", "<=", "in"]

def operands : List String := ["and", "or"]

def availableFilters : List String := ["gas", "gas_price", "value", "to", "from", "method_id",
  "type", "chain_id", "max_fee_per_gas", "max_priority_fee_per_gas"]

/-- The spacing out of `ParseFilter`, one `strings.ReplaceAll` after another. -/
def spaceOut (filters : List Char) : List Char :=
  let s := replaceAll filters "(" " ( "
  let s := replaceAll s ")" " ) "
  let s := replaceAll s "[" " [ "
  let s := replaceAll s "]" " ] "
  let s := replaceAll s "," " , "
  let s := replaceAll s "=" " = "
  let s := replaceAll s "<" " < "
  let s := replaceAll s ">" " > "
  let s := replaceAll s "!" " ! "
  let s := replaceAll s "," " , "
  let s := replaceAll s "<  =" "<="
  let s := replaceAll s ">  =" ">="
  replaceAll s "!  =" "!="

/-- `filtersArr`: the spaced-out filter, trimmed, lower-cased and split at
every space. -/
def filterElements (filters : String) : List String :=
  ((toLower (trimSpaces (spaceOut filters.toList))).splitOn ' ').map String.mk

/-- What the loop of `ParseFilter` writes for one element. -/
def filterElement (elem : String) : String :=
  if elem = "" then ""
  else if elem ∈ ["(", ")", ",", "]", "["] then elem
  else if elem ∈ operators then " " ++ (if elem = "=" then elem else "") ++ elem ++ " "
  else if elem ∈ operands then ")" ++ " " ++ elem ++ " "
  else if elem ∈ availableFilters then "(\x7b" ++ elem ++ "\x7d"
  else
    let isString := (atoi elem.toList).isNone
    if isString ∧ elem.length ≥ 2 ∧ elem.take 2 ≠ "0x" then "'0x" ++ elem ++ "'"
    else if isString ∧ elem.length ≥ 2 ∧ elem.take 2 = "0x" then "'" ++ elem ++ "'"
    else elem

/-- `newFilterString` of a bare filter: the elements rewritten, and a closing
parenthesis. -/
def bareFilterString (filters : String) : String :=
  (filterElements filters).foldl (fun acc elem => acc ++ filterElement elem) "" ++ ")"

/-- `ParseFilter`: the braced string it builds (empty for a filter already
braced) and the parsed expression.  `parse` is the conditions parser and
`hasEmptyValue` is `filtersHasEmptyValue` of the parsed expression's text. -/
def parseFilter {Expr : Type} (parse : String → Except String Expr)
    (hasEmptyValue : Expr → Bool) (filters : String) : Except String (String × Expr) :=
  let (built, text) :=
    if '\x7b' ∈ filters.toList then ("", filters)
    else (bareFilterString filters, bareFilterString filters)
  match parse ⟨toLower (replaceAll text.toList "'" "\"")⟩ with
  | .error err => .error err
  | .ok expr => if hasEmptyValue expr then .error "filter is empty" else .ok (built, expr)

end Gateway.Servers
