import Gateway.Servers.FilterText

/-!
# The bare filter dialect, rewritten

A bare filter is made of comparisons `field op value`, joined by `and` and
`or` and grouped by parentheses.  `ParseFilter` rewrites it into the braced
dialect element by element.  A field opens a comparison `({field}`, and
`and`, `or` or a closing parenthesis closes the comparison before it.  So the
rewritten text is the braced form of the filter in which each value is written
as the loop writes an element.

The braced form the rewriting is measured against writes a decimal value as
it is and quotes any other value as a hex string, with `0x` in front.  The
loop does the same for a value that `strconv.Atoi` reads or that has at least
two characters; a decimal value beyond the 64-bit range, or a one-character
hex value, comes out differently.

`BareFilter.chars` writes a filter in lower case, with one space between the
parts of a comparison and around `and` and `or` and none inside parentheses.
`BareFilter.Writes` admits every other spelling: any case, any run of spaces
around the operators and parentheses, at least one space around `and` and
`or`.  The spacing out and `ToLower` make `ParseFilter` read them all alike.
-/

namespace Gateway.Servers

/-! ## The grammar -/

/-- The comparison operators of the bare dialect, `in` apart. -/
inductive FilterOp where
  | eq
  | gt
  | lt
  | ne
  | ge
  | le
  deriving DecidableEq

def FilterOp.text : FilterOp → String
  | .eq => "="
  | .gt => ">"
  | .lt => "<"
  | .ne => "!="
  | .ge => ">="
  | .le => "<="

/-- Modelled from the spec: the braced dialect writes `=` as `==`. -/
def FilterOp.braced : FilterOp → String
  | .eq => "=="
  | op => op.text

inductive Connective where
  | and
  | or
  deriving DecidableEq

def Connective.text : Connective → String
  | .and => "and"
  | .or => "or"

def decimalDigits : List Char := "0123456789".toList

def hexDigits : List Char := "0123456789abcdef".toList

/-- A value of the bare dialect: decimal digits, or hex digits after an
optional `0x`. -/
def isLiteral (v : String) : Bool :=
  match v.toList with
  | '0' :: 'x' :: ds => ds ≠ [] && ds.all (· ∈ hexDigits)
  | ds => ds ≠ [] && ds.all (· ∈ hexDigits)

def isDecimal (v : String) : Bool := v.toList ≠ [] && v.toList.all (· ∈ decimalDigits)

inductive BareFilter where
  | cmp (field : String) (op : FilterOp) (value : String)
  | join (conn : Connective) (l r : BareFilter)
  | paren (e : BareFilter)

namespace BareFilter

def wellFormed : BareFilter → Bool
  | cmp field _ value => field ∈ availableFilters && isLiteral value
  | join _ l r => l.wellFormed && r.wellFormed
  | paren e => e.wellFormed

/-- The characters of the filter as written. -/
def chars : BareFilter → List Char
  | cmp field op value => field.toList ++ ' ' :: (op.text.toList ++ ' ' :: value.toList)
  | join conn l r => l.chars ++ ' ' :: (conn.text.toList ++ ' ' :: r.chars)
  | paren e => '(' :: (e.chars ++ [')'])

def text (e : BareFilter) : String := ⟨e.chars⟩

/-- `s` spells the filter in any case, with any run of spaces around the
operators and parentheses and at the ends, and at least one space around `and`
and `or`. -/
inductive Writes : BareFilter → List Char → Prop
  | cmp {field : String} {op : FilterOp} {value : String} {f v : List Char} (a b c d : Nat)
      (hf : f.map Char.toLower = field.toList) (hv : v.map Char.toLower = value.toList) :
      Writes (cmp field op value)
        (List.replicate a ' ' ++ f ++ List.replicate b ' ' ++ op.text.toList ++
          List.replicate c ' ' ++ v ++ List.replicate d ' ')
  | join {conn : Connective} {l r : BareFilter} {k ls rs : List Char} (a b : Nat)
      (hk : k.map Char.toLower = conn.text.toList) (hl : Writes l ls) (hr : Writes r rs) :
      Writes (join conn l r)
        (ls ++ List.replicate (a + 1) ' ' ++ k ++ List.replicate (b + 1) ' ' ++ rs)
  | paren {e : BareFilter} {es : List Char} (a b : Nat) (he : Writes e es) :
      Writes (paren e) (List.replicate a ' ' ++ '(' :: es ++ ')' :: List.replicate b ' ')

/-- The elements the loop of `ParseFilter` meets, empty ones apart. -/
def tokens : BareFilter → List String
  | cmp field op value => [field, op.text, value]
  | join conn l r => l.tokens ++ [conn.text] ++ r.tokens
  | paren e => ["("] ++ e.tokens ++ [")"]

def values : BareFilter → List String
  | cmp _ _ value => [value]
  | join _ l r => l.values ++ r.values
  | paren e => e.values

/-- The braced form, each value written by `literal`. -/
def bracedWith (literal : String → String) : BareFilter → String
  | cmp field op value =>
    "(\x7b" ++ field ++ "\x7d" ++ " " ++ op.braced ++ " " ++ literal value ++ ")"
  | join conn l r => l.bracedWith literal ++ " " ++ conn.text ++ " " ++ r.bracedWith literal
  | paren e => "(" ++ e.bracedWith literal ++ ")"

end BareFilter

/-- Modelled from the spec: a literal quoted as a hex string, with a `0x`
prefix added when missing. -/
def hexQuote (v : String) : String := if v.take 2 = "0x" then "'" ++ v ++ "'" else "'0x" ++ v ++ "'"

/-- Modelled from the spec: a decimal integer literal is kept, any other
literal is quoted as a hex string. -/
def specLiteral (v : String) : String := if isDecimal v then v else hexQuote v

/-- Modelled from the spec: the reference braced form `B(e)`. -/
def BareFilter.braced (e : BareFilter) : String := e.bracedWith specLiteral

/-- A value the loop writes as the reference form does: a decimal value that
`strconv.Atoi` reads, or a hex value of at least two characters. -/
def literalAgrees (v : String) : Bool :=
  if isDecimal v then (atoi v.toList).isSome else 2 ≤ v.length

/-! ## The loop over the elements -/

section Elements

/-- The words that are neither punctuation, operators, `and`/`or` nor field
names. -/
def reservedWords : List String :=
  ["", "(", ")", ",", "]", "["] ++ operators ++ operands ++ availableFilters

theorem isLiteral_reserved : ∀ w ∈ reservedWords, isLiteral w = false := by decide

theorem filterElement_field {field : String} (h : field ∈ availableFilters) :
    filterElement field = "(\x7b" ++ field ++ "\x7d" := by
  have hfields : ∀ f ∈ availableFilters,
      f ≠ "" ∧ f ∉ ["(", ")", ",", "]", "["] ∧ f ∉ operators ∧ f ∉ operands := by
    decide
  obtain ⟨h₁, h₂, h₃, h₄⟩ := hfields field h
  simp only [filterElement, if_neg h₁, if_neg h₂, if_neg h₃, if_neg h₄, if_pos h]

theorem filterElement_op (op : FilterOp) : filterElement op.text = " " ++ op.braced ++ " " := by
  cases op <;> rfl

theorem filterElement_conn (conn : Connective) :
    filterElement conn.text = ")" ++ " " ++ conn.text ++ " " := by
  cases conn <;> rfl

theorem filterElement_literal {v : String} (h : isLiteral v) :
    filterElement v =
      if (atoi v.toList).isSome then v else if v.length ≥ 2 then hexQuote v else v := by
  have hreserved : v ∉ reservedWords := fun hv => by
    rw [isLiteral_reserved v hv] at h
    cases h
  simp only [reservedWords, List.mem_append, not_or] at hreserved
  obtain ⟨⟨⟨h₁, h₂⟩, h₃⟩, h₄⟩ := hreserved
  have h₀ : v ≠ "" := fun h₀ => h₁ (h₀ ▸ List.mem_cons_self _ _)
  simp only [filterElement, if_neg h₀, if_neg (fun hv => h₁ (List.mem_cons_of_mem _ hv)),
    if_neg h₂, if_neg h₃, if_neg h₄, hexQuote]
  cases atoi v.toList <;> by_cases hlen : v.length ≥ 2 <;> by_cases htake : v.take 2 = "0x" <;>
    simp [hlen, htake]

theorem foldl_tokens {e : BareFilter} (hwf : e.wellFormed) (acc : String) :
    e.tokens.foldl (fun acc elem => acc ++ filterElement elem) acc ++ ")" =
      acc ++ e.bracedWith filterElement := by
  induction e generalizing acc with
  | cmp field op value =>
    simp only [BareFilter.wellFormed, Bool.and_eq_true, decide_eq_true_eq] at hwf
    simp only [BareFilter.tokens, List.foldl_cons, List.foldl_nil, BareFilter.bracedWith,
      filterElement_field hwf.1, filterElement_op, String.append_assoc]
  | join conn l r ihl ihr =>
    simp only [BareFilter.wellFormed, Bool.and_eq_true] at hwf
    rw [BareFilter.tokens, List.foldl_append, List.foldl_append, ihr hwf.2, List.foldl_cons,
      List.foldl_nil, filterElement_conn]
    simp only [String.append_assoc]
    rw [← String.append_assoc _ ")", ihl hwf.1]
    simp only [BareFilter.bracedWith, String.append_assoc]
  | paren e ih =>
    rw [BareFilter.tokens, List.foldl_append, List.foldl_append, List.foldl_cons, List.foldl_nil,
      List.foldl_cons, List.foldl_nil]
    have hopen : filterElement "(" = "(" := rfl
    have hclose : filterElement ")" = ")" := rfl
    rw [hopen, hclose, ih hwf]
    simp only [BareFilter.bracedWith, String.append_assoc]

end Elements

/-! ## The spellings of a filter -/

section Spelling

def plainChars : List Char := "abcdefghijklmnopqrstuvwxyz0123456789_".toList

/-- The characters the spacing out pads or contracts, the space, and the
brace that marks a braced filter. -/
def punctuation : List Char := ['(', ')', '[', ']', ',', '=', '<', '>', '!', ' ', '\x7b']

theorem plainChars_spec : ∀ x ∈ plainChars, x ∉ punctuation := by decide

theorem toLower_punctuation : ∀ x ∈ punctuation, x.toLower = x := by decide

theorem not_punctuation {x : Char} (hx : x.toLower ∈ plainChars) : x ∉ punctuation :=
  fun hp => plainChars_spec x (toLower_punctuation x hp ▸ hx) hp

theorem padOne_of_not_punctuation {x : Char} (hx : x ∉ punctuation) : padOne x = [x] := by
  simp only [punctuation, List.mem_cons, List.not_mem_nil, or_false, not_or] at hx
  obtain ⟨h₁, h₂, h₃, h₄, h₅, h₆, h₇, h₈, h₉, -⟩ := hx
  simp [padOne, padChar, h₁, h₂, h₃, h₄, h₅, h₆, h₇, h₈, h₉]

theorem flatMap_padOne_of_fixed {s : List Char} (h : ∀ x ∈ s, padOne x = [x]) :
    s.flatMap padOne = s := by
  induction s with
  | nil => rfl
  | cons x s ih =>
    rw [List.flatMap_cons, h x (List.mem_cons_self x s),
      ih fun y hy => h y (List.mem_cons_of_mem x hy)]
    rfl

theorem field_plain :
    ∀ f ∈ availableFilters, f.toList ≠ [] ∧ ∀ x ∈ f.toList, x ∈ plainChars := by
  decide

theorem isLiteral_plain {v : String} (h : isLiteral v) :
    v.toList ≠ [] ∧ ∀ x ∈ v.toList, x ∈ plainChars := by
  have hhex : ∀ x ∈ hexDigits, x ∈ plainChars := by decide
  unfold isLiteral at h
  split at h
  next ds hv =>
    simp only [Bool.and_eq_true, decide_eq_true_eq, List.all_eq_true] at h
    refine ⟨hv ▸ List.cons_ne_nil _ _, fun x hx => ?_⟩
    rw [hv] at hx
    rcases List.mem_cons.1 hx with rfl | hx
    · decide
    rcases List.mem_cons.1 hx with rfl | hx
    · decide
    exact hhex x (h.2 x hx)
  next ds _ =>
    simp only [Bool.and_eq_true, decide_eq_true_eq, List.all_eq_true] at h
    exact ⟨h.1, fun x hx => hhex x (h.2 x hx)⟩

theorem connective_plain (conn : Connective) :
    conn.text.toList ≠ [] ∧ ∀ x ∈ conn.text.toList, x ∈ plainChars := by
  cases conn <;> decide

theorem spelling_word {w : List Char} {word : String} (hw : w.map Char.toLower = word.toList)
    (hne : word.toList ≠ []) (hplain : ∀ x ∈ word.toList, x ∈ plainChars) :
    w.flatMap padOne = w ∧ (∀ x ∈ w, x ≠ '<' ∧ x ≠ '>' ∧ x ≠ '!' ∧ x ≠ '=') ∧
      words w = [w] := by
  have hnp : ∀ x ∈ w, x ∉ punctuation := fun x hx =>
    not_punctuation (hplain _ (hw ▸ List.mem_map_of_mem _ hx))
  refine ⟨flatMap_padOne_of_fixed fun x hx => padOne_of_not_punctuation (hnp x hx),
    fun x hx => ?_, words_of_not_mem ?_ fun hm => hnp ' ' hm (by decide)⟩
  · refine ⟨?_, ?_, ?_, ?_⟩ <;> rintro rfl <;> exact hnp _ hx (by decide)
  · rintro rfl
    exact hne hw.symm

theorem spaces_inert (n : Nat) :
    ∀ x ∈ List.replicate n ' ', x ≠ '<' ∧ x ≠ '>' ∧ x ≠ '!' ∧ x ≠ '=' := fun x hx => by
  rw [List.eq_of_mem_replicate hx]
  decide

theorem flatMap_padOne_spaces (n : Nat) :
    (List.replicate n ' ').flatMap padOne = List.replicate n ' ' :=
  flatMap_padOne_of_fixed fun x hx => by rw [List.eq_of_mem_replicate hx]; rfl

theorem words_spaceOut {e : BareFilter} {s : List Char} (hs : e.Writes s) (hwf : e.wellFormed) :
    (words (spaceOut s)).map (List.map Char.toLower) = e.tokens.map String.toList := by
  rw [spaceOut_eq]
  induction hs with
  | @cmp field op value f v a b c d hf hv =>
    simp only [BareFilter.wellFormed, Bool.and_eq_true, decide_eq_true_eq] at hwf
    obtain ⟨hfpad, hfinert, hfword⟩ :=
      spelling_word hf (field_plain field hwf.1).1 (field_plain field hwf.1).2
    obtain ⟨hvpad, hvinert, hvword⟩ :=
      spelling_word hv (isLiteral_plain hwf.2).1 (isLiteral_plain hwf.2).2
    have hop : contractAll (op.text.toList.flatMap padOne) =
        ' ' :: (op.text.toList ++ [' ']) := by cases op <;> rfl
    have hopword : words op.text.toList = [op.text.toList] := by cases op <;> rfl
    have hoplower : op.text.data.map Char.toLower = op.text.data := by cases op <;> rfl
    have hrest : ∀ x ∈ List.replicate c ' ' ++ (v ++ List.replicate d ' '),
        x ≠ '<' ∧ x ≠ '>' ∧ x ≠ '!' ∧ x ≠ '=' :=
      List.forall_mem_append.2 ⟨spaces_inert c, List.forall_mem_append.2 ⟨hvinert, spaces_inert d⟩⟩
    simp only [List.flatMap_append, hfpad, hvpad, flatMap_padOne_spaces, List.append_assoc]
    rw [contractAll_append_left (spaces_inert a), contractAll_append_left hfinert,
      contractAll_append_left (spaces_inert b), contractAll_append_right hrest, hop]
    simp only [List.cons_append, List.nil_append, List.append_assoc, List.singleton_append,
      words_replicate_append, words_append_replicate_space, words_append_space,
      words_append_replicate, hfword, hopword, hvword]
    simp [BareFilter.tokens, hf, hv, hoplower]
  | @join conn l r k ls rs a b hk hl hr ihl ihr =>
    simp only [BareFilter.wellFormed, Bool.and_eq_true] at hwf
    obtain ⟨hkpad, hkinert, hkword⟩ :=
      spelling_word hk (connective_plain conn).1 (connective_plain conn).2
    have hkne : k ≠ [] := by
      rintro rfl
      exact (connective_plain conn).1 hk.symm
    have hmid : ∀ x ∈ List.replicate (a + 1) ' ' ++ (k ++ List.replicate (b + 1) ' '),
        x ≠ '<' ∧ x ≠ '>' ∧ x ≠ '!' ∧ x ≠ '=' :=
      List.forall_mem_append.2 ⟨spaces_inert _, List.forall_mem_append.2 ⟨hkinert, spaces_inert _⟩⟩
    have hlen : 3 ≤ (List.replicate (a + 1) ' ' ++ (k ++ List.replicate (b + 1) ' ')).length := by
      have := List.length_pos.2 hkne
      simp only [List.length_append, List.length_replicate]
      omega
    simp only [List.flatMap_append, hkpad, flatMap_padOne_spaces, List.append_assoc]
    rw [← List.append_assoc k, ← List.append_assoc (List.replicate (a + 1) ' '),
      contractAll_append_mid hmid hlen]
    simp only [List.append_assoc, words_append_replicate_succ, hkword, List.map_append,
      ihl hwf.1, ihr hwf.2]
    simp [BareFilter.tokens, hk]
  | @paren e es a b he ih =>
    have hopen : padOne '(' = [' ', '(', ' '] := rfl
    have hclose : padOne ')' = [' ', ')', ' '] := rfl
    have hrest : ∀ x ∈ [' ', ')', ' '] ++ List.replicate b ' ',
        x ≠ '<' ∧ x ≠ '>' ∧ x ≠ '!' ∧ x ≠ '=' :=
      List.forall_mem_append.2 ⟨by decide, spaces_inert b⟩
    simp only [List.flatMap_append, List.flatMap_cons, hopen, hclose, flatMap_padOne_spaces,
      List.append_assoc]
    rw [contractAll_append_left (spaces_inert a), contractAll_append_left (by decide),
      contractAll_append_right hrest]
    simp only [List.cons_append, List.nil_append, words_replicate_append, words_cons_space,
      words_append_space, words_cons_cons_space (by decide : '(' ≠ ' '),
      words_cons_cons_space (by decide : ')' ≠ ' '), words_replicate]
    simp [BareFilter.tokens, ih hwf]

theorem writes_chars {e : BareFilter} (hwf : e.wellFormed) : e.Writes e.chars := by
  have hlower : ∀ {w : List Char}, (∀ x ∈ w, x ∈ plainChars) → w.map Char.toLower = w :=
    fun hw => (List.map_congr_left fun x hx => (by decide : ∀ y ∈ plainChars, y.toLower = y) x
      (hw x hx)).trans (List.map_id _)
  induction e with
  | cmp field op value =>
    simp only [BareFilter.wellFormed, Bool.and_eq_true, decide_eq_true_eq] at hwf
    convert @BareFilter.Writes.cmp field op value _ _ 0 1 1 0 (hlower (field_plain field hwf.1).2)
      (hlower (isLiteral_plain hwf.2).2) using 1
    simp [BareFilter.chars]
  | join conn l r ihl ihr =>
    simp only [BareFilter.wellFormed, Bool.and_eq_true] at hwf
    convert BareFilter.Writes.join 0 0 (hlower (connective_plain conn).2) (ihl hwf.1)
      (ihr hwf.2) using 1
    simp [BareFilter.chars]
  | paren e ih =>
    convert BareFilter.Writes.paren 0 0 (ih hwf) using 1

theorem brace_not_mem_writes {e : BareFilter} {s : List Char} (hs : e.Writes s)
    (hwf : e.wellFormed) : '\x7b' ∉ s := by
  have hbrace : ∀ {w : List Char} {word : String}, w.map Char.toLower = word.toList →
      (∀ x ∈ word.toList, x ∈ plainChars) → '\x7b' ∉ w := fun hw hplain hm =>
    not_punctuation (hplain _ (hw ▸ List.mem_map_of_mem _ hm)) (by decide)
  induction hs with
  | @cmp field op value f v a b c d hf hv =>
    simp only [BareFilter.wellFormed, Bool.and_eq_true, decide_eq_true_eq] at hwf
    have hop : '\x7b' ∉ op.text.data := by cases op <;> decide
    simp [hbrace hf (field_plain field hwf.1).2, hbrace hv (isLiteral_plain hwf.2).2, hop]
  | @join conn l r k ls rs a b hk hl hr ihl ihr =>
    simp only [BareFilter.wellFormed, Bool.and_eq_true] at hwf
    simp [ihl hwf.1, ihr hwf.2, hbrace hk (connective_plain conn).2]
  | @paren e es a b he ih => simp [ih hwf]

end Spelling

/-! ## The elements of a filter -/

section Split

theorem foldl_filterElement_words (acc : String) (L : List (List Char)) :
    (L.map String.mk).foldl (fun acc elem => acc ++ filterElement elem) acc =
      ((L.filter fun w => !w.isEmpty).map String.mk).foldl
        (fun acc elem => acc ++ filterElement elem) acc := by
  induction L generalizing acc with
  | nil => rfl
  | cons w L ih =>
    cases w with
    | nil =>
      have hempty : filterElement ⟨[]⟩ = "" := rfl
      simp only [List.map_cons, List.foldl_cons, hempty, String.append_empty, ih,
        List.filter_cons, List.isEmpty_nil, Bool.not_true, Bool.false_eq_true, if_false]
    | cons x w =>
      simp only [List.map_cons, List.foldl_cons, ih, List.filter_cons, List.isEmpty_cons,
        Bool.not_false, if_true]

theorem bareFilterString_of_writes {e : BareFilter} {s : List Char} (hs : e.Writes s)
    (hwf : e.wellFormed) : bareFilterString ⟨s⟩ = e.bracedWith filterElement := by
  have hwords : ((toLower (trimSpaces (spaceOut (String.mk s).toList))).splitOn ' ').filter
      (fun w => !w.isEmpty) = e.tokens.map String.toList := by
    show words (toLower (trimSpaces (spaceOut s))) = _
    rw [toLower, words_map toLower_eq_space, words_trimSpaces, words_spaceOut hs hwf]
  have hmk : (e.tokens.map String.toList).map String.mk = e.tokens := by
    rw [List.map_map]
    exact List.map_id'' (fun _ => rfl) _
  rw [bareFilterString, filterElements, foldl_filterElement_words, hwords, hmk, foldl_tokens hwf,
    String.empty_append]

end Split

/-! ## Values against the reference form -/

section Literals

theorem plainChars_sign : ∀ x ∈ plainChars,
    x ≠ '-' ∧ x ≠ '+' ∧ x ≠ '\'' ∧ (x.isDigit = true → x ∈ decimalDigits) := by
  decide

theorem atoi_of_not_digit {x : Char} {ds : List Char} (hx : x ≠ '-' ∧ x ≠ '+')
    (h : (x :: ds).all Char.isDigit = false) : atoi (x :: ds) = none := by
  simp [atoi, hx.1, hx.2, h]

theorem atoi_decimal_singleton : ∀ d ∈ decimalDigits, (atoi [d]).isSome := by decide

theorem atoi_of_not_decimal {v : String} (hlit : isLiteral v) (hdec : isDecimal v = false) :
    atoi v.toList = none := by
  obtain ⟨hne, hplain⟩ := isLiteral_plain hlit
  obtain ⟨x, ds, hv⟩ := List.exists_cons_of_ne_nil hne
  have hx := plainChars_sign x (hplain x (hv ▸ List.mem_cons_self x ds))
  rw [hv]
  refine atoi_of_not_digit ⟨hx.1, hx.2.1⟩ (Bool.eq_false_iff.2 fun hall => ?_)
  have hdigits : ∀ y ∈ v.toList, y ∈ decimalDigits := fun y hy =>
    (plainChars_sign y (hplain y hy)).2.2.2 (List.all_eq_true.1 (hv ▸ hall) y hy)
  have hdecimal : isDecimal v = true := by
    unfold isDecimal
    rw [Bool.and_eq_true, decide_eq_true_eq, List.all_eq_true]
    exact ⟨hne, fun y hy => decide_eq_true (hdigits y hy)⟩
  rw [hdecimal] at hdec
  cases hdec

theorem atoi_of_decimal_short {v : String} (hdec : isDecimal v) (hlen : ¬v.length ≥ 2) :
    (atoi v.toList).isSome := by
  obtain ⟨l⟩ := v
  simp only [isDecimal, Bool.and_eq_true, decide_eq_true_eq, List.all_eq_true] at hdec
  match l, hdec, hlen with
  | [d], hdec, _ =>
    exact atoi_decimal_singleton d (by simpa using hdec.2 d (List.mem_singleton_self d))
  | [], hdec, _ => exact absurd rfl hdec.1
  | _ :: _ :: _, _, hlen => exact absurd (by simp) hlen

theorem filterElement_specLiteral {v : String} (hlit : isLiteral v) :
    (filterElement v = specLiteral v ↔ literalAgrees v) ∧
      (filterElement v ≠ specLiteral v →
        ∀ s s' : List Char, (filterElement v).data ++ s ≠ (specLiteral v).data ++ s') := by
  obtain ⟨hne, hplain⟩ := isLiteral_plain hlit
  obtain ⟨x, ds, hv⟩ := List.exists_cons_of_ne_nil hne
  have hx := plainChars_sign x (hplain x (hv ▸ List.mem_cons_self x ds))
  have hquote : ∀ s s' : List Char, (hexQuote v).data ++ s ≠ v.data ++ s' := by
    obtain ⟨rest, hq⟩ : ∃ rest, (hexQuote v).data = '\'' :: rest := by
      unfold hexQuote
      split_ifs <;> exact ⟨_, rfl⟩
    intro s s' h
    rw [hq, show v.data = x :: ds from hv] at h
    exact hx.2.2.1 (List.cons.inj h).1.symm
  have hquote' : hexQuote v ≠ v := fun h => hquote [] [] (by rw [h])
  rw [filterElement_literal hlit]
  unfold specLiteral literalAgrees
  by_cases hdec : isDecimal v
  · rw [if_pos hdec, if_pos hdec]
    by_cases hatoi : (atoi v.toList).isSome
    · rw [if_pos hatoi]
      exact ⟨iff_of_true rfl hatoi, fun h => absurd rfl h⟩
    · have hlen : v.length ≥ 2 := by_contra fun hlen => hatoi (atoi_of_decimal_short hdec hlen)
      rw [if_neg hatoi, if_pos hlen]
      exact ⟨iff_of_false hquote' hatoi, fun _ => hquote⟩
  · have hatoi : ¬(atoi v.toList).isSome := by
      rw [atoi_of_not_decimal hlit (eq_false_of_ne_true hdec)]
      exact Bool.false_ne_true
    rw [if_neg hdec, if_neg hdec, if_neg hatoi]
    by_cases hlen : v.length ≥ 2
    · rw [if_pos hlen]
      exact ⟨iff_of_true rfl (decide_eq_true hlen), fun h => absurd rfl h⟩
    · rw [if_neg hlen]
      exact ⟨iff_of_false (Ne.symm hquote') fun h => hlen (of_decide_eq_true h),
        fun _ s s' h => hquote s' s h.symm⟩

end Literals

/-! ## The rewritten filter against the reference form -/

section Braced

theorem bracedWith_congr {f g : String → String} {e : BareFilter}
    (h : ∀ v ∈ e.values, f v = g v) : e.bracedWith f = e.bracedWith g := by
  induction e with
  | cmp field op value => simp only [BareFilter.bracedWith, h value (List.mem_singleton_self _)]
  | join conn l r ihl ihr =>
    simp only [BareFilter.values, List.mem_append] at h
    simp only [BareFilter.bracedWith, ihl fun v hv => h v (Or.inl hv),
      ihr fun v hv => h v (Or.inr hv)]
  | paren e ih => simp only [BareFilter.bracedWith, ih h]

theorem bracedWith_data_append {e : BareFilter} (hwf : e.wellFormed) :
    ∀ {s s' : List Char}, (e.bracedWith filterElement).data ++ s = e.braced.data ++ s' →
      (∀ v ∈ e.values, filterElement v = specLiteral v) ∧ s = s' := by
  induction e with
  | cmp field op value =>
    intro s s' h
    simp only [BareFilter.wellFormed, Bool.and_eq_true, decide_eq_true_eq] at hwf
    simp only [BareFilter.braced, BareFilter.bracedWith, String.data_append,
      List.append_assoc, List.append_cancel_left_eq] at h
    obtain ⟨-, hdiffer⟩ := filterElement_specLiteral hwf.2
    by_cases hvalue : filterElement value = specLiteral value
    · rw [hvalue, List.append_cancel_left_eq] at h
      exact ⟨by simpa [BareFilter.values] using hvalue, List.append_cancel_left h⟩
    · exact absurd h (hdiffer hvalue _ _)
  | join conn l r ihl ihr =>
    intro s s' h
    simp only [BareFilter.wellFormed, Bool.and_eq_true] at hwf
    simp only [BareFilter.braced, BareFilter.bracedWith, String.data_append,
      List.append_assoc] at h
    obtain ⟨hl, h⟩ := ihl hwf.1 h
    rw [List.append_cancel_left_eq, List.append_cancel_left_eq, List.append_cancel_left_eq] at h
    obtain ⟨hr, rfl⟩ := ihr hwf.2 h
    refine ⟨fun v hv => ?_, rfl⟩
    rcases List.mem_append.1 hv with hv | hv
    exacts [hl v hv, hr v hv]
  | paren e ih =>
    intro s s' h
    simp only [BareFilter.braced, BareFilter.bracedWith, String.data_append,
      List.append_assoc] at h
    obtain ⟨he, h⟩ := ih hwf (List.append_cancel_left h)
    exact ⟨he, List.append_cancel_left h⟩

theorem values_literal {e : BareFilter} (hwf : e.wellFormed) : ∀ v ∈ e.values, isLiteral v := by
  induction e with
  | cmp field op value =>
    simp only [BareFilter.wellFormed, Bool.and_eq_true] at hwf
    simpa [BareFilter.values] using hwf.2
  | join conn l r ihl ihr =>
    simp only [BareFilter.wellFormed, Bool.and_eq_true] at hwf
    intro v hv
    rcases List.mem_append.1 hv with hv | hv
    exacts [ihl hwf.1 v hv, ihr hwf.2 v hv]
  | paren e ih => exact ih hwf

theorem brace_mem_braced (e : BareFilter) : '\x7b' ∈ e.braced.data := by
  induction e with
  | cmp field op value => simp [BareFilter.braced, BareFilter.bracedWith]
  | join conn l r ihl ihr =>
    simp only [BareFilter.braced, BareFilter.bracedWith, String.data_append, List.mem_append]
    exact Or.inl (Or.inl (Or.inl (Or.inl ihl)))
  | paren e ih =>
    simp only [BareFilter.braced, BareFilter.bracedWith, String.data_append, List.mem_append]
    exact Or.inl (Or.inr ih)

/-- `ParseFilter` rewrites a well-formed bare filter into its braced form with
each value written as its loop writes an element.  That is the reference
braced form exactly when every value is a decimal one that `strconv.Atoi`
reads or a hex one of at least two characters, and then the bare filter
parses to what its reference form parses to.  Every other spelling of the
filter, in any case and with any spacing, is rewritten and parsed alike. -/
theorem parseFilter_bare {Expr : Type} {e : BareFilter} (hwf : e.wellFormed) :
    bareFilterString e.text = e.bracedWith filterElement ∧
      (bareFilterString e.text = e.braced ↔ ∀ v ∈ e.values, literalAgrees v) ∧
      ((∀ v ∈ e.values, literalAgrees v) →
        ∀ (parse : String → Except String Expr) (hasEmptyValue : Expr → Bool),
          (parseFilter parse hasEmptyValue e.text).map Prod.snd =
            (parseFilter parse hasEmptyValue e.braced).map Prod.snd) ∧
      (∀ s : List Char, e.Writes s →
        bareFilterString ⟨s⟩ = bareFilterString e.text ∧
          ∀ (parse : String → Except String Expr) (hasEmptyValue : Expr → Bool),
            parseFilter parse hasEmptyValue ⟨s⟩ = parseFilter parse hasEmptyValue e.text) := by
  have hrewrite : bareFilterString e.text = e.bracedWith filterElement :=
    bareFilterString_of_writes (writes_chars hwf) hwf
  have hbare : '\x7b' ∉ e.text.toList := brace_not_mem_writes (writes_chars hwf) hwf
  have hagree : bareFilterString e.text = e.braced ↔ ∀ v ∈ e.values, literalAgrees v := by
    rw [hrewrite]
    constructor
    · intro h v hv
      have hdata : (e.bracedWith filterElement).data ++ [] = e.braced.data ++ [] := by rw [h]
      exact (filterElement_specLiteral (values_literal hwf v hv)).1.1
        ((bracedWith_data_append hwf hdata).1 v hv)
    · intro h
      exact bracedWith_congr fun v hv =>
        (filterElement_specLiteral (values_literal hwf v hv)).1.2 (h v hv)
  refine ⟨hrewrite, hagree, fun h parse hasEmptyValue => ?_, fun s hs => ?_⟩
  · have hbraced : '\x7b' ∈ e.braced.toList := brace_mem_braced e
    simp only [parseFilter, if_neg hbare, if_pos hbraced, hagree.2 h]
    split
    · rfl
    · split <;> rfl
  · have hstr := (bareFilterString_of_writes hs hwf).trans hrewrite.symm
    have hbrace : '\x7b' ∉ (String.mk s).toList := brace_not_mem_writes hs hwf
    exact ⟨hstr, fun parse hasEmptyValue => by simp only [parseFilter, if_neg hbrace, if_neg hbare, hstr]⟩

/-- The filter `gas > a` is well formed, and `ParseFilter` does not rewrite it
into its reference form. -/
theorem hexLetter_value_unquoted :
    (BareFilter.cmp "gas" .gt "a").wellFormed ∧
      bareFilterString (BareFilter.cmp "gas" .gt "a").text ≠
        (BareFilter.cmp "gas" .gt "a").braced :=
  ⟨by decide, fun h => absurd
    ((@parseFilter_bare Unit _ (by decide)).2.1.1 h "a" (List.mem_singleton_self _)) (by decide)⟩

/-- A one-letter hex value is left unquoted, and a decimal value beyond the
64-bit range is quoted as a hex string. -/
theorem bareFilter_values_misquoted :
    (BareFilter.cmp "gas" .gt "a").text = "gas > a" ∧
      bareFilterString "gas > a" = "(\x7bgas\x7d > a)" ∧
      (BareFilter.cmp "gas" .gt "a").braced = "(\x7bgas\x7d > '0xa')" ∧
      (BareFilter.cmp "value" .gt "99999999999999999999").text = "value > 99999999999999999999" ∧
      bareFilterString "value > 99999999999999999999" =
        "(\x7bvalue\x7d > '0x99999999999999999999')" ∧
      (BareFilter.cmp "value" .gt "99999999999999999999").braced =
        "(\x7bvalue\x7d > 99999999999999999999)" :=
  ⟨rfl, rfl, rfl, rfl, rfl, rfl⟩

end Braced

end Gateway.Servers
