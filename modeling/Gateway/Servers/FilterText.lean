import Gateway.Servers.Filter

/-!
# The text passes of `ParseFilter`

What the spacing out, trimming and splitting of `ParseFilter` do to a text
built from pieces.  A one-character `ReplaceAll` pads every occurrence of its
character.  A longer one acts on each side of a concatenation when no
occurrence spans the joint.  Splitting at spaces and dropping the empty
elements gives the words of each piece; trimming the outer spaces changes no
word, and `ToLower` acts on each word.
-/

namespace Gateway.Servers

/-! ## `strings.ReplaceAll` -/

section ReplaceAll

variable {old new : List Char}

theorem replaceAllAux_fuel (hold : old ≠ []) {f g : Nat} {s : List Char}
    (hf : s.length ≤ f) (hg : s.length ≤ g) :
    replaceAllAux old new f s = replaceAllAux old new g s := by
  have hpos := List.length_pos.2 hold
  induction f generalizing g s with
  | zero =>
    rw [List.length_eq_zero.1 (Nat.le_zero.1 hf)]
    cases g <;> rfl
  | succ f ih =>
    cases s with
    | nil => cases g <;> rfl
    | cons c cs =>
      obtain ⟨g, rfl⟩ : ∃ g', g = g' + 1 := ⟨g - 1, by simp at hg; omega⟩
      simp only [replaceAllAux]
      simp only [List.length_cons] at hf hg
      split_ifs
      · rw [ih] <;> simp only [List.length_drop, List.length_cons] <;> omega
      · rw [ih] <;> omega

theorem replaceAllAux_of_not_mem {o : Char} {os : List Char} :
    ∀ {fuel : Nat} {s : List Char}, o ∉ s → replaceAllAux (o :: os) new fuel s = s
  | 0, _, _ => rfl
  | _ + 1, [], _ => rfl
  | fuel + 1, c :: cs, h => by
    have hc : o ≠ c := fun hoc => h (hoc ▸ List.mem_cons_self c cs)
    have hprefix : (o :: os).isPrefixOf (c :: cs) = false := by
      simp [List.isPrefixOf, hc]
    rw [replaceAllAux, hprefix, if_neg Bool.false_ne_true,
      replaceAllAux_of_not_mem fun hm => h (List.mem_cons_of_mem c hm)]

theorem replaceAllAux_singleton {c : Char} {fuel : Nat} {s : List Char} (h : s.length ≤ fuel) :
    replaceAllAux [c] new fuel s = s.flatMap fun x => if x = c then new else [x] := by
  induction s generalizing fuel with
  | nil => cases fuel <;> rfl
  | cons x xs ih =>
    obtain ⟨fuel, rfl⟩ : ∃ f, fuel = f + 1 := ⟨fuel - 1, by simp at h; omega⟩
    have ih : replaceAllAux [c] new fuel xs = xs.flatMap fun x => if x = c then new else [x] :=
      ih (by simp at h; omega)
    by_cases hx : x = c
    · subst hx
      simp [replaceAllAux, List.isPrefixOf, ih]
    · have hprefix : [c].isPrefixOf (x :: xs) = false := by
        simp [List.isPrefixOf, Ne.symm hx]
      rw [replaceAllAux, hprefix, if_neg Bool.false_ne_true, ih]
      simp [hx]

/-- No occurrence of `old` spans the joint of `a ++ b`: a proper prefix of
`old` ending `a` is never followed, in `b`, by the rest of `old`. -/
def NoSpan (old a b : List Char) : Prop :=
  ∀ k, 0 < k → k < old.length → old.take k <:+ a → ¬old.drop k <+: b

theorem NoSpan.of_suffix {a a' b : List Char} (h : NoSpan old a b) (ha : a' <:+ a) :
    NoSpan old a' b :=
  fun k hk hlt hsuffix => h k hk hlt (hsuffix.trans ha)

theorem NoSpan.not_prefix_append {a b : List Char} (hspan : NoSpan old a b) (ha : a ≠ [])
    (hstart : ¬old <+: a) : ¬old <+: a ++ b := by
  intro h
  rcases List.prefix_or_prefix_of_prefix h (List.prefix_append a b) with h' | ⟨q, rfl⟩
  · exact hstart h'
  · have hq : 0 < q.length := List.length_pos.2 fun hq => hstart (by simp [hq])
    refine hspan a.length (List.length_pos.2 ha) (by simp [hq]) (by simp) ?_
    simpa using (List.prefix_append_right_inj a).1 h

theorem replaceAllAux_append (hold : old ≠ []) {fuel : Nat} {a b : List Char}
    (hlen : a.length + b.length ≤ fuel) (hspan : NoSpan old a b) :
    replaceAllAux old new fuel (a ++ b) =
      replaceAllAux old new fuel a ++ replaceAllAux old new fuel b := by
  have hpos := List.length_pos.2 hold
  induction fuel generalizing a with
  | zero =>
    rw [List.length_eq_zero.1 (by omega : a.length = 0)]
    rfl
  | succ fuel ih =>
    cases a with
    | nil => rfl
    | cons c cs =>
      simp only [List.length_cons] at hlen
      have hb : replaceAllAux old new fuel b = replaceAllAux old new (fuel + 1) b :=
        replaceAllAux_fuel hold (by omega) (by omega)
      by_cases hprefix : old <+: c :: cs
      · have hprefix' : old <+: c :: (cs ++ b) := hprefix.trans (List.prefix_append _ _)
        have hle : old.length ≤ (c :: cs).length := hprefix.length_le
        rw [List.cons_append, replaceAllAux, replaceAllAux,
          if_pos (List.isPrefixOf_iff_prefix.2 hprefix'),
          if_pos (List.isPrefixOf_iff_prefix.2 hprefix), ← List.cons_append,
          List.drop_append_of_le_length hle,
          ih (by simp only [List.length_drop, List.length_cons]; omega)
            (hspan.of_suffix (List.drop_suffix _ _)), hb, List.append_assoc]
      · have hprefix' : ¬old <+: c :: (cs ++ b) :=
          hspan.not_prefix_append (List.cons_ne_nil c cs) hprefix
        rw [List.cons_append, replaceAllAux, replaceAllAux,
          if_neg (mt List.isPrefixOf_iff_prefix.1 hprefix'),
          if_neg (mt List.isPrefixOf_iff_prefix.1 hprefix),
          ih (by omega) (hspan.of_suffix (List.suffix_cons _ _)), hb, List.cons_append]

/-! ## The spacing out -/

/-- A padding pass of the spacing out: `c` becomes ` c `. -/
def padChar (c x : Char) : List Char := if x = c then [' ', c, ' '] else [x]

/-- What the ten padding passes of the spacing out make of one character. -/
def padOne (x : Char) : List Char :=
  (((((((((padChar '(' x).flatMap (padChar ')')).flatMap (padChar '[')).flatMap
    (padChar ']')).flatMap (padChar ',')).flatMap (padChar '=')).flatMap (padChar '<')).flatMap
    (padChar '>')).flatMap (padChar '!')).flatMap (padChar ',')

/-- A contraction pass of the spacing out: `c  =` becomes `c=`. -/
def contract (c : Char) (s : List Char) : List Char :=
  replaceAllAux [c, ' ', ' ', '='] [c, '='] s.length s

/-- The three contraction passes, of `<  =`, `>  =` and `!  =`. -/
def contractAll (s : List Char) : List Char := contract '!' (contract '>' (contract '<' s))

theorem replaceAll_pad (s : List Char) (old new : String) (c : Char) (hold : old.toList = [c])
    (hnew : new.toList = [' ', c, ' ']) : replaceAll s old new = s.flatMap (padChar c) := by
  unfold replaceAll
  rw [hold, hnew]
  exact replaceAllAux_singleton le_rfl

theorem spaceOut_eq (s : List Char) : spaceOut s = contractAll (s.flatMap padOne) := by
  have hcontract : ∀ (t : List Char) (c : Char) (old new : String),
      old.toList = [c, ' ', ' ', '='] → new.toList = [c, '='] →
        replaceAll t old new = contract c t :=
    fun t c old new hold hnew => by rw [replaceAll, hold, hnew]; rfl
  unfold spaceOut
  dsimp only
  rw [replaceAll_pad _ "(" " ( " '(' rfl rfl, replaceAll_pad _ ")" " ) " ')' rfl rfl,
    replaceAll_pad _ "[" " [ " '[' rfl rfl, replaceAll_pad _ "]" " ] " ']' rfl rfl,
    replaceAll_pad _ "," " , " ',' rfl rfl, replaceAll_pad _ "=" " = " '=' rfl rfl,
    replaceAll_pad _ "<" " < " '<' rfl rfl, replaceAll_pad _ ">" " > " '>' rfl rfl,
    replaceAll_pad _ "!" " ! " '!' rfl rfl, replaceAll_pad _ "," " , " ',' rfl rfl,
    hcontract _ '<' "<  =" "<=" rfl rfl, hcontract _ '>' ">  =" ">=" rfl rfl,
    hcontract _ '!' "!  =" "!=" rfl rfl, List.flatMap_assoc, List.flatMap_assoc,
    List.flatMap_assoc, List.flatMap_assoc, List.flatMap_assoc, List.flatMap_assoc,
    List.flatMap_assoc, List.flatMap_assoc, List.flatMap_assoc]
  refine congrArg (contract '!') (congrArg (contract '>') (congrArg (contract '<')
    (congrArg s.flatMap (funext fun x => ?_))))
  simp only [padOne, List.flatMap_assoc]

theorem contract_of_not_mem {c : Char} {s : List Char} (h : c ∉ s) : contract c s = s :=
  replaceAllAux_of_not_mem h

theorem contract_append {c : Char} {a b : List Char} (h : NoSpan [c, ' ', ' ', '='] a b) :
    contract c (a ++ b) = contract c a ++ contract c b := by
  unfold contract
  rw [replaceAllAux_append (List.cons_ne_nil _ _) (by simp) h,
    replaceAllAux_fuel (List.cons_ne_nil _ _) (by simp : a.length ≤ (a ++ b).length) le_rfl,
    replaceAllAux_fuel (List.cons_ne_nil _ _) (by simp : b.length ≤ (a ++ b).length) le_rfl]

theorem noSpan_of_not_mem {c : Char} {a b : List Char} (h : c ∉ a) :
    NoSpan [c, ' ', ' ', '='] a b := by
  rintro (_ | k) hk - hsuffix -
  · cases hk
  · exact h (hsuffix.subset (List.mem_cons_self c _))

theorem noSpan_of_take {c : Char} {a b : List Char} (h : '=' ∉ b.take 3) :
    NoSpan [c, ' ', ' ', '='] a b := by
  intro k hk hlt _ hstart
  have hk : k = 1 ∨ k = 2 ∨ k = 3 := by simp at hlt; omega
  have hmem : '=' ∈ [c, ' ', ' ', '='].drop k := by rcases hk with rfl | rfl | rfl <;> simp
  exact h ((List.prefix_take_iff.2 ⟨hstart, by simp; omega⟩).subset hmem)

theorem contract_append_left {c : Char} {a b : List Char} (h : c ∉ a) :
    contract c (a ++ b) = a ++ contract c b := by
  rw [contract_append (noSpan_of_not_mem h), contract_of_not_mem h]

section Contractions

variable {a b p : List Char}

theorem contractAll_append_left (h : ∀ x ∈ a, x ≠ '<' ∧ x ≠ '>' ∧ x ≠ '!' ∧ x ≠ '=') :
    contractAll (a ++ b) = a ++ contractAll b := by
  simp only [contractAll]
  rw [contract_append_left fun hm => (h _ hm).1 rfl, contract_append_left fun hm => (h _ hm).2.1 rfl,
    contract_append_left fun hm => (h _ hm).2.2.1 rfl]

theorem contractAll_append_right (h : ∀ x ∈ b, x ≠ '<' ∧ x ≠ '>' ∧ x ≠ '!' ∧ x ≠ '=') :
    contractAll (a ++ b) = contractAll a ++ b := by
  have hspan : ∀ {c : Char} {a' : List Char}, NoSpan [c, ' ', ' ', '='] a' b :=
    noSpan_of_take fun hm => (h _ (List.take_subset _ _ hm)).2.2.2 rfl
  simp only [contractAll]
  rw [contract_append hspan, contract_of_not_mem fun hm => (h _ hm).1 rfl, contract_append hspan,
    contract_of_not_mem fun hm => (h _ hm).2.1 rfl, contract_append hspan,
    contract_of_not_mem fun hm => (h _ hm).2.2.1 rfl]

theorem contractAll_append_mid (h : ∀ x ∈ p, x ≠ '<' ∧ x ≠ '>' ∧ x ≠ '!' ∧ x ≠ '=')
    (hlen : 3 ≤ p.length) : contractAll (a ++ (p ++ b)) = contractAll a ++ (p ++ contractAll b) := by
  have hmid : ∀ {c : Char} {a' b' : List Char}, c ∉ p →
      contract c (a' ++ (p ++ b')) = contract c a' ++ (p ++ contract c b') := fun hc => by
    rw [contract_append (noSpan_of_take ?_), contract_append_left hc]
    rw [List.take_append_of_le_length hlen]
    exact fun hm => (h _ (List.take_subset _ _ hm)).2.2.2 rfl
  simp only [contractAll]
  rw [hmid fun hm => (h _ hm).1 rfl, hmid fun hm => (h _ hm).2.1 rfl,
    hmid fun hm => (h _ hm).2.2.1 rfl]

end Contractions

end ReplaceAll

/-! ## Splitting into words -/

/-- The non-empty elements of `strings.Split(s, " ")`. -/
def words (s : List Char) : List (List Char) :=
  (s.splitOn ' ').filter fun w => !w.isEmpty

theorem splitOn_append_space (a b : List Char) :
    (a ++ ' ' :: b).splitOn ' ' = a.splitOn ' ' ++ b.splitOn ' ' := by
  unfold List.splitOn
  induction a with
  | nil => simp [List.splitOnP_cons]
  | cons x a ih =>
    rw [List.cons_append, List.splitOnP_cons, List.splitOnP_cons, ih]
    split_ifs
    · rfl
    · obtain ⟨w, ws, hws⟩ := List.exists_cons_of_ne_nil (List.splitOnP_ne_nil _ a)
      rw [hws]
      rfl

@[simp] theorem words_nil : words [] = [] := rfl

theorem words_append_space (a b : List Char) : words (a ++ ' ' :: b) = words a ++ words b := by
  simp only [words, splitOn_append_space, List.filter_append]

theorem words_cons_space (b : List Char) : words (' ' :: b) = words b := by
  simpa using words_append_space [] b

theorem words_of_not_mem {w : List Char} (hw : w ≠ []) (h : ' ' ∉ w) : words w = [w] := by
  unfold words List.splitOn
  rw [List.splitOnP_eq_single _ _ fun x hx (hx' : (x == ' ') = true) =>
    h (beq_iff_eq.1 hx' ▸ hx)]
  simp [hw]

theorem words_of_spaces {s : List Char} (h : ∀ x ∈ s, x = ' ') : words s = [] := by
  induction s with
  | nil => rfl
  | cons x s ih =>
    rw [h x (List.mem_cons_self x s), words_cons_space]
    exact ih fun y hy => h y (List.mem_cons_of_mem x hy)

theorem words_append_spaces (a : List Char) {s : List Char} (h : ∀ x ∈ s, x = ' ') :
    words (a ++ s) = words a := by
  cases s with
  | nil => rw [List.append_nil]
  | cons x s =>
    rw [h x (List.mem_cons_self x s), words_append_space,
      words_of_spaces fun y hy => h y (List.mem_cons_of_mem x hy), List.append_nil]

theorem words_dropWhile_space (s : List Char) : words (s.dropWhile (· = ' ')) = words s := by
  induction s with
  | nil => rfl
  | cons x s ih =>
    by_cases hx : x = ' '
    · rw [List.dropWhile_cons_of_pos (by simpa using hx), ih, hx, words_cons_space]
    · rw [List.dropWhile_cons_of_neg (by simpa using hx)]

theorem words_reverse_dropWhile_space (t : List Char) :
    words (t.reverse.dropWhile (· = ' ')).reverse = words t := by
  have hspaces : ∀ x ∈ (t.reverse.takeWhile (· = ' ')).reverse, x = ' ' := fun x hx => by
    simpa using List.mem_takeWhile_imp (List.mem_reverse.1 hx)
  calc words (t.reverse.dropWhile (· = ' ')).reverse
      = words ((t.reverse.dropWhile (· = ' ')).reverse ++
          (t.reverse.takeWhile (· = ' ')).reverse) := (words_append_spaces _ hspaces).symm
    _ = words t := by
      rw [← List.reverse_append, List.takeWhile_append_dropWhile, List.reverse_reverse]

theorem words_trimSpaces (s : List Char) : words (trimSpaces s) = words s := by
  rw [trimSpaces, words_reverse_dropWhile_space, words_dropWhile_space]

theorem words_replicate_append (n : Nat) (s : List Char) :
    words (List.replicate n ' ' ++ s) = words s := by
  induction n with
  | zero => rfl
  | succ n ih => rw [List.replicate_succ, List.cons_append, words_cons_space, ih]

theorem words_append_replicate (s : List Char) (n : Nat) :
    words (s ++ List.replicate n ' ') = words s :=
  words_append_spaces s fun _ hx => List.eq_of_mem_replicate hx

theorem words_replicate (n : Nat) : words (List.replicate n ' ') = [] := by
  simpa using words_replicate_append n []

theorem words_append_replicate_succ (a b : List Char) (n : Nat) :
    words (a ++ (List.replicate (n + 1) ' ' ++ b)) = words a ++ words b := by
  rw [List.replicate_succ, List.cons_append, words_append_space, words_replicate_append]

theorem words_append_replicate_space (a b : List Char) (n : Nat) :
    words (a ++ (List.replicate n ' ' ++ ' ' :: b)) = words a ++ words b := by
  rw [← List.singleton_append, ← List.append_assoc (List.replicate n ' '), ← List.replicate_succ',
    words_append_replicate_succ]

theorem words_cons_cons_space {x : Char} (hx : x ≠ ' ') (b : List Char) :
    words (x :: ' ' :: b) = [x] :: words b := by
  rw [← List.singleton_append, words_append_space,
    words_of_not_mem (List.cons_ne_nil x []) (by simpa using hx.symm)]
  rfl

/-! ## Lower case -/

theorem toLower_eq_space (x : Char) : x.toLower = ' ' ↔ x = ' ' := by
  dsimp only [Char.toLower]
  split
  · next h =>
    have hval : (Char.ofNat (x.toNat + 32)).toNat = x.toNat + 32 := by
      rw [Char.ofNat, dif_pos (by unfold Nat.isValidChar; omega)]
      rfl
    constructor
    · intro heq
      rw [heq] at hval
      exact absurd hval (by simp; omega)
    · rintro rfl
      simp at h
  · exact Iff.rfl

theorem splitOn_map {g : Char → Char} (hg : ∀ x, g x = ' ' ↔ x = ' ') (s : List Char) :
    (s.map g).splitOn ' ' = (s.splitOn ' ').map (List.map g) := by
  unfold List.splitOn
  induction s with
  | nil => rfl
  | cons x s ih =>
    rw [List.map_cons, List.splitOnP_cons, List.splitOnP_cons, ih]
    by_cases hx : x = ' '
    · subst hx
      simp [(hg ' ').2 rfl]
    · obtain ⟨w, ws, hws⟩ := List.exists_cons_of_ne_nil (List.splitOnP_ne_nil (· == ' ') s)
      simp [hx, mt (hg x).1 hx, hws]

theorem words_map {g : Char → Char} (hg : ∀ x, g x = ' ' ↔ x = ' ') (s : List Char) :
    words (s.map g) = (words s).map (List.map g) := by
  rw [words, splitOn_map hg, List.filter_map, words]
  exact congrArg _ (List.filter_congr fun w _ => by cases w <;> rfl)

end Gateway.Servers
